import CacheWarden.Verification
import Mathlib

/-!
# Clean snapshots

When a verification finds nothing, said without the verifier: every cache of the workload, each
duplicate of a name included, has a known address mode and the declared kind, and the number of
these caches is the expected one where that is enforced. Main statement: `isPass_report_iff`.
-/

namespace CacheWarden.Verification

/-- The caches of a snapshot that are the workload's, each duplicate of a name included. -/
def ownedCaches (w : Workload) (live : List Descriptor) : List Descriptor :=
  live.filter fun d => w.owns d.usableName

/-- Whether a snapshot is as it should be. -/
structure Clean (live : List Descriptor) (r : Registry) (w : Workload) (e : CountExpectation) :
    Prop where
  modes : ∀ d ∈ ownedCaches w live, ∀ reported, d.addressMode ≠ .unknown reported
  kinds : ∀ d ∈ ownedCaches w live, ∀ name declaration, d.usableName = some name →
    r.get? name = some declaration → d.persistence = declaration.persistence
  count : e.enforced = true → ∀ expected, e.expected = some expected →
    (ownedCaches w live).length = expected

theorem owner_eq_workload_iff {w : Workload} {d : Descriptor} {n : String} :
    Owner.of w d = .workload n ↔ d.usableName = some n ∧ n ∈ w.names := by
  unfold Owner.of
  cases hu : d.usableName with
  | none => simp
  | some m =>
    simp only [Workload.contains, List.contains_iff_mem, Option.some.injEq]
    constructor
    · intro h
      split at h
      · cases h
        exact ⟨rfl, ‹_›⟩
      · cases h
    · rintro ⟨rfl, hm⟩
      rw [if_pos hm]

theorem mem_owned {w : Workload} {live : List Descriptor} {n : String} {d : Descriptor} :
    (n, d) ∈ owned w live ↔ d ∈ live ∧ d.usableName = some n ∧ n ∈ w.names := by
  unfold owned
  rw [List.mem_filterMap]
  constructor
  · rintro ⟨e, he, hn⟩
    cases ho : Owner.of w e with
    | workload m =>
      rw [ho] at hn
      cases hn
      exact ⟨he, owner_eq_workload_iff.1 ho⟩
    | nobody => rw [ho] at hn; cases hn
    | other m => rw [ho] at hn; cases hn
  · rintro ⟨hd, ho⟩
    exact ⟨d, hd, by rw [owner_eq_workload_iff.2 ho]⟩

/-- The names aside, the verifier looks at the caches that are the workload's. -/
theorem map_snd_owned (w : Workload) (live : List Descriptor) :
    (owned w live).map Prod.snd = ownedCaches w live := by
  induction live with
  | nil => rfl
  | cons d live ih =>
    unfold owned ownedCaches at ih ⊢
    rw [List.filterMap_cons, List.filter_cons]
    cases hu : d.usableName with
    | none => simpa [Owner.of, hu, Workload.owns] using ih
    | some n =>
      by_cases hn : w.contains n = true
      · simpa [Owner.of, hu, Workload.owns, hn] using ih
      · simpa [Owner.of, hu, Workload.owns, hn] using ih

theorem length_owned (w : Workload) (live : List Descriptor) :
    (owned w live).length = (ownedCaches w live).length := by
  rw [← map_snd_owned, List.length_map]

theorem mem_ownedCaches {w : Workload} {live : List Descriptor} {d : Descriptor} :
    d ∈ ownedCaches w live ↔ ∃ n, (n, d) ∈ owned w live := by
  rw [← map_snd_owned, List.mem_map]
  constructor
  · rintro ⟨⟨n, e⟩, hn, rfl⟩
    exact ⟨n, hn⟩
  · rintro ⟨n, hn⟩
    exact ⟨(n, d), hn, rfl⟩

theorem cacheFindings_eq_nil_iff {r : Registry} {name : String} {d : Descriptor} :
    cacheFindings r name d = [] ↔
      (∀ declaration, r.get? name = some declaration →
        d.persistence = declaration.persistence) ∧
        ∀ reported, d.addressMode ≠ .unknown reported := by
  unfold cacheFindings
  rw [List.append_eq_nil_iff]
  apply and_congr
  · unfold kindFindings
    cases hr : r.get? name with
    | none => simp
    | some entry => simp [eq_comm]
  · unfold modeFindings
    cases d.addressMode <;> simp [AddressMode.isKnown]

theorem countFindings_eq_nil_iff {e : CountExpectation} {found : Nat} :
    countFindings (countCheck e found) = [] ↔
      (e.enforced = true → ∀ expected, e.expected = some expected → found = expected) := by
  unfold countCheck countFindings
  cases he : e.expected with
  | none => simp
  | some expected =>
    by_cases hf : expected = found
    · simp [CountCheck.matches, hf]
    · simp [CountCheck.matches, hf, Ne.symm hf]

theorem isPass_report_iff (live : List Descriptor) (r : Registry) (w : Workload)
    (e : CountExpectation) : (report live r w e).isPass = true ↔ Clean live r w e := by
  unfold VerificationReport.isPass report
  rw [List.isEmpty_iff, List.append_eq_nil_iff, countFindings_eq_nil_iff, length_owned,
    List.flatMap_eq_nil_iff]
  constructor
  · rintro ⟨hcount, hfindings⟩
    refine ⟨?_, ?_, hcount⟩
    · intro d hd
      obtain ⟨n, hn⟩ := mem_ownedCaches.1 hd
      exact (cacheFindings_eq_nil_iff.1 (hfindings (n, d) hn)).2
    · intro d hd name declaration hname hdecl
      obtain ⟨n, hn⟩ := mem_ownedCaches.1 hd
      obtain rfl : n = name := Option.some.inj ((mem_owned.1 hn).2.1.symm.trans hname)
      exact (cacheFindings_eq_nil_iff.1 (hfindings (n, d) hn)).1 declaration hdecl
  · rintro ⟨hmodes, hkinds, hcount⟩
    refine ⟨hcount, ?_⟩
    rintro ⟨n, d⟩ hn
    have hd : d ∈ ownedCaches w live := mem_ownedCaches.2 ⟨n, hn⟩
    exact cacheFindings_eq_nil_iff.2
      ⟨fun declaration => hkinds d hd n declaration (mem_owned.1 hn).2.1, hmodes d hd⟩

end CacheWarden.Verification
