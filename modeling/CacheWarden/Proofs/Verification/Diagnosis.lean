import CacheWarden.Proofs.Verification.Clean
import Mathlib

/-!
# What a report holds

The findings of a report, said without the verifier. First comes what is said about the number of
caches; then the snapshot is gone through row by row, and each row of the workload gives cause to
what is wrong with its kind and then to what is wrong with its address mode, whatever the other rows
are and however often its name occurs. Main statements: `diagnosis_iff`, the rows settle the
findings; `report_exact`, all that a report holds.
-/

namespace CacheWarden.Verification

/-- What is said about the kind of a cache, given what is declared under its name. -/
inductive KindVerdict (r : Registry) (name : String) (actual : Persistence) :
    List Finding → Prop where
  | undisputed (h : ∀ entry, r.get? name = some entry → entry.persistence = actual) :
      KindVerdict r name actual []
  | mismatch (entry : Declaration) (hentry : r.get? name = some entry)
      (hkind : entry.persistence ≠ actual) :
      KindVerdict r name actual
        [.persistenceMismatch name entry.persistence actual entry.source]

/-- What is said about the address mode of a cache. -/
inductive ModeVerdict (name : String) : AddressMode → List Finding → Prop where
  | bits32 : ModeVerdict name .bits32 []
  | bits64 : ModeVerdict name .bits64 []
  | unknown (reported : String) :
      ModeVerdict name (.unknown reported) [.unknownAddressMode name s!"unknown ({reported})"]

/-- What is said about the number of caches. -/
inductive CountVerdict (e : CountExpectation) (found : Nat) : List Finding → Prop where
  | undisputed (h : ∀ expected, e.expected = some expected → e.enforced = true → found = expected) :
      CountVerdict e found []
  | mismatch (expected : Nat) (hexpected : e.expected = some expected)
      (henforced : e.enforced = true) (hne : found ≠ expected) :
      CountVerdict e found [.countMismatch expected found]

/-- What is said about the rows of a snapshot, in their order. -/
inductive Diagnosis (r : Registry) (w : Workload) : List Descriptor → List Finding → Prop where
  | nil : Diagnosis r w [] []
  | passed {d : Descriptor} {live : List Descriptor} {findings : List Finding}
      (hd : ∀ name, d.usableName = some name → name ∉ w.names)
      (rest : Diagnosis r w live findings) : Diagnosis r w (d :: live) findings
  | examined {d : Descriptor} {live : List Descriptor} {kind mode findings : List Finding}
      {name : String} (hname : d.usableName = some name) (hw : name ∈ w.names)
      (hkind : KindVerdict r name d.persistence kind) (hmode : ModeVerdict name d.addressMode mode)
      (rest : Diagnosis r w live findings) :
      Diagnosis r w (d :: live) (kind ++ mode ++ findings)

/-! ### One cache -/

theorem kindVerdict_iff {r : Registry} {name : String} {d : Descriptor} {findings : List Finding} :
    KindVerdict r name d.persistence findings ↔ findings = kindFindings r name d := by
  constructor
  · intro h
    unfold kindFindings
    cases h with
    | undisputed h =>
      cases hr : r.get? name with
      | none => rfl
      | some entry => simp [h entry hr]
    | mismatch entry hentry hkind => simp [hentry, hkind]
  · rintro rfl
    unfold kindFindings
    cases hr : r.get? name with
    | none => exact .undisputed (by simp [hr])
    | some entry =>
      by_cases hkind : entry.persistence = d.persistence
      · simpa [hkind] using KindVerdict.undisputed (by simp [hr, hkind])
      · simpa [hkind] using KindVerdict.mismatch entry hr hkind

theorem modeVerdict_iff {name : String} {d : Descriptor} {findings : List Finding} :
    ModeVerdict name d.addressMode findings ↔ findings = modeFindings name d := by
  unfold modeFindings
  constructor
  · intro h
    generalize d.addressMode = mode at h ⊢
    cases h <;> rfl
  · rintro rfl
    cases d.addressMode with
    | bits32 => exact .bits32
    | bits64 => exact .bits64
    | unknown reported => exact .unknown reported

/-! ### The number of caches -/

theorem countVerdict_iff {e : CountExpectation} {found : Nat} {findings : List Finding} :
    CountVerdict e found findings ↔ findings = countFindings (countCheck e found) := by
  constructor
  · intro h
    cases h with
    | undisputed h =>
      exact (countFindings_eq_nil_iff.2 fun henforced expected hexpected =>
        h expected hexpected henforced).symm
    | mismatch expected hexpected henforced hne =>
      simp [countFindings, countCheck, CountCheck.matches, hexpected, henforced, hne.symm]
  · rintro rfl
    by_cases h : countFindings (countCheck e found) = []
    · rw [h]
      exact .undisputed fun expected hexpected henforced =>
        countFindings_eq_nil_iff.1 h henforced expected hexpected
    · rw [countFindings_eq_nil_iff] at h
      simp only [not_forall] at h
      obtain ⟨henforced, expected, hexpected, hne⟩ := h
      have hne' : expected ≠ found := fun h => hne h.symm
      have hverdict := CountVerdict.mismatch expected hexpected henforced hne
      simpa [countFindings, countCheck, CountCheck.matches, hexpected, henforced, hne']
        using hverdict

/-- A number that is not enforced is never found fault with. -/
theorem countFindings_of_not_enforced {e : CountExpectation} (h : e.enforced = false)
    (found : Nat) :
    countFindings (countCheck e found) = [] := by
  rw [countFindings_eq_nil_iff, h]
  intro hf
  cases hf

/-! ### All rows -/

theorem owned_cons_of_passed {w : Workload} {d : Descriptor} (live : List Descriptor)
    (h : ∀ name, d.usableName = some name → name ∉ w.names) :
    owned w (d :: live) = owned w live := by
  unfold owned
  rw [List.filterMap_cons]
  cases ho : Owner.of w d with
  | workload name =>
    obtain ⟨hname, hw⟩ := owner_eq_workload_iff.1 ho
    exact absurd hw (h name hname)
  | nobody => rfl
  | other name => rfl

theorem owned_cons_of_examined {w : Workload} {d : Descriptor} {name : String}
    (live : List Descriptor) (hname : d.usableName = some name) (hw : name ∈ w.names) :
    owned w (d :: live) = (name, d) :: owned w live := by
  unfold owned
  rw [List.filterMap_cons, owner_eq_workload_iff.2 ⟨hname, hw⟩]

/-- The rows settle what is said about them. -/
theorem diagnosis_iff {r : Registry} {w : Workload} {live : List Descriptor}
    {findings : List Finding} :
    Diagnosis r w live findings ↔
      findings = (owned w live).flatMap fun p => cacheFindings r p.1 p.2 := by
  constructor
  · intro h
    induction h with
    | nil => rfl
    | passed hd _ ih => rw [owned_cons_of_passed _ hd, ih]
    | examined hname hw hkind hmode _ ih =>
      rw [owned_cons_of_examined _ hname hw, List.flatMap_cons, cacheFindings,
        kindVerdict_iff.1 hkind, modeVerdict_iff.1 hmode, ih]
  · rintro rfl
    induction live with
    | nil => exact .nil
    | cons d live ih =>
      by_cases hd : ∃ name, d.usableName = some name ∧ name ∈ w.names
      · obtain ⟨name, hname, hw⟩ := hd
        rw [owned_cons_of_examined live hname hw, List.flatMap_cons]
        exact .examined hname hw (kindVerdict_iff.2 rfl) (modeVerdict_iff.2 rfl) ih
      · simp only [not_exists, not_and] at hd
        rw [owned_cons_of_passed live hd]
        exact .passed hd ih

theorem owner_eq_nobody_iff {w : Workload} {d : Descriptor} :
    Owner.of w d = .nobody ↔ d.usableName = none := by
  unfold Owner.of
  cases d.usableName with
  | none => simp
  | some name =>
    simp only [reduceCtorEq, iff_false]
    split <;> simp

theorem unnamed_eq_filter (w : Workload) (live : List Descriptor) :
    unnamed w live = live.filter fun d => d.usableName.isNone := by
  unfold unnamed
  congr 1
  funext d
  rw [Bool.eq_iff_iff, beq_iff_eq, owner_eq_nobody_iff, Option.isNone_iff_eq_none]

/-- For every snapshot, registry, workload and expectation: the findings of a report are those of
    the verdicts and no others, every row is counted once, and the report is a pass exactly if the
    snapshot is clean. A number that is not enforced has no part in the findings. -/
theorem report_exact (live : List Descriptor) (r : Registry) (w : Workload)
    (e : CountExpectation) :
    let report := (verify live r w e).value
    let found := (ownedCaches w live).length
    (∀ findings, report.findings = findings ↔ ∃ counted examined,
      findings = counted ++ examined ∧ CountVerdict e found counted ∧
        Diagnosis r w live examined) ∧
      report.count = e.expected.map (fun expected => ⟨expected, found, e.enforced⟩) ∧
      report.checked = found ∧
      report.unnamed = (live.filter fun d => d.usableName.isNone).length ∧
      report.checked + report.unnamed + report.foreign = live.length ∧
      (report.isPass = true ↔ Clean live r w e) ∧
      ∀ expected expected', (verify live r w ⟨expected, false⟩).value.findings =
        (verify live r w ⟨expected', false⟩).value.findings := by
  intro report found
  have hfound : (owned w live).length = found := length_owned w live
  refine ⟨?_, ?_, hfound, ?_, verify_parts live r w e, isPass_report_iff live r w e, ?_⟩
  · intro findings
    rw [show report.findings = _ from verify_findings live r w e, hfound]
    constructor
    · rintro rfl
      exact ⟨_, _, rfl, countVerdict_iff.2 rfl, diagnosis_iff.2 rfl⟩
    · rintro ⟨counted, examined, rfl, hcounted, hexamined⟩
      rw [countVerdict_iff.1 hcounted, diagnosis_iff.1 hexamined]
  · rw [← hfound]
    rfl
  · rw [← unnamed_eq_filter w]
    rfl
  · intro expected expected'
    rw [verify_findings, verify_findings, countFindings_of_not_enforced rfl,
      countFindings_of_not_enforced rfl]

end CacheWarden.Verification
