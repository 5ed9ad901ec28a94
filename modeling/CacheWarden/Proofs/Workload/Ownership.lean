import CacheWarden.CommandLine.Answer
import CacheWarden.Proofs.Checker.Isolation
import CacheWarden.Proofs.Reaper.Rounds
import Mathlib

/-!
# Which caches belong to a workload

Three parts of the program pick the caches of a workload from a snapshot, each in its own way: a
list that is asked for them, the verifier, and the reaper, which also keeps a ledger while it goes
through the snapshot. They pick the same ones. Main statements: `map_fst_targets`, the reaper's
names are those of the workload's caches without the repetitions; `owned_views_agree`.
-/

namespace CacheWarden

open Verification

/-- The names of the caches of a workload, one for each of these caches. -/
def Workload.ownedNames (w : Workload) (live : List Descriptor) : List String :=
  (ownedCaches w live).filterMap Descriptor.usableName

namespace Verification

variable {w : Workload} {live : List Descriptor} {d : Descriptor} {n : String}

theorem ownedNames_cons_of_owned (hname : d.usableName = some n) (hw : n ∈ w.names) :
    w.ownedNames (d :: live) = n :: w.ownedNames live := by
  have hd : w.owns d.usableName = true := owns_iff.2 ⟨n, hname, hw⟩
  rw [Workload.ownedNames, ownedCaches, List.filter_cons_of_pos (by simpa using hd),
    List.filterMap_cons_some hname]
  rfl

theorem ownedNames_cons_of_not_owned (hd : ¬ w.owns d.usableName = true) :
    w.ownedNames (d :: live) = w.ownedNames live := by
  rw [Workload.ownedNames, ownedCaches, List.filter_cons_of_neg (by simpa using hd)]
  rfl

theorem map_fst_owned (w : Workload) (live : List Descriptor) :
    (owned w live).map Prod.fst = w.ownedNames live := by
  induction live with
  | nil => rfl
  | cons d live ih =>
    by_cases hd : w.owns d.usableName = true
    · obtain ⟨n, hname, hw⟩ := owns_iff.1 hd
      rw [owned_cons_of_examined live hname hw, ownedNames_cons_of_owned hname hw, List.map_cons,
        ih]
    · rw [ownedNames_cons_of_not_owned hd, owned_cons_of_passed, ih]
      exact fun n hname hw => hd (owns_iff.2 ⟨n, hname, hw⟩)

theorem length_ownedNames (w : Workload) (live : List Descriptor) :
    (w.ownedNames live).length = (ownedCaches w live).length := by
  rw [← map_fst_owned, List.length_map, length_owned]

/-- What the verifier finds wrong with a cache, which it looks up under its usable name. -/
def findingsOf (r : Registry) (d : Descriptor) : List Finding :=
  d.usableName.toList.flatMap fun n => cacheFindings r n d

theorem flatMap_findingsOf (r : Registry) (w : Workload) (live : List Descriptor) :
    (ownedCaches w live).flatMap (findingsOf r) =
      (owned w live).flatMap fun p => cacheFindings r p.1 p.2 := by
  rw [← map_snd_owned, List.flatMap_map]
  apply List.flatMap_congr
  rintro ⟨n, d⟩ hn
  simp [findingsOf, (mem_owned.1 hn).2.1]

end Verification

namespace Reaper

variable {σ : Type} {w : Workload} {l : Ledger} {live : List Descriptor}

/-- The names that a pass in all mode attempts are those of the workload's caches that are not in
    the ledger, each where it comes up first. -/
theorem map_fst_targets (w : Workload) (l : Ledger) (live : List Descriptor) :
    (targets w l live).map Prod.fst =
      ((w.ownedNames live).filter (· ∉ l.names)).eraseDups := by
  induction live generalizing l with
  | nil => rfl
  | cons d live ih =>
    by_cases hd : w.owns d.usableName = true
    · obtain ⟨n, hname, hw⟩ := owns_iff.1 hd
      rw [ownedNames_cons_of_owned hname hw, targets]
      by_cases hl : n ∈ l.names
      · rw [eligible?_eq_none_of_mem hname hl, ih, List.filter_cons_of_neg (by simpa using hl)]
      · rw [eligible?_eq_some.2 ⟨hname, hw, hl⟩, List.filter_cons_of_pos (by simpa using hl),
          List.eraseDups_cons, List.filter_filter, List.map_cons, ih]
        -- a name drops out behind its first occurrence, as it drops out once it is recorded
        congr 2
        apply List.filter_congr
        intro m _
        rw [Bool.eq_iff_iff]
        simp [not_or, and_comm]
    · rw [ownedNames_cons_of_not_owned hd, targets, eligible?_of_not_owned hd, ih]

theorem map_fst_targets_empty (w : Workload) (live : List Descriptor) :
    (targets w .empty live).map Prod.fst = (w.ownedNames live).eraseDups := by
  rw [map_fst_targets, List.filter_eq_self.2]
  intro n _
  exact decide_eq_true (List.not_mem_nil (a := n))

theorem toFinset_targets_empty (w : Workload) (live : List Descriptor) :
    ((targets w .empty live).map Prod.fst).toFinset = (w.ownedNames live).toFinset := by
  ext n
  rw [map_fst_targets_empty, List.mem_toFinset, List.mem_toFinset, List.mem_eraseDups]

theorem length_targets_empty (w : Workload) (live : List Descriptor) :
    (targets w .empty live).length = (w.ownedNames live).toFinset.card := by
  rw [← toFinset_targets_empty, List.toFinset_card_of_nodup (nodup_targets w .empty live),
    List.length_map]

theorem length_targets_empty_eq_iff (w : Workload) (live : List Descriptor) :
    (targets w .empty live).length = (w.ownedNames live).length ↔ (w.ownedNames live).Nodup := by
  rw [length_targets_empty]
  exact Multiset.toFinset_card_eq_card_iff_nodup

/-- What a first pass in all mode attempts, and what it requests. -/
theorem names_pass_all (store : Store σ) (location : Option String) (limit : Limit)
    (w : Workload) (live : List Descriptor) (s : σ) :
    let r : Reaper σ := { store, location, mode := .all, limit }
    let out := Session.result (r.traced.pass live w .empty) { state := s }
    out.1.1.attempts.map DestroyAttempt.cache = (targets w .empty live).map Prod.fst ∧
      out.2.calls.requests.map DestroyRequest.name = (targets w .empty live).map Prod.fst := by
  intro r out
  have hout : out = _ := result_pass_traced r live w .empty { state := s }
  have hattempts :
      out.1.1.attempts = (Session.result (r.attemptAll (targets w .empty live)) s).1 := by
    rw [hout, result_pass, result_sweep]
    rfl
  have hrequests : out.2.calls.requests = r.requests (targets w .empty live) := by
    rw [hout]
    rfl
  rw [hattempts, hrequests, caches_attemptAll, Round.names_requests]
  exact ⟨rfl, rfl⟩

end Reaper

namespace CommandLine

open Reaper

/-- A list of the caches of a workload leaves out the others. -/
theorem result_list_owned (m : Machine) (config : Config) (format : ListFormat) (text : String)
    (world : World Calls) :
    (Session.result (list m config (some text) format) world).1 =
      match (Checker.listing (storeOf m config) config world.store).1 with
      | .error e => { failure := some e }
      | .ok live => { lines := listLines format (ownedCaches (.parse text) live) } := by
  rw [list, Session.result_bind, Session.result_onStore]
  show (Session.result (match (Checker.listing (storeOf m config) config world.store).1 with
    | .error e => _
    | .ok live => _) _).1 = _
  cases (Checker.listing (storeOf m config) config world.store).1 <;> rfl

/-- For every workload text and every snapshot: what a list of the workload's caches shows is, row
    for row, what the verifier examines, and a pass in all mode over it attempts the names of these
    rows, each once and in the order in which they first come up. So it makes as many attempts as
    rows were checked exactly if no name among them comes up twice. -/
theorem owned_views_agree (text : String) :
    let w := Workload.parse text
    (∀ (m : Machine) (config : Config) (format : ListFormat) (world : World Calls),
      (Session.result (list m config (some text) format) world).1 =
        match (Checker.listing (storeOf m config) config world.store).1 with
        | .error e => { failure := some e }
        | .ok live => { lines := listLines format (ownedCaches w live) }) ∧
      ∀ live : List Descriptor,
        let names := (ownedCaches w live).filterMap Descriptor.usableName
        (∀ (r : Registry) (e : CountExpectation),
          let report := (verify live r w e).value
          (owned w live).map Prod.snd = ownedCaches w live ∧
            report.checked = (ownedCaches w live).length ∧
            report.findings =
              countFindings report.count ++ (ownedCaches w live).flatMap (findingsOf r)) ∧
          ∀ (σ : Type) (store : Store σ) (location : Option String) (limit : Limit) (s : σ),
            let r : Reaper σ := { store, location, mode := .all, limit }
            let out := Session.result (r.traced.pass live w .empty) { state := s }
            out.1.1.attempts.map DestroyAttempt.cache = names.eraseDups ∧
              out.2.calls.requests.map DestroyRequest.name = names.eraseDups ∧
              out.1.1.attempts.length ≤ (ownedCaches w live).length ∧
              (out.1.1.attempts.length = (ownedCaches w live).length ↔ names.Nodup) := by
  intro w
  refine ⟨fun m config format world => result_list_owned m config format text world, ?_⟩
  intro live names
  constructor
  · intro r e report
    refine ⟨map_snd_owned w live, length_owned w live, ?_⟩
    rw [flatMap_findingsOf]
    rfl
  · intro σ store location limit s r out
    obtain ⟨hattempts, hrequests⟩ := names_pass_all store location limit w live s
    have hcount : out.1.1.attempts.length = (targets w .empty live).length := by
      simpa using congrArg List.length hattempts
    have hchecked : (ownedCaches w live).length = names.length := (length_ownedNames w live).symm
    rw [hattempts, hrequests, hcount, hchecked]
    refine ⟨map_fst_targets_empty w live, map_fst_targets_empty w live, ?_,
      length_targets_empty_eq_iff w live⟩
    rw [length_targets_empty]
    exact List.toFinset_card_le names

end CommandLine

end CacheWarden
