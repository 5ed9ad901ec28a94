import CacheWarden.Proofs.Checker.Gate
import CacheWarden.Proofs.Verification.Diagnosis
import Mathlib

/-!
# Caches of others

The directory of a run may hold caches of others, and a declaration file may name them. They are
counted, and nothing else comes of them: the verifier and the reaper see of a snapshot only the
caches of the workload, in their order. Main statements: `report_of_same_owned`,
`result_pass_of_same_owned`, and `run_ignores_others`, two runs that differ in the caches of others
do the same.
-/

namespace CacheWarden

/-! ### What the verifier sees -/

namespace Verification

variable {w : Workload} {live live' : List Descriptor}

/-- Whether a cache is one of the workload. -/
theorem owns_iff {d : Descriptor} :
    w.owns d.usableName = true ↔ ∃ n, d.usableName = some n ∧ n ∈ w.names := by
  simp [Workload.owns, Workload.contains, Option.any_eq_true]

theorem owned_ownedCaches (w : Workload) (live : List Descriptor) :
    owned w (ownedCaches w live) = owned w live := by
  induction live with
  | nil => rfl
  | cons d live ih =>
    by_cases hd : w.owns d.usableName = true
    · obtain ⟨n, hname, hw⟩ := owns_iff.1 hd
      rw [ownedCaches, List.filter_cons_of_pos (by simpa using hd),
        owned_cons_of_examined _ hname hw, owned_cons_of_examined _ hname hw]
      exact congrArg ((n, d) :: ·) ih
    · rw [ownedCaches, List.filter_cons_of_neg (by simpa using hd), owned_cons_of_passed]
      · exact ih
      · exact fun n hname hw => hd (owns_iff.2 ⟨n, hname, hw⟩)

theorem cacheFindings_of_agree {r r' : Registry} (hr : ∀ n ∈ w.names, r'.get? n = r.get? n)
    {n : String} (hn : n ∈ w.names) (d : Descriptor) :
    cacheFindings r' n d = cacheFindings r n d := by
  rw [cacheFindings, cacheFindings, kindFindings, kindFindings, hr n hn]

/-- A report depends on the caches of the workload and on the declarations of its names, but for the
    two counts of the others. -/
theorem report_of_same_owned (hlive : ownedCaches w live' = ownedCaches w live) {r r' : Registry}
    (hr : ∀ n ∈ w.names, r'.get? n = r.get? n) (e : CountExpectation) :
    report live' r' w e =
      { report live r w e with
        unnamed := (unnamed w live').length
        foreign := (foreign w live').length } := by
  have howned : owned w live' = owned w live := by
    rw [← owned_ownedCaches w live', hlive, owned_ownedCaches]
  have hfindings : ((owned w live).flatMap fun p => cacheFindings r' p.1 p.2) =
      (owned w live).flatMap fun p => cacheFindings r p.1 p.2 := by
    apply List.flatMap_congr
    rintro ⟨n, d⟩ hn
    exact cacheFindings_of_agree hr (mem_owned.1 hn).2.2 d
  simp only [report, howned]
  rw [hfindings]

end Verification

/-! ### What the reaper sees -/

namespace Reaper

open Verification

variable {σ : Type} {w : Workload} {live live' : List Descriptor}

theorem eligible?_of_not_owned {d : Descriptor} (h : ¬ w.owns d.usableName = true) (l : Ledger) :
    eligible? w l d = none := by
  rw [Option.eq_none_iff_forall_ne_some]
  intro n hn
  obtain ⟨hname, hw, -⟩ := eligible?_eq_some.1 hn
  exact h (owns_iff.2 ⟨n, hname, hw⟩)

theorem targets_ownedCaches (w : Workload) (l : Ledger) (live : List Descriptor) :
    targets w l (ownedCaches w live) = targets w l live := by
  induction live generalizing l with
  | nil => rfl
  | cons d live ih =>
    by_cases hd : w.owns d.usableName = true
    · rw [ownedCaches, List.filter_cons_of_pos (by simpa using hd), targets, targets]
      cases eligible? w l d with
      | none => exact ih l
      | some n => exact congrArg ((n, d) :: ·) (ih (l.record n))
    · rw [ownedCaches, List.filter_cons_of_neg (by simpa using hd), targets,
        eligible?_of_not_owned hd]
      exact ih l

theorem eligibleCount_ownedCaches (w : Workload) (l : Ledger) (live : List Descriptor) :
    eligibleCount w l (ownedCaches w live) = eligibleCount w l live := by
  rw [eligibleCount, eligibleCount, ownedCaches, List.countP_filter]
  congr 1
  funext d
  by_cases hd : w.owns d.usableName = true
  · rw [hd, Bool.and_true]
  · rw [eligible?_of_not_owned hd]
    rfl

/-- A pass depends on the caches of the workload. -/
theorem result_pass_of_same_owned (hlive : ownedCaches w live' = ownedCaches w live)
    (r : Reaper σ) (l : Ledger) (s : σ) :
    Session.result (r.pass live' w l) s = Session.result (r.pass live w l) s := by
  have hplan : plan r.mode false w l live' = plan r.mode false w l live := by
    rw [plan, plan, ← targets_ownedCaches w l live', hlive, targets_ownedCaches]
  have hcount : ∀ l, eligibleCount w l live' = eligibleCount w l live := by
    intro l
    rw [← eligibleCount_ownedCaches w l live', hlive, eligibleCount_ownedCaches]
  rw [result_pass, result_pass, result_sweep, result_sweep, hplan, hcount]

end Reaper

/-! ### What a run sees -/

namespace Checker

open Verification

variable {σ : Type}

/-- Whether two checkers differ at most in the caches of others, in their declaration files and in
    where they put their records. -/
structure SameView (c c' : Checker) : Prop where
  config : c'.config = { c.config with cacheFiles := c'.config.cacheFiles }
  workload : c'.workload = c.workload
  ledger : c'.ledger = c.ledger
  owned : ownedCaches c.workload c'.snapshot = ownedCaches c.workload c.snapshot

variable {c c' : Checker} {world world' : World σ} {r r' : Registry}

theorem SameView.withRegistry (h : SameView c c') (r r' : Registry) :
    SameView (c.withRegistry r) (c'.withRegistry r') :=
  ⟨h.config, h.workload, h.ledger, h.owned⟩

theorem SameView.report (h : SameView c c')
    (hr : ∀ n ∈ c.workload.names, c'.registry.get? n = c.registry.get? n) :
    c'.report =
      { c.report with unnamed := c'.report.unnamed, foreign := c'.report.foreign } := by
  have hexpected : countExpectation c'.config = countExpectation c.config := by
    rw [h.config]
    rfl
  have hreport := report_of_same_owned h.owned hr (countExpectation c.config)
  unfold Checker.report
  rw [hexpected, h.workload, hreport]

theorem SameView.reaping (h : SameView c c') (store : Store σ) (s : σ) :
    Checker.reaping store c' s = Checker.reaping store c s := by
  have hreaper : reaper store c'.config = reaper store c.config := by
    rw [h.config]
    rfl
  unfold Checker.reaping
  rw [hreaper, h.workload, h.ledger, Reaper.result_pass_of_same_owned h.owned]

/-- What a deletion gives, what it leaves in the ledger, and what it does to the store. -/
theorem SameView.delete (h : SameView c c') (hworld : world'.store = world.store)
    (store : Store σ) :
    let out := Session.result (c.delete store) world
    let out' := Session.result (c'.delete store) world'
    out'.1.1 = out.1.1 ∧ out'.1.2.ledger = out.1.2.ledger ∧ out'.2.store = out.2.store := by
  intro out out'
  have hdelete : c'.config.delete = c.config.delete := by rw [h.config]
  cases hon : c.config.delete with
  | false =>
    simp only [out, out', delete_of_off hon, delete_of_off (hdelete.trans hon)]
    exact ⟨trivial, h.ledger, hworld⟩
  | true =>
    obtain ⟨hvalue, hstore⟩ := delete_of_on hon store world
    obtain ⟨hvalue', hstore'⟩ := delete_of_on (hdelete.trans hon) store world'
    simp only [out, out', hvalue, hstore, hvalue', hstore', hworld, h.reaping]
    exact ⟨trivial, trivial, trivial⟩

theorem SameView.deleteIfVerified (h : SameView c c') (hworld : world'.store = world.store)
    (store : Store σ) {report report' : VerificationReport}
    (hpass : report'.isPass = report.isPass) :
    let out := Session.result (c.deleteIfVerified store report) world
    let out' := Session.result (c'.deleteIfVerified store report') world'
    out'.1.1 = out.1.1 ∧ out'.1.2.ledger = out.1.2.ledger ∧ out'.2.store = out.2.store := by
  cases hp : report.isPass with
  | false =>
    rw [deleteIfVerified_of_fail hp, deleteIfVerified_of_fail (hpass.trans hp)]
    exact ⟨rfl, h.ledger, hworld⟩
  | true =>
    rw [deleteIfVerified_of_pass hp, deleteIfVerified_of_pass (hpass.trans hp)]
    exact h.delete hworld store

/-- Two runs with the same view report the same, but for the counts of the others, and do the same
    to the store. -/
theorem run_of_same_view (h : SameView c c') (hworld : world'.store = world.store)
    (hload : (Registry.load world.files c.config.cacheFiles).value = .ok r)
    (hload' : (Registry.load world'.files c'.config.cacheFiles).value = .ok r')
    (hagree : ∀ n ∈ c.workload.names, r'.get? n = r.get? n) (store : Store σ) :
    let out := Session.result (c.run store) world
    let out' := Session.result (c'.run store) world'
    (∃ report unnamed foreign, out.1.1 = .ok report ∧
      out'.1.1 = .ok
        { report with verification := { report.verification with unnamed, foreign } }) ∧
      out'.1.2.ledger = out.1.2.ledger ∧ out'.2.store = out.2.store := by
  intro out out'
  obtain ⟨hvalue, hstore⟩ := run_of_loaded hload store
  obtain ⟨hvalue', hstore'⟩ := run_of_loaded hload' store
  have hview := h.withRegistry r r'
  have hreport := hview.report hagree
  have hverified : (Session.result (c'.withRegistry r').verify world').2.store =
      (Session.result (c.withRegistry r).verify world).2.store := by
    rw [(result_verify (c'.withRegistry r') world').2, (result_verify (c.withRegistry r) world).2,
      hworld]
  have hpass : (c'.withRegistry r').report.isPass = (c.withRegistry r).report.isPass := by
    rw [hreport]
    rfl
  obtain ⟨hreap, hledger, hafter⟩ := hview.deleteIfVerified hverified store hpass
  refine ⟨⟨_, (c'.withRegistry r').report.unnamed, (c'.withRegistry r').report.foreign,
    congrArg Prod.fst hvalue, ?_⟩, ?_, ?_⟩
  · simp only [out', hvalue', hreap]
    rw [hreport]
  · simp only [out, out', hvalue, hvalue', hledger]
  · simp only [out, out', hstore, hstore', hafter]

/-! ### Runs without caches of their own -/

theorem ownedCaches_of_no_names {w : Workload} (h : w.names = []) (live : List Descriptor) :
    ownedCaches w live = [] := by
  rw [ownedCaches, List.filter_eq_nil_iff]
  intro d _ hd
  obtain ⟨n, -, hn⟩ := owns_iff.1 hd
  rw [h] at hn
  cases hn

theorem clean_of_no_names {w : Workload} (h : w.names = []) {e : CountExpectation}
    (he : e.enforced = true → e.expected = none) (live : List Descriptor) (r : Registry) :
    Clean live r w e := by
  have howned := ownedCaches_of_no_names h live
  constructor
  · rw [howned]
    rintro d ⟨⟩
  · rw [howned]
    rintro d ⟨⟩
  · intro henforced expected hexpected
    rw [he henforced] at hexpected
    cases hexpected

theorem store_reaping_of_no_names (h : c.workload.names = []) (store : Store σ) (s : σ) :
    (reaping store c s).2 = s := by
  have htargets : Reaper.targets c.workload c.ledger c.snapshot = [] := by
    rw [← Reaper.targets_ownedCaches, ownedCaches_of_no_names h]
    rfl
  have hplan : Reaper.plan c.config.reapMode false c.workload c.ledger c.snapshot = [] := by
    rw [Reaper.plan, htargets]
    exact List.sublist_nil.1 (c.config.reapMode.permitted_sublist false [])
  rw [reaping, Reaper.result_pass, Reaper.result_sweep]
  show (Session.result ((reaper store c.config).attemptAll _) s).2 = s
  rw [show (reaper store c.config).mode = c.config.reapMode from rfl, hplan]
  rfl

theorem findings_of_no_names (h : c.workload.names = [])
    (he : c.config.strictCountCheck = true → c.config.expectedCacheCount = none) :
    c.report.findings = [] :=
  List.isEmpty_iff.1 ((isPass_report_iff ..).2 (clean_of_no_names h he c.snapshot c.registry))

theorem store_run_of_no_names (h : c.workload.names = []) (store : Store σ) (world : World σ) :
    (Session.result (c.run store) world).2.store = world.store := by
  by_cases hc : c.Cleared world.files
  · rw [(run_of_cleared hc store).1, store_reaping_of_no_names h]
  · exact (run_of_not_cleared hc store).1

/-- For every store. If two checkers have the same view, if the declarations of both can be read,
    and if these agree on the names of the workload, then their runs report the same but for the
    counts of unnamed and foreign caches, make the same requests with the same answers, and leave
    the same ledger. A run without names finds nothing and requests nothing, unless a number of
    caches is enforced. -/
theorem run_ignores_others (store : Store σ) :
    (∀ (c c' : Checker) (world world' : World (Traced σ)) (r r' : Registry), SameView c c' →
      world'.store = world.store →
      (Registry.load world.files c.config.cacheFiles).value = .ok r →
      (Registry.load world'.files c'.config.cacheFiles).value = .ok r' →
      (∀ n ∈ c.workload.names, r'.get? n = r.get? n) →
        let out := Session.result (c.run store.traced) world
        let out' := Session.result (c'.run store.traced) world'
        (∃ report unnamed foreign, out.1.1 = .ok report ∧
          out'.1.1 = .ok
            { report with verification := { report.verification with unnamed, foreign } }) ∧
          out'.1.2.ledger = out.1.2.ledger ∧ out'.2.store = out.2.store) ∧
      ∀ (c : Checker) (world : World (Traced σ)), c.workload.names = [] →
        (c.config.strictCountCheck = true → c.config.expectedCacheCount = none) →
          let out := Session.result (c.run store.traced) world
          (Session.result c.verify world).1.findings = [] ∧
            (∀ r, (Registry.load world.files c.config.cacheFiles).value = .ok r →
              ∃ report, out.1.1 = .ok report ∧ report.verification.findings = []) ∧
            out.2.store = world.store := by
  constructor
  · intro c c' world world' r r' hview hworld hload hload' hagree
    exact run_of_same_view hview hworld hload hload' hagree store.traced
  · intro c world h he out
    refine ⟨?_, ?_, store_run_of_no_names h store.traced world⟩
    · rw [(result_verify c world).1]
      exact findings_of_no_names h he
    · intro r hload
      refine ⟨_, congrArg Prod.fst (run_of_loaded hload store.traced).1, ?_⟩
      exact findings_of_no_names (c := c.withRegistry r) h he

/-- A run is not changed by a cache of others, by one without a name, or by a declaration of the
    former. -/
theorem run_with_cache_of_others :
    let own : Descriptor :=
      { name := some "T1", persistence := .persistent, addressMode := .bits64 }
    let others : Descriptor :=
      { name := some "X", persistence := .nonPersistent, addressMode := .unknown "?" }
    let config : Config :=
      { delete := true, cacheFiles := ["T1.props"], launcher := { java := "java" } }
    let c : Checker :=
      { config, workload := ⟨["T1"]⟩, records := ⟨none, "", ""⟩, snapshot := [own] }
    let c' : Checker :=
      { c with
        config := { config with cacheFiles := ["T1.props", "X.props"] }
        snapshot := [others, own, { own with name := none }] }
    let files := (FileTree.empty []).put ["T1.props"] (.file "name=T1\npersistence=true".toUTF8)
    let files' := files.put ["X.props"] (.file "name=X\npersistence=true".toUTF8)
    let store := Store.inMemory {}
    let out := Session.result (c.run store.traced) { files, store := { state := {} } }
    let out' := Session.result (c'.run store.traced) { files := files', store := { state := {} } }
    out.2.store.calls.requests = [{ location := none, persistence := .persistent, name := "T1" }] ∧
      (∃ report unnamed foreign, out.1.1 = .ok report ∧
        out'.1.1 = .ok
          { report with verification := { report.verification with unnamed, foreign } }) ∧
      out'.1.2.ledger = out.1.2.ledger ∧ out'.2.store = out.2.store := by
  intro own others config c c' files files' store out out'
  let t1 : Declaration := ⟨"T1", true, false, "T1.props"⟩
  let x : Declaration := ⟨"X", true, false, "X.props"⟩
  have hload : (Registry.load files c.config.cacheFiles).value = .ok (.ofList [t1]) := by
    decide +kernel
  have hload' : (Registry.load files' c'.config.cacheFiles).value = .ok (.ofList [t1, x]) := by
    decide +kernel
  have hview : SameView c c' := ⟨rfl, rfl, rfl, by decide +kernel⟩
  have hagree : ∀ n ∈ c.workload.names,
      (Registry.ofList [t1, x]).get? n = (Registry.ofList [t1]).get? n := by
    decide +kernel
  exact ⟨by decide +kernel,
    (run_ignores_others store).1 c c' _ _ _ _ hview rfl hload hload' hagree⟩

end Checker

end CacheWarden
