import CacheWarden.Proofs.Checker.Gate
import Mathlib

/-!
# The life of a checker

After its start a checker may be called in any order and any number of times, while the files change
and the store behaves as it likes. It lists its caches once, and what it did to them stays in its
ledger: a cache that was attempted in a call is not attempted in a later one. Main statements:
`advances_perform`, what one call does; `advances_live`, what any number of calls do;
`live_one_snapshot_one_ledger`.
-/

namespace CacheWarden.Checker

variable {σ : Type}

/-- What a checker can be called for after its start. -/
inductive Call where
  | loadExpected
  | verify
  | delete
  | run
  deriving DecidableEq, Repr

/-- A call, with the store and the files as they are by then. -/
structure Occasion (σ : Type) where
  call : Call
  store : Store σ
  files : FileTree

/-- Makes a call: why it failed, if it did, and the checker as it is afterwards. -/
def perform (k : Occasion σ) (c : Checker) :
    Session (World (Traced σ)) (Option Failure × Checker) := do
  modify fun w => { w with files := k.files }
  match k.call with
  | .loadExpected =>
      match ← c.loadExpected with
      | .error e => return (some e, c)
      | .ok c => return (none, c)
  | .verify =>
      let _ ← c.verify
      return (none, c)
  | .delete =>
      let (_, c) ← c.delete k.store.traced
      return (none, c)
  | .run =>
      match ← c.run k.store.traced with
      | (.error e, c) => return (some e, c)
      | (.ok _, c) => return (none, c)

/-- Makes some calls, one after the other, whether they fail or not. -/
def live : List (Occasion σ) → Checker → Session (World (Traced σ)) Checker
  | [], c => return c
  | k :: rest, c => do
      let (_, c) ← perform k c
      live rest c

/-- What calls may make of a checker and of the calls that reached the store: nothing but `requests`
    was added, and these are in the ledger. -/
structure Advances (c c' : Checker) (before after : StoreCalls) (requests : List DestroyRequest) :
    Prop where
  config : c'.config = c.config
  workload : c'.workload = c.workload
  snapshot : c'.snapshot = c.snapshot
  queries : after.queries = before.queries
  requested : after.requests = before.requests ++ requests
  recorded : c'.ledger.names = c.ledger.names ++ requests.map DestroyRequest.name
  owned : ∀ q ∈ requests, q.name ∈ c.workload.names ∧
    ∃ d ∈ c.snapshot, d.usableName = some q.name
  allowed : c.config.delete = false → requests = []

namespace Advances

variable {c c' c'' : Checker} {before middle after : StoreCalls}
  {requests requests' : List DestroyRequest}

theorem refl (c : Checker) (before : StoreCalls) : Advances c c before before [] :=
  ⟨rfl, rfl, rfl, rfl, by simp, by simp, by simp, fun _ => rfl⟩

theorem trans (h : Advances c c' before middle requests)
    (h' : Advances c' c'' middle after requests') :
    Advances c c'' before after (requests ++ requests') where
  config := h'.config.trans h.config
  workload := h'.workload.trans h.workload
  snapshot := h'.snapshot.trans h.snapshot
  queries := h'.queries.trans h.queries
  requested := by rw [h'.requested, h.requested, List.append_assoc]
  recorded := by rw [h'.recorded, h.recorded, List.map_append, List.append_assoc]
  owned := by
    intro q hq
    rcases List.mem_append.1 hq with hq | hq
    · exact h.owned q hq
    · have hown := h'.owned q hq
      rwa [h.workload, h.snapshot] at hown
  allowed := by
    intro hoff
    rw [h.allowed hoff, h'.allowed (by rw [h.config, hoff])]
    rfl

/-- Other declarations make no difference. -/
theorem withRegistry (h : Advances c c' before after requests) (registry : Registry) :
    Advances c (c'.withRegistry registry) before after requests :=
  ⟨h.config, h.workload, h.snapshot, h.queries, h.requested, h.recorded, h.owned, h.allowed⟩

end Advances

/-! ### One call -/

variable {k : Occasion σ} {c : Checker} {world : World (Traced σ)}

/-- The world as a call finds it. -/
def Occasion.enter (k : Occasion σ) (world : World (Traced σ)) : World (Traced σ) :=
  { world with files := k.files }

theorem perform_loadExpected_of_error (hk : k.call = .loadExpected) {e : Failure}
    (h : (Registry.load k.files c.config.cacheFiles).value = .error e) :
    Session.result (perform k c) world = ((some e, c), k.enter world) := by
  rw [perform, Session.result_bind, hk]
  simp only [Session.result_bind, result_loadExpected, Session.result_modify, h]
  rfl

theorem perform_loadExpected_of_ok (hk : k.call = .loadExpected) {r : Registry}
    (h : (Registry.load k.files c.config.cacheFiles).value = .ok r) :
    Session.result (perform k c) world = ((none, c.withRegistry r), k.enter world) := by
  rw [perform, Session.result_bind, hk]
  simp only [Session.result_bind, result_loadExpected, Session.result_modify, h]
  rfl

theorem perform_verify (hk : k.call = .verify) :
    let out := Session.result (perform k c) world
    out.1 = (none, c) ∧ out.2.store = world.store := by
  rw [perform, Session.result_bind, hk]
  exact ⟨rfl, (result_verify c (k.enter world)).2⟩

theorem perform_delete (hk : k.call = .delete) :
    let out := Session.result (perform k c) world
    let deleted := Session.result (c.delete k.store.traced) (k.enter world)
    out = ((none, deleted.1.2), deleted.2) := by
  rw [perform, Session.result_bind, hk]
  rfl

theorem perform_run (hk : k.call = .run) :
    let ran := Session.result (c.run k.store.traced) (k.enter world)
    Session.result (perform k c) world =
      ((match ran.1.1 with
        | .error e => some e
        | .ok _ => none, ran.1.2), ran.2) := by
  have henter : (Session.result (modify fun w => { w with files := k.files }) world).2 =
      k.enter world := rfl
  rw [perform, Session.result_bind, hk, henter]
  simp only [Session.result_bind]
  obtain ⟨⟨value, c'⟩, after⟩ := Session.result (c.run k.store.traced) (k.enter world)
  cases value <;> rfl

/-- The pass of a reaper adds its requests to the ledger. -/
theorem advances_reaping {c : Checker} (hon : c.config.delete = true) (store : Store σ)
    (t : Traced σ) :
    let reaped := reaping store.traced c t
    ∃ requests, Advances c { c with ledger := reaped.1.2 } t.calls reaped.2.calls requests := by
  intro reaped
  set ts := Reaper.plan c.config.reapMode false c.workload c.ledger c.snapshot
  have hr : reaper store.traced c.config = (reaper store c.config).traced := rfl
  have hcalls : reaped.2.calls =
      { t.calls with requests := t.calls.requests ++ (reaper store c.config).requests ts } := by
    simp only [reaped, reaping, hr, Reaper.result_pass_traced]
    rfl
  have hledger : reaped.1.2 = c.ledger.recordAll (ts.map Prod.fst) := by
    simp only [reaped, reaping, Reaper.ledger_pass]
    rfl
  have hnames :
      ((reaper store c.config).requests ts).map DestroyRequest.name = ts.map Prod.fst := by
    simp [Reaper.requests, Reaper.request]
  refine ⟨(reaper store c.config).requests ts, rfl, rfl, rfl, ?_, ?_, ?_, ?_, ?_⟩
  · rw [hcalls]
  · rw [hcalls]
  · rw [hnames, hledger]
    exact Reaper.names_recordAll_of_sublist (c.config.reapMode.permitted_sublist false _)
  · intro q hq
    obtain ⟨⟨n, d⟩, hd, rfl⟩ := List.mem_map.1 hq
    have htarget := (c.config.reapMode.permitted_sublist false _).subset hd
    obtain ⟨hw, -, hf⟩ := Reaper.mem_targets htarget
    have hname : d.usableName = some n := by simpa using List.find?_some hf
    exact ⟨hw, d, List.mem_of_find?_eq_some hf, hname⟩
  · intro hoff
    rw [hon] at hoff
    cases hoff

/-- A call that fails changes nothing. -/
theorem perform_of_failure {e : Failure} (h : (Session.result (perform k c) world).1.1 = some e) :
    let out := Session.result (perform k c) world
    out.1.2 = c ∧ out.2.store = world.store := by
  cases hk : k.call with
  | loadExpected =>
    cases hload : (Registry.load k.files c.config.cacheFiles).value with
    | error e =>
      rw [perform_loadExpected_of_error hk hload]
      exact ⟨rfl, rfl⟩
    | ok r =>
      rw [perform_loadExpected_of_ok hk hload] at h
      cases h
  | verify =>
    have hverified : (Session.result (perform k c) world).1 = (none, c) := (perform_verify hk).1
    rw [hverified] at h
    cases h
  | delete =>
    rw [perform_delete hk] at h
    cases h
  | run =>
    cases hload : (Registry.load k.files c.config.cacheFiles).value with
    | error e =>
      have hran : Session.result (c.run k.store.traced) (k.enter world) =
          ((.error e, c), k.enter world) := run_of_loadError hload k.store.traced
      rw [perform_run hk, hran]
      exact ⟨rfl, rfl⟩
    | ok r =>
      have hran := (@run_of_loaded (Traced σ) c (k.enter world) r hload k.store.traced).1
      rw [perform_run hk, hran] at h
      cases h

theorem advances_delete (store : Store σ) (c : Checker) (world : World (Traced σ)) :
    let out := Session.result (c.delete store.traced) world
    ∃ requests, Advances c out.1.2 world.store.calls out.2.store.calls requests := by
  cases hon : c.config.delete with
  | false =>
    rw [delete_of_off hon]
    exact ⟨[], .refl c _⟩
  | true =>
    obtain ⟨hvalue, hstore⟩ := delete_of_on hon store.traced world
    intro out
    rw [hvalue, hstore]
    exact advances_reaping hon store world.store

theorem advances_run (store : Store σ) (c : Checker) (world : World (Traced σ)) :
    let out := Session.result (c.run store.traced) world
    ∃ requests, Advances c out.1.2 world.store.calls out.2.store.calls requests := by
  cases hload : (Registry.load world.files c.config.cacheFiles).value with
  | error e =>
    rw [run_of_loadError hload]
    exact ⟨[], .refl c _⟩
  | ok r =>
    intro out
    by_cases hgo : (c.withRegistry r).report.isPass = true ∧ c.config.delete = true
    · obtain ⟨hc, hs⟩ := run_of_pass hload store.traced hgo.1 hgo.2
      obtain ⟨requests, h⟩ := advances_reaping hgo.2 store world.store
      rw [hc, hs]
      exact ⟨requests, h.withRegistry r⟩
    · rw [not_and_or, Bool.not_eq_true, Bool.not_eq_true] at hgo
      obtain ⟨hc, hs⟩ := run_of_kept hload store.traced hgo
      rw [hc, hs]
      exact ⟨[], (Advances.refl c _).withRegistry r⟩

theorem advances_perform (k : Occasion σ) (c : Checker) (world : World (Traced σ)) :
    let out := Session.result (perform k c) world
    ∃ requests, Advances c out.1.2 world.store.calls out.2.store.calls requests := by
  intro out
  cases hk : k.call with
  | loadExpected =>
    cases hload : (Registry.load k.files c.config.cacheFiles).value with
    | error e =>
      rw [show out = _ from perform_loadExpected_of_error hk hload]
      exact ⟨[], .refl c _⟩
    | ok r =>
      rw [show out = _ from perform_loadExpected_of_ok hk hload]
      exact ⟨[], (Advances.refl c _).withRegistry r⟩
  | verify =>
    obtain ⟨hc, hs⟩ := @perform_verify σ k c world hk
    rw [show out.1 = _ from hc, show out.2.store = _ from hs]
    exact ⟨[], .refl c _⟩
  | delete =>
    rw [show out = _ from perform_delete hk]
    exact advances_delete k.store c (k.enter world)
  | run =>
    rw [show out = _ from perform_run hk]
    exact advances_run k.store c (k.enter world)

/-! ### Any number of calls -/

theorem result_live_cons (k : Occasion σ) (rest : List (Occasion σ)) (c : Checker)
    (world : World (Traced σ)) :
    Session.result (live (k :: rest) c) world =
      let out := Session.result (perform k c) world
      Session.result (live rest out.1.2) out.2 := rfl

theorem advances_live (occasions : List (Occasion σ)) (c : Checker) (world : World (Traced σ)) :
    let out := Session.result (live occasions c) world
    ∃ requests, Advances c out.1 world.store.calls out.2.store.calls requests := by
  induction occasions generalizing c world with
  | nil => exact ⟨[], .refl c _⟩
  | cons k rest ih =>
    obtain ⟨requests, h⟩ := advances_perform k c world
    obtain ⟨requests', h'⟩ := ih (Session.result (perform k c) world).1.2
      (Session.result (perform k c) world).2
    rw [result_live_cons]
    exact ⟨requests ++ requests', h.trans h'⟩

/-! ### From the start -/

theorem listing_traced (store : Store σ) (config : Config) (t : Traced σ) :
    let listed := listing store config t.state
    listing store.traced config t =
      (listed.1, { t.queried (query config) with state := listed.2 }) := by
  have hanswer : Session.result (store.traced.enumerate (limit config) (query config)) t =
      let out := Session.result (store.enumerate (limit config) (query config)) t.state
      (out.1, { t.queried (query config) with state := out.2 }) := rfl
  unfold listing
  rw [Store.list, Store.list, Session.result_bind, Session.result_bind, hanswer]
  cases (Session.result (store.enumerate (limit config) (query config)) t.state).1 <;> rfl

/-- A start lists once, and gives a checker if that succeeds. -/
theorem start_lists_once (store : Store σ) (config : Config) (w : Workload)
    (records : RecordSink) (world : World (Traced σ)) :
    let begun := Session.result (start store.traced config w records) world
    begun.2.store.calls = (world.store.queried (query config)).calls ∧
      ∀ c, begun.1 = .ok c →
        (listing store config world.store.state).1 = .ok c.snapshot ∧
          c = { config, workload := w, records, snapshot := c.snapshot } := by
  have hlisting := listing_traced store config world.store
  intro begun
  cases hl : (listing store config world.store.state).1 with
  | error e =>
    have hrefused : (listing store.traced config world.store).1 = .error e := by
      rw [hlisting]
      exact hl
    rw [show begun = _ from start_of_refused hrefused w records]
    refine ⟨by rw [hlisting], ?_⟩
    rintro c ⟨⟩
  | ok snapshot =>
    have hlisted : (listing store.traced config world.store).1 = .ok snapshot := by
      rw [hlisting]
      exact hl
    obtain ⟨hc, hs⟩ := start_of_listed hlisted w records
    rw [show begun.1 = _ from hc, show begun.2.store = _ from hs]
    refine ⟨by rw [hlisting], ?_⟩
    rintro c ⟨⟩
    exact ⟨rfl, rfl⟩

/-- For every store, all files and every series of calls, with the store and the files changing from
    call to call: the caches are listed once, no name is requested twice, and the ledger holds the
    requested names, all of them names of the snapshot and the workload. Without deletion nothing is
    requested. A call that fails leaves the checker and the store as they were, a verification does
    so always, and a load changes the declarations only. -/
theorem live_one_snapshot_one_ledger (store : Store σ) (config : Config) (w : Workload)
    (records : RecordSink) (files : FileTree) (s : σ) :
    let begun :=
      Session.result (start store.traced config w records) { files, store := { state := s } }
    begun.2.store.calls = { queries := [query config] } ∧
      ∀ c, begun.1 = .ok c → (listing store config s).1 = .ok c.snapshot ∧
        ∀ occasions : List (Occasion σ),
          let out := Session.result (live occasions c) begun.2
          let calls := out.2.store.calls
          let names := calls.requests.map DestroyRequest.name
          calls.queries = [query config] ∧
            out.1.snapshot = c.snapshot ∧
            names.Nodup ∧
            (∀ n ∈ names, n ∈ w.names ∧ ∃ d ∈ c.snapshot, d.usableName = some n) ∧
            out.1.ledger.names = names ∧
            (config.delete = false → calls.requests = []) ∧
            ∀ k : Occasion σ,
              let next := Session.result (perform k out.1) out.2
              (∀ e, next.1.1 = some e → next.1.2 = out.1 ∧ next.2.store = out.2.store) ∧
                (k.call = .verify → next.1 = (none, out.1) ∧ next.2.store = out.2.store) ∧
                (k.call = .loadExpected → next.2.store = out.2.store ∧
                  next.1 = match (Registry.load k.files config.cacheFiles).value with
                    | .error e => (some e, out.1)
                    | .ok r => (none, out.1.withRegistry r)) := by
  intro begun
  obtain ⟨hcalls, hbegun⟩ :=
    start_lists_once store config w records { files, store := { state := s } }
  refine ⟨hcalls, fun c hc => ?_⟩
  obtain ⟨hlisted, hfields⟩ := hbegun c hc
  refine ⟨hlisted, ?_⟩
  intro occasions out calls names
  obtain ⟨requests, h⟩ := advances_live occasions c begun.2
  have hrequested : calls.requests = requests := by
    rw [show calls.requests = _ from h.requested, show begun.2.store.calls = _ from hcalls]
    rfl
  have hledger : out.1.ledger.names = names := by
    rw [show out.1.ledger.names = _ from h.recorded, ← hrequested, hfields]
    rfl
  have hconfig : out.1.config = config := by
    rw [show out.1.config = _ from h.config, hfields]
  refine ⟨?_, h.snapshot, ?_, ?_, hledger, ?_, ?_⟩
  · rw [show calls.queries = _ from h.queries, show begun.2.store.calls = _ from hcalls]
    rfl
  · exact hledger ▸ out.1.ledger.distinct
  · intro n hn
    obtain ⟨q, hq, rfl⟩ := List.mem_map.1 hn
    obtain ⟨hw, hd⟩ := h.owned q (hrequested ▸ hq)
    rw [hfields] at hw
    exact ⟨hw, hd⟩
  · intro hoff
    rw [hrequested]
    exact h.allowed (by rw [hfields, hoff])
  · intro k next
    refine ⟨fun e he => perform_of_failure he, fun hk => perform_verify hk, fun hk => ?_⟩
    cases hload : (Registry.load k.files config.cacheFiles).value with
    | error e =>
      rw [show next = _ from perform_loadExpected_of_error hk (by rw [hconfig, hload])]
      exact ⟨rfl, rfl⟩
    | ok r =>
      rw [show next = _ from perform_loadExpected_of_ok hk (by rw [hconfig, hload])]
      exact ⟨rfl, rfl⟩

/-- A cache that a call destroyed is not requested again by the run that follows once the
    declaration file can be read. -/
theorem live_with_repaired_declarations :
    let own : Descriptor :=
      { name := some "T1", persistence := .persistent, addressMode := .bits64 }
    let config : Config :=
      { delete := true, cacheFiles := ["T1.props"], launcher := { java := "java" } }
    let store := Store.inMemory { caches := [own] }
    let broken := FileTree.empty []
    let repaired := broken.put ["T1.props"] (.file "name=T1\npersistence=true".toUTF8)
    let begun := Session.result (start store.traced config ⟨["T1"]⟩ ⟨none, "", ""⟩)
      { files := broken, store := { state := {} } }
    let c : Checker :=
      { config, workload := ⟨["T1"]⟩, records := ⟨none, "", ""⟩, snapshot := [own] }
    let occasions : List (Occasion StoreCalls) :=
      [⟨.run, store, broken⟩, ⟨.delete, store, broken⟩, ⟨.run, store, repaired⟩,
        ⟨.verify, store, repaired⟩]
    let out := Session.result (live occasions c) begun.2
    let names := out.2.store.calls.requests.map DestroyRequest.name
    begun.1 = .ok c ∧ names = ["T1"] ∧ names.Nodup ∧ out.1.ledger.names = names := by
  intro own config store broken repaired begun c occasions out names
  have hbegun : begun.1 = .ok c := rfl
  obtain ⟨-, -, hnodup, -, hledger, -⟩ := ((live_one_snapshot_one_ledger store config ⟨["T1"]⟩
    ⟨none, "", ""⟩ broken {}).2 c hbegun).2 occasions
  exact ⟨hbegun, by decide +kernel, hnodup, hledger⟩

end CacheWarden.Checker
