import CacheWarden.Proofs.Checker.Transcript
import CacheWarden.Proofs.Files.Way
import Mathlib

/-!
# Recording beside a run

A checker writes its records into the same files that it reads its declarations from. Where they
make and change nothing on the way of a declaration file (`RecordSink.Spares`), all that they do to
the files is out of sight of the checker, so that it makes no difference where they go and whether
they can be written at all. Main statements: `RecordSink.spares_of_no_path`, `spares_of_refuses` and
`spares_iff_of_opens`, which sinks spare a path; `toRecordState_serve`, the records of a start and
any calls after it; `alike_answers`, calls with either sink; `serve_with_any_sink`.
-/

namespace CacheWarden

namespace RecordSink

open FileTree (Opens)

variable {sink : RecordSink} {path source : String} {s : RecordState} {opened : FileTree}
  {place : Place}

/-- Whether the records of some events make and change nothing on the way of a path, from the first
    of them to the last. -/
def Spares (sink : RecordSink) (s : RecordState) (source : String) (events : List Event) : Prop :=
  ∀ earlier, earlier <+: events →
    ∀ p ∈ s.files.wayOf source, (sink.emitAll earlier s).files.node? p = s.files.node? p

/-! ### What records do to the files -/

theorem emitAll_of_no_path (hpath : sink.path = none) (events : List Event) (s : RecordState) :
    (sink.emitAll events s).files = s.files := by
  induction events generalizing s with
  | nil => rfl
  | cons e events ih =>
    rw [emitAll, ih]
    simp only [emit, hpath, Logged.value_pure]

theorem emitAll_of_refuses (hpath : sink.path = some path) (h : s.files.Refuses path)
    (events : List Event) : (sink.emitAll events s).files = s.files := by
  induction events generalizing s with
  | nil => rfl
  | cons e events ih =>
    have hemit : (sink.emit e s.files s.emitted).value = s.files := by
      obtain ⟨cause, happend⟩ := h (sink.line e s.emitted).toUTF8
      rw [value_emit_of_path hpath, happend]
    rw [emitAll, hemit, ih (s := ⟨s.files, s.emitted + 1⟩) h]

theorem keepsDirectories_emitAll (sink : RecordSink) (events : List Event) (s : RecordState) :
    s.files.KeepsDirectories (sink.emitAll events s).files := by
  induction events generalizing s with
  | nil => exact .refl s.files
  | cons e events ih =>
    refine .trans ?_ (ih _)
    cases hpath : sink.path with
    | none =>
      simp only [emit, hpath, Logged.value_pure]
      exact .refl s.files
    | some path =>
      rw [value_emit_of_path hpath]
      exact FileTree.keepsDirectories_append s.files path _

theorem Spares.readText_emitAll {events earlier : List Event} (h : sink.Spares s source events)
    (hearlier : earlier <+: events) :
    (sink.emitAll earlier s).files.readText source = s.files.readText source :=
  FileTree.readText_of_agree (sink.keepsDirectories_emitAll earlier s).workingDirectory
    (h earlier hearlier)

theorem load_emitAll {sources : List String} {events earlier : List Event}
    (h : ∀ source ∈ sources, sink.Spares s source events) (hearlier : earlier <+: events) :
    Registry.load (sink.emitAll earlier s).files sources = Registry.load s.files sources :=
  Registry.addFiles_congr (fun source hs => (h source hs).readText_emitAll hearlier) _

/-! ### Sinks that spare a path -/

theorem spares_of_no_path (hpath : sink.path = none) (s : RecordState) (source : String)
    (events : List Event) : sink.Spares s source events := by
  intro earlier _ p _
  rw [emitAll_of_no_path hpath]

theorem spares_of_refuses (hpath : sink.path = some path) (h : s.files.Refuses path)
    (source : String) (events : List Event) : sink.Spares s source events := by
  intro earlier _ p _
  rw [emitAll_of_refuses hpath h]

theorem size_line_pos (sink : RecordSink) (e : Event) (n : Nat) :
    0 < (sink.line e n).toUTF8.size := by
  rw [Nat.pos_iff_ne_zero, String.toUTF8_eq_toByteArray, String.size_toByteArray, ne_eq,
    String.utf8ByteSize_eq_zero_iff, line]
  intro h
  have hchars := congrArg String.toList h
  rw [String.toList_ofList] at hchars
  simp at hchars

theorem node?_emitAll (hpath : sink.path = some path) (h : Opens s.files path opened place)
    {events : List Event} (hne : events ≠ []) (p : Place) :
    (sink.emitAll events s).files.node? p =
      if p = place then some (.file (opened.contentAt place ++ sink.written s.emitted events))
      else opened.node? p := by
  have hcontent := FileTree.appendable?_eq_some_iff.2 ⟨opened, place, h, rfl⟩
  have happend := emitAll_eq_append hpath hcontent hne
  rw [FileTree.append_of_opens h] at happend
  rw [← (Prod.mk.inj happend).2, FileTree.node?_put opened h.place_ne_nil]

/-- A record file that can be written to spares, whatever is put on record, exactly the paths that
    go neither through it nor through a directory that is made for it. -/
theorem spares_iff_of_opens (hpath : sink.path = some path)
    (h : Opens s.files path opened place) :
    (∀ events, sink.Spares s source events) ↔
      ∀ p ∈ s.files.wayOf source, p ≠ place ∧ opened.node? p = s.files.node? p := by
  constructor
  · intro hspares p hp
    let e : Event := ⟨"", .null⟩
    have hone := hspares [e] [e] (List.prefix_refl _) p hp
    rw [node?_emitAll hpath h (List.cons_ne_nil e [])] at hone
    by_cases hplace : p = place
    · -- another record would change the record file once more
      have htwo := hspares [e, e] [e, e] (List.prefix_refl _) p hp
      rw [node?_emitAll hpath h (List.cons_ne_nil e [e]), if_pos hplace, ← hone,
        if_pos hplace] at htwo
      have hsize := congrArg ByteArray.size (FileNode.file.inj (Option.some.inj htwo))
      have hline := sink.size_line_pos e (s.emitted + 1)
      simp only [written_cons, written_nil, ByteArray.size_append] at hsize
      omega
    · rw [if_neg hplace] at hone
      exact ⟨hplace, hone⟩
  · intro hway events earlier _ p hp
    obtain ⟨hplace, hopened⟩ := hway p hp
    by_cases hne : earlier = []
    · rw [hne]
      rfl
    · rw [node?_emitAll hpath h hne, if_neg hplace, hopened]

end RecordSink

namespace Checker

variable {σ : Type}

/-- What a call gives. -/
inductive Answer where
  | loaded (outcome : Except Failure Unit)
  | verified (report : VerificationReport)
  | deleted (summary : Option ReapSummary)
  | ran (outcome : Except Failure RunReport)

/-- The events that a call puts on record, given what it gives. -/
def Answer.events : Answer → List Event
  | .loaded _ => []
  | .verified report => report.count.toList.map .count ++ report.findings.map .finding
  | .deleted summary => ((summary.map ReapSummary.attempts).getD []).map .destroyed
  | .ran outcome => recorded outcome

/-- Makes a call: what it gives, and the checker as it is afterwards. -/
def answer (store : Store σ) (c : Checker) : Call → Session (World σ) (Answer × Checker)
  | .loadExpected => do
      match ← c.loadExpected with
      | .error e => return (.loaded (.error e), c)
      | .ok c => return (.loaded (.ok ()), c)
  | .verify => do
      let report ← c.verify
      return (.verified report, c)
  | .delete => do
      let (summary, c) ← c.delete store
      return (.deleted summary, c)
  | .run => do
      let (outcome, c) ← c.run store
      return (.ran outcome, c)

/-- Makes some calls, one after the other, whether they fail or not. -/
def answers (store : Store σ) : List Call → Checker → Session (World σ) (List Answer × Checker)
  | [], c => return ([], c)
  | call :: rest, c => do
      let (a, c) ← c.answer store call
      let (others, c) ← answers store rest c
      return (a :: others, c)

/-- Starts a checker and makes some calls: what they give, and the checker in the end. -/
def serve (store : Store σ) (config : Config) (w : Workload) (records : RecordSink)
    (calls : List Call) : Session (World σ) (Except Failure (List Answer × Checker)) := do
  match ← start store config w records with
  | .error e => return .error e
  | .ok c => do
      let (given, c) ← answers store calls c
      return .ok (given, c)

/-- The events that are on record in the end: the caches that were listed, and those of each
    call. -/
def served : Except Failure (List Answer × Checker) → List Event
  | .error _ => []
  | .ok (given, c) => c.snapshot.map .cacheFound ++ given.flatMap Answer.events

/-- The checker with another sink for its records. -/
def withRecords (c : Checker) (records : RecordSink) : Checker := { c with records }

/-- Whether a result is the same as another one, but for where the records of the checker go. -/
structure Alike {α : Type} (records : RecordSink) (out out' : (α × Checker) × World σ) : Prop where
  value : out'.1 = (out.1.1, out.1.2.withRecords records)
  store : out'.2.store = out.2.store

/-! ### One call with either sink -/

section OneCall

variable {world world' : World σ} {c : Checker} (records : RecordSink) (store : Store σ)

theorem alike_delete (hstore : world'.store = world.store) :
    Alike records (Session.result (c.delete store) world)
      (Session.result ((c.withRecords records).delete store) world') := by
  cases hon : c.config.delete with
  | false =>
    rw [delete_of_off hon, delete_of_off (c := c.withRecords records) hon]
    exact ⟨rfl, hstore⟩
  | true =>
    obtain ⟨hvalue, hafter⟩ := delete_of_on hon store world
    obtain ⟨hvalue', hafter'⟩ := delete_of_on (c := c.withRecords records) hon store world'
    rw [hstore] at hvalue' hafter'
    refine ⟨?_, hafter'.trans hafter.symm⟩
    rw [hvalue, hvalue']
    rfl

theorem alike_deleteIfVerified (hstore : world'.store = world.store)
    (report : VerificationReport) :
    Alike records (Session.result (c.deleteIfVerified store report) world)
      (Session.result ((c.withRecords records).deleteIfVerified store report) world') := by
  cases hp : report.isPass with
  | false =>
    rw [deleteIfVerified_of_fail hp, deleteIfVerified_of_fail hp]
    exact ⟨rfl, hstore⟩
  | true =>
    rw [deleteIfVerified_of_pass hp, deleteIfVerified_of_pass hp]
    exact alike_delete records store hstore

theorem alike_run (hstore : world'.store = world.store)
    (hload : Registry.load world'.files c.config.cacheFiles =
      Registry.load world.files c.config.cacheFiles) :
    Alike records (Session.result (c.run store) world)
      (Session.result ((c.withRecords records).run store) world') := by
  have hload' := congrArg Logged.value hload
  cases hl : (Registry.load world.files c.config.cacheFiles).value with
  | error e =>
    have hl' : (Registry.load world'.files (c.withRecords records).config.cacheFiles).value =
        .error e := hload'.trans hl
    rw [run_of_loadError hl, run_of_loadError hl']
    exact ⟨rfl, hstore⟩
  | ok registry =>
    have hl' : (Registry.load world'.files (c.withRecords records).config.cacheFiles).value =
        .ok registry := hload'.trans hl
    obtain ⟨hvalue, hafter⟩ := run_of_loaded hl store
    obtain ⟨hvalue', hafter'⟩ := run_of_loaded hl' store
    have hverified := (result_verify (c.withRegistry registry) world).2
    have hverified' := (result_verify ((c.withRecords records).withRegistry registry) world').2
    obtain ⟨hdeleted, hleft⟩ := alike_deleteIfVerified (c := c.withRegistry registry) records
      store (hverified'.trans (hstore.trans hverified.symm)) (c.withRegistry registry).report
    refine ⟨?_, hafter'.trans (hleft.trans hafter.symm)⟩
    rw [hvalue, hvalue']
    exact congrArg (fun deleted : Option ReapSummary × Checker =>
      ((.ok ⟨(c.withRegistry registry).report, deleted.1⟩ : Except Failure RunReport), deleted.2))
        hdeleted

theorem alike_answer (hstore : world'.store = world.store)
    (hload : Registry.load world'.files c.config.cacheFiles =
      Registry.load world.files c.config.cacheFiles) (call : Call) :
    Alike records (Session.result (c.answer store call) world)
      (Session.result ((c.withRecords records).answer store call) world') := by
  cases call with
  | loadExpected =>
    simp only [answer, Session.result_bind, result_loadExpected]
    rw [show (c.withRecords records).config = c.config from rfl, hload]
    cases (Registry.load world.files c.config.cacheFiles).value with
    | error e => exact ⟨rfl, hstore⟩
    | ok registry => exact ⟨rfl, hstore⟩
  | verify =>
    obtain ⟨hvalue, hafter⟩ := result_verify c world
    obtain ⟨hvalue', hafter'⟩ := result_verify (c.withRecords records) world'
    refine ⟨?_, hafter'.trans (hstore.trans hafter.symm)⟩
    simp only [answer, Session.result_bind, Session.result_pure]
    rw [hvalue, hvalue']
    rfl
  | delete =>
    obtain ⟨hvalue, hafter⟩ := alike_delete (c := c) records store hstore
    simp only [answer, Session.result_bind, Session.result_pure]
    rw [hvalue]
    exact ⟨rfl, hafter⟩
  | run =>
    obtain ⟨hvalue, hafter⟩ := alike_run records store hstore hload
    simp only [answer, Session.result_bind, Session.result_pure]
    rw [hvalue]
    exact ⟨rfl, hafter⟩

end OneCall

/-! ### What is left of a checker and its files -/

theorem checker_delete (store : Store σ) (c : Checker) (world : World σ) :
    ∃ ledger, (Session.result (c.delete store) world).1.2 = { c with ledger } := by
  cases hon : c.config.delete with
  | false => exact ⟨c.ledger, by rw [delete_of_off hon]⟩
  | true => exact ⟨_, congrArg Prod.snd (delete_of_on hon store world).1⟩

theorem checker_deleteIfVerified (store : Store σ) (c : Checker) (report : VerificationReport)
    (world : World σ) :
    ∃ ledger, (Session.result (c.deleteIfVerified store report) world).1.2 = { c with ledger } := by
  cases hp : report.isPass with
  | false => exact ⟨c.ledger, by rw [deleteIfVerified_of_fail hp]⟩
  | true =>
    rw [deleteIfVerified_of_pass hp]
    exact checker_delete store c world

theorem checker_run (store : Store σ) (c : Checker) (world : World σ) :
    ∃ registry ledger,
      (Session.result (c.run store) world).1.2 = { c with registry, ledger } := by
  cases hload : (Registry.load world.files c.config.cacheFiles).value with
  | error e => exact ⟨c.registry, c.ledger, by rw [run_of_loadError hload]⟩
  | ok registry =>
    have hvalue := congrArg Prod.snd (run_of_loaded hload store).1
    obtain ⟨ledger, hledger⟩ := checker_deleteIfVerified store (c.withRegistry registry)
      (c.withRegistry registry).report (Session.result (c.withRegistry registry).verify world).2
    exact ⟨registry, ledger, hvalue.trans hledger⟩

/-- A call changes nothing of a checker but its declarations and its ledger. -/
theorem checker_answer (store : Store σ) (c : Checker) (call : Call) (world : World σ) :
    ∃ registry ledger,
      (Session.result (c.answer store call) world).1.2 = { c with registry, ledger } := by
  cases call with
  | loadExpected =>
    simp only [answer, Session.result_bind, result_loadExpected]
    cases (Registry.load world.files c.config.cacheFiles).value with
    | error e => exact ⟨c.registry, c.ledger, rfl⟩
    | ok registry => exact ⟨registry, c.ledger, rfl⟩
  | verify => exact ⟨c.registry, c.ledger, rfl⟩
  | delete =>
    obtain ⟨ledger, hledger⟩ := checker_delete store c world
    exact ⟨c.registry, ledger, hledger⟩
  | run => exact checker_run store c world

/-- A call puts on record what it gives, and changes the files in no other way. -/
theorem toRecordState_answer (store : Store σ) (c : Checker) (call : Call) (world : World σ) :
    let out := Session.result (c.answer store call) world
    out.2.toRecordState = c.records.emitAll out.1.1.events world.toRecordState := by
  intro out
  cases call with
  | loadExpected =>
    simp only [out, answer, Session.result_bind, result_loadExpected]
    cases (Registry.load world.files c.config.cacheFiles).value with
    | error e => rfl
    | ok registry => rfl
  | verify => exact toRecordState_verify c world
  | delete => exact (toRecordState_delete store c world).2
  | run => exact toRecordState_run store c world

/-! ### Any number of calls -/

theorem result_answers_cons (store : Store σ) (call : Call) (rest : List Call) (c : Checker)
    (world : World σ) :
    Session.result (answers store (call :: rest) c) world =
      let first := Session.result (c.answer store call) world
      let others := Session.result (answers store rest first.1.2) first.2
      ((first.1.1 :: others.1.1, others.1.2), others.2) := rfl

theorem checker_answers (store : Store σ) (calls : List Call) (c : Checker) (world : World σ) :
    ∃ registry ledger,
      (Session.result (answers store calls c) world).1.2 = { c with registry, ledger } := by
  induction calls generalizing c world with
  | nil => exact ⟨c.registry, c.ledger, rfl⟩
  | cons call rest ih =>
    obtain ⟨registry, ledger, hc⟩ := checker_answer store c call world
    obtain ⟨registry', ledger', hothers⟩ := ih (Session.result (c.answer store call) world).1.2
      (Session.result (c.answer store call) world).2
    refine ⟨registry', ledger', ?_⟩
    rw [result_answers_cons, hothers, hc]

theorem toRecordState_answers (store : Store σ) (calls : List Call) (c : Checker)
    (world : World σ) :
    let out := Session.result (answers store calls c) world
    out.2.toRecordState =
      c.records.emitAll (out.1.1.flatMap Answer.events) world.toRecordState := by
  intro out
  induction calls generalizing c world with
  | nil => rfl
  | cons call rest ih =>
    have hfirst := toRecordState_answer store c call world
    set first := Session.result (c.answer store call) world
    obtain ⟨registry, ledger, hc⟩ := checker_answer store c call world
    have hrecords : first.1.2.records = c.records := by rw [hc]
    have hothers := ih first.1.2 first.2
    rw [hrecords, hfirst] at hothers
    simp only [out, result_answers_cons]
    rw [List.flatMap_cons, RecordSink.emitAll_append]
    exact hothers

/-- Two checkers that differ in nothing but where their records go stay so, and answer alike. -/
theorem alike_answers {c : Checker} {records : RecordSink} {s : RecordState}
    {earlier : List Event} {world world' : World σ} (store : Store σ) (calls : List Call)
    (hrecorded : world.toRecordState = c.records.emitAll earlier s)
    (hrecorded' : world'.toRecordState = records.emitAll earlier s)
    (hstore : world'.store = world.store) :
    let out := Session.result (answers store calls c) world
    let out' := Session.result (answers store calls (c.withRecords records)) world'
    (∀ source ∈ c.config.cacheFiles,
      c.records.Spares s source (earlier ++ out.1.1.flatMap Answer.events)) →
    (∀ source ∈ c.config.cacheFiles,
      records.Spares s source (earlier ++ out'.1.1.flatMap Answer.events)) →
    Alike records out out' := by
  induction calls generalizing c earlier world world' with
  | nil => exact fun _ _ => ⟨rfl, hstore⟩
  | cons call rest ih =>
    intro out out' h h'
    -- what was put on record before this call does not reach what it loads
    have hload : Registry.load world'.files c.config.cacheFiles =
        Registry.load world.files c.config.cacheFiles := by
      rw [hrecorded, hrecorded', RecordSink.load_emitAll h (List.prefix_append _ _),
        RecordSink.load_emitAll h' (List.prefix_append _ _)]
    obtain ⟨hvalue, hafter⟩ := alike_answer records store hstore hload call
    obtain ⟨registry, ledger, hc⟩ := checker_answer store c call world
    have hwritten := toRecordState_answer store c call world
    have hwritten' := toRecordState_answer store (c.withRecords records) call world'
    simp only [out, out', result_answers_cons] at h h' ⊢
    set first := Session.result (c.answer store call) world
    set first' := Session.result ((c.withRecords records).answer store call) world'
    have hrecords : first.1.2.records = c.records := by rw [hc]
    have hconfig : first.1.2.config = c.config := by rw [hc]
    have hnext : first.2.toRecordState =
        first.1.2.records.emitAll (earlier ++ first.1.1.events) s := by
      rw [hrecords, RecordSink.emitAll_append, ← hrecorded]
      exact hwritten
    have hnext' : first'.2.toRecordState =
        records.emitAll (earlier ++ first.1.1.events) s := by
      rw [RecordSink.emitAll_append, ← hrecorded', show first.1.1 = first'.1.1 by rw [hvalue]]
      exact hwritten'
    rw [← hconfig, ← hrecords] at h
    rw [← hconfig, hvalue] at h'
    rw [hvalue]
    simp only [List.flatMap_cons, ← List.append_assoc] at h h'
    obtain ⟨hothers, hend⟩ := ih hnext hnext' hafter h h'
    rw [hothers]
    exact ⟨rfl, hend⟩

/-! ### From the start -/

/-- Once the caches are listed, the calls are answered by the checker that was started. -/
theorem serve_of_listed {store : Store σ} {config : Config} {world : World σ}
    {snapshot : List Descriptor} (h : (listing store config world.store).1 = .ok snapshot)
    (w : Workload) (records : RecordSink) (calls : List Call) :
    let c : Checker := { config, workload := w, records, snapshot }
    let begun := (Session.result (start store config w records) world).2
    let given := Session.result (answers store calls c) begun
    Session.result (serve store config w records calls) world = (.ok given.1, given.2) := by
  rw [serve, Session.result_bind, (start_of_listed h w records).1]
  rfl

theorem served_answers (store : Store σ) (calls : List Call) (c : Checker) (world : World σ) :
    let given := Session.result (answers store calls c) world
    served (.ok given.1) = c.snapshot.map .cacheFound ++ given.1.1.flatMap Answer.events := by
  intro given
  obtain ⟨registry, ledger, hc⟩ := checker_answers store calls c world
  rw [served, hc]

/-- A service puts on record what it gives, and changes the files in no other way. -/
theorem toRecordState_serve (store : Store σ) (config : Config) (w : Workload)
    (records : RecordSink) (calls : List Call) (world : World σ) :
    let out := Session.result (serve store config w records calls) world
    out.2.toRecordState = records.emitAll (served out.1) world.toRecordState := by
  intro out
  cases hl : (listing store config world.store).1 with
  | error e =>
    simp only [out, serve, Session.result_bind, start_of_refused hl]
    rfl
  | ok snapshot =>
    simp only [out, serve_of_listed hl, served_answers, toRecordState_answers,
      toRecordState_start_of_listed hl w records]
    rw [RecordSink.emitAll_append]

/-- Two services that differ in nothing but where their records go give the same. -/
theorem serve_withRecords (store : Store σ) (config : Config) (w : Workload)
    (records records' : RecordSink) (calls : List Call) (world : World σ) :
    let out := Session.result (serve store config w records calls) world
    let out' := Session.result (serve store config w records' calls) world
    (∀ source ∈ config.cacheFiles, records.Spares world.toRecordState source (served out.1)) →
    (∀ source ∈ config.cacheFiles, records'.Spares world.toRecordState source (served out'.1)) →
    out'.1 = out.1.map (fun given => (given.1, given.2.withRecords records')) ∧
      out'.2.store = out.2.store := by
  intro out out'
  cases hl : (listing store config world.store).1 with
  | error e =>
    simp only [out, out', serve, Session.result_bind, start_of_refused hl]
    exact fun _ _ => ⟨rfl, trivial⟩
  | ok snapshot =>
    simp only [out, out', serve_of_listed hl, served_answers]
    intro h h'
    have hstore := (start_of_listed hl w records).2
    have hstore' := (start_of_listed hl w records').2
    let c : Checker := { config, workload := w, records, snapshot }
    obtain ⟨hanswers, hend⟩ := alike_answers (c := c) store calls
      (toRecordState_start_of_listed hl w records) (toRecordState_start_of_listed hl w records')
      (hstore'.trans hstore.symm) h h'
    exact ⟨congrArg Except.ok hanswers, hend⟩

/-- For every store, configuration and workload, all files, and every start that is followed by any
    calls: with two sinks whose records spare the declaration files, each call gives the same,
    failures included, the same calls reach the store, and the checker is the same in the end but
    for its sink, its ledger included. The records are all that changes the files. A sink without a
    file spares every path, and so does one to which nothing can be written because a file stands
    above its file or a directory in its place. A sink that can be written to spares a path,
    whatever is put on record, exactly if neither its file nor a directory that is made for it is on
    the way of that path. -/
theorem serve_with_any_sink (store : Store σ) (config : Config) (w : Workload) (files : FileTree)
    (s : σ) (calls : List Call) :
    let out (records : RecordSink) :=
      Session.result (serve store.traced config w records calls) { files, store := { state := s } }
    (∀ records records' : RecordSink,
      (∀ source ∈ config.cacheFiles, records.Spares { files } source (served (out records).1) ∧
        records'.Spares { files } source (served (out records').1)) →
      (out records').1 =
          (out records).1.map (fun given => (given.1, given.2.withRecords records')) ∧
        (out records').2.store = (out records).2.store) ∧
    ∀ records : RecordSink,
      (out records).2.toRecordState = records.emitAll (served (out records).1) { files } ∧
      ∀ source,
        (records.path = none → ∀ events, records.Spares { files } source events) ∧
        ∀ path, records.path = some path →
          (files.FileAbove path ∨ files.DirectoryAt path →
            ∀ events, records.Spares { files } source events) ∧
          ∀ opened place, files.Opens path opened place →
            ((∀ events, records.Spares { files } source events) ↔
              ∀ p ∈ files.wayOf source, p ≠ place ∧ opened.node? p = files.node? p) := by
  intro out
  constructor
  · intro records records' h
    exact serve_withRecords store.traced config w records records' calls _
      (fun source hs => (h source hs).1) fun source hs => (h source hs).2
  · intro records
    refine ⟨toRecordState_serve store.traced config w records calls _, fun source => ⟨?_, ?_⟩⟩
    · exact fun hpath => RecordSink.spares_of_no_path hpath { files } source
    · intro path hpath
      constructor
      · rintro (h | h)
        · exact RecordSink.spares_of_refuses hpath (FileTree.refuses_of_fileAbove h) source
        · exact RecordSink.spares_of_refuses hpath (FileTree.refuses_of_directoryAt h) source
      · intro opened place h
        exact RecordSink.spares_iff_of_opens hpath h

/-- A cache is requested once and a failed destroy is reported alike, whether the records are
    written to a directory that is made for them or refused because their path leads through a
    declaration file. -/
theorem serve_with_written_and_refused_records :
    let own : Descriptor :=
      { name := some "T1", persistence := .persistent, addressMode := .bits64 }
    let config : Config :=
      { delete := true, cacheFiles := ["T1.props"], launcher := { java := "java" } }
    let records : RecordSink := ⟨some "log/run.jsonl", "id", "now"⟩
    let records' : RecordSink := ⟨some "T1.props/run.jsonl", "id", "now"⟩
    let files : FileTree := (FileTree.empty []).put ["T1.props"]
      (.file "name=T1\npersistence=true".toUTF8)
    let store := Store.inMemory { caches := [own], outcomes := [("T1", .unknown)] }
    let out (records : RecordSink) := Session.result
      (serve store.traced config ⟨["T1"]⟩ records [.run, .delete, .verify, .loadExpected])
      { files, store := { state := {} } }
    (∀ source ∈ config.cacheFiles, ∀ events,
      records.Spares { files } source events ∧ records'.Spares { files } source events) ∧
      (out records).2.files.isDirectory [] ["log"] = true ∧
      (out records).2.store.calls.requests.map DestroyRequest.name = ["T1"] ∧
      (out records').1 =
        (out records).1.map (fun given => (given.1, given.2.withRecords records')) ∧
      (out records').2.store = (out records).2.store := by
  intro own config records records' files store out
  obtain ⟨hserved, hspares⟩ := serve_with_any_sink store config ⟨["T1"]⟩ files {}
    [.run, .delete, .verify, .loadExpected]
  have hopens : files.Opens "log/run.jsonl" (files.put ["log"] .directory) ["log", "run.jsonl"] :=
    { plain := by decide +kernel
      made := rfl
      checked := by decide +kernel
      located := by decide +kernel
      free := by
        rw [show FileTree.node? _ _ = none from rfl]
        simp
      wantsFile := by decide +kernel }
  have habove : files.FileAbove "T1.props/run.jsonl" :=
    ⟨by decide +kernel, ["T1.props"], _, by decide +kernel, rfl⟩
  have hspared : ∀ source ∈ config.cacheFiles, ∀ events,
      records.Spares { files } source events ∧ records'.Spares { files } source events := by
    intro source hsource events
    obtain rfl := List.mem_singleton.1 hsource
    constructor
    · refine (((hspares records).2 "T1.props").2 _ rfl).2 _ _ hopens |>.2 ?_ events
      intro p hp
      have hway : files.wayOf "T1.props" = [["T1.props"]] := by decide +kernel
      rw [hway, List.mem_singleton] at hp
      rw [hp]
      exact ⟨by decide, rfl⟩
    · exact (((hspares records').2 "T1.props").2 _ rfl).1 (Or.inl habove) events
  exact ⟨hspared, by decide +kernel, by decide +kernel, hserved records records' fun source hs =>
    ⟨(hspared source hs _).1, (hspared source hs _).2⟩⟩

end Checker

end CacheWarden
