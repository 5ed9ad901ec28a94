import CacheWarden.Proofs.Files.Append
import CacheWarden.Proofs.Json.Spelling
import CacheWarden.Record
import Mathlib

/-!
# Records in a file

Events that are put on record one after the other stand in the file of their sink as lines behind
what it held, if the file can be written to. What a line has to hold is said by the grammar of JSON:
a reader finds the identity of the run, the time that the clock showed for this record, and the
event with its data. Main statements: `emitAll_eq_append` and `readBytes_emitAll`, what comes into
the file; `holds_linesFrom`, these are the records of the events.
-/

namespace CacheWarden

open Json (Value Spells)

/-! ### Data without fractions -/

namespace Event

theorem isWhole_cacheFound (d : Descriptor) : (cacheFound d).data.isWhole = true := by
  have hmode : d.addressMode.toJson.isWhole = true := by
    cases d.addressMode <;> rfl
  simp [cacheFound, Descriptor.toJson, Persistence.toJson, Value.isWhole, Value.fieldsWhole,
    Value.isWhole_ofOption, hmode]

theorem isWhole_count (c : CountCheck) : (count c).data.isWhole = true := rfl

theorem isWhole_finding (f : Finding) : (finding f).data.isWhole = true := by
  cases f <;> rfl

theorem isWhole_destroyed (a : DestroyAttempt) : (destroyed a).data.isWhole = true := rfl

theorem isWhole_result (success : Bool) (findings : Nat) (attempts : Option Nat) :
    (result success findings attempts).data.isWhole = true := by
  simp [result, Value.isWhole, Value.fieldsWhole, Value.isWhole_ofOption]

end Event

namespace RecordSink

variable {sink : RecordSink} {path : String} {s : RecordState} {after : FileTree} {old : ByteArray}

/-! ### Several events -/

/-- What is left after some events were put on record, one after the other. -/
def emitAll (sink : RecordSink) : List Event → RecordState → RecordState
  | [], s => s
  | e :: rest, s =>
      sink.emitAll rest ⟨(sink.emit e s.files s.emitted).value, s.emitted + 1⟩

theorem emitAll_append (sink : RecordSink) (events events' : List Event) (s : RecordState) :
    sink.emitAll (events ++ events') s = sink.emitAll events' (sink.emitAll events s) := by
  induction events generalizing s with
  | nil => rfl
  | cons e events ih => exact ih _

/-- The lines of some records behind `n` others. -/
def linesFrom (sink : RecordSink) : Nat → List Event → List String
  | _, [] => []
  | n, e :: rest => sink.line e n :: sink.linesFrom (n + 1) rest

/-- The bytes of some records behind `n` others. -/
def written (sink : RecordSink) (n : Nat) (events : List Event) : ByteArray :=
  (String.join (sink.linesFrom n events)).toUTF8

theorem written_nil (sink : RecordSink) (n : Nat) : sink.written n [] = .empty := rfl

theorem written_cons (sink : RecordSink) (n : Nat) (e : Event) (events : List Event) :
    sink.written n (e :: events) = (sink.line e n).toUTF8 ++ sink.written (n + 1) events := by
  rw [written, linesFrom, String.join_cons]
  exact String.toByteArray_append

/-- Whether a record can be written or not, the files are those that appending leaves. -/
theorem value_emit_of_path (hpath : sink.path = some path) (e : Event) (files : FileTree)
    (n : Nat) : (sink.emit e files n).value = (files.append path (sink.line e n).toUTF8).2 := by
  simp only [emit, hpath]
  split
  · rename_i happend
    rw [happend]
    rfl
  · rename_i happend
    rw [happend]
    rfl

theorem value_emit_of_appended (hpath : sink.path = some path) {e : Event} {files : FileTree}
    {n : Nat} (h : files.append path (sink.line e n).toUTF8 = (.ok (), after)) :
    (sink.emit e files n).value = after := by
  rw [value_emit_of_path hpath, h]

/-- Records come behind what the file held before. -/
theorem appendable?_emitAll (hpath : sink.path = some path)
    (h : s.files.appendable? path = some old) (events : List Event) :
    (sink.emitAll events s).files.appendable? path =
      some (old ++ sink.written s.emitted events) := by
  induction events generalizing s old with
  | nil => exact h.trans (by rw [written_nil, ByteArray.append_empty])
  | cons e events ih =>
    obtain ⟨after, happend, -, hafter⟩ :=
      FileTree.readBytes_append h (sink.line e s.emitted).toUTF8
    rw [emitAll, value_emit_of_appended hpath happend, ih (s := ⟨after, s.emitted + 1⟩) hafter,
      written_cons, ByteArray.append_assoc]

/-- All records together are appended as if they were one. -/
theorem emitAll_eq_append (hpath : sink.path = some path)
    (h : s.files.appendable? path = some old) {events : List Event} (hne : events ≠ []) :
    s.files.append path (sink.written s.emitted events) =
      (.ok (), (sink.emitAll events s).files) := by
  induction events generalizing s old with
  | nil => exact absurd rfl hne
  | cons e events ih =>
    obtain ⟨after, happend, -, hafter⟩ :=
      FileTree.readBytes_append h (sink.line e s.emitted).toUTF8
    rw [emitAll, value_emit_of_appended hpath happend, written_cons]
    rcases List.eq_nil_or_concat events with rfl | ⟨_, _, rfl⟩
    · rw [written_nil, ByteArray.append_empty, happend]
      rfl
    · rw [← FileTree.append_append happend]
      exact ih (s := ⟨after, s.emitted + 1⟩) hafter (by simp)

theorem readBytes_emitAll (hpath : sink.path = some path)
    (h : s.files.appendable? path = some old) {events : List Event} (hne : events ≠ []) :
    (sink.emitAll events s).files.readBytes path =
      .ok (old ++ sink.written s.emitted events) := by
  obtain ⟨after, happend, hread, -⟩ := FileTree.readBytes_append h (sink.written s.emitted events)
  rw [emitAll_eq_append hpath h hne] at happend
  cases happend
  exact hread

/-! ### What the lines hold -/

/-- Whether a line is the record of an event, behind `n` others: it stands for an object with the
    identity of the run, the time of this record, and the event. -/
structure IsRecord (sink : RecordSink) (n : Nat) (e : Event) (line : List Char) : Prop where
  oneLine : '\n' ∉ line
  spells : Spells (.object [("run_id", .text sink.runId),
    ("timestamp", .text (sink.clock.time n)), ("event", .text e.name), ("data", e.data)]) line

/-- Whether a text holds the records of some events behind `n` others, each in a line of its own. -/
inductive Holds (sink : RecordSink) : Nat → List Event → List Char → Prop where
  | nil (n : Nat) : Holds sink n [] []
  | cons {n : Nat} {e : Event} {rest : List Event} {line text : List Char}
      (hline : sink.IsRecord n e line) (hrest : Holds sink (n + 1) rest text) :
      Holds sink n (e :: rest) (line ++ '\n' :: text)

/-- What is printed for an event, but for the end of its line, is the record of that event. -/
theorem exists_isRecord (sink : RecordSink) {e : Event} (h : e.data.isWhole = true) (n : Nat) :
    ∃ line, sink.IsRecord n e line ∧ (sink.line e n).toList = line ++ ['\n'] := by
  have hspells := Json.spells_compact_sorted (.object [("run_id", .text sink.runId),
    ("timestamp", .text (sink.clock.time n)), ("event", .text e.name), ("data", e.data)])
    (by simp [Value.isWhole, Value.fieldsWhole, h])
  exact ⟨_, ⟨hspells.newline_not_mem, hspells⟩, String.toList_ofList⟩

theorem holds_linesFrom {events : List Event} (h : ∀ e ∈ events, e.data.isWhole = true) (n : Nat) :
    sink.Holds n events (String.join (sink.linesFrom n events)).toList := by
  induction events generalizing n with
  | nil => exact .nil n
  | cons e rest ih =>
    rw [List.forall_mem_cons] at h
    obtain ⟨line, hline, hprinted⟩ := exists_isRecord sink h.1 n
    rw [linesFrom, String.join_cons, String.toList_append, hprinted, List.append_assoc]
    exact .cons hline (ih h.2 (n + 1))

/-- The bytes of some records are those of a text that holds them. -/
theorem exists_holds {events : List Event} (h : ∀ e ∈ events, e.data.isWhole = true) (n : Nat) :
    ∃ text, sink.Holds n events text ∧ sink.written n events = (String.ofList text).toUTF8 :=
  ⟨_, holds_linesFrom h n, by rw [String.ofList_toList, written]⟩

end RecordSink

end CacheWarden
