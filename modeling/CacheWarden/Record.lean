import CacheWarden.Cache.Form
import CacheWarden.Files.Tree
import CacheWarden.Json.Printer
import CacheWarden.Log
import CacheWarden.Reaper.Pass
import CacheWarden.Verification

/-!
# Records

What a run did, as lines of JSON that are appended to a file. A record carries the run's identity,
the time, the name of an event and its data. A record that cannot be written is logged, and nothing
else comes of it.
-/

namespace CacheWarden

open Json (Value)

/-- What a clock shows each time it is asked. -/
structure ClockReadings where
  /-- The time that is shown to a question, given how often the clock was asked before. -/
  time : Nat → String

/-- A clock that stands still. -/
instance : Coe String ClockReadings := ⟨fun time => ⟨fun _ => time⟩⟩

/-- Where records go; they are dropped where there is no file. -/
structure RecordSink where
  path : Option String
  runId : String
  /-- The clock that is asked for the time of each record. -/
  clock : ClockReadings

/-- Something that is put on record. -/
structure Event where
  name : String
  data : Value

namespace Event

/-- A cache was listed. -/
def cacheFound (d : Descriptor) : Event := ⟨"cache.found", d.toJson⟩

/-- The number of caches was compared. -/
def count (c : CountCheck) : Event :=
  ⟨"verify.count", .object [("expected", .int c.expected), ("found", .int c.found),
    ("enforced", .bool c.enforced)]⟩

/-- The form of a finding. -/
def findingForm : Finding → Value
  | .persistenceMismatch cache expected actual declaredIn =>
      .object [("kind", .text "persistence_mismatch"), ("cache", .text cache),
        ("expected", expected.toJson), ("actual", actual.toJson),
        ("declared_in", .text declaredIn)]
  | .unknownAddressMode cache reported =>
      .object [("kind", .text "unknown_address_mode"), ("cache", .text cache),
        ("reported", .text reported)]
  | .countMismatch expected found =>
      .object [("kind", .text "count_mismatch"), ("expected", .int expected),
        ("found", .int found)]

/-- Something is not as it should be. -/
def finding (f : Finding) : Event := ⟨"verify.finding", findingForm f⟩

/-- A cache was attempted. -/
def destroyed (a : DestroyAttempt) : Event :=
  ⟨"reap.destroy", .object [("cache", .text a.cache), ("outcome", .text a.outcome.label)]⟩

/-- A run came to its end. -/
def result (success : Bool) (findings : Nat) (attempts : Option Nat) : Event :=
  ⟨"run.result", .object [("success", .bool success), ("findings", .int findings),
    ("destroyed", .ofOption (fun n => .int n) attempts)]⟩

end Event

/-- What is changed by putting events on record. -/
structure RecordState where
  files : FileTree
  /-- How many events were put on record so far. -/
  emitted : Nat := 0

namespace RecordSink

/-- The line of the record that comes behind `n` others. -/
def line (sink : RecordSink) (e : Event) (n : Nat) : String :=
  let entry := Value.object [("run_id", .text sink.runId),
    ("timestamp", .text (sink.clock.time n)), ("event", .text e.name), ("data", e.data)]
  String.ofList (entry.sorted.compact ++ ['\n'])

/-- Puts an event on record behind `n` others: the files afterwards. -/
def emit (sink : RecordSink) (e : Event) (files : FileTree) (n : Nat := 0) : Logged FileTree :=
  match sink.path with
  | none => pure files
  | some path =>
      match files.append path (sink.line e n).toUTF8 with
      | (.ok (), files) => pure files
      | (.error cause, files) => do
          Logged.warn s!"Failed to write record to {path}: {cause.message}"
          pure files

end RecordSink

end CacheWarden
