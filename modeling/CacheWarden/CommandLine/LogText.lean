import CacheWarden.Json.Printer
import CacheWarden.Log
import CacheWarden.Text.Quoted

/-!
# Written log lines

A log line starts with its level, brought to five characters. What could move the cursor of a
terminal is written by its code, other control characters stand for themselves. A log may also be
written as lines of JSON with the time.
-/

namespace CacheWarden

open Text

/-- The name of a level. -/
def Level.name : Level → String
  | debug => "DEBUG"
  | info => "INFO"
  | warn => "WARN"

namespace LogLine

/-- Control characters that a terminal may take for commands. -/
def terminalCodes : List (Char × String) :=
  [('\x1b', "\\x1b"), ('\x07', "\\x07"), ('\x08', "\\x08"), ('\x0c', "\\x0c"), ('\x7f', "\\x7f")]

/-- A character of a message. -/
def shown (c : Char) : List Char :=
  match terminalCodes.lookup c with
  | some code => code.toList
  | none => if 0x80 ≤ c.toNat && c.toNat ≤ 0x9F then Quoted.byCode c else [c]

/-- A log line as text. -/
def text (l : LogLine) : String :=
  let level := List.replicate (5 - l.level.name.length) ' ' ++ l.level.name.toList
  let field := match l.cache with
    | some name => " cache=".toList ++ Quoted.text name.toList
    | none => []
  String.ofList (level ++ ' ' :: l.message.toList.flatMap shown ++ field)

/-- A log line as JSON, written at some time. -/
def json (time : String) (l : LogLine) : String :=
  let cache := l.cache.toList.map fun name => ("cache", Json.Value.text name)
  let entry := Json.Value.object [("timestamp", .text time), ("level", .text l.level.name),
    ("fields", .object (("message", .text l.message) :: cache))]
  String.ofList entry.compact

end LogLine

end CacheWarden
