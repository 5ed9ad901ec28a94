import CacheWarden.Reaper.Mode
import CacheWarden.Text.Numeral

/-!
# The grammar of the command line

Commands, the options that each of them has, and what an option may be given. Three options belong
to every command and may stand on both sides of a command's name.
-/

namespace CacheWarden.CommandLine

open Text

/-- What may be given by name. -/
inductive Switch where
  | verbose
  | config
  | logFormat
  | help
  | version
  | workloadCaches
  | workloadFilter
  | reapMode
  | records
  | format
  | nonpersistent
  | yes
  | expect
  | options
  | name
  | expectedCount
  deriving DecidableEq, Repr

/-- How often a switch may be given, and whether it has a value. -/
inductive Shape where
  /-- No value, at most once. -/
  | flag
  /-- No value, any number of times. -/
  | counted
  /-- A value, at most once. -/
  | single
  /-- A value each time. -/
  | many
  /-- No value, and nothing behind it is read. -/
  | final
  deriving DecidableEq, Repr

namespace Switch

/-- The name behind two hyphens. -/
def long : Switch → String
  | verbose => "verbose"
  | config => "config"
  | logFormat => "log-format"
  | help => "help"
  | version => "version"
  | workloadCaches | workloadFilter => "workload-caches"
  | reapMode => "reap-mode"
  | records => "records"
  | format => "format"
  | nonpersistent => "nonpersistent"
  | yes => "yes"
  | expect => "expect"
  | options => "options"
  | name => "name"
  | expectedCount => "expected-count"

/-- The letter behind one hyphen. -/
def letter? : Switch → Option Char
  | verbose => some 'v'
  | config => some 'c'
  | help => some 'h'
  | version => some 'V'
  | workloadCaches | workloadFilter => some 'w'
  | format => some 'f'
  | yes => some 'y'
  | expect => some 'e'
  | name => some 'n'
  | _ => none

/-- The shape of a switch. -/
def shape : Switch → Shape
  | verbose => .counted
  | help | version => .final
  | nonpersistent | yes => .flag
  | expect => .many
  | _ => .single

/-- Whether a switch has a value. -/
def takesValue (s : Switch) : Bool := s.shape == .single || s.shape == .many

/-- A count of caches. -/
def readCount? (value : String) : Option Nat :=
  (readInt64? value.toList).bind fun n =>
    if 0 ≤ n ∧ n.toNat < bound32 then some n.toNat else none

/-- Whether a switch may have a value. -/
def accepts (s : Switch) (value : String) : Bool :=
  match s with
  | config | records => value != ""
  | logFormat => ["text", "json"].contains value
  | reapMode => (ReapMode.ofName? value).isSome
  | format => ["table", "json", "plain"].contains value
  | expectedCount => (readCount? value).isSome
  | _ => true

/-- The switches of every command. -/
def common : List Switch := [verbose, config, logFormat, help, version]

end Switch

/-- What can be asked for. -/
inductive Verb where
  | check
  | list
  | destroy
  | destroyAll
  | stats
  | verifyListed
  | reset
  | config
  deriving DecidableEq, Repr

namespace Verb

/-- All verbs. -/
def all : List Verb := [check, list, destroy, destroyAll, stats, verifyListed, reset, config]

/-- The name of a verb. -/
def name : Verb → String
  | check => "check"
  | list => "list"
  | destroy => "destroy"
  | destroyAll => "destroy-all"
  | stats => "stats"
  | verifyListed => "verify-listed"
  | reset => "reset"
  | config => "config"

end Verb

/-- A command: the program itself, one of its verbs, or an action of the verb `config`. -/
inductive Scope where
  | program
  | verb (v : Verb)
  | showConfig
  | showPath
  deriving DecidableEq, Repr

/-- How many names a command takes. -/
inductive Operands where
  | none
  | one
  | oneOrMore
  deriving DecidableEq, Repr

namespace Scope

/-- The name of the program. -/
def programName : String := "scc-checker"

/-- The name of a command with those of the commands that it belongs to. -/
def fullName : Scope → String
  | program => programName
  | verb v => programName ++ "-" ++ v.name
  | showConfig => programName ++ "-config-show"
  | showPath => programName ++ "-config-path"

/-- The commands that belong to a command, with their names. -/
def children : Scope → List (String × Scope)
  | program => Verb.all.map fun v => (v.name, verb v)
  | verb .config => [("show", showConfig), ("path", showPath)]
  | _ => []

/-- The switches of a command. -/
def switches : Scope → List Switch
  | verb .check => Switch.common ++ [.workloadCaches, .reapMode, .records]
  | verb .list => Switch.common ++ [.workloadFilter, .format]
  | verb .destroy => Switch.common ++ [.nonpersistent]
  | verb .destroyAll => Switch.common ++ [.nonpersistent, .yes]
  | verb .stats => Switch.common ++ [.expect, .options]
  | verb .verifyListed => Switch.common ++ [.name, .expectedCount]
  | verb .reset => Switch.common ++ [.options]
  | _ => Switch.common

/-- How many names a command takes. -/
def operands : Scope → Operands
  | verb .destroy => .oneOrMore
  | verb .stats | verb .reset => .one
  | _ => .none

/-- The switch with a name. -/
def byName? (c : Scope) (name : String) : Option Switch :=
  c.switches.find? fun s => s.long == name

/-- The switch with a letter. -/
def byLetter? (c : Scope) (letter : Char) : Option Switch :=
  c.switches.find? fun s => s.letter? == some letter

end Scope

end CacheWarden.CommandLine
