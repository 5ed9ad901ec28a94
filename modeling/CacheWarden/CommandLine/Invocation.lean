import CacheWarden.Cache.Descriptor
import CacheWarden.CommandLine.Reader

/-!
# Invocations

What a command line asks for, with every value read. Of a switch that belongs to every command, the
innermost one counts; a value from the environment counts only where no argument gives one.
-/

namespace CacheWarden.CommandLine

/-- How lists of caches are written. -/
inductive ListFormat where
  | table
  | json
  | plain
  deriving DecidableEq, Repr

/-- How log lines are written. -/
inductive LogFormat where
  | text
  | json
  deriving DecidableEq, Repr

/-- What is to be done. -/
inductive Action where
  | check (workload : Option String) (mode : Option ReapMode) (records : Option String)
  | list (workload : Option String) (format : ListFormat)
  | destroy (names : List String) (persistence : Persistence)
  | destroyAll (persistence : Persistence) (yes : Bool)
  | stats (name : String) (expected : List String) (template : Option String)
  | verifyListed (name : Option String) (expectedCount : Option Nat)
  | reset (name : String) (template : Option String)
  | showConfig
  | showPath
  deriving DecidableEq, Repr

/-- What a command line asks for. -/
structure Invocation where
  /-- How much is logged. -/
  verbosity : Nat
  /-- The configuration file. -/
  config : Option String
  logFormat : LogFormat
  action : Action
  deriving DecidableEq, Repr

/-- The value of a switch that belongs to every command. -/
def commonValue? (layers : List Layer) (s : Switch) : Option String :=
  let fromArguments := layers.filterMap fun l => (l.given.lookup s)
  let fromEnvironment := layers.filterMap fun l => (l.inherited.lookup s)
  fromArguments.getLast? <|> fromEnvironment.getLast?

/-- How much is logged: how often the innermost command that is given the switch at all has it. -/
def verbosityOf (layers : List Layer) : Nat :=
  ((layers.map fun l => l.times .verbose).filter (0 < ·)).getLast?.getD 0

namespace Layer

/-- The first value of a switch. -/
def value? (l : Layer) (s : Switch) : Option String := (l.values s).head?

/-- Whether a switch was given. -/
def has (l : Layer) (s : Switch) : Bool := 0 < l.times s

/-- The kind of cache that is meant. -/
def persistence (l : Layer) : Persistence := .ofFlag (!l.has .nonpersistent)

/-- The format of a list. -/
def listFormat (l : Layer) : ListFormat :=
  match l.value? .format with
  | some "json" => .json
  | some "plain" => .plain
  | _ => .table

/-- What a layer asks for; none if its command asks for nothing itself. -/
def action? (l : Layer) : Option Action :=
  let name := l.operands.headD ""
  match l.scope with
  | .program => none
  | .verb .check =>
      some (.check (l.value? .workloadCaches) ((l.value? .reapMode).bind ReapMode.ofName?)
        (l.value? .records))
  | .verb .list => some (.list (l.value? .workloadFilter) l.listFormat)
  | .verb .destroy => some (.destroy l.operands l.persistence)
  | .verb .destroyAll => some (.destroyAll l.persistence (l.has .yes))
  | .verb .stats => some (.stats name (l.values .expect) (l.value? .options))
  | .verb .verifyListed =>
      some (.verifyListed (l.value? .name) ((l.value? .expectedCount).bind Switch.readCount?))
  | .verb .reset => some (.reset name (l.value? .options))
  | .verb .config | .showConfig => some .showConfig
  | .showPath => some .showPath

end Layer

/-- Reads a command line. -/
def Invocation.read (e : Environment) (args : List String) : Except Refusal Invocation := do
  let layers ← readLayers e { scope := .program } args
  match layers.getLast?.bind Layer.action? with
  | none => .error .usage
  | some action =>
      .ok {
        verbosity := verbosityOf layers
        config := commonValue? layers .config
        logFormat := if commonValue? layers .logFormat == some "json" then .json else .text
        action }

end CacheWarden.CommandLine
