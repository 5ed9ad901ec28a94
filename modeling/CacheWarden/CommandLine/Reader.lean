import CacheWarden.CommandLine.Grammar
import CacheWarden.Text.Search

/-!
# Reading the command line

Goes through the arguments from left to right. A switch may have its value attached or in the next
argument; behind two hyphens everything is a name. Each command on the way has its own layer, which
keeps what was given between its name and the next one. A switch that was not given may have a value
in the environment, which is asked for on every layer.
-/

namespace CacheWarden.CommandLine

open Text

/-- Why there is nothing to be done. -/
inductive Refusal where
  /-- The arguments cannot be understood. -/
  | usage
  /-- The version of a command was asked for. -/
  | version (c : Scope)
  /-- The description of a command was asked for. -/
  | help (c : Scope)
  deriving DecidableEq, Repr

/-- The variables that a run looks at. -/
structure Environment where
  configFile : Option String := none
  workloadList : Option String := none
  javaHome : Option String := none
  deriving DecidableEq, Repr

/-- The value that a switch has in the environment. -/
def Environment.get? (e : Environment) : Switch → Option String
  | .config => e.configFile
  | .workloadCaches => e.workloadList
  | _ => none

/-- What is given to one command. -/
structure Layer where
  scope : Scope
  /-- The switches given by arguments, with their values. -/
  given : List (Switch × String) := []
  /-- The switches given by the environment. -/
  inherited : List (Switch × String) := []
  /-- The last switch with a value, which may be still to come. -/
  pending : Option (Switch × Option String) := none
  operands : List String := []
  /-- Whether two hyphens went before. -/
  operandsOnly : Bool := false
  deriving Repr

namespace Layer

/-- How often a switch was given by arguments. -/
def times (l : Layer) (s : Switch) : Nat := (l.given.filter fun g => g.1 == s).length

/-- The values of a switch, from the arguments or else from the environment. -/
def values (l : Layer) (s : Switch) : List String :=
  let fromArguments := (l.given.filter fun g => g.1 == s).map Prod.snd
  if fromArguments.isEmpty then (l.inherited.filter fun g => g.1 == s).map Prod.snd
  else fromArguments

/-- Adds a switch with its value. -/
def add (l : Layer) (s : Switch) (value : String) : Except Refusal Layer :=
  let isRepeated := (s.shape == .flag || s.shape == .single) && 0 < l.times s
  if isRepeated || !s.accepts value then .error .usage
  else .ok { l with given := l.given ++ [(s, value)] }

/-- Adds the pending switch, which must have its value by now. -/
def settle (l : Layer) : Except Refusal Layer :=
  match l.pending with
  | none => .ok l
  | some (_, none) => .error .usage
  | some (s, some value) => { l with pending := none }.add s value

/-- Adds a switch without a value. -/
def addFlag (l : Layer) (s : Switch) : Except Refusal Layer := do
  let l ← l.settle
  match s with
  | .version => .error (.version l.scope)
  | .help => .error (.help l.scope)
  | s => l.add s ""

/-- Adds a switch with an attached value, or one whose value is still to come. -/
def addValued (l : Layer) (s : Switch) (value : Option String) : Except Refusal Layer := do
  let l ← l.settle
  match value with
  | some v => l.add s v
  | none => .ok { l with pending := some (s, none) }

/-- What stands behind two hyphens: a name, and a value behind the first equals sign. -/
def addLong (l : Layer) (text : List Char) : Except Refusal Layer :=
  let (name, value) := match splitOnce '=' text with
    | some (name, value) => (name, some (String.ofList value))
    | none => (text, none)
  match l.scope.byName? (String.ofList name) with
  | none => .error .usage
  | some s =>
      if s.takesValue then l.addValued s value
      else if value.isSome then .error .usage
      else l.addFlag s

/-- What stands behind one hyphen: letters, and behind a letter with a value that value, which may
    have an equals sign in front. -/
def addLetters (l : Layer) : List Char → Except Refusal Layer
  | [] => .ok l
  | c :: rest =>
      match l.scope.byLetter? c with
      | none => .error .usage
      | some s =>
          if s.takesValue then
            let value := match rest with
              | '=' :: r => r
              | r => r
            l.addValued s (if rest.isEmpty then none else some (String.ofList value))
          else do
            let l ← l.addFlag s
            l.addLetters rest

/-- Adds a name, if the command takes one more. -/
def addOperand (l : Layer) (name : String) : Except Refusal Layer := do
  let l ← l.settle
  let isFull := match l.scope.operands with
    | .none => true
    | .one => !l.operands.isEmpty
    | .oneOrMore => false
  if isFull then .error .usage else .ok { l with operands := l.operands ++ [name] }

/-- Whether a switch waits for its value. -/
def awaitsValue (l : Layer) : Bool := l.pending.any fun p => p.2.isNone

/-- Adds an argument that is not the name of a command. -/
def addArgument (l : Layer) (arg : String) : Except Refusal Layer :=
  if l.operandsOnly then l.addOperand arg
  else
    match arg.toList with
    | ['-', '-'] => .ok { l with operandsOnly := true }
    | '-' :: '-' :: text => l.addLong text
    | '-' :: c :: text => l.addLetters (c :: text)
    | _ =>
        match l.pending with
        | some (s, none) => .ok { l with pending := some (s, some arg) }
        | _ => l.addOperand arg

/-- The command that an argument names, where the name of a command may stand. -/
def child? (l : Layer) (arg : String) : Option Scope :=
  if l.operandsOnly || l.awaitsValue then none else l.scope.children.lookup arg

/-- Whether an argument asks for the description of a command. -/
def asksHelp (l : Layer) (arg : String) : Bool :=
  !l.operandsOnly && !l.awaitsValue && !l.scope.children.isEmpty && arg == "help"

/-- Adds what the environment gives to switches that the arguments do not give. -/
def inherit (l : Layer) (e : Environment) : List Switch → Except Refusal Layer
  | [] => .ok l
  | s :: rest =>
      match e.get? s with
      | none => l.inherit e rest
      | some value =>
          if 0 < l.times s then l.inherit e rest
          else if s.accepts value then
            { l with inherited := l.inherited ++ [(s, value)] }.inherit e rest
          else .error .usage

/-- Whether a command has the names that it needs. -/
def hasOperands (l : Layer) : Bool := l.scope.operands == .none || !l.operands.isEmpty

/-- Ends a layer. -/
def finish (l : Layer) (e : Environment) : Except Refusal Layer := do
  let l ← l.settle
  let l ← l.inherit e l.scope.switches
  if l.hasOperands then .ok l else .error .usage

end Layer

/-- Reads arguments: the layers from the given one on. -/
def readLayers (e : Environment) (l : Layer) : List String → Except Refusal (List Layer)
  | [] => do
      let l ← l.finish e
      if l.scope == .program then .error .usage else .ok [l]
  | arg :: rest =>
      if l.asksHelp arg then .error (.help l.scope)
      else
        match l.child? arg with
        | some scope => do
            let inner ← readLayers e { scope } rest
            let l ← l.finish e
            .ok (l :: inner)
        | none => do
            let l ← l.addArgument arg
            readLayers e l rest

end CacheWarden.CommandLine
