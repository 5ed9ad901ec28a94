import CacheWarden.Cache.Descriptor
import CacheWarden.Command.Launcher
import CacheWarden.Command.Verdict
import CacheWarden.LaunchOption

/-!
# Cache operations

What the runtime launcher can be asked to do with shared class caches: the launcher arguments for
each operation, the exit codes it may end with and the messages that prove it worked. Destroying
everything and listing need no name, so they have a short form where no template is given.
-/

namespace CacheWarden

open Text

/-- Something to be done with caches. -/
inductive CacheOperation where
  /-- Destroys one cache. -/
  | destroy (name : String) (persistence : Persistence)
  /-- Destroys all caches of one kind in a directory. -/
  | destroyAll (persistence : Persistence)
  /-- Prints what a cache holds. -/
  | printStats (name : String) (expected : List String)
  /-- Lists all caches, of which one may be required. -/
  | listAll (expectedName : Option String)
  /-- Destroys a cache and makes it anew. -/
  | reset (name : String)
  deriving DecidableEq, Repr

/-- The messages about the end of a named cache. -/
def destroyMessages (name : String) : List MessagePattern :=
  [.literal s!"shared cache \"{name}\" has been destroyed",
    .literal s!"cache \"{name}\" is destroyed"]

/-- The message about a directory without caches. -/
def noCachesMessage : String := "No shared class caches available"

/-- The messages about the end of all caches, or about there being none. -/
def destroyAllMessages : List String :=
  [noCachesMessage, "Cache does not exist", "shared cache (.*) has been destroyed",
    "cache (.*) is destroyed"]

/-- The tag of a level, which stands in each row of a listing. -/
def listedCachePattern : String := "\\bJava\\d+\\b"

namespace CacheOperation

/-- The name of an operation. -/
def label : CacheOperation → String
  | destroy .. => "destroy"
  | destroyAll _ => "destroyAll"
  | printStats .. => "printStats"
  | listAll _ => "listAllCaches"
  | reset _ => "reset"

/-- The cache that an operation is about; empty where it is about all of them. -/
def cacheName : CacheOperation → String
  | destroy name _ | printStats name _ | reset name => name
  | destroyAll _ | listAll _ => ""

/-- The sub-options of an operation, without the comma in front of them. -/
def suboptions (op : CacheOperation) : List Char :=
  match op with
  | destroy _ .nonPersistent | destroyAll .nonPersistent =>
      op.label.toList ++ ",nonpersistent".toList
  | _ => op.label.toList

/-- The text that a template's variable for the operation stands for. -/
def suboption (op : CacheOperation) : List Char := ',' :: op.suboptions

/-- The exit codes an operation may end with. -/
def allowedExits : CacheOperation → List Int
  | reset _ => [0]
  | _ => [0, 1]

/-- The messages that prove that an operation worked. -/
def expectedMessages : CacheOperation → Except Failure (List MessagePattern)
  | destroy name _ => .ok (destroyMessages name)
  | destroyAll _ => MessagePattern.parseAll destroyAllMessages
  | printStats _ expected => MessagePattern.parseAll expected
  | listAll (some name) => .ok [.literal name]
  | listAll none | reset _ => .ok []

/-- The argument of an operation that is about all caches. -/
def shortArgument (op : CacheOperation) (dir : Option (List Char)) : List Char :=
  let dirPart := match dir with
    | some d => LaunchOption.dirSuboption ++ d ++ [',']
    | none => []
  LaunchOption.optionName ++ ':' :: dirPart ++ op.suboptions

/-- The arguments that a template stands for. The sub-options follow a colon, or a comma where the
    template has a colon already. -/
def templateArguments (op : CacheOperation) (dir : Option (List Char)) (template : List Char) :
    List (List Char) :=
  let template := LaunchOption.withOperation template
  let suboption := if template.contains ':' then op.suboption else ':' :: op.suboptions
  let args := LaunchOption.resolve template op.cacheName.toList (dir.getD []) suboption
  match op with
  | reset _ => args ++ ["-version".toList]
  | _ => args

/-- The launcher arguments of an operation. -/
def arguments (op : CacheOperation) (dir template : Option String) : List String :=
  let dir := dir.map String.toList
  let args := match op, template with
    | destroyAll _, none | listAll _, none => [op.shortArgument dir]
    | _, some template => op.templateArguments dir template.toList
    | _, none => op.templateArguments dir (LaunchOption.defaultTemplate dir)
  args.map String.ofList

/-- The command of an operation. -/
def command (op : CacheOperation) (java : String) (dir template : Option String) : Command :=
  ⟨java, op.arguments dir template⟩

/-- The output of an operation and the verdict on it. -/
structure Result where
  output : CommandOutput
  verdict : Verdict
  deriving DecidableEq, Repr

/-- Runs an operation and judges it by its messages. -/
def run (op : CacheOperation) (launcher : Launcher) (limit : Limit) (java : String)
    (dir template : Option String) : Session Calls (Except Failure Result) := do
  match op.expectedMessages with
  | .error e => return .error e
  | .ok patterns =>
      match ← (op.command java dir template).run launcher limit with
      | none => return .error (limit.failure op.label)
      | some (.error e) => return .error e
      | some (.ok output) =>
          let verdict := interpret output op.allowedExits patterns .both
          Session.debug s!"{op.label} finished: {verdict.text}"
          return .ok { output, verdict }

end CacheOperation

end CacheWarden
