import CacheWarden.Cache.Descriptor
import CacheWarden.Failure
import CacheWarden.Log
import CacheWarden.Properties
import CacheWarden.Setting
import CacheWarden.Table

/-!
# Declared caches

Each declaration file says that a cache is expected and of what kind it should be:

    name=T1
    persistence=true

A kind that is missing or cannot be read counts as non-persistent and is logged; a file without a
name is passed over. Only a file that cannot be read at all is a failure. The last declaration of a
name counts. Main statement: `get?_insert` says what declaring a cache does to every look-up.
-/

namespace CacheWarden

open Text

/-- One declared cache. -/
structure Declaration where
  name : String
  persistent : Bool
  /-- Whether the file did not say of what kind the cache is. -/
  defaulted : Bool
  /-- The file that declares the cache. -/
  source : String
  deriving DecidableEq, Repr

namespace Declaration

/-- The kind that is declared. -/
def persistence (d : Declaration) : Persistence := .ofFlag d.persistent

/-- The kind that a file declares, and whether that is an assumption. -/
def readKind (source : String) (value : Option String) : Logged (Bool × Bool) := do
  match value with
  | none =>
      Logged.warn s!"{source} has no persistence, assuming non-persistent"
      pure (false, true)
  | some raw =>
      match Setting.readBool raw with
      | .ok b => pure (b, false)
      | .error u =>
          Logged.warn s!"persistence in {source} has {u.message}, assuming non-persistent"
          pure (false, true)

/-- The cache that a file declares; none if the file gives no name. -/
def ofProperties (source : String) (props : Properties) : Logged (Option Declaration) :=
  let name := (props.get? "name").map fun s => String.ofList (trim s.toList)
  match name.filter (· ≠ "") with
  | none => pure none
  | some name => do
      let (persistent, defaulted) ← readKind source (props.get? "persistence")
      pure (some { name, persistent, defaulted, source })

end Declaration

/-- Declared caches by their name. -/
structure Registry where
  entries : Table String Declaration
  deriving DecidableEq

namespace Registry

/-- The registry without declarations. -/
def empty : Registry := ⟨Table.empty⟩

/-- The declaration of a name. -/
def get? (r : Registry) (name : String) : Option Declaration := r.entries.get? name

/-- How many names are declared. -/
def size (r : Registry) : Nat := r.entries.size

/-- Adds a declaration, which takes the place of an earlier one of its name. -/
def insert (r : Registry) (d : Declaration) : Registry := ⟨r.entries.insert d.name d⟩

/-- The registry of some declarations. -/
def ofList (ds : List Declaration) : Registry := ds.foldl insert empty

/-- Adds what a file declares, and logs what becomes of it. -/
def addFile (r : Registry) (source text : String) : Logged Registry := do
  let props ← Properties.read text
  match ← Declaration.ofProperties source props with
  | none =>
      Logged.warn s!"{source} declares no cache name, skipping it"
      pure r
  | some d =>
      Logged.debug s!"Expecting cache {d.name} ({d.persistence.name}) from {source}"
      match r.get? d.name with
      | some previous =>
          Logged.debug s!"Declaration of {previous.name} in {previous.source} was replaced"
      | none => pure ()
      pure (r.insert d)

/-- Adds what some files declare, up to the first one that cannot be read. -/
def addFiles (files : FileTree) (r : Registry) : List String → Logged (Except Failure Registry)
  | [] => do
      Logged.info s!"Loaded {r.size} expected cache(s)"
      pure (.ok r)
  | source :: rest =>
      match files.readText source with
      | .error cause => pure (.error (.declarationRead source cause))
      | .ok text => do
          let r ← r.addFile source text
          r.addFiles files rest

/-- The caches that some files declare. -/
def load (files : FileTree) (sources : List String) : Logged (Except Failure Registry) :=
  addFiles files empty sources

theorem get?_insert (r : Registry) (d : Declaration) (name : String) :
    (r.insert d).get? name = if name = d.name then some d else r.get? name :=
  Table.get?_insert r.entries d.name d name

end Registry

end CacheWarden
