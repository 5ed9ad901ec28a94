import CacheWarden.Cache.Descriptor
import CacheWarden.Text.Lines

/-!
# Cache listings

What the runtime prints when it lists all caches: sections of compatible and incompatible caches
with a row for each cache, under a line that names the columns.

    Cache name  level         cache-type      feature  layer  OS shmid  OS semid  last detach time

    Compatible shared caches
    T1          Java17 64-bit persistent      cr       0               Mon Jan 25 10:25:00 2021
    T3          Java17 64-bit non-persistent  cr       0      32789     12        In use

Columns are told apart by what stands in them, not by their position. Rows before the first section
and rows of snapshots are left out: a snapshot has the name of its cache, and no request may ever
name it.
-/

namespace CacheWarden.Listing

open Text

/-- What is known on the way through a listing. -/
structure Section where
  /-- Whether the caches of the section are compatible; none before the first section. -/
  compatible : Option Bool := none
  /-- Whether rows have a column for the layer. -/
  hasLayers : Bool := false
  deriving DecidableEq, Repr

/-- What a line of a listing is. -/
inductive Line where
  /-- A line to pass over: a blank one, a message, or one before the first section. -/
  | passed
  /-- The names of the columns. -/
  | header (hasLayers : Bool)
  /-- The title of a section. -/
  | title (compatible : Bool)
  | snapshot (row : List Char)
  | unknown (row : List Char)
  | cache (d : Descriptor)
  deriving DecidableEq, Repr

/-- Whether a word speaks of corruption. -/
def tellsCorrupt (word : List Char) : Bool := contains "corrupt".toList (lowerAscii word)

/-- The last columns of a row: the moment of the last detach, or that the cache is in use. What is
    left of the row comes first. -/
def splitDetach (columns : List (List Char)) : List (List Char) × Option Calendar.Moment :=
  let inUse := ["In".toList, "use".toList]
  let (front, last) := (columns.take (columns.length - 5), columns.drop (columns.length - 5))
  if inUse.isSuffixOf columns then (columns.take (columns.length - 2), none)
  else if 5 ≤ columns.length then
    match Calendar.Moment.ofListing? ([' '].intercalate last) with
    | some m => (front, some m)
    | none => (columns, none)
  else (columns, none)

/-- The two handles among some columns: their only numbers behind that of the layer. -/
def handles (hasLayers : Bool) (columns : List (List Char)) : Option Int × Option Int :=
  let numbers := columns.filterMap readInt64?
  match if hasLayers then numbers.drop 1 else numbers with
  | [memory, semaphore] => (some memory, some semaphore)
  | _ => (none, none)

/-- The kind that a column names. -/
def kindOfColumn? (column : List Char) : Option Persistence :=
  Persistence.ofName? (String.ofList column)

/-- The cache of a row. -/
def readRow (compatible hasLayers : Bool) (row : List Char) : Option Descriptor :=
  match words row with
  | name :: level :: mode :: kind :: rest =>
      if "Java".toList.isPrefixOf level then
        (kindOfColumn? kind).map fun persistence =>
          let (columns, lastDetach) := splitDetach rest
          let (sharedMemoryId, semaphoreId) := handles hasLayers columns
          { name := some (String.ofList name), persistence, addressMode := AddressMode.ofText mode
            jvmLevel := String.ofList level, compatible
            corrupt := (words row).any tellsCorrupt, lastDetach, semaphoreId, sharedMemoryId }
      else none
  | _ => none

/-- Whether a row is one of a snapshot. -/
def isSnapshotRow (row : List Char) : Bool := (words row)[3]? == some "snapshot".toList

/-- What a line is inside a section. -/
def Line.read (s : Section) (line : List Char) : Line :=
  let row := trim line
  let starts (text : String) : Bool := text.toList.isPrefixOf row
  if row.isEmpty || starts "JVMSHRC" then .passed
  else if starts "Cache name" then .header (contains "layer".toList row)
  else if starts "Incompatible shared caches" then .title false
  else if starts "Compatible shared caches" then .title true
  else
    match s.compatible with
    | none => .passed
    | some compatible =>
        if isSnapshotRow row then .snapshot row
        else
          match readRow compatible s.hasLayers row with
          | some d => .cache d
          | none => .unknown row

/-- What is known behind a line. -/
def Section.after (s : Section) : Line → Section
  | .header hasLayers => { s with hasLayers }
  | .title compatible => { s with compatible := some compatible }
  | _ => s

/-- What the lines of a listing are. -/
def readLines (s : Section) : List (List Char) → List Line
  | [] => []
  | line :: rest =>
      let l := Line.read s line
      l :: readLines (s.after l) rest

/-- What the lines of a text are. -/
def linesOf (text : String) : List Line := readLines {} (lines text.toList)

/-- The cache of a line. -/
def Line.cache? : Line → Option Descriptor
  | cache d => some d
  | _ => none

/-- The caches that a text lists. -/
def caches (text : String) : List Descriptor := (linesOf text).filterMap Line.cache?

/-- What is logged about a line. -/
def Line.note? : Line → Option String
  | snapshot row => some s!"Skipping snapshot row: {String.ofList row}"
  | unknown row => some s!"Skipping unrecognized listing row: {String.ofList row}"
  | _ => none

/-- What is logged about the lines of a text. -/
def notes (text : String) : List String := (linesOf text).filterMap Line.note?

end CacheWarden.Listing
