import CacheWarden.Table
import CacheWarden.Toml.Value

/-!
# Building the tables of a document

A document names its tables in headers and in dotted keys, in any order, but it may not define the
same thing twice. `Section` is a table under construction, which remembers how it came about; the
operations add a field or open a table and refuse what was defined before.
-/

namespace CacheWarden.Toml

/-- How a table came about. -/
inductive Origin where
  /-- It has a header or a value of its own. -/
  | defined
  /-- The header of a table below it passed through it. -/
  | passed
  /-- A dotted key passed through it. -/
  | dotted
  deriving DecidableEq, Repr

mutual

/-- A table under construction. -/
inductive Section where
  | mk (origin : Origin) (entries : List (String × Entry))

/-- What a key of a table under construction stands for. -/
inductive Entry where
  | value (v : Value)
  | section (s : Section)
  | sections (earlier : List Section) (last : Section)

end

namespace Section

/-- How a table came about. -/
def origin : Section → Origin
  | mk o _ => o

/-- The entries of a table, in the order in which they were made. -/
def entries : Section → List (String × Entry)
  | mk _ es => es

/-- Does something to the table that a path leads to. Tables that are missing on the way are made.
    A dotted key may not pass through a table that was defined before. -/
def descend (origin : Origin) (change : Section → Option Section) :
    List String → Section → Option Section
  | [], s => change s
  | key :: path, mk o es =>
      match es.lookup key with
      | none =>
          (descend origin change path (mk origin [])).map fun s => mk o (setRow key (.section s) es)
      | some (.value _) => none
      | some (.section s) =>
          if origin = .dotted ∧ s.origin = .defined then none
          else (descend origin change path s).map fun s => mk o (setRow key (.section s) es)
      | some (.sections earlier last) =>
          (descend origin change path last).map fun s => mk o (setRow key (.sections earlier s) es)

/-- Opens the table of a header, which may not be there except on the way to another one. -/
def openTable (path : List String) (key : String) : Section → Option Section :=
  descend .passed (fun s =>
    match s.entries.lookup key with
    | none => some (mk s.origin (setRow key (.section (mk .defined [])) s.entries))
    | some (.section (mk .passed es)) =>
        some (mk s.origin (setRow key (.section (mk .defined es)) s.entries))
    | some _ => none) path

/-- Opens a further table of an array of tables. -/
def openArray (path : List String) (key : String) : Section → Option Section :=
  descend .passed (fun s =>
    match s.entries.lookup key with
    | none => some (mk s.origin (setRow key (.sections [] (mk .defined [])) s.entries))
    | some (.sections earlier last) =>
        some (mk s.origin (setRow key (.sections (earlier ++ [last]) (mk .defined [])) s.entries))
    | some _ => none) path

/-- Adds a field under a dotted key to a table. -/
def addField (path : List String) (key : String) (v : Value) : Section → Option Section :=
  descend .dotted (fun s =>
    if (s.origin == .dotted) == path.isEmpty then none
    else
      match s.entries.lookup key with
      | none => some (mk s.origin (s.entries ++ [(key, .value v)]))
      | some _ => none) path

mutual

/-- The fields of a finished table. -/
def fields : Section → Fields
  | mk _ es => sortFields (entryFields es)

/-- The fields that entries stand for. -/
def entryFields : List (String × Entry) → Fields
  | [] => []
  | (key, .value v) :: rest => (key, v) :: entryFields rest
  | (key, .section s) :: rest => (key, .table s.fields) :: entryFields rest
  | (key, .sections earlier last) :: rest =>
      (key, .array (tables earlier ++ [.table last.fields])) :: entryFields rest

/-- The tables of an array. -/
def tables : List Section → List Value
  | [] => []
  | s :: rest => .table s.fields :: tables rest

end

end Section

end CacheWarden.Toml
