/-!
# JSON values

The data that records and lists are written in. An object keeps its fields in the order in which
they were put in; `sorted` brings them into the order of their keys.
-/

namespace CacheWarden.Json

/-- A JSON value. -/
inductive Value where
  | null
  | bool (b : Bool)
  | int (n : Int)
  /-- A number with a fraction or an exponent, as it is written. -/
  | number (written : String)
  | text (s : String)
  | list (items : List Value)
  | object (fields : List (String × Value))
  deriving Inhabited

namespace Value

/-- A value, or null for none. -/
def ofOption {α : Type} (f : α → Value) : Option α → Value
  | none => .null
  | some a => f a

/-- The value of a field; none where the value has no such field. -/
def field? (key : String) : Value → Option Value
  | object fields => fields.lookup key
  | _ => none

/-- Puts a field in front of the first one with a greater key. -/
def insertField (field : String × Value) : List (String × Value) → List (String × Value)
  | [] => [field]
  | f :: rest => if field.1 < f.1 then field :: f :: rest else f :: insertField field rest

mutual

/-- The value with the fields of all objects in the order of their keys. -/
def sorted : Value → Value
  | list items => list (sortedItems items)
  | object fields => object (sortedFields fields)
  | v => v

/-- The values, each sorted. -/
def sortedItems : List Value → List Value
  | [] => []
  | v :: rest => sorted v :: sortedItems rest

/-- The fields in the order of their keys, each with its value sorted. -/
def sortedFields : List (String × Value) → List (String × Value)
  | [] => []
  | (key, v) :: rest => insertField (key, sorted v) (sortedFields rest)

end

end Value

end CacheWarden.Json
