import CacheWarden.Config.Document
import Mathlib

/-!
# The fields of a document

A document makes a setting of each field that is no table, whatever tables it stands in. The fields
are met in the order of the document, and their places are not kept in the settings. Main
statements: `flatten_eq_map_placed`, the settings are those of the fields with their places; and
`flatten_perm`.
-/

namespace CacheWarden.Config

open Toml

/-- The setting of a field that is no table. -/
def settingOf (f : String × Value) : String × String := (f.1, String.ofList (settingText f.2))

/-- A field that is no table, and the names of the tables that lead to it. -/
structure Placed where
  tables : List String
  key : String
  value : Value

namespace Placed

/-- The names that lead to a field, its key being the last of them. -/
def path (f : Placed) : List String := f.tables ++ [f.key]

/-- The field without its place. -/
def field (f : Placed) : String × Value := (f.key, f.value)

/-- The text of a field as a setting. -/
def text (f : Placed) : String := String.ofList (settingText f.value)

/-- The setting that a field makes. -/
def setting (f : Placed) : String × String := (f.key, f.text)

/-- A field seen from outside its table. -/
def below (name : String) (f : Placed) : Placed := { f with tables := name :: f.tables }

theorem setting_comp_below (name : String) : setting ∘ below name = setting := rfl

end Placed

/-- The fields of a document and of its tables that are no tables themselves, with their places. -/
def placed : Fields → List Placed
  | [] => []
  | (key, .table inner) :: rest => (placed inner).map (Placed.below key) ++ placed rest
  | (key, v) :: rest => ⟨[], key, v⟩ :: placed rest

/-- The fields that one field leads to. -/
def placedAt : String × Value → List Placed
  | (key, .table inner) => (placed inner).map (Placed.below key)
  | (key, v) => [⟨[], key, v⟩]

/-- The fields of a document and of its tables that are no tables themselves. -/
def leaves (fields : Fields) : Fields := (placed fields).map Placed.field

theorem placed_eq_flatMap (fields : Fields) : placed fields = fields.flatMap placedAt := by
  fun_induction placed fields with
  | case1 => rfl
  | case2 key inner rest _ ih => rw [List.flatMap_cons, ← ih, placedAt]
  | case3 key v rest h ih =>
    rw [List.flatMap_cons, ← ih, placedAt]
    · rfl
    · exact h

theorem placed_perm {fs gs : Fields} (h : fs.Perm gs) : (placed fs).Perm (placed gs) := by
  rw [placed_eq_flatMap, placed_eq_flatMap]
  exact h.flatMap_right placedAt

theorem flatten_eq_map_placed (fields : Fields) :
    flatten fields = (placed fields).map Placed.setting := by
  fun_induction placed fields with
  | case1 => simp [flatten]
  | case2 key inner rest ih ih' =>
    rw [flatten, ih, ih', List.map_append, List.map_map, Placed.setting_comp_below]
  | case3 key v rest h ih =>
    rw [flatten, ih, List.map_cons]
    · rfl
    · exact h

theorem flatten_eq_map_leaves (fields : Fields) :
    flatten fields = (leaves fields).map settingOf := by
  rw [flatten_eq_map_placed, leaves, List.map_map]
  rfl

theorem flatten_append (fs gs : Fields) : flatten (fs ++ gs) = flatten fs ++ flatten gs := by
  simp only [flatten_eq_map_placed, placed_eq_flatMap, List.flatMap_append, List.map_append]

theorem flatten_perm {fs gs : Fields} (h : fs.Perm gs) : (flatten fs).Perm (flatten gs) := by
  rw [flatten_eq_map_placed, flatten_eq_map_placed]
  exact (placed_perm h).map Placed.setting

end CacheWarden.Config
