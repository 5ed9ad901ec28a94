/-!
# Tables

Finite maps, kept in the order in which their keys were first set. A key occurs once,
which is part of the type. Main statements: `get?_insert` says what setting a key does to every
look-up, `keys_insert` what it does to the keys, and `get?_ofList` that the last row of a key
counts.
-/

namespace CacheWarden

/-- Sets the value of a key in a list of rows, in its place if it is there and at the end if not. -/
def setRow {κ α : Type} [DecidableEq κ] (key : κ) (value : α) : List (κ × α) → List (κ × α)
  | [] => [(key, value)]
  | (k, v) :: rows => if k = key then (key, value) :: rows else (k, v) :: setRow key value rows

theorem keys_setRow {κ α : Type} [DecidableEq κ] (key : κ) (value : α) (rows : List (κ × α)) :
    (setRow key value rows).map Prod.fst =
      if key ∈ rows.map Prod.fst then rows.map Prod.fst else rows.map Prod.fst ++ [key] := by
  induction rows with
  | nil => rfl
  | cons row rows ih =>
    obtain ⟨k, v⟩ := row
    by_cases hk : k = key
    · simp [setRow, hk]
    · simp only [setRow, hk, if_false, List.map_cons, ih, List.mem_cons, Ne.symm hk, false_or]
      split <;> simp

/-- A finite map from `κ` to `α`, in the order in which its keys were first set. -/
structure Table (κ α : Type) where
  rows : List (κ × α)
  distinct : (rows.map Prod.fst).Nodup

namespace Table

variable {κ α : Type} [DecidableEq κ]

instance [DecidableEq α] : DecidableEq (Table κ α) := fun s t =>
  if h : s.rows = t.rows then .isTrue (by cases s; cases t; simp_all)
  else .isFalse (fun e => h (e ▸ rfl))

/-- The table without rows. -/
def empty : Table κ α := ⟨[], by simp⟩

instance : Inhabited (Table κ α) := ⟨empty⟩

/-- The value of a key. -/
def get? (t : Table κ α) (key : κ) : Option α := t.rows.lookup key

/-- The keys, in the order in which they were first set. -/
def keys (t : Table κ α) : List κ := t.rows.map Prod.fst

/-- How many keys there are. -/
def size (t : Table κ α) : Nat := t.rows.length

/-- Whether there is no key. -/
def isEmpty (t : Table κ α) : Bool := t.rows.isEmpty

/-- Sets the value of a key. -/
def insert (t : Table κ α) (key : κ) (value : α) : Table κ α where
  rows := setRow key value t.rows
  distinct := by
    rw [keys_setRow]
    split
    · exact t.distinct
    · rename_i h
      rw [List.nodup_append]
      refine ⟨t.distinct, by simp, fun a ha b hb => ?_⟩
      rw [List.mem_singleton.1 hb]
      exact fun e => h (e ▸ ha)

/-- The table that sets these keys one after the other, so the last value of a key counts. -/
def ofList (rows : List (κ × α)) : Table κ α :=
  rows.foldl (fun t (key, value) => t.insert key value) empty

theorem keys_insert (t : Table κ α) (key : κ) (value : α) :
    (t.insert key value).keys = if key ∈ t.keys then t.keys else t.keys ++ [key] :=
  keys_setRow key value t.rows

theorem lookup_setRow (key : κ) (value : α) (rows : List (κ × α)) (k : κ) :
    (setRow key value rows).lookup k = if k = key then some value else rows.lookup k := by
  induction rows with
  | nil =>
    by_cases hk : k = key
    · simp [setRow, hk]
    · simp [setRow, List.lookup_cons, hk, beq_eq_false_iff_ne.2 hk]
  | cons row rows ih =>
    obtain ⟨j, v⟩ := row
    by_cases hj : j = key
    · subst hj
      by_cases hk : k = j
      · simp [setRow, hk]
      · simp [setRow, List.lookup_cons, hk, beq_eq_false_iff_ne.2 hk]
    · by_cases hk : k = j
      · subst hk
        simp [setRow, hj]
      · simp [setRow, hj, List.lookup_cons, beq_eq_false_iff_ne.2 hk, ih]

theorem get?_insert (t : Table κ α) (key : κ) (value : α) (k : κ) :
    (t.insert key value).get? k = if k = key then some value else t.get? k :=
  lookup_setRow key value t.rows k

@[simp] theorem get?_empty (k : κ) : (empty : Table κ α).get? k = none := rfl

theorem get?_foldl_insert (rows : List (κ × α)) (t : Table κ α) (k : κ) :
    (rows.foldl (fun t (key, value) => t.insert key value) t).get? k =
      (rows.reverse.lookup k).or (t.get? k) := by
  induction rows generalizing t with
  | nil => rfl
  | cons row rows ih =>
    obtain ⟨j, value⟩ := row
    rw [List.foldl_cons, ih, get?_insert, List.reverse_cons, List.lookup_append, Option.or_assoc]
    congr 1
    by_cases hk : k = j
    · simp [hk]
    · simp [List.lookup_cons, hk, beq_eq_false_iff_ne.2 hk]

/-- The last of the rows with a key gives its value. -/
theorem get?_ofList (rows : List (κ × α)) (k : κ) :
    (ofList rows).get? k = rows.reverse.lookup k := by
  rw [ofList, get?_foldl_insert, get?_empty, Option.or_none]

end Table

end CacheWarden
