import CacheWarden.Table
import Mathlib

/-!
# Tables that are looked up and set

What a look-up finds, what setting a key twice comes to, and a table that takes over the values of
another one. Main statements: `get?_ofList_of_mem`, a row whose key occurs once is found;
`get?_ofList_eq_some_iff`, of several rows with one key the last one counts; `ofList_append`,
setting more keys overwrites the table with that of the further rows; and `get?_overwrite`.
-/

namespace CacheWarden.Table

variable {κ α : Type} [DecidableEq κ] {rows : List (κ × α)} {s t : Table κ α} {j k : κ} {v : α}

/-! ### Looking a key up -/

theorem lookup_of_mem (hn : (rows.map Prod.fst).Nodup) (h : (k, v) ∈ rows) :
    rows.lookup k = some v := by
  induction rows with
  | nil => cases h
  | cons row rows ih =>
    obtain ⟨j, w⟩ := row
    rw [List.map_cons, List.nodup_cons] at hn
    rcases List.mem_cons.1 h with heq | h
    · obtain ⟨rfl, rfl⟩ := Prod.mk.inj heq
      exact List.lookup_cons_self
    · have hmem : k ∈ rows.map Prod.fst := List.mem_map_of_mem h
      have hne : k ≠ j := by
        rintro rfl
        exact hn.1 hmem
      rw [List.lookup_cons, beq_eq_false_iff_ne.2 hne]
      exact ih hn.2 h

theorem lookup_of_not_mem (h : k ∉ rows.map Prod.fst) : rows.lookup k = none := by
  rw [List.lookup_eq_none_iff]
  intro p hp
  rw [bne_iff_ne]
  rintro rfl
  exact h (List.mem_map_of_mem hp)

/-- Where keys are distinct it does not matter from which end one is looked for. -/
theorem lookup_reverse (hn : (rows.map Prod.fst).Nodup) (k : κ) :
    rows.reverse.lookup k = rows.lookup k := by
  have hback : (rows.reverse.map Prod.fst).Nodup := by rwa [List.map_reverse, List.nodup_reverse]
  by_cases hk : k ∈ rows.map Prod.fst
  · obtain ⟨⟨j, v⟩, hmem, rfl⟩ := List.mem_map.1 hk
    rw [lookup_of_mem hn hmem, lookup_of_mem hback (List.mem_reverse.2 hmem)]
  · rw [lookup_of_not_mem hk, lookup_of_not_mem (by simpa using hk)]

theorem get?_ofList_of_mem (hn : (rows.map Prod.fst).Nodup) (h : (k, v) ∈ rows) :
    (ofList rows).get? k = some v := by
  rw [get?_ofList, lookup_reverse hn, lookup_of_mem hn h]

theorem get?_ofList_of_not_mem (h : k ∉ rows.map Prod.fst) : (ofList rows).get? k = none := by
  rw [get?_ofList]
  exact lookup_of_not_mem (by simpa using h)

theorem forall_bne_iff : (∀ row ∈ rows, k != row.1) ↔ k ∉ rows.map Prod.fst := by
  simp only [List.mem_map, not_exists, not_and, bne_iff_ne]
  exact forall₂_congr fun row _ => ne_comm

/-- A key gets the value of its last row. -/
theorem get?_ofList_eq_some_iff : (ofList rows).get? k = some v ↔
    ∃ before after, rows = before ++ (k, v) :: after ∧ k ∉ after.map Prod.fst := by
  rw [get?_ofList, List.lookup_eq_some_iff]
  constructor
  · rintro ⟨after, before, hrows, hk⟩
    refine ⟨before.reverse, after.reverse, ?_, ?_⟩
    · rw [← List.reverse_reverse rows, hrows, List.reverse_append, List.reverse_cons,
        List.append_assoc, List.singleton_append]
    · exact forall_bne_iff.1 fun row hrow => hk row (List.mem_reverse.1 hrow)
  · rintro ⟨before, after, rfl, hk⟩
    refine ⟨after.reverse, before.reverse, ?_, fun row hrow => ?_⟩
    · rw [List.reverse_append, List.reverse_cons, List.append_assoc, List.singleton_append]
    · exact forall_bne_iff.2 hk row (List.mem_reverse.1 hrow)

/-- Only the rows of a key are looked through for it. -/
theorem lookup_filter_key (rows : List (κ × α)) (k : κ) :
    (rows.filter (·.1 == k)).lookup k = rows.lookup k := by
  induction rows with
  | nil => rfl
  | cons row rows ih =>
    obtain ⟨j, w⟩ := row
    by_cases hj : j = k
    · subst hj
      rw [List.filter_cons_of_pos (by simp), List.lookup_cons_self, List.lookup_cons_self]
    · rw [List.filter_cons_of_neg (by simpa using hj), List.lookup_cons,
        beq_eq_false_iff_ne.2 (Ne.symm hj)]
      exact ih

/-- The only row of a key has the value that the key gets. -/
theorem get?_ofList_of_filter (h : rows.filter (·.1 == k) = [(k, v)]) :
    (ofList rows).get? k = some v := by
  rw [get?_ofList, ← lookup_filter_key, List.filter_reverse, h]
  exact List.lookup_cons_self

theorem get?_eq_none_iff {t : Table κ α} {k : κ} : t.get? k = none ↔ k ∉ t.keys := by
  rw [get?, List.lookup_eq_none_iff]
  exact forall_bne_iff

theorem mem_keys_iff {t : Table κ α} {k : κ} : k ∈ t.keys ↔ ∃ v, t.get? k = some v := by
  rw [← Option.ne_none_iff_exists', ne_eq, get?_eq_none_iff, not_not]

/-! ### Setting keys -/

theorem setRow_setRow (key : κ) (value value' : α) (rows : List (κ × α)) :
    setRow key value' (setRow key value rows) = setRow key value' rows := by
  induction rows with
  | nil => simp [setRow]
  | cons row rows ih =>
    obtain ⟨k, v⟩ := row
    by_cases hk : k = key
    · simp [setRow, hk]
    · simp [setRow, hk, ih]

theorem insert_insert (t : Table κ α) (key : κ) (value value' : α) :
    (t.insert key value).insert key value' = t.insert key value' := by
  simp only [insert, setRow_setRow]

/-- A key that is there already keeps its place, whatever other key is set before. -/
theorem setRow_comm (hk : k ∈ rows.map Prod.fst) (hjk : j ≠ k) (v w : α) :
    setRow k v (setRow j w rows) = setRow j w (setRow k v rows) := by
  induction rows with
  | nil => cases hk
  | cons row rows ih =>
    obtain ⟨i, u⟩ := row
    by_cases hi : i = k
    · subst hi
      simp [setRow, Ne.symm hjk]
    · have hrest : k ∈ rows.map Prod.fst := by
        rw [List.map_cons, List.mem_cons] at hk
        exact hk.resolve_left (Ne.symm hi)
      by_cases hj : i = j
      · subst hj
        simp [setRow, hi]
      · simp [setRow, hi, hj, ih hrest]

theorem insert_comm_of_mem (hk : k ∈ t.keys) (hjk : j ≠ k) (v w : α) :
    (t.insert j w).insert k v = (t.insert k v).insert j w := by
  simp only [insert, setRow_comm hk hjk]

theorem mem_keys_insert_of_mem (hk : k ∈ t.keys) (j : κ) (w : α) : k ∈ (t.insert j w).keys := by
  rw [keys_insert]
  split
  · exact hk
  · exact List.mem_append_left _ hk

theorem mem_keys_insert_self (t : Table κ α) (k : κ) (v : α) : k ∈ (t.insert k v).keys := by
  rw [mem_keys_iff]
  exact ⟨v, by rw [get?_insert, if_pos rfl]⟩

theorem ofList_concat (rows : List (κ × α)) (k : κ) (v : α) :
    ofList (rows ++ [(k, v)]) = (ofList rows).insert k v := by
  rw [ofList, List.foldl_append]
  rfl

/-! ### Overwriting a table -/

/-- Sets keys one after the other. -/
def setAll (t : Table κ α) (rows : List (κ × α)) : Table κ α :=
  rows.foldl (fun t row => t.insert row.1 row.2) t

/-- The table in which each key of another one has the value that it has there. -/
def overwrite (s t : Table κ α) : Table κ α := s.setAll t.rows

theorem setAll_insert_of_mem (hk : k ∈ t.keys) (h : k ∉ rows.map Prod.fst) (v : α) :
    (t.insert k v).setAll rows = (t.setAll rows).insert k v := by
  induction rows generalizing t with
  | nil => rfl
  | cons row rows ih =>
    obtain ⟨j, w⟩ := row
    rw [List.map_cons, List.mem_cons, not_or] at h
    show ((t.insert k v).insert j w).setAll rows = ((t.insert j w).setAll rows).insert k v
    rw [← insert_comm_of_mem hk (Ne.symm h.1)]
    exact ih (mem_keys_insert_of_mem hk j w) h.2

/-- A key that is set in the further rows may as well be set behind them. -/
theorem setAll_setRow (hn : (rows.map Prod.fst).Nodup) (s : Table κ α) (k : κ) (v : α) :
    s.setAll (setRow k v rows) = (s.setAll rows).insert k v := by
  induction rows generalizing s with
  | nil => rfl
  | cons row rows ih =>
    obtain ⟨j, w⟩ := row
    rw [List.map_cons, List.nodup_cons] at hn
    by_cases hj : j = k
    · subst hj
      have hlast := setAll_insert_of_mem (mem_keys_insert_self s j w) hn.1 v
      rw [insert_insert] at hlast
      rw [setRow, if_pos rfl]
      exact hlast
    · rw [setRow, if_neg hj]
      exact ih hn.2 (s.insert j w)

theorem overwrite_insert (s t : Table κ α) (k : κ) (v : α) :
    s.overwrite (t.insert k v) = (s.overwrite t).insert k v :=
  setAll_setRow t.distinct s k v

/-- Setting more keys overwrites a table with that of the further rows. -/
theorem ofList_append (rows more : List (κ × α)) :
    ofList (rows ++ more) = (ofList rows).overwrite (ofList more) := by
  induction more using List.reverseRecOn with
  | nil =>
    rw [List.append_nil]
    rfl
  | append_singleton more row ih =>
    obtain ⟨k, v⟩ := row
    rw [← List.append_assoc, ofList_concat, ofList_concat, ih, overwrite_insert]

theorem get?_overwrite (s t : Table κ α) (k : κ) :
    (s.overwrite t).get? k = (t.get? k).or (s.get? k) := by
  have hrows := get?_foldl_insert t.rows s k
  rw [lookup_reverse t.distinct] at hrows
  exact hrows

end CacheWarden.Table
