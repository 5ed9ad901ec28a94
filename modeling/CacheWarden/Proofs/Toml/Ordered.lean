import CacheWarden.Proofs.Table
import CacheWarden.Proofs.Text.Scan
import CacheWarden.Toml.Reader
import Mathlib

/-!
# The order of the fields of a document

Whatever a document sets in whatever order, the fields of each of its tables stand in the ascending
order of their keys, and no key occurs twice in a table. The invariant is that of a table under
construction, `Section.Kept`: each operation on tables keeps it, and so do all lines of a document.
Main statement: `ordered_of_read?`.
-/

namespace CacheWarden.Toml

open Text Text.Scan

/-- Whether a property holds of the keys of some fields, and of those of each table among them. A
    table in an array is part of a value. -/
inductive EachLevel (P : List String → Prop) : Fields → Prop where
  | mk {fields : Fields} (here : P (fields.map Prod.fst))
      (below : ∀ key inner, (key, Value.table inner) ∈ fields → EachLevel P inner) :
      EachLevel P fields

/-- Whether no key occurs twice in a table. -/
abbrev Distinct : Fields → Prop := EachLevel List.Nodup

/-- Whether keys ascend in each table. -/
abbrev Ordered : Fields → Prop := EachLevel (List.Pairwise (· < ·))

namespace EachLevel

variable {P : List String → Prop} {fields : Fields}

theorem keys (h : EachLevel P fields) : P (fields.map Prod.fst) := by
  cases h with
  | mk here _ => exact here

theorem table (h : EachLevel P fields) {key : String} {inner : Fields}
    (hmem : (key, Value.table inner) ∈ fields) : EachLevel P inner := by
  cases h with
  | mk _ below => exact below key inner hmem

end EachLevel

theorem Ordered.distinct {fields : Fields} (h : Ordered fields) : Distinct fields := by
  induction h with
  | mk keys _ ih => exact .mk (keys.imp ne_of_lt) ih

/-! ### Sorted fields -/

theorem mem_sortFields {fields : Fields} {f : String × Value} :
    f ∈ sortFields fields ↔ f ∈ fields := List.mem_mergeSort

theorem keys_sortFields_perm (fields : Fields) :
    ((sortFields fields).map Prod.fst).Perm (fields.map Prod.fst) :=
  (List.mergeSort_perm fields _).map Prod.fst

/-- Sorting makes distinct keys ascend. -/
theorem pairwise_sortFields {fields : Fields} (h : (fields.map Prod.fst).Nodup) :
    ((sortFields fields).map Prod.fst).Pairwise (· < ·) := by
  have hsorted : (sortFields fields).Pairwise fun f g => decide (f.1 ≤ g.1) = true := by
    apply List.pairwise_mergeSort
    · intro f g i hfg hgi
      rw [decide_eq_true_iff] at hfg hgi ⊢
      exact le_trans hfg hgi
    · intro f g
      rw [Bool.or_eq_true, decide_eq_true_iff, decide_eq_true_iff]
      exact le_total f.1 g.1
  have hle : ((sortFields fields).map Prod.fst).Pairwise (· ≤ ·) :=
    List.pairwise_map.2 (hsorted.imp of_decide_eq_true)
  have hne : ((sortFields fields).map Prod.fst).Pairwise (· ≠ ·) :=
    (keys_sortFields_perm fields).nodup_iff.2 h
  exact (hle.and hne).imp fun h => lt_of_le_of_ne h.1 h.2

theorem ordered_sortFields {fields : Fields} (h : (fields.map Prod.fst).Nodup)
    (hbelow : ∀ key inner, (key, Value.table inner) ∈ fields → Ordered inner) :
    Ordered (sortFields fields) :=
  .mk (pairwise_sortFields h) fun key inner hmem => hbelow key inner (mem_sortFields.1 hmem)

/-! ### Tables under construction -/

/-- Whether a value that is a table has ascending keys at each level. -/
def Value.Kept (v : Value) : Prop := ∀ inner, v = .table inner → Ordered inner

theorem Value.kept_of_ne {v : Value} (h : ∀ inner, v ≠ .table inner) : v.Kept :=
  fun inner hv => absurd hv (h inner)

namespace Section

/-- Whether a table under construction has no key twice, and no table that its fields lead to
    has. -/
inductive Kept : Section → Prop where
  | mk {origin : Origin} {entries : List (String × Entry)}
      (keys : (entries.map Prod.fst).Nodup)
      (values : ∀ key v, (key, Entry.value v) ∈ entries → v.Kept)
      (sections : ∀ key s, (key, Entry.section s) ∈ entries → Kept s) : Kept (.mk origin entries)

end Section

/-- Whether an entry is a kept value or a kept table; the tables of an array are part of a value. -/
inductive Entry.Kept : Entry → Prop where
  | value {v : Value} (h : v.Kept) : Entry.Kept (.value v)
  | section {s : Section} (h : s.Kept) : Entry.Kept (.section s)
  | sections (earlier : List Section) (last : Section) : Entry.Kept (.sections earlier last)

theorem nodup_keys_setRow {key : String} {e : Entry} {entries : List (String × Entry)}
    (h : (entries.map Prod.fst).Nodup) : ((setRow key e entries).map Prod.fst).Nodup :=
  ((⟨entries, h⟩ : Table String Entry).insert key e).distinct

theorem mem_setRow {key : String} {e : Entry} {entries : List (String × Entry)}
    {f : String × Entry} (h : f ∈ setRow key e entries) : f = (key, e) ∨ f ∈ entries := by
  induction entries with
  | nil => exact Or.inl (List.mem_singleton.1 h)
  | cons g entries ih =>
    obtain ⟨k, d⟩ := g
    rw [setRow] at h
    split at h
    · exact (List.mem_cons.1 h).imp_right (List.mem_cons_of_mem _)
    · rcases List.mem_cons.1 h with rfl | h
      · exact Or.inr List.mem_cons_self
      · exact (ih h).imp_right (List.mem_cons_of_mem _)

namespace Section

variable {origin : Origin} {entries : List (String × Entry)} {s s' : Section}

theorem kept_iff : Kept (mk origin entries) ↔
    (entries.map Prod.fst).Nodup ∧ ∀ f ∈ entries, f.2.Kept := by
  constructor
  · rintro (⟨keys, values, sections⟩)
    refine ⟨keys, ?_⟩
    rintro ⟨key, v | s | ⟨earlier, last⟩⟩ hf
    · exact .value (values key v hf)
    · exact .section (sections key s hf)
    · exact .sections earlier last
  · rintro ⟨hkeys, hentries⟩
    refine .mk hkeys (fun key v hv => ?_) (fun key s hs => ?_)
    · cases hentries _ hv with
      | value h => exact h
    · cases hentries _ hs with
      | «section» h => exact h

theorem kept_empty (origin : Origin) : Kept (Section.mk origin []) :=
  kept_iff.2 ⟨List.nodup_nil, by simp⟩

theorem Kept.setRow {key : String} {e : Entry} (h : Kept (Section.mk origin entries))
    (he : e.Kept) : Kept (Section.mk origin (setRow key e entries)) := by
  obtain ⟨hkeys, hentries⟩ := kept_iff.1 h
  refine kept_iff.2 ⟨nodup_keys_setRow hkeys, fun f hf => ?_⟩
  rcases mem_setRow hf with rfl | hf
  · exact he
  · exact hentries f hf

/-- How a table came about does not matter. -/
theorem Kept.withOrigin (h : Kept (Section.mk origin entries)) (o : Origin) :
    Kept (Section.mk o entries) := kept_iff.2 (kept_iff.1 h)

theorem Kept.of_lookup {key : String} {e : Entry} (h : Kept (Section.mk origin entries))
    (hkey : entries.lookup key = some e) : e.Kept := by
  obtain ⟨before, after, rfl, -⟩ := List.lookup_eq_some_iff.1 hkey
  exact (kept_iff.1 h).2 (key, e) (by simp)

/-! ### What keeps the invariant -/

/-- Changing the table that a path leads to keeps the invariant if the change does. -/
theorem Kept.descend {passing : Origin} {change : Section → Option Section}
    (hchange : ∀ s s', Kept s → change s = some s' → Kept s') {path : List String} (h : Kept s)
    (hs : descend passing change path s = some s') : Kept s' := by
  induction path generalizing s s' with
  | nil => exact hchange s s' h hs
  | cons key path ih =>
    obtain ⟨origin, entries⟩ := s
    rw [Section.descend] at hs
    split at hs
    · obtain ⟨t, ht, rfl⟩ := Option.map_eq_some_iff.1 hs
      exact h.setRow (.section (ih (kept_empty passing) ht))
    · cases hs
    · rename_i t hkey
      split at hs
      · cases hs
      · obtain ⟨t', ht, rfl⟩ := Option.map_eq_some_iff.1 hs
        cases h.of_lookup hkey with
        | «section» hkept => exact h.setRow (.section (ih hkept ht))
    · obtain ⟨t, -, rfl⟩ := Option.map_eq_some_iff.1 hs
      exact h.setRow (.sections _ t)

theorem Kept.openTable {path : List String} {key : String} (h : Kept s)
    (hs : openTable path key s = some s') : Kept s' := by
  refine h.descend (fun t t' ht hopen => ?_) hs
  obtain ⟨origin, entries⟩ := t
  dsimp only [Section.entries, Section.origin] at hopen
  split at hopen
  · cases hopen
    exact ht.setRow (.section (kept_empty .defined))
  · rename_i hkey
    cases hopen
    cases ht.of_lookup hkey with
    | «section» hkept => exact ht.setRow (.section (hkept.withOrigin .defined))
  · cases hopen

theorem Kept.openArray {path : List String} {key : String} (h : Kept s)
    (hs : openArray path key s = some s') : Kept s' := by
  refine h.descend (fun t t' ht hopen => ?_) hs
  obtain ⟨origin, entries⟩ := t
  dsimp only [Section.entries, Section.origin] at hopen
  split at hopen
  · cases hopen
    exact ht.setRow (.sections _ _)
  · cases hopen
    exact ht.setRow (.sections _ _)
  · cases hopen

theorem Kept.addField {path : List String} {key : String} {v : Value} (h : Kept s) (hv : v.Kept)
    (hs : addField path key v s = some s') : Kept s' := by
  refine h.descend (fun t t' ht hadd => ?_) hs
  split at hadd
  · cases hadd
  · split at hadd
    · rename_i hnew
      obtain ⟨origin, entries⟩ := t
      cases hadd
      obtain ⟨hkeys, hentries⟩ := kept_iff.1 ht
      have hfresh : key ∉ entries.map Prod.fst :=
        (Table.get?_eq_none_iff (t := ⟨entries, hkeys⟩)).1 hnew
      refine kept_iff.2 ⟨?_, ?_⟩
      · show ((entries ++ [(key, Entry.value v)]).map Prod.fst).Nodup
        rw [List.map_append, List.map_singleton, ← List.concat_eq_append]
        exact hkeys.concat hfresh
      · show ∀ f ∈ entries ++ [(key, Entry.value v)], f.2.Kept
        rw [List.forall_mem_append, List.forall_mem_singleton]
        exact ⟨hentries, .value hv⟩
    · cases hadd

/-! ### Finished tables -/

theorem keys_entryFields (entries : List (String × Entry)) :
    (entryFields entries).map Prod.fst = entries.map Prod.fst := by
  induction entries with
  | nil => rfl
  | cons f entries ih =>
    obtain ⟨key, v | s | ⟨earlier, last⟩⟩ := f <;>
      rw [entryFields, List.map_cons, List.map_cons, ih]

/-- A table among the fields is a value of its own or a table under construction. -/
theorem mem_entryFields_table {key : String} {inner : Fields}
    (h : (key, Value.table inner) ∈ entryFields entries) :
    (key, Entry.value (.table inner)) ∈ entries ∨
      ∃ s, (key, Entry.section s) ∈ entries ∧ inner = s.fields := by
  induction entries with
  | nil => cases h
  | cons f entries ih =>
    have hlater (h : (key, Value.table inner) ∈ entryFields entries) :
        (key, Entry.value (.table inner)) ∈ f :: entries ∨
          ∃ s, (key, Entry.section s) ∈ f :: entries ∧ inner = s.fields := by
      refine (ih h).imp (List.mem_cons_of_mem f) ?_
      rintro ⟨s, hs, hinner⟩
      exact ⟨s, List.mem_cons_of_mem f hs, hinner⟩
    obtain ⟨k, v | s | ⟨earlier, last⟩⟩ := f
    · rw [entryFields] at h
      rcases List.mem_cons.1 h with heq | h
      · obtain ⟨rfl, rfl⟩ := Prod.mk.inj heq
        exact Or.inl List.mem_cons_self
      · exact hlater h
    · rw [entryFields] at h
      rcases List.mem_cons.1 h with heq | h
      · obtain ⟨rfl, hinner⟩ := Prod.mk.inj heq
        exact Or.inr ⟨s, List.mem_cons_self, Value.table.inj hinner⟩
      · exact hlater h
    · rw [entryFields] at h
      rcases List.mem_cons.1 h with heq | h
      · cases heq
      · exact hlater h

/-- A finished table has ascending keys at each level. -/
theorem Kept.ordered_fields (h : Kept s) : Ordered s.fields := by
  induction h with
  | @mk origin entries keys values sections ih =>
    rw [Section.fields]
    refine ordered_sortFields ((keys_entryFields entries).symm ▸ keys) fun key inner hmem => ?_
    rcases mem_entryFields_table hmem with hvalue | ⟨s, hs, rfl⟩
    · exact values key _ hvalue inner rfl
    · exact ih key s hs

end Section

/-! ### What is read -/

section

variable {x : Scan Value}

theorem gives_boundedInteger (negative : Bool) (radix : Nat) (digits : List Char) :
    Gives Value.Kept (boundedInteger negative radix digits) := by
  rw [boundedInteger]
  split
  · exact .failure
  · exact .ite (.pure (Value.kept_of_ne (by simp))) .failure

theorem gives_integer : Gives Value.Kept integer := by
  have hradixed (mark : Char) (radix : Nat) : Gives Value.Kept (do
      exactly ['0', mark]
      let digits ← someDigits fun c => (digitValue? radix c).isSome
      boundedInteger false radix digits) :=
    .bind_of_forall fun _ => .bind_of_forall fun _ => gives_boundedInteger _ _ _
  refine .bind_of_forall fun mark => ?_
  split
  · exact .orElse (hradixed 'x' 16) (.orElse (hradixed 'o' 8) (hradixed 'b' 2))
  · exact .bind_of_forall fun _ => gives_boundedInteger _ _ _

theorem gives_specialFloat : Gives Value.Kept specialFloat :=
  .bind_of_forall fun _ =>
    .orElse (.bind_of_forall fun _ => .pure (Value.kept_of_ne (by simp)))
      (.bind_of_forall fun _ => .pure (Value.kept_of_ne (by simp)))

theorem gives_float : Gives Value.Kept float := by
  refine .bind_of_forall fun _ => .bind_of_forall fun _ => ?_
  dsimp only
  split
  · exact .failure
  · exact .pure (Value.kept_of_ne (by simp))

/-- A value that holds no other values is no table. -/
theorem gives_scalar : Gives Value.Kept scalar := by
  have hmoment : Gives Value.Kept (do let m ← moment; pure (.moment m)) :=
    .bind_of_forall fun _ => .pure (Value.kept_of_ne (by simp))
  refine .bind_of_forall fun next => ?_
  split
  · exact .bind_of_forall fun _ => .pure (Value.kept_of_ne (by simp))
  · exact .bind_of_forall fun _ => .pure (Value.kept_of_ne (by simp))
  · exact .bind_of_forall fun _ => .pure (Value.kept_of_ne (by simp))
  · exact .bind_of_forall fun _ => .pure (Value.kept_of_ne (by simp))
  · split
    · exact .orElse hmoment (.orElse gives_float (.orElse gives_specialFloat gives_integer))
    · exact gives_specialFloat
  · exact .failure

/-- An array is no table, whatever its items are. -/
theorem gives_arrayOf : Gives Value.Kept (arrayOf x) := by
  refine .bind_of_forall fun _ => .bind_of_forall fun items => ?_
  have hrest : Gives Value.Kept (do gap; char ']'; pure (.array items)) :=
    .bind_of_forall fun _ => .bind_of_forall fun _ => .pure (Value.kept_of_ne (by simp))
  exact .ite (.bind_of_forall fun _ => hrest) hrest

theorem gives_separated {α : Type} {P : α → Prop} {element : Scan α} (h : Gives P element) :
    Gives (fun as => ∀ a ∈ as, P a) (separated element) := by
  refine .bind h.maybe fun first hfirst => ?_
  cases first with
  | none => exact .pure (by simp)
  | some a =>
    refine .bind (.repeated (P := P) (.orElse (.bind_of_forall fun _ => .bind h fun b hb => ?_) ?_))
      fun rest hrest => ?_
    · exact .pure (by simpa using hb)
    · exact .pure (by simp)
    · exact .pure (List.forall_mem_cons.2 ⟨hfirst a rfl, hrest⟩)

/-- Fields that are added one after the other keep the invariant. -/
theorem Section.Kept.addFields {pairs : List ((List String × String) × Value)} {s s' : Section}
    (h : s.Kept) (hpairs : ∀ p ∈ pairs, p.2.Kept) (hs : addFields pairs s = some s') :
    s'.Kept := by
  induction pairs generalizing s with
  | nil =>
    cases hs
    exact h
  | cons pair pairs ih =>
    obtain ⟨⟨path, key⟩, v⟩ := pair
    obtain ⟨t, ht, hrest⟩ := Option.bind_eq_some_iff.1 hs
    rw [List.forall_mem_cons] at hpairs
    exact ih (h.addField hpairs.1 ht) hpairs.2 hrest

theorem gives_inlineTableOf (h : Gives Value.Kept x) : Gives Value.Kept (inlineTableOf x) := by
  have hpair : Gives (fun p : (List String × String) × Value => p.2.Kept) (do
      let k ← key
      char '='
      spaces
      let v ← x
      spaces
      pure (k, v)) :=
    .bind_of_forall fun _ => .bind_of_forall fun _ => .bind_of_forall fun _ =>
      .bind h fun _ hv => .bind_of_forall fun _ => .pure hv
  refine .bind_of_forall fun _ => .bind (gives_separated hpair) fun pairs hpairs => ?_
  refine .bind_of_forall fun _ => .bind_of_forall fun _ => ?_
  split
  · rename_i s hs
    refine .pure ?_
    rintro inner ⟨⟩
    exact ((Section.kept_empty .defined).addFields hpairs hs).ordered_fields
  · exact .failure

theorem gives_valueWithin (depth : Nat) : Gives Value.Kept (valueWithin depth) := by
  induction depth with
  | zero => exact gives_scalar
  | succ depth ih =>
    refine .bind_of_forall fun next => ?_
    split
    · exact gives_arrayOf
    · exact gives_inlineTableOf ih
    · exact gives_scalar

end

/-! ### Lines -/

/-- Whether the field that a line sets, if it sets one, is kept. -/
inductive Line.Kept : Line → Prop where
  | blank : Line.Kept .blank
  | table (path : List String) (key : String) : Line.Kept (.table path key)
  | arrayTable (path : List String) (key : String) : Line.Kept (.arrayTable path key)
  | field (path : List String) (key : String) {v : Value} (h : v.Kept) :
      Line.Kept (.field path key v)

theorem gives_line : Gives Line.Kept line := by
  refine .bind_of_forall fun _ => .bind_of_forall fun next => ?_
  split
  · exact .pure .blank
  · exact .bind_of_forall fun _ => .bind_of_forall fun _ => .pure .blank
  · refine .bind_of_forall fun two => ?_
    split
    · exact .bind_of_forall fun (path, k) => .bind_of_forall fun _ => .bind_of_forall fun _ =>
        .pure (.arrayTable path k)
    · exact .bind_of_forall fun _ => .bind_of_forall fun (path, k) => .bind_of_forall fun _ =>
        .bind_of_forall fun _ => .pure (.table path k)
  · split
    · exact .bind_of_forall fun _ => .pure .blank
    · exact .bind_of_forall fun (path, k) => .bind_of_forall fun _ => .bind_of_forall fun _ =>
        .bind (gives_valueWithin _) fun _ hv => .bind_of_forall fun _ => .pure (.field path k hv)

theorem gives_documentLines : Gives (fun ls => ∀ l ∈ ls, l.Kept) documentLines := by
  have hround : Gives (fun o : Option Line => ∀ l ∈ o, l.Kept)
      ((do atEnd; pure none) <|> (do let l ← line; pure (some l))) :=
    .orElse (.bind_of_forall fun _ => .pure (by simp))
      (.bind gives_line fun l hl => .pure (by simpa using hl))
  exact .repeated hround

/-- The lines of a document keep the invariant. -/
theorem Section.Kept.applyLines {ls : List Line} {header : List String} {root root' : Section}
    (h : root.Kept) (hls : ∀ l ∈ ls, l.Kept) (hroot : applyLines ls header root = some root') :
    root'.Kept := by
  induction ls generalizing header root with
  | nil =>
    cases hroot
    exact h
  | cons l ls ih =>
    rw [List.forall_mem_cons] at hls
    obtain ⟨hl, hls⟩ := hls
    cases hl with
    | blank => exact ih h hls hroot
    | table path key =>
      obtain ⟨t, ht, hrest⟩ := Option.bind_eq_some_iff.1 hroot
      exact ih (h.openTable ht) hls hrest
    | arrayTable path key =>
      obtain ⟨t, ht, hrest⟩ := Option.bind_eq_some_iff.1 hroot
      exact ih (h.openArray ht) hls hrest
    | field path key hv =>
      obtain ⟨t, ht, hrest⟩ := Option.bind_eq_some_iff.1 hroot
      exact ih (h.descend (fun s s' hs hadd => hs.addField hv hadd) ht) hls hrest

/-- The keys of every table of a document ascend, and so do those of the document. -/
theorem ordered_of_read? {document : String} {fields : Fields}
    (h : read? document = some fields) : Ordered fields := by
  rw [read?] at h
  obtain ⟨root, hroot, rfl⟩ := Option.map_eq_some_iff.1 h
  obtain ⟨ls, hls, happly⟩ := Option.bind_eq_some_iff.1 hroot
  have hkept : ∀ l ∈ ls, l.Kept := gives_documentLines _ ls [] (run_of_whole?_eq_some hls)
  exact ((Section.kept_empty .defined).applyLines hkept happly).ordered_fields

end CacheWarden.Toml
