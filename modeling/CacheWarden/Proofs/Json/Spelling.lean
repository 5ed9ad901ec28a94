import CacheWarden.Json.Printer
import CacheWarden.Proofs.Text.Numeral
import Mathlib

/-!
# Texts that stand for a JSON value

The grammar of JSON without blanks, and without numbers that have a fraction or an exponent. It
knows nothing of the printer: the fields of an object may stand in any order, and a character of a
text may be written as it is or by an escape wherever that is allowed. Main statements:
`Spells.newline_not_mem`, what stands for a value is one line; `spells_compact_sorted`, a value that
is sorted and printed in one line stands for itself.
-/

namespace CacheWarden.Json

open Text

/-! ### The grammar -/

/-- The signs behind a backslash that stand for one character, and these characters. -/
def shortEscapes : List (Char × Char) :=
  [('"', '"'), ('\\', '\\'), ('/', '/'), ('n', '\n'), ('r', '\r'), ('t', '\t'), ('b', '\x08'),
    ('f', '\x0c')]

/-- What stands for a character between quotes. -/
inductive SpellsChar (c : Char) : List Char → Prop where
  | plain (hquote : c ≠ '"') (hbackslash : c ≠ '\\') (hcode : 0x20 ≤ c.toNat) : SpellsChar c [c]
  | short {sign : Char} (h : (sign, c) ∈ shortEscapes) : SpellsChar c ['\\', sign]
  | code {digits : List Char} (hlength : digits.length = 4) (h : IsHexNumber digits c.toNat) :
      SpellsChar c ('\\' :: 'u' :: digits)

/-- What stands for some characters between quotes. -/
inductive SpellsChars : List Char → List Char → Prop where
  | nil : SpellsChars [] []
  | cons {c : Char} {s piece written : List Char} (h : SpellsChar c piece)
      (hrest : SpellsChars s written) : SpellsChars (c :: s) (piece ++ written)

/-- What stands for a text. -/
inductive SpellsText (s : String) : List Char → Prop where
  | quoted {written : List Char} (h : SpellsChars s.toList written) :
      SpellsText s ('"' :: written ++ ['"'])

mutual

/-- What stands for a value. -/
inductive Spells : Value → List Char → Prop where
  | null : Spells .null "null".toList
  | bool (b : Bool) : Spells (.bool b) (toString b).toList
  | int (n : Int) : Spells (.int n) (toString n).toList
  | text {s : String} {written : List Char} (h : SpellsText s written) : Spells (.text s) written
  | list {items : List Value} {written : List Char} (h : SpellsItems items written) :
      Spells (.list items) ('[' :: written ++ [']'])
  | object {fields ordered : List (String × Value)} {written : List Char}
      (hperm : ordered.Perm fields) (h : SpellsFields ordered written) :
      Spells (.object fields) ('\x7b' :: written ++ ['\x7d'])

/-- What stands for some values between brackets. -/
inductive SpellsItems : List Value → List Char → Prop where
  | nil : SpellsItems [] []
  | single {v : Value} {written : List Char} (h : Spells v written) : SpellsItems [v] written
  | cons {v w : Value} {rest : List Value} {first others : List Char} (h : Spells v first)
      (hrest : SpellsItems (w :: rest) others) :
      SpellsItems (v :: w :: rest) (first ++ ',' :: others)

/-- What stands for some fields in their order. -/
inductive SpellsFields : List (String × Value) → List Char → Prop where
  | nil : SpellsFields [] []
  | single {key : String} {v : Value} {name written : List Char} (hkey : SpellsText key name)
      (h : Spells v written) : SpellsFields [(key, v)] (name ++ ':' :: written)
  | cons {key : String} {v : Value} {f : String × Value} {rest : List (String × Value)}
      {name written others : List Char} (hkey : SpellsText key name) (h : Spells v written)
      (hrest : SpellsFields (f :: rest) others) :
      SpellsFields ((key, v) :: f :: rest) (name ++ ':' :: written ++ ',' :: others)

end

/-! ### One line -/

theorem newline_not_mem_of_isHexNumber {digits : List Char} {n : Nat}
    (h : IsHexNumber digits n) : '\n' ∉ digits := by
  obtain ⟨values, h, -⟩ := h
  intro hmem
  induction h with
  | nil => cases hmem
  | cons hhex _ ih =>
    rcases List.mem_cons.1 hmem with rfl | hmem
    · have hten : '\n'.toNat = 10 := rfl
      have hzero : '0'.toNat = 0x30 := rfl
      have ha : 'a'.toNat = 0x61 := rfl
      have hA : 'A'.toNat = 0x41 := rfl
      rw [IsHex] at hhex
      omega
    · exact ih hmem

theorem SpellsChar.newline_not_mem {c : Char} {piece : List Char} (h : SpellsChar c piece) :
    '\n' ∉ piece := by
  cases h with
  | plain _ _ hcode =>
    rw [List.mem_singleton]
    rintro rfl
    exact absurd hcode (by decide)
  | @short sign h =>
    have hsigns : ∀ p ∈ shortEscapes, p.1 ≠ '\n' := by decide
    simpa using (hsigns _ h).symm
  | code _ h => simpa using newline_not_mem_of_isHexNumber h

theorem SpellsChars.newline_not_mem {s written : List Char} (h : SpellsChars s written) :
    '\n' ∉ written := by
  induction h with
  | nil => exact List.not_mem_nil
  | cons h _ ih => simpa using ⟨h.newline_not_mem, ih⟩

theorem SpellsText.newline_not_mem {s : String} {written : List Char} (h : SpellsText s written) :
    '\n' ∉ written := by
  obtain ⟨h⟩ := h
  simpa using h.newline_not_mem

theorem toString_int_toList (n : Int) : (toString n).toList = decimalInt n := by
  cases n with
  | ofNat n => exact String.toList_ofList
  | negSucc n => simp [decimalInt, toString, Int.repr, Nat.repr, decimal]

theorem newline_not_mem_decimalInt (n : Int) : '\n' ∉ decimalInt n := by
  intro hmem
  rcases isDigit_of_mem_decimalInt hmem with h | h
  · cases h
  · cases h

mutual

theorem Spells.newline_not_mem {v : Value} {written : List Char} :
    Spells v written → '\n' ∉ written
  | .null => by decide
  | .bool b => by cases b <;> decide
  | .int n => toString_int_toList n ▸ newline_not_mem_decimalInt n
  | .text h => h.newline_not_mem
  | .list h => by simpa using h.newline_not_mem
  | .object _ h => by simpa using h.newline_not_mem

theorem SpellsItems.newline_not_mem {items : List Value} {written : List Char} :
    SpellsItems items written → '\n' ∉ written
  | .nil => List.not_mem_nil
  | .single h => h.newline_not_mem
  | .cons h hrest => by simpa using ⟨h.newline_not_mem, hrest.newline_not_mem⟩

theorem SpellsFields.newline_not_mem {fields : List (String × Value)} {written : List Char} :
    SpellsFields fields written → '\n' ∉ written
  | .nil => List.not_mem_nil
  | .single hkey h => by simpa using ⟨hkey.newline_not_mem, h.newline_not_mem⟩
  | .cons hkey h hrest => by
      simpa using ⟨hkey.newline_not_mem, h.newline_not_mem, hrest.newline_not_mem⟩

end

/-! ### What is printed -/

theorem spellsChar_escaped (c : Char) : SpellsChar c (escaped c) := by
  have hshort {d sign : Char} (hc : (c == d) = true) (h : (sign, d) ∈ shortEscapes) :
      SpellsChar c ['\\', sign] := .short (beq_iff_eq.1 hc ▸ h)
  unfold escaped
  split_ifs with hquote hbackslash hn hr ht hb hf hcontrol
  · exact hshort hquote (by decide)
  · exact hshort hbackslash (by decide)
  · exact hshort hn (by decide)
  · exact hshort hr (by decide)
  · exact hshort ht (by decide)
  · exact hshort hb (by decide)
  · exact hshort hf (by decide)
  · have hcodes : ∀ n < 0x20,
        (codeDigits n).length = 4 ∧ readNat? 16 (codeDigits n) = some n := by decide
    obtain ⟨hlength, hread⟩ := hcodes c.toNat hcontrol
    exact .code hlength (readNat?_sixteen_eq_some_iff.1 hread).2
  · exact .plain (by simpa using hquote) (by simpa using hbackslash) (not_lt.1 hcontrol)

theorem spellsText_quoted (s : String) : SpellsText s (quoted s) := by
  refine .quoted ?_
  induction s.toList with
  | nil => exact .nil
  | cons c rest ih => exact .cons (spellsChar_escaped c) ih

mutual

/-- Whether a value has no number with a fraction or an exponent. -/
def Value.isWhole : Value → Bool
  | .number _ => false
  | .list items => Value.areWhole items
  | .object fields => Value.fieldsWhole fields
  | _ => true

/-- Whether some values have no number with a fraction or an exponent. -/
def Value.areWhole : List Value → Bool
  | [] => true
  | v :: rest => v.isWhole && Value.areWhole rest

/-- Whether the values of some fields have no number with a fraction or an exponent. -/
def Value.fieldsWhole : List (String × Value) → Bool
  | [] => true
  | (_, v) :: rest => v.isWhole && Value.fieldsWhole rest

end

@[simp] theorem Value.isWhole_text (s : String) : (Value.text s).isWhole = true := rfl

@[simp] theorem Value.isWhole_int (n : Int) : (Value.int n).isWhole = true := rfl

theorem Value.isWhole_ofOption {α : Type} (f : α → Value) (o : Option α) :
    (Value.ofOption f o).isWhole = o.all fun a => (f a).isWhole := by
  cases o <;> rfl

/-- Whether a field that is printed as it is, `g`, stands for another one, `f`. -/
def PrintedFor (f g : String × Value) : Prop := g.1 = f.1 ∧ Spells f.2 g.2.compact

/-- Putting a field where it belongs by its key keeps what they stand for, in another order. -/
theorem exists_perm_insertField {f g : String × Value} (h : PrintedFor f g)
    {fs gs : List (String × Value)} (hs : List.Forall₂ PrintedFor fs gs) :
    ∃ ordered, ordered.Perm (f :: fs) ∧
      List.Forall₂ PrintedFor ordered (Value.insertField g gs) := by
  induction hs with
  | nil => exact ⟨[f], .refl _, .cons h .nil⟩
  | @cons f' g' fs gs h' hs ih =>
    obtain ⟨ordered, hperm, hordered⟩ := ih
    rw [Value.insertField]
    split
    · exact ⟨f :: f' :: fs, .refl _, .cons h (.cons h' hs)⟩
    · exact ⟨f' :: ordered, (hperm.cons f').trans (.swap f f' fs), .cons h' hordered⟩

theorem spellsFields_of_printedFor {fs gs : List (String × Value)}
    (h : List.Forall₂ PrintedFor fs gs) :
    SpellsFields fs ([','].intercalate (Value.compactFields gs)) := by
  induction h with
  | nil => exact .nil
  | @cons f g fs gs hprinted hrest ih =>
    obtain ⟨hkey, hvalue⟩ := hprinted
    have hname : SpellsText f.1 (quoted g.1) := hkey ▸ spellsText_quoted g.1
    cases hrest with
    | nil => simpa [Value.compactFields] using SpellsFields.single hname hvalue
    | cons => simpa [Value.compactFields] using SpellsFields.cons hname hvalue ih

mutual

/-- A value that is sorted and printed in one line stands for itself. -/
theorem spells_compact_sorted : ∀ v : Value, v.isWhole = true → Spells v v.sorted.compact
  | .null, _ => .null
  | .bool true, _ => .bool true
  | .bool false, _ => .bool false
  | .int n, _ => (toString_int_toList n ▸ .int n : Spells (.int n) (decimalInt n))
  | .number _, h => by cases h
  | .text s, _ => .text (spellsText_quoted s)
  | .list items, h => .list (spellsItems_compact_sorted items h)
  | .object fields, h => by
      obtain ⟨ordered, hperm, hprinted⟩ := exists_perm_sortedFields fields h
      exact .object hperm (spellsFields_of_printedFor hprinted)

theorem spellsItems_compact_sorted : ∀ items : List Value, Value.areWhole items = true →
    SpellsItems items ([','].intercalate (Value.compactItems (Value.sortedItems items)))
  | [], _ => .nil
  | [v], h => by
      have hv := spells_compact_sorted v (Bool.and_eq_true_iff.1 h).1
      simpa [Value.sortedItems, Value.compactItems] using SpellsItems.single hv
  | v :: w :: rest, h => by
      obtain ⟨hv, hrest⟩ := Bool.and_eq_true_iff.1 h
      have hothers := spellsItems_compact_sorted (w :: rest) hrest
      simpa [Value.sortedItems, Value.compactItems] using
        SpellsItems.cons (spells_compact_sorted v hv) hothers

theorem exists_perm_sortedFields : ∀ fields : List (String × Value),
    Value.fieldsWhole fields = true →
      ∃ ordered, ordered.Perm fields ∧ List.Forall₂ PrintedFor ordered (Value.sortedFields fields)
  | [], _ => ⟨[], .refl _, .nil⟩
  | (key, v) :: rest, h => by
      obtain ⟨hv, hrest⟩ := Bool.and_eq_true_iff.1 h
      obtain ⟨ordered, hperm, hothers⟩ := exists_perm_sortedFields rest hrest
      have hfirst : PrintedFor (key, v) (key, v.sorted) := ⟨rfl, spells_compact_sorted v hv⟩
      obtain ⟨all, hall, hprinted⟩ := exists_perm_insertField hfirst hothers
      exact ⟨all, hall.trans (hperm.cons _), hprinted⟩

end

end CacheWarden.Json
