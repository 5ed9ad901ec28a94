import CacheWarden.Properties
import Mathlib

/-!
# Escaping keys and values

A text can be written so that it reads back as it is, wherever it stands in a property file: each
character with a meaning of its own gets a backslash in front. Main statement:
`decode_escape_append`, decoding gives the characters back, and those that had a meaning of their
own have lost it.
-/

namespace CacheWarden.Properties

open Text

/-- Whether a character has a meaning of its own in a property file. -/
def isSpecial (c : Char) : Bool :=
  c == '\\' || c == '=' || c == ':' || c == '#' || c == '!' || isBlank c

/-- What stands for a special character behind its backslash. -/
def escapeMark : Char → Char
  | '\n' => 'n'
  | '\r' => 'r'
  | '\t' => 't'
  | '\x0c' => 'f'
  | c => c

/-- A character as it is written in a key or a value. -/
def escapeChar (c : Char) : List Char := if isSpecial c then ['\\', escapeMark c] else [c]

/-- A key or a value as it is written. -/
def escape (s : List Char) : List Char := s.flatMap escapeChar

/-- The unit that comes of a character once it was escaped. -/
def unitOf (c : Char) : PropertyUnit := if isSpecial c then .escaped c else .plain c

theorem escape_cons (c : Char) (s : List Char) : escape (c :: s) = escapeChar c ++ escape s := rfl

/-- A letter is never special, whatever it stands for behind a backslash. -/
theorem ne_of_isSpecial {c d : Char} (hc : isSpecial c = true) (hd : isSpecial d = false) :
    c ≠ d := by
  rintro rfl
  rw [hc] at hd
  cases hd

theorem escapeMark_ne_u {c : Char} (h : isSpecial c = true) : escapeMark c ≠ 'u' := by
  have hc : c ≠ 'u' := ne_of_isSpecial h (by decide)
  unfold escapeMark
  split
  · decide
  · decide
  · decide
  · decide
  · exact hc

theorem escapeLetter_escapeMark {c : Char} (h : isSpecial c = true) :
    escapeLetter (escapeMark c) = c := by
  have hn : c ≠ 'n' := ne_of_isSpecial h (by decide)
  have hr : c ≠ 'r' := ne_of_isSpecial h (by decide)
  have ht : c ≠ 't' := ne_of_isSpecial h (by decide)
  have hf : c ≠ 'f' := ne_of_isSpecial h (by decide)
  unfold escapeMark
  split
  · rfl
  · rfl
  · rfl
  · rfl
  · unfold escapeLetter
    split
    · exact absurd rfl ht
    · exact absurd rfl hn
    · exact absurd rfl hr
    · exact absurd rfl hf
    · rfl

theorem decode_plain {c : Char} (h : c ≠ '\\') (r : List Char) :
    decode (c :: r) = .plain c :: decode r := by
  rw [decode]
  · rintro _ rfl
    exact absurd rfl h
  · rintro _ _ rfl
    exact absurd rfl h
  · rintro rfl
    exact absurd rfl h

theorem decode_escaped {c : Char} (h : c ≠ 'u') (r : List Char) :
    decode ('\\' :: c :: r) = .escaped (escapeLetter c) :: decode r := by
  rw [decode]
  exact h

/-- Each escaped character is one unit, whatever follows. -/
theorem decode_escapeChar_append (c : Char) (r : List Char) :
    decode (escapeChar c ++ r) = unitOf c :: decode r := by
  unfold escapeChar unitOf
  split
  · rename_i h
    have hmark := decode_escaped (escapeMark_ne_u h) r
    rw [escapeLetter_escapeMark h] at hmark
    exact hmark
  · rename_i h
    have hc : c ≠ '\\' := by
      rintro rfl
      exact h (by decide)
    exact decode_plain hc r

theorem decode_escape_append (s r : List Char) :
    decode (escape s ++ r) = s.map unitOf ++ decode r := by
  induction s with
  | nil => rfl
  | cons c s ih =>
    rw [escape_cons, List.append_assoc, decode_escapeChar_append, ih]
    rfl

/-! ### What escaped units are -/

@[simp] theorem char_unitOf (c : Char) : (unitOf c).char = c := by
  unfold unitOf
  split <;> rfl

theorem isSeparator_unitOf (c : Char) : (unitOf c).isSeparator = false := by
  unfold unitOf
  split
  · rfl
  · rename_i h
    rw [Bool.not_eq_true] at h
    simp only [isSpecial, Bool.or_eq_false_iff] at h
    obtain ⟨⟨⟨⟨⟨-, he⟩, hc⟩, -⟩, -⟩, hb⟩ := h
    show (c == '=' || c == ':' || Text.isBlank c) = false
    rw [he, hc, hb]
    rfl

theorem isBlank_unitOf (c : Char) : (unitOf c).isBlank = false :=
  (Bool.or_eq_false_iff.1 (isSeparator_unitOf c)).2

theorem isAssignment_unitOf (c : Char) : (unitOf c).isAssignment = false :=
  (Bool.or_eq_false_iff.1 (isSeparator_unitOf c)).1

/-! ### What escaped texts hold -/

/-- An escaped text has no line ends, neither as they are nor protected. -/
theorem not_lineEnd_of_mem_escape {c : Char} {s : List Char} (h : c ∈ escape s) :
    c ≠ '\n' ∧ c ≠ '\r' := by
  obtain ⟨d, -, hc⟩ := List.mem_flatMap.1 h
  unfold escapeChar at hc
  split at hc
  · rcases List.mem_cons.1 hc with rfl | hc
    · decide
    · rw [List.mem_singleton.1 hc]
      unfold escapeMark
      split
      · decide
      · decide
      · decide
      · decide
      · rename_i hn hr _ _
        exact ⟨hn, hr⟩
  · rename_i hd
    rw [List.mem_singleton.1 hc]
    constructor
    · rintro rfl
      exact hd (by decide)
    · rintro rfl
      exact hd (by decide)

end CacheWarden.Properties
