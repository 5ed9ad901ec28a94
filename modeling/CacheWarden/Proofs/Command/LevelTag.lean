import CacheWarden.Command.Operation
import CacheWarden.Proofs.Pattern.Accepts
import CacheWarden.Proofs.Pattern.Message
import CacheWarden.Proofs.Text.CharProperty
import CacheWarden.Proofs.Text.Occurrence
import Mathlib

/-!
# The tag of a level

The pattern for the rows of a listing asks for a tag: `Java` and digits behind it, with no other
character of a word on either side. Main statements: `parse_listedCachePattern`, the pattern is a
regular expression; `isMatch_levelTag_iff`, it matches the lines that have such a tag, and
`hasLevelTag_append_cons_iff`, a tag does not reach over a blank.
-/

namespace CacheWarden

open Pattern Text

/-! ### Reading the pattern -/

/-- The pattern, as it is written. -/
def writtenTag : Expression :=
  .sequence [.place (.boundary .edge), .char ⟨'J', false⟩, .char ⟨'a', false⟩, .char ⟨'v', false⟩,
    .char ⟨'a', false⟩, .repeated (.shorthand .digit false) 1 none, .place (.boundary .edge)]

/-- Whether an expression is the pattern. -/
def isWrittenTag : Expression → Bool
  | .sequence [.place (.boundary .edge), .char ⟨'J', false⟩, .char ⟨'a', false⟩,
      .char ⟨'v', false⟩, .char ⟨'a', false⟩, .repeated (.shorthand .digit false) 1 none,
      .place (.boundary .edge)] => true
  | _ => false

/-- A tag, where these are the characters of words and the digits. -/
def tagOf (word digit : CharSet) : Regex :=
  let edge := Regex.assert (.boundary word .edge)
  .seqAll [edge, .chars (CharSet.single 'J'), .chars (CharSet.single 'a'),
    .chars (CharSet.single 'v'), .chars (CharSet.single 'a'), .repeated (.chars digit) 1 none, edge]

/-- The pattern, as a regular expression. -/
def levelTag : Regex := tagOf CharProperty.word CharProperty.digit

theorem eq_of_isWrittenTag {e : Expression} (h : isWrittenTag e = true) : e = writtenTag := by
  unfold isWrittenTag at h
  split at h
  · rfl
  · cases h

/-- The text is read as a whole, and only its result is compared. -/
theorem expression_listedCachePattern :
    Expression.read? listedCachePattern.toList = some writtenTag := by
  have hread : (Expression.read? listedCachePattern.toList).any isWrittenTag = true := by
    decide +kernel
  obtain ⟨e, he, htag⟩ := Option.any_eq_true _ _ |>.1 hread
  rw [he, eq_of_isWrittenTag htag]

theorem settings_word : Settings.word {} = CharProperty.word := by
  rw [Settings.word, if_pos rfl]

theorem settings_digit : Settings.shorthand {} .digit = CharProperty.digit := by
  rw [Settings.shorthand, if_pos rfl]

theorem meaning?_writtenTag : writtenTag.meaning? {} = some (levelTag, {}) := by
  have hplace : Settings.place {} (.boundary .edge) = .boundary CharProperty.word .edge := by
    rw [Settings.place, settings_word]
  have hchar : ∀ c, Settings.char? {} ⟨c, false⟩ = some (CharSet.single c) := fun c => rfl
  have hdigit : Settings.negate? {} false (Settings.shorthand {} .digit) =
      some CharProperty.digit := by
    rw [settings_digit]
    exact if_pos rfl
  simp only [writtenTag, Expression.meaning?, Expression.meanings?, hplace, hchar, hdigit,
    Option.map_some, Option.bind_some]
  rw [levelTag, tagOf]
  rfl

theorem sizeOfSet_le (s : CharSet) : Regex.sizeOfSet s ≤ 128 + 24 * s.length := by
  unfold Regex.sizeOfSet
  split
  · exact Nat.le_add_right_of_le (by decide)
  · split_ifs <;> simp
  · split_ifs <;> omega

theorem sizeOfSet_single {c : Char} (h : c.toNat < 0x80) :
    Regex.sizeOfSet (CharSet.single c) = 32 := by
  simp [CharSet.single, Regex.sizeOfSet, h]

theorem size_tagOf (word : CharSet) {digit : CharSet} (h : digit.length ≤ 10001) :
    (tagOf word digit).size ≤ Regex.sizeLimit := by
  have hdigits := sizeOfSet_le digit
  have hJ : Regex.sizeOfSet (CharSet.single 'J') = 32 := sizeOfSet_single (by decide)
  have ha : Regex.sizeOfSet (CharSet.single 'a') = 32 := sizeOfSet_single (by decide)
  have hv : Regex.sizeOfSet (CharSet.single 'v') = 32 := sizeOfSet_single (by decide)
  simp only [tagOf, Regex.seqAll, Regex.size, Regex.sizeLimit, hJ, ha, hv, Nat.max_self,
    Nat.one_mul]
  omega

theorem size_levelTag : levelTag.size ≤ Regex.sizeLimit := by
  rw [levelTag]
  exact size_tagOf _ CharProperty.length_digit_le

theorem read?_listedCachePattern : Regex.read? listedCachePattern.toList = some levelTag := by
  rw [Regex.read?, expression_listedCachePattern, Option.bind_some, meaning?_writtenTag,
    Option.bind_some]
  exact if_pos size_levelTag

theorem parse_listedCachePattern :
    MessagePattern.parse listedCachePattern = .ok (.regex listedCachePattern levelTag) := by
  have hsign : MessagePattern.HasSign listedCachePattern := ⟨'+', by decide, by decide⟩
  rw [MessagePattern.parse_of_sign hsign, read?_listedCachePattern]

/-! ### What the pattern matches -/

/-- Whether a line has a tag of a level: `Java` and digits, which no other character of a word
    touches. -/
def HasLevelTag (line : List Char) : Prop :=
  ∃ before digits after, line = before ++ ("Java".toList ++ digits) ++ after ∧ digits ≠ [] ∧
    (∀ c ∈ digits, CharProperty.digit.has c.toNat = true) ∧
    (∀ c ∈ before.getLast?, CharProperty.word.has c.toNat = false) ∧
    ∀ c ∈ after.head?, CharProperty.word.has c.toNat = false

section

variable {word digit : CharSet}

/-- An edge in front of a character of a word. -/
theorem holds_edge_before {c : Char} (hc : word.has c.toNat = true) (before : Option Char) :
    Assertion.holds before (some c) (.boundary word .edge) = true ↔
      ∀ d ∈ before, word.has d.toNat = false := by
  simp only [Assertion.holds, Option.any_some, hc]
  cases before <;> simp

/-- An edge behind a character of a word. -/
theorem holds_edge_after {c : Char} (hc : word.has c.toNat = true) (after : Option Char) :
    Assertion.holds (some c) after (.boundary word .edge) = true ↔
      ∀ d ∈ after, word.has d.toNat = false := by
  simp only [Assertion.holds, Option.any_some, hc]
  cases after <;> simp

/-- Digits up to an edge. -/
theorem accepts_digits_edge (hdigits : ∀ n, digit.has n = true → word.has n = true)
    {before s after : List Char} :
    (Regex.seq (.repeated (.chars digit) 1 none) (.assert (.boundary word .edge))).Accepts
        before s after ↔
      s ≠ [] ∧ (∀ c ∈ s, digit.has c.toNat = true) ∧
        ∀ c ∈ after.head?, word.has c.toNat = false := by
  have hedge : s ≠ [] → (∀ c ∈ s, digit.has c.toNat = true) →
      (Assertion.holds (before ++ s).getLast? after.head? (.boundary word .edge) = true ↔
        ∀ c ∈ after.head?, word.has c.toNat = false) := by
    intro hne hall
    have hword := hdigits _ (hall _ (List.getLast_mem hne))
    rw [List.getLast?_append, List.getLast?_eq_some_getLast hne, Option.some_or,
      holds_edge_after hword]
  constructor
  · intro h
    obtain ⟨u, v, rfl, hu, rfl, hv⟩ := h
    rw [List.append_nil] at hedge ⊢
    obtain ⟨hne, hall⟩ := (Regex.accepts_some_chars digit).1 hu
    exact ⟨hne, hall, (hedge hne hall).1 hv⟩
  · intro h
    obtain ⟨hne, hall, hafter⟩ := h
    refine ⟨s, [], (List.append_nil s).symm, ?_, rfl, (hedge hne hall).2 hafter⟩
    exact (Regex.accepts_some_chars digit).2 ⟨hne, hall⟩

theorem accepts_tagOf_iff (hJ : word.has 'J'.toNat = true)
    (hdigits : ∀ n, digit.has n = true → word.has n = true) {before s after : List Char} :
    (tagOf word digit).Accepts before s after ↔
      ∃ digits, s = "Java".toList ++ digits ∧ digits ≠ [] ∧
        (∀ c ∈ digits, digit.has c.toNat = true) ∧
        (∀ c ∈ before.getLast?, word.has c.toNat = false) ∧
        ∀ c ∈ after.head?, word.has c.toNat = false := by
  simp only [tagOf, Regex.seqAll, Regex.accepts_assert_seq, Regex.accepts_single_seq,
    accepts_digits_edge hdigits]
  constructor
  · intro h
    obtain ⟨hedge, _, rfl, _, rfl, _, rfl, digits, rfl, hne, hall, hafter⟩ := h
    exact ⟨digits, rfl, hne, hall, (holds_edge_before hJ _).1 hedge, hafter⟩
  · intro h
    obtain ⟨digits, rfl, hne, hall, hbefore, hafter⟩ := h
    refine ⟨(holds_edge_before hJ _).2 hbefore, _, rfl, _, rfl, _, rfl, digits, rfl, ?_⟩
    exact ⟨hne, hall, hafter⟩

end

theorem word_J : CharProperty.word.has 'J'.toNat = true :=
  CharProperty.word_capital (by decide) (by decide)

theorem isMatch_levelTag_iff (line : List Char) :
    levelTag.isMatch line = true ↔ HasLevelTag line := by
  rw [Regex.isMatch_iff, levelTag]
  simp only [accepts_tagOf_iff word_J fun _ => CharProperty.word_of_digit]
  constructor
  · intro h
    obtain ⟨before, _, after, hline, digits, rfl, hne, hall, hbefore, hafter⟩ := h
    exact ⟨before, digits, after, hline, hne, hall, hbefore, hafter⟩
  · intro h
    obtain ⟨before, digits, after, hline, hne, hall, hbefore, hafter⟩ := h
    exact ⟨before, _, after, hline, digits, rfl, hne, hall, hbefore, hafter⟩

/-! ### Where a tag can stand -/

section

variable {a b : List Char} {c : Char}

theorem not_hasLevelTag_of_not_mem {line : List Char} (h : 'J' ∉ line) : ¬ HasLevelTag line := by
  intro htag
  obtain ⟨before, digits, after, rfl, -⟩ := htag
  have hJ : 'J' ∈ "Java".toList ++ digits := List.mem_append_left digits (by decide)
  exact h (List.mem_append_left after (List.mem_append_right before hJ))

theorem word_of_mem_tag {digits : List Char}
    (hdigits : ∀ d ∈ digits, CharProperty.digit.has d.toNat = true) {d : Char}
    (hd : d ∈ "Java".toList ++ digits) : CharProperty.word.has d.toNat = true := by
  have hsmall : ∀ c ∈ ['a', 'v', 'a'], CharProperty.word.has c.toNat = true := by
    simp only [List.forall_mem_cons]
    refine ⟨?_, ?_, ?_, List.forall_mem_nil _⟩ <;>
      exact CharProperty.word_small (by decide) (by decide)
  rcases List.mem_append.1 hd with hd | hd
  · rcases List.mem_cons.1 hd with rfl | hd
    · exact word_J
    · exact hsmall d hd
  · exact CharProperty.word_of_digit (hdigits d hd)

theorem hasLevelTag_append_left (hc : CharProperty.word.has c.toNat = false) (b : List Char)
    (h : HasLevelTag a) : HasLevelTag (a ++ c :: b) := by
  obtain ⟨before, digits, after, rfl, hne, hdigits, hbefore, hafter⟩ := h
  refine ⟨before, digits, after ++ c :: b, by simp, hne, hdigits, hbefore, ?_⟩
  intro d hd
  cases after with
  | nil =>
    have hsame : c = d := by simpa using hd
    rwa [← hsame]
  | cons e after => exact hafter d hd

theorem hasLevelTag_append_right (hc : CharProperty.word.has c.toNat = false) (a : List Char)
    (h : HasLevelTag b) : HasLevelTag (a ++ c :: b) := by
  obtain ⟨before, digits, after, rfl, hne, hdigits, hbefore, hafter⟩ := h
  refine ⟨a ++ c :: before, digits, after, by simp, hne, hdigits, ?_, hafter⟩
  intro d hd
  rw [List.getLast?_append, List.getLast?_cons] at hd
  cases hlast : before.getLast? with
  | none =>
    have hsame : c = d := by simpa [hlast] using hd
    rwa [← hsame]
  | some e =>
    have hsame : e = d := by simpa [hlast] using hd
    exact hbefore d (hsame ▸ hlast)

/-- A tag stands on one side of a character that belongs to no word. -/
theorem hasLevelTag_append_cons_iff (hc : CharProperty.word.has c.toNat = false) :
    HasLevelTag (a ++ c :: b) ↔ HasLevelTag a ∨ HasLevelTag b := by
  constructor
  · intro h
    obtain ⟨before, digits, after, hline, hne, hdigits, hbefore, hafter⟩ := h
    have hout : c ∉ "Java".toList ++ digits := by
      intro hmem
      rw [word_of_mem_tag hdigits hmem] at hc
      cases hc
    rw [List.append_assoc before] at hline
    rcases eq_append_or_of_not_mem (by simp) hout hline with ⟨u, ha, rfl⟩ | ⟨u, rfl, hb⟩
    · left
      refine ⟨before, digits, u, by rw [ha, List.append_assoc before], hne, hdigits, hbefore, ?_⟩
      intro d hd
      apply hafter
      rw [List.head?_append, hd, Option.some_or]
      rfl
    · right
      refine ⟨u, digits, after, by rw [hb, List.append_assoc u], hne, hdigits, ?_, hafter⟩
      intro d hd
      apply hbefore
      rw [List.getLast?_append, List.getLast?_cons, hd]
      rfl
  · intro h
    rcases h with h | h
    · exact hasLevelTag_append_left hc b h
    · exact hasLevelTag_append_right hc a h

end

end CacheWarden
