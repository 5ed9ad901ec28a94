import CacheWarden.Proofs.Text.Split
import CacheWarden.Proofs.Text.Trim
import CacheWarden.Workload
import Mathlib

/-!
# Lists of names that are written and read back

The delimiter of a list shares its character with the names: hyphens may stand in front of a name
and within it, one at a time. As the cuts are made from the left, it is only a hyphen at the end of
a name that could move one. Main statements: `usableNames_pieces`, what is read from a list are the
names that were written; `ofNames_eq_iff`, a workload is settled by which names there are; and
`parse_listed_names`.
-/

namespace CacheWarden.Workload

open Text

/-- A name that a list can hold. -/
structure ListedName where
  text : String
  ne_empty : text ≠ ""
  trimmed : trim text.toList = text.toList
  uncut : ¬ delimiter.toList <:+: text.toList
  last_ne : text.toList.getLast? ≠ some '-'

/-- Blanks beside a delimiter. -/
structure Padding where
  chars : List Char
  blank : ∀ c ∈ chars, isBlank c = true

/-- What stands between two delimiters: a name, or nothing but blanks. -/
inductive Segment where
  | empty (blanks : Padding)
  | named (before : Padding) (name : ListedName) (after : Padding)

namespace Segment

/-- The text of a segment. -/
def chars : Segment → List Char
  | empty blanks => blanks.chars
  | named before name after => before.chars ++ (name.text.toList ++ after.chars)

/-- The name in a segment. -/
def name? : Segment → Option String
  | empty _ => none
  | named _ name _ => some name.text

end Segment

/-- The text of a list. -/
def listText (segments : List Segment) : String :=
  String.ofList (delimiter.toList.intercalate (segments.map Segment.chars))

/-- The names in a list, in their order and as often as they stand there. -/
def writtenNames (segments : List Segment) : List String := segments.filterMap Segment.name?

/-! ### No delimiter begins within a segment -/

theorem Padding.hyphen_not_mem (p : Padding) : '-' ∉ p.chars := by
  intro h
  have hblank := p.blank '-' h
  cases hblank

theorem Padding.uncut (p : Padding) : ¬ ['-', '-'] <:+: p.chars ++ ['-'] := by
  rw [pair_infix_append]
  intro h
  rcases h with h | h | ⟨h, -⟩
  · exact p.hyphen_not_mem (h.subset List.mem_cons_self)
  · exact absurd h.length_le (by decide)
  · exact p.hyphen_not_mem (List.mem_of_mem_getLast? h)

theorem Segment.uncut (s : Segment) : ¬ ['-', '-'] <:+: s.chars ++ ['-'] := by
  cases s with
  | empty blanks => exact blanks.uncut
  | named before name after =>
    rw [chars, List.append_assoc, List.append_assoc, pair_infix_append, pair_infix_append]
    intro h
    rcases h with h | (h | h | ⟨h, -⟩) | ⟨h, -⟩
    · exact before.hyphen_not_mem (h.subset List.mem_cons_self)
    · exact name.uncut h
    · exact after.uncut h
    · exact name.last_ne h
    · exact before.hyphen_not_mem (List.mem_of_mem_getLast? h)

/-! ### What is read from a list -/

theorem Segment.trim_chars (s : Segment) :
    String.ofList (trim s.chars) = s.name?.getD "" := by
  cases s with
  | empty blanks =>
    rw [chars, trim_eq_nil blanks.blank]
    rfl
  | named before name after =>
    have hhead := not_isBlank_of_head?_trim name.text.toList
    have hlast := not_isBlank_of_getLast?_trim name.text.toList
    rw [name.trimmed] at hhead hlast
    rw [chars, trim_around before.blank after.blank hhead hlast, String.ofList_toList]
    rfl

theorem usableNames_pieces (segments : List Segment) :
    usableNames ((segments.map Segment.chars).map String.ofList) = writtenNames segments := by
  induction segments with
  | nil => rfl
  | cons s segments ih =>
    simp only [usableNames, writtenNames, List.map_cons, String.toList_ofList] at ih ⊢
    rw [s.trim_chars]
    cases s with
    | empty blanks => exact ih
    | named before name after =>
      have hkept : (Segment.named before name after).name?.getD "" ≠ "" := name.ne_empty
      rw [List.filter_cons_of_pos (by simpa using hkept), ih]
      rfl

theorem usableNames_cut (segments : List Segment) :
    usableNames ((splitAt delimiter.toList (listText segments).toList).map String.ofList) =
      writtenNames segments := by
  rw [listText, String.toList_ofList]
  by_cases hne : segments.map Segment.chars = []
  · rw [hne, List.map_eq_nil_iff.1 hne]
    rfl
  · have hcut : splitAt delimiter.toList
        (delimiter.toList.intercalate (segments.map Segment.chars)) =
          segments.map Segment.chars := by
      apply splitAt_intercalate (by decide) hne
      intro p hp
      obtain ⟨s, -, rfl⟩ := List.mem_map.1 hp
      exact s.uncut
    rw [hcut, usableNames_pieces]

/-! ### A workload is settled by its names -/

theorem pairwise_insertName {name : String} {names : List String}
    (h : names.Pairwise (· < ·)) : (insertName name names).Pairwise (· < ·) := by
  induction names with
  | nil => exact List.pairwise_singleton _ _
  | cons n rest ih =>
    obtain ⟨hn, hrest⟩ := List.pairwise_cons.1 h
    unfold insertName
    split
    · exact h
    · rename_i hne
      split
      · rename_i hlt
        refine List.pairwise_cons.2 ⟨?_, h⟩
        intro m hm
        rcases List.mem_cons.1 hm with rfl | hm
        · exact hlt
        · exact hlt.trans (hn m hm)
      · rename_i hnot
        have hbefore : n < name := lt_of_le_of_ne (not_lt.1 hnot) (Ne.symm hne)
        refine List.pairwise_cons.2 ⟨?_, ih hrest⟩
        intro m hm
        rcases mem_insertName.1 hm with rfl | hm
        · exact hbefore
        · exact hn m hm

theorem pairwise_ofNames (texts : List String) : (ofNames texts).names.Pairwise (· < ·) := by
  unfold ofNames
  induction usableNames texts with
  | nil => exact List.Pairwise.nil
  | cons n rest ih => exact pairwise_insertName ih

theorem ofNames_eq_iff {texts texts' : List String} :
    ofNames texts = ofNames texts' ↔ ∀ n, n ∈ usableNames texts ↔ n ∈ usableNames texts' := by
  constructor
  · intro h n
    rw [← mem_ofNames, h, mem_ofNames]
  · intro h
    have hnames : (ofNames texts).names = (ofNames texts').names := by
      apply (pairwise_ofNames texts).eq_of_mem_iff (pairwise_ofNames texts')
      intro n
      rw [mem_ofNames, mem_ofNames, h]
    exact congrArg Workload.mk hnames

/-! ### Written and read back -/

/-- A name without blanks around it. -/
def ListedName.segment (name : ListedName) : Segment := .named ⟨[], by simp⟩ name ⟨[], by simp⟩

theorem listText_plain (names : List ListedName) :
    listText (names.map ListedName.segment) =
      delimiter.intercalate (names.map ListedName.text) := by
  apply String.toList_inj.1
  rw [listText, String.toList_ofList, String.toList_intercalate, List.map_map, List.map_map]
  congr 2
  funext name
  exact List.append_nil _

theorem writtenNames_plain (names : List ListedName) :
    writtenNames (names.map ListedName.segment) = names.map ListedName.text := by
  rw [writtenNames, List.filterMap_map, ← List.filterMap_eq_map]
  rfl

/-- For all names that a list can hold: joined by the delimiter, they are read back as the workload
    of exactly these names, and so is every other list of the same names, whatever their order,
    their repetitions, the blanks around them and the empty segments between them. -/
theorem parse_listed_names (names : List ListedName) :
    let w := parse (delimiter.intercalate (names.map ListedName.text))
    (∀ n, w.contains n = true ↔ n ∈ names.map ListedName.text) ∧
      ∀ segments : List Segment,
        (∀ n, n ∈ writtenNames segments ↔ n ∈ names.map ListedName.text) →
          parse (listText segments) = w := by
  intro w
  have hw : w = parse (listText (names.map ListedName.segment)) := by
    rw [listText_plain]
  constructor
  · intro n
    rw [contains, List.contains_iff_mem, hw, parse, mem_ofNames, usableNames_cut,
      writtenNames_plain]
  · intro segments hsame
    rw [hw, parse, parse, ofNames_eq_iff]
    intro n
    rw [usableNames_cut, usableNames_cut, writtenNames_plain, hsame]

/-- Of a name that ends in a hyphen, this hyphen goes over to the next name. -/
example : parse (delimiter.intercalate ["a-", "b"]) = ofNames ["a", "-b"] := by
  decide +kernel

/-- Hyphens in front of a name and within it, a wide blank, a repetition and empty segments. -/
theorem parse_hyphenated_names :
    let w := parse (delimiter.intercalate ["a-b", "-b"])
    (∀ n, w.contains n = true ↔ n ∈ ["a-b", "-b"]) ∧
      parse "\u3000-b-- -- a-b ---b--" = w := by
  let first : ListedName := ⟨"a-b", by decide, by decide, by decide, by decide⟩
  let second : ListedName := ⟨"-b", by decide, by decide, by decide, by decide⟩
  let none : Padding := ⟨[], List.forall_mem_nil _⟩
  let space : Padding := ⟨[' '], List.forall_mem_singleton.2 (by decide)⟩
  let wide : Padding := ⟨['\u3000'], List.forall_mem_singleton.2 (by decide)⟩
  let segments : List Segment :=
    [.named wide second none, .empty space, .named space first space, .named none second none,
      .empty none]
  have htext : listText segments = "\u3000-b-- -- a-b ---b--" := by decide +kernel
  obtain ⟨hnames, hother⟩ := parse_listed_names [first, second]
  refine ⟨hnames, htext ▸ hother segments ?_⟩
  intro n
  have hwritten : writtenNames segments = ["-b", "a-b", "-b"] := rfl
  rw [hwritten]
  simp only [List.map_cons, List.map_nil, List.mem_cons, List.not_mem_nil, or_false]
  tauto

end CacheWarden.Workload
