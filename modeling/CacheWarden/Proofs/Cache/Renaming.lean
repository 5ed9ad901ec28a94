import CacheWarden.Proofs.Cache.Reading
import CacheWarden.Proofs.Text.Lines
import Mathlib

/-!
# Giving a row another name

Two texts that differ only in the name of one row are read alike, line by line. Only the cache of
that row can differ, and beside its name only in whether it counts as corrupt, because the name is
searched for that word like every other column. Main statement: `caches_renamed`, what changes and
when nothing but the name does.
-/

namespace CacheWarden.Listing

open Text

/-- A name that a row can have. -/
structure RowName where
  chars : List Char
  word : IsWord chars
  unlikeMessage : ¬ "JVMSHRC".toList <+: chars

/-- A name as descriptors have it. -/
def RowName.text (n : RowName) : String := String.ofList n.chars

/-- A text around the name of a row: what stands before its line, and on the line before and behind
    the name. -/
structure NamePlace where
  front : List Char
  ended : Ended front
  indent : List Char
  indented : ∀ c ∈ indent, isBlank c = true ∧ c ≠ '\n'
  back : List Char
  parted : ∀ c ∈ back.head?, isBlank c = true
  /-- The next column is a level, as in every row. -/
  levelled : ∃ level, (words (firstLine back))[0]? = some level ∧ "Java".toList <+: level

namespace NamePlace

variable (p : NamePlace) (n : RowName)

/-- The text with a name at its place. -/
def text : String := String.ofList (p.front ++ (p.indent ++ (n.chars ++ p.back)))

/-- The lines in front of the row. -/
def before : List (List Char) := lines p.front

/-- What stands behind the name on its line. -/
def rest : List Char := firstLine p.back

/-- The line with the name. -/
def line : List Char := p.indent ++ (n.chars ++ p.rest)

/-- How many caches are listed in front of the row. -/
def index : Nat := (listed p.before).length

/-- Whether the row is that of a cache: it stands in a section, and its fourth column names a
    kind. -/
def IsListed : Prop :=
  openSection? p.before ≠ none ∧ ∃ kind : Persistence, (words p.rest)[2]? = some kind.name.toList

/-- Whether a column other than the name speaks of corruption. -/
def othersTellCorrupt : Bool := (words p.rest).any tellsCorrupt

/-! ### The line with the name -/

theorem lines_text : lines (p.text n).toList = p.before ++ p.line n :: (lines p.back).tail := by
  have hlast : ∀ c ∈ (p.indent ++ n.chars).getLast?, isBlank c = false := by
    intro c hc
    rw [List.getLast?_append_of_ne_nil _ n.word.ne_nil] at hc
    exact n.word.unbroken c (List.mem_of_mem_getLast? hc)
  have hline : IsLine (p.indent ++ n.chars) := by
    constructor
    · intro h
      rcases List.mem_append.1 h with h | h
      · exact (p.indented _ h).2 rfl
      · have hblank := n.word.unbroken _ h
        cases hblank
    · intro h
      have hblank := hlast _ h
      cases hblank
  have hne : p.indent ++ n.chars ≠ [] := List.append_ne_nil_of_right_ne_nil _ n.word.ne_nil
  rw [text, String.toList_ofList, lines_append_of_ended p.ended, ← List.append_assoc p.indent,
    lines_append_of_isLine hline hne, List.append_assoc]
  rfl

theorem isBlank_of_head?_rest : ∀ c ∈ p.rest.head?, isBlank c = true :=
  fun c hc => p.parted c (head?_firstLine c hc)

theorem words_line : words (p.line n) = n.chars :: words p.rest := by
  rw [line, words_blanks_append fun c hc => (p.indented c hc).1,
    words_append_of_head n.word p.isBlank_of_head?_rest]

theorem startsLikeRow_line : StartsLikeRow (p.line n) := by
  obtain ⟨level, hlevel, hjava⟩ := p.levelled
  exact startsLikeRow_of_columns (by rw [p.words_line]; rfl) n.unlikeMessage
    (by rw [p.words_line]; exact hlevel) hjava

/-! ### The cache of the row -/

/-- The cache that the row gives under a name. -/
def own : Option Descriptor := (Line.read (Section.behind p.before) (p.line n)).cache?

/-- The caches that the lines behind the row give. -/
def behind : List Descriptor :=
  (readLines (Section.behind p.before) (lines p.back).tail).filterMap Line.cache?

/-- The lines around the row are read as if it were not there. -/
theorem caches_text :
    caches (p.text n) = listed p.before ++ ((p.own n).toList ++ p.behind) := by
  rw [caches_eq_listed, p.lines_text, listed_append_cons,
    behind_concat_of_startsLikeRow p.before (p.startsLikeRow_line n)]
  rfl

/-- Under another name the row gives the same cache, but for its name and for what the name adds to
    the question whether it is corrupt. -/
def renamed (d : Descriptor) : Descriptor :=
  { d with name := some n.text, corrupt := tellsCorrupt n.chars || p.othersTellCorrupt }

theorem own_eq_some_iff {d : Descriptor} :
    p.own n = some d ↔ ∃ compatible level mode, ∃ kind : Persistence, ∃ rest,
      openSection? p.before = some compatible ∧
        words p.rest = level :: mode :: kind.name.toList :: rest ∧
        d = cacheOf compatible (layerColumn p.before) n.chars level mode kind rest := by
  rw [own, cache?_eq_some_iff, read_eq_cache_iff]
  constructor
  · rintro ⟨compatible, hs, -, hr⟩
    obtain ⟨name, level, mode, kind, rest, hw, -, rfl⟩ := readRow_eq_some_iff.1 hr
    rw [words_trim, p.words_line, List.cons.injEq] at hw
    obtain ⟨rfl, hw⟩ := hw
    exact ⟨compatible, level, mode, kind, rest, hs, hw, rfl⟩
  · rintro ⟨compatible, level, mode, kind, rest, hs, hw, rfl⟩
    obtain ⟨level', hlevel, hjava⟩ := p.levelled
    obtain rfl : level = level' := by
      have hfirst : (words p.rest)[0]? = some level' := hlevel
      rw [hw] at hfirst
      exact Option.some.inj hfirst
    refine ⟨compatible, hs, p.startsLikeRow_line n, readRow_eq_some_iff.2 ?_⟩
    exact ⟨n.chars, level, mode, kind, rest, by rw [words_trim, p.words_line, hw], hjava, rfl⟩

theorem exists_own_iff : (∃ d, p.own n = some d) ↔ p.IsListed := by
  simp only [own_eq_some_iff]
  constructor
  · rintro ⟨d, compatible, level, mode, kind, rest, hs, hw, -⟩
    exact ⟨by rw [hs]; exact Option.some_ne_none _, kind, by rw [hw]; rfl⟩
  · rintro ⟨hs, kind, hkind⟩
    obtain ⟨compatible, hs⟩ := Option.ne_none_iff_exists'.1 hs
    match hw : words p.rest with
    | level :: mode :: column :: rest =>
      rw [hw] at hkind
      obtain rfl : column = kind.name.toList := Option.some.inj hkind
      exact ⟨_, compatible, level, mode, kind, rest, hs, rfl, rfl⟩
    | [] | [_] | [_, _] =>
      rw [hw] at hkind
      cases hkind

theorem corrupt_of_own {d : Descriptor} (h : p.own n = some d) :
    d.corrupt = (tellsCorrupt n.chars || p.othersTellCorrupt) := by
  obtain ⟨compatible, level, mode, kind, rest, -, hw, rfl⟩ := (p.own_eq_some_iff n).1 h
  rw [othersTellCorrupt, hw]
  rfl

theorem own_of_own {d : Descriptor} (h : p.own n = some d) (m : RowName) :
    p.own m = some (p.renamed m d) := by
  obtain ⟨compatible, level, mode, kind, rest, hs, hw, rfl⟩ := (p.own_eq_some_iff n).1 h
  refine (p.own_eq_some_iff m).2 ⟨compatible, level, mode, kind, rest, hs, hw, ?_⟩
  rw [renamed, othersTellCorrupt, hw]
  rfl

theorem renamed_eq_iff {d : Descriptor} :
    p.renamed n d = { d with name := some n.text } ↔
      (tellsCorrupt n.chars || p.othersTellCorrupt) = d.corrupt := by
  constructor
  · intro h
    exact congrArg Descriptor.corrupt h
  · intro h
    rw [renamed, h]

/-! ### All caches -/

theorem caches_text_of_own {d : Descriptor} (h : p.own n = some d) :
    caches (p.text n) = listed p.before ++ d :: p.behind := by
  rw [caches_text, h]
  rfl

end NamePlace

theorem modify_append_length (a b : List Descriptor) (d : Descriptor)
    (f : Descriptor → Descriptor) :
    (a ++ d :: b).modify a.length f = a ++ f d :: b :=
  List.modifyTailIdx_add _ 0 a (d :: b)

/-- Giving a row another name changes nothing in the caches of a text, unless the row is that of a
    cache. Then only this cache changes, in its name and in whether it counts as corrupt; and it
    changes in nothing but its name exactly if the two names agree about speaking of corruption or
    another column of the row speaks of it. -/
theorem caches_renamed (p : NamePlace) (old new : RowName) :
    (¬ p.IsListed → caches (p.text new) = caches (p.text old)) ∧
    (p.IsListed →
      caches (p.text new) = (caches (p.text old)).modify p.index (p.renamed new) ∧
      (caches (p.text new) =
          (caches (p.text old)).modify p.index (fun d => { d with name := some new.text }) ↔
        tellsCorrupt new.chars = tellsCorrupt old.chars ∨ p.othersTellCorrupt = true)) := by
  constructor
  · intro h
    have hnone : ∀ n, p.own n = none := by
      intro n
      rw [Option.eq_none_iff_forall_ne_some]
      exact fun d hd => h ((p.exists_own_iff n).1 ⟨d, hd⟩)
    rw [p.caches_text, p.caches_text, hnone, hnone]
  · intro h
    obtain ⟨d, hd⟩ := (p.exists_own_iff old).2 h
    have hnew : caches (p.text new) = listed p.before ++ p.renamed new d :: p.behind :=
      p.caches_text_of_own new (p.own_of_own old hd new)
    have hmodify : ∀ f : Descriptor → Descriptor,
        (caches (p.text old)).modify p.index f = listed p.before ++ f d :: p.behind := by
      intro f
      rw [p.caches_text_of_own old hd]
      exact modify_append_length _ _ _ f
    rw [hnew, hmodify, hmodify]
    refine ⟨rfl, ?_⟩
    rw [List.append_right_inj, List.cons.injEq, and_iff_left rfl, p.renamed_eq_iff,
      p.corrupt_of_own old hd]
    cases p.othersTellCorrupt <;> simp

/-! ### A name that speaks of corruption -/

/-- The only row of a listing. -/
def onlyRow : NamePlace where
  front := "Compatible shared caches".toList ++ ['\n']
  ended := ended_append_newline "Compatible shared caches".toList
  indent := []
  indented := by simp
  back := " Java17 64-bit persistent cr\n".toList
  parted := by
    rintro c ⟨⟩
    decide
  levelled := ⟨"Java17".toList, by decide +kernel, by decide⟩

/-- A name without a second meaning. -/
def plainName : RowName := ⟨"T1".toList, isWord_of_all (by decide) (by decide), by decide⟩

/-- A name that speaks of corruption. -/
def corruptName : RowName :=
  ⟨"corruptcheck".toList, isWord_of_all (by decide) (by decide), by decide⟩

/-- A cache that is given a name with the word in it counts as corrupt. -/
theorem caches_renamed_corruptName :
    onlyRow.text corruptName =
      "Compatible shared caches\ncorruptcheck Java17 64-bit persistent cr\n" ∧
    caches (onlyRow.text corruptName) ≠ (caches (onlyRow.text plainName)).modify onlyRow.index
      (fun d => { d with name := some corruptName.text }) := by
  decide +kernel

/-- The row is that of a cache, and a plain name leaves all else as it is. -/
theorem caches_renamed_onlyRow :
    onlyRow.IsListed ∧ caches (onlyRow.text plainName) =
      (caches (onlyRow.text corruptName)).modify onlyRow.index (onlyRow.renamed plainName) := by
  have hlisted : onlyRow.IsListed := ⟨by decide, .persistent, by decide⟩
  exact ⟨hlisted, ((caches_renamed onlyRow corruptName plainName).2 hlisted).1⟩

end CacheWarden.Listing
