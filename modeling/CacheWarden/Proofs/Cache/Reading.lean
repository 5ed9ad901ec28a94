import CacheWarden.Proofs.Cache.Listing
import CacheWarden.Proofs.Cache.Printed
import Mathlib

/-!
# What a line is read as

A line is a title, a header, a line to pass over, or it starts like a row (`line_cases`), and what
it is read as depends on the lines before it only by the last title and the last header among them
(`foldl_step`). Main statements: `listed_append_cons`, the caches of a listing cut at one of its
lines, and `read_eq_cache_iff`, when a line gives a cache and which one.
-/

namespace CacheWarden.Listing

open Text

/-! ### What a line starts with -/

/-- Whether a line names the columns. -/
def IsHeader (line : List Char) : Prop := "Cache name".toList <+: trim line

instance : DecidablePred IsHeader := fun line => inferInstanceAs (Decidable (_ <+: trim line))

/-- The compatibility that a line opens a section for, if it is a title. -/
def title? (line : List Char) : Option Bool :=
  [true, false].find? fun compatible => decide (titleText compatible <+: trim line)

/-- Whether a line could be the row of a cache, as far as its start goes. -/
structure StartsLikeRow (line : List Char) : Prop where
  notBlank : trim line ≠ []
  notMessage : ¬ "JVMSHRC".toList <+: trim line
  notHeader : ¬ IsHeader line
  notTitle : ∀ compatible, ¬ titleText compatible <+: trim line

theorem isPrefixOf_eq_false_iff {a s : List Char} : a.isPrefixOf s = false ↔ ¬ a <+: s := by
  rw [← Bool.not_eq_true, List.isPrefixOf_iff_prefix]

/-- A text does not start in two ways. -/
theorem not_isPrefix_of_isPrefix {a b s : List Char} (h : a <+: s) (hab : ¬ a <+: b)
    (hba : ¬ b <+: a) : ¬ b <+: s := by
  intro hb
  rcases List.prefix_or_prefix_of_prefix h hb with hp | hp
  · exact hab hp
  · exact hba hp

theorem title?_eq_some_iff {line : List Char} {compatible : Bool} :
    title? line = some compatible ↔ titleText compatible <+: trim line := by
  unfold title?
  cases compatible with
  | true => by_cases ht : titleText true <+: trim line <;> simp [ht]
  | false =>
    have hexcl : titleText false <+: trim line → ¬ titleText true <+: trim line :=
      fun hf => not_isPrefix_of_isPrefix hf (by decide) (by decide)
    by_cases hf : titleText false <+: trim line
    · simp [hf, hexcl hf]
    · by_cases ht : titleText true <+: trim line <;> simp [ht, hf]

theorem title?_eq_none_iff {line : List Char} :
    title? line = none ↔ ∀ compatible, ¬ titleText compatible <+: trim line := by
  simp [title?]

/-- A title is neither a message nor a header. -/
theorem other_of_title {compatible : Bool} {row : List Char} (h : titleText compatible <+: row) :
    ¬ "JVMSHRC".toList <+: row ∧ ¬ "Cache name".toList <+: row := by
  cases compatible with
  | true =>
    exact ⟨not_isPrefix_of_isPrefix h (by decide) (by decide),
      not_isPrefix_of_isPrefix h (by decide) (by decide)⟩
  | false =>
    exact ⟨not_isPrefix_of_isPrefix h (by decide) (by decide),
      not_isPrefix_of_isPrefix h (by decide) (by decide)⟩

theorem isEmpty_of_prefix {a s : List Char} (ha : a ≠ []) (h : a <+: s) : s.isEmpty = false :=
  List.isEmpty_eq_false_iff.2 fun hs => ha (List.prefix_nil.1 (hs ▸ h))

/-- A line with a second word like a level starts like a row, unless its first word starts like a
    message: no header and no title has such a second word. -/
theorem startsLikeRow_of_columns {line name level : List Char}
    (hname : (words line)[0]? = some name) (hmessage : ¬ "JVMSHRC".toList <+: name)
    (hlevel : (words line)[1]? = some level) (hjava : "Java".toList <+: level) :
    StartsLikeRow line := by
  have hnot : ∀ w v : List Char, IsWord w → IsWord v → ¬ "Java".toList <+: v →
      ¬ v <+: "Java".toList → ¬ w ++ ' ' :: v <+: trim line := by
    rintro w v hw hv hnot hnot' ⟨t, ht⟩
    obtain ⟨u, hu⟩ := exists_second_word hw hv (b := ' ') (by decide) t
    have hsecond : (words line)[1]? = some (v ++ u) := by
      rw [← words_trim, ← ht, ← hu, List.append_assoc]
      rfl
    rw [hlevel, Option.some_inj] at hsecond
    exact not_isPrefix_of_isPrefix hjava hnot hnot' (hsecond ▸ List.prefix_append v u)
  refine ⟨fun hnil => ?_, ?_, ?_, fun compatible => ?_⟩
  · rw [← words_trim, hnil, words_nil] at hname
    cases hname
  · rintro ⟨t, ht⟩
    obtain ⟨v, ws, hv⟩ := exists_words_append (isWord_of_all (w := "JVMSHRC".toList) (by decide)
      (by decide)) t
    rw [← words_trim, ← ht, hv] at hname
    exact hmessage (Option.some.inj hname ▸ List.prefix_append _ v)
  · exact hnot "Cache".toList "name".toList (isWord_of_all (by decide) (by decide))
      (isWord_of_all (by decide) (by decide)) (by decide) (by decide)
  · have hshared : IsWord "shared".toList := isWord_of_all (by decide) (by decide)
    intro htitle
    have hstart : ∃ w, IsWord w ∧ w ++ ' ' :: "shared".toList <+: titleText compatible := by
      cases compatible with
      | true => exact ⟨"Compatible".toList, isWord_of_all (by decide) (by decide), by decide⟩
      | false => exact ⟨"Incompatible".toList, isWord_of_all (by decide) (by decide), by decide⟩
    obtain ⟨w, hw, hstart⟩ := hstart
    exact hnot w _ hw hshared (by decide) (by decide) (hstart.trans htitle)

/-! ### What a line is read as -/

theorem read_of_title (s : Section) {line : List Char} {compatible : Bool}
    (h : title? line = some compatible) : Line.read s line = .title compatible := by
  rw [title?_eq_some_iff] at h
  have hmessage : "JVMSHRC".toList.isPrefixOf (trim line) = false :=
    isPrefixOf_eq_false_iff.2 (other_of_title h).1
  have hheader : "Cache name".toList.isPrefixOf (trim line) = false :=
    isPrefixOf_eq_false_iff.2 (other_of_title h).2
  have hempty := isEmpty_of_prefix (by cases compatible <;> decide) h
  have htitle : (titleText compatible).isPrefixOf (trim line) = true :=
    List.isPrefixOf_iff_prefix.2 h
  simp only [Line.read, hmessage, hheader, hempty, Bool.or_false, Bool.false_eq_true, if_false]
  cases compatible with
  | true =>
    have hincompatible : "Incompatible shared caches".toList.isPrefixOf (trim line) = false :=
      isPrefixOf_eq_false_iff.2 (not_isPrefix_of_isPrefix h (by decide) (by decide))
    rw [hincompatible]
    exact if_pos htitle
  | false => exact if_pos htitle

theorem read_of_header (s : Section) {line : List Char} (h : IsHeader line) :
    Line.read s line = .header (decide ("layer".toList <:+: line)) := by
  have hmessage : "JVMSHRC".toList.isPrefixOf (trim line) = false :=
    isPrefixOf_eq_false_iff.2 (not_isPrefix_of_isPrefix h (by decide) (by decide))
  have hempty := isEmpty_of_prefix (by decide) h
  have hlayer : contains "layer".toList (trim line) = decide ("layer".toList <:+: line) := by
    have hword : IsWord "layer".toList := isWord_of_all (by decide) (by decide)
    rw [contains_trim hword.ne_nil hword.unbroken, Bool.eq_iff_iff, contains_iff_isInfix]
    exact decide_eq_true_iff.symm
  simp only [Line.read, hmessage, hempty, hlayer, List.isPrefixOf_iff_prefix.2 h, Bool.or_false,
    Bool.false_eq_true, if_false, if_true]

theorem read_of_passed (s : Section) {line : List Char}
    (h : trim line = [] ∨ "JVMSHRC".toList <+: trim line) : Line.read s line = .passed := by
  have hpassed : ((trim line).isEmpty || "JVMSHRC".toList.isPrefixOf (trim line)) = true := by
    rwa [Bool.or_eq_true, List.isEmpty_iff, List.isPrefixOf_iff_prefix]
  simp only [Line.read, hpassed, if_true]

/-- Before the first section nothing is read as a row. -/
theorem read_of_outside {s : Section} (hs : s.compatible = none) {line : List Char}
    (h : StartsLikeRow line) : Line.read s line = .passed := by
  have hheader : "Cache name".toList.isPrefixOf (trim line) = false :=
    isPrefixOf_eq_false_iff.2 h.notHeader
  have hincompatible : "Incompatible shared caches".toList.isPrefixOf (trim line) = false :=
    isPrefixOf_eq_false_iff.2 (h.notTitle false)
  have hcompatible : "Compatible shared caches".toList.isPrefixOf (trim line) = false :=
    isPrefixOf_eq_false_iff.2 (h.notTitle true)
  simp only [Line.read, hheader, hincompatible, hcompatible, hs, Bool.false_eq_true, if_false,
    ite_self]

/-- A line of a section that starts like a row is read as one. -/
theorem read_of_startsLikeRow {s : Section} {compatible : Bool}
    (hs : s.compatible = some compatible) {line : List Char} (h : StartsLikeRow line) :
    Line.read s line =
      if isSnapshotRow (trim line) then .snapshot (trim line)
      else (readRow compatible s.hasLayers (trim line)).elim (.unknown (trim line)) .cache := by
  have hempty : (trim line).isEmpty = false := List.isEmpty_eq_false_iff.2 h.notBlank
  have hmessage : "JVMSHRC".toList.isPrefixOf (trim line) = false :=
    isPrefixOf_eq_false_iff.2 h.notMessage
  have hheader : "Cache name".toList.isPrefixOf (trim line) = false :=
    isPrefixOf_eq_false_iff.2 h.notHeader
  have hincompatible : "Incompatible shared caches".toList.isPrefixOf (trim line) = false :=
    isPrefixOf_eq_false_iff.2 (h.notTitle false)
  have hcompatible : "Compatible shared caches".toList.isPrefixOf (trim line) = false :=
    isPrefixOf_eq_false_iff.2 (h.notTitle true)
  simp only [Line.read, hempty, hmessage, hheader, hincompatible, hcompatible, hs, Bool.or_self,
    Bool.false_eq_true, if_false]
  cases readRow compatible s.hasLayers (trim line) <;> rfl

/-- A line is a title, a header, a line to pass over, or starts like a row. -/
theorem line_cases (line : List Char) :
    (∃ compatible, title? line = some compatible) ∨ IsHeader line ∨
      (trim line = [] ∨ "JVMSHRC".toList <+: trim line) ∨ StartsLikeRow line := by
  by_cases ht : ∃ compatible, title? line = some compatible
  · exact Or.inl ht
  by_cases hh : IsHeader line
  · exact Or.inr (Or.inl hh)
  by_cases hp : trim line = [] ∨ "JVMSHRC".toList <+: trim line
  · exact Or.inr (Or.inr (Or.inl hp))
  · rw [not_or] at hp
    refine Or.inr (Or.inr (Or.inr ⟨hp.1, hp.2, hh, fun compatible hc => ?_⟩))
    exact ht ⟨compatible, title?_eq_some_iff.2 hc⟩

/-! ### What the lines before a line tell -/

/-- The compatibility of the section behind some lines: that of the last title among them. -/
def openSection? (before : List (List Char)) : Option Bool := (before.filterMap title?).getLast?

/-- Whether rows behind some lines have a column for the layer, by the last header among them. -/
def layerColumn (before : List (List Char)) : Bool :=
  (before.filter IsHeader).getLast?.any fun header => decide ("layer".toList <:+: header)

/-- What is known behind some lines. -/
def Section.behind (before : List (List Char)) : Section where
  compatible := openSection? before
  hasLayers := layerColumn before

theorem not_isHeader_of_title? {line : List Char} {compatible : Bool}
    (h : title? line = some compatible) : ¬ IsHeader line :=
  (other_of_title (title?_eq_some_iff.1 h)).2

theorem StartsLikeRow.title?_eq_none {line : List Char} (h : StartsLikeRow line) :
    title? line = none := title?_eq_none_iff.2 h.notTitle

theorem title?_of_header {line : List Char} (h : IsHeader line) : title? line = none := by
  rw [Option.eq_none_iff_forall_ne_some]
  intro compatible ht
  exact not_isHeader_of_title? ht h

/-- A line to pass over is neither a title nor a header. -/
theorem plain_of_passed {line : List Char} (h : trim line = [] ∨ "JVMSHRC".toList <+: trim line) :
    title? line = none ∧ ¬ IsHeader line := by
  rw [title?_eq_none_iff, IsHeader]
  rcases h with h | h
  · rw [h]
    exact ⟨by decide, by decide⟩
  · exact ⟨fun compatible ht => (other_of_title ht).1 h,
      not_isPrefix_of_isPrefix h (by decide) (by decide)⟩

theorem StartsLikeRow.after_read (s : Section) {line : List Char} (h : StartsLikeRow line) :
    s.after (Line.read s line) = s := by
  cases hs : s.compatible with
  | none =>
    rw [read_of_outside hs h]
    rfl
  | some compatible =>
    rw [read_of_startsLikeRow hs h]
    split
    · rfl
    · cases readRow compatible s.hasLayers (trim line) <;> rfl

theorem openSection?_concat (before : List (List Char)) (line : List Char) :
    openSection? (before ++ [line]) = (title? line).or (openSection? before) := by
  unfold openSection?
  rw [List.filterMap_append, List.getLast?_append]
  cases h : title? line <;> simp [h]

theorem layerColumn_concat_of_header (before : List (List Char)) {line : List Char}
    (h : IsHeader line) :
    layerColumn (before ++ [line]) = decide ("layer".toList <:+: line) := by
  simp [layerColumn, List.filter_append, h]

theorem layerColumn_concat_of_other (before : List (List Char)) {line : List Char}
    (h : ¬ IsHeader line) : layerColumn (before ++ [line]) = layerColumn before := by
  simp [layerColumn, List.filter_append, h]

/-- One line more is one step of the reader. -/
theorem behind_concat (before : List (List Char)) (line : List Char) :
    Section.behind (before ++ [line]) =
      (Section.behind before).after (Line.read (Section.behind before) line) := by
  unfold Section.behind
  rw [openSection?_concat]
  rcases line_cases line with ⟨compatible, ht⟩ | hh | hp | hrow
  · rw [read_of_title _ ht, layerColumn_concat_of_other before (not_isHeader_of_title? ht), ht]
    rfl
  · rw [read_of_header _ hh, layerColumn_concat_of_header before hh, title?_of_header hh]
    rfl
  · obtain ⟨ht, hh⟩ := plain_of_passed hp
    rw [read_of_passed _ hp, layerColumn_concat_of_other before hh, ht]
    rfl
  · rw [hrow.after_read, layerColumn_concat_of_other before hrow.notHeader, hrow.title?_eq_none]
    rfl

/-- What is known behind one line more. -/
def Section.step (s : Section) (line : List Char) : Section := s.after (Line.read s line)

theorem behind_concat_of_startsLikeRow (before : List (List Char)) {line : List Char}
    (h : StartsLikeRow line) : Section.behind (before ++ [line]) = Section.behind before := by
  rw [behind_concat, h.after_read]

/-- The reader knows of the lines behind it what the last title and the last header tell. -/
theorem foldl_step (before : List (List Char)) :
    before.foldl Section.step {} = Section.behind before := by
  induction before using List.reverseRecOn with
  | nil => rfl
  | append_singleton before line ih =>
    rw [List.foldl_concat, ih, behind_concat, Section.step]

theorem readLines_append (s : Section) (a b : List (List Char)) :
    readLines s (a ++ b) =
      readLines s a ++ readLines (a.foldl Section.step s) b := by
  induction a generalizing s with
  | nil => rfl
  | cons line a ih => exact congrArg (Line.read s line :: ·) (ih _)

/-- The caches among some lines. -/
def listed (ls : List (List Char)) : List Descriptor := (readLines {} ls).filterMap Line.cache?

theorem caches_eq_listed (text : String) : caches text = listed (lines text.toList) := rfl

/-- What stands before a line and what the line is read as, and what follows. -/
theorem listed_append_cons (before : List (List Char)) (line : List Char)
    (rest : List (List Char)) :
    listed (before ++ line :: rest) =
      listed before ++ ((Line.read (Section.behind before) line).cache?.toList ++
        (readLines (Section.behind (before ++ [line])) rest).filterMap Line.cache?) := by
  rw [behind_concat]
  unfold listed
  rw [readLines_append, foldl_step, List.filterMap_append, readLines, List.filterMap_cons]
  cases (Line.read (Section.behind before) line).cache? <;> rfl

theorem listed_concat (before : List (List Char)) (line : List Char) :
    listed (before ++ [line]) =
      listed before ++ (Line.read (Section.behind before) line).cache?.toList := by
  rw [listed_append_cons]
  exact congrArg (listed before ++ ·) (List.append_nil _)

/-! ### Rows -/

theorem kindOfColumn?_eq_some_iff {column : List Char} {kind : Persistence} :
    kindOfColumn? column = some kind ↔ column = kind.name.toList := by
  constructor
  · intro h
    rw [kindOfColumn?, Persistence.ofName?] at h
    have hname := List.find?_some h
    rw [beq_iff_eq] at hname
    rw [hname, String.toList_ofList]
  · rintro rfl
    rw [kindOfColumn?, String.ofList_toList, Persistence.ofName?_name]

/-- The cache of a row with these columns. -/
def cacheOf (compatible hasLayers : Bool) (name level mode : List Char) (kind : Persistence)
    (rest : List (List Char)) : Descriptor where
  name := some (String.ofList name)
  persistence := kind
  addressMode := AddressMode.ofText mode
  jvmLevel := String.ofList level
  compatible
  corrupt := (name :: level :: mode :: kind.name.toList :: rest).any tellsCorrupt
  lastDetach := (splitDetach rest).2
  semaphoreId := (handles hasLayers (splitDetach rest).1).2
  sharedMemoryId := (handles hasLayers (splitDetach rest).1).1

theorem readRow_eq_some_iff {compatible hasLayers : Bool} {row : List Char} {d : Descriptor} :
    readRow compatible hasLayers row = some d ↔
      ∃ name level mode kind rest, words row = name :: level :: mode :: kind.name.toList :: rest ∧
        "Java".toList <+: level ∧ d = cacheOf compatible hasLayers name level mode kind rest := by
  constructor
  · intro h
    unfold readRow at h
    split at h
    · rename_i name level mode column rest hw
      split at h
      · rename_i hlevel
        obtain ⟨kind, hkind, rfl⟩ := Option.map_eq_some_iff.1 h
        rw [kindOfColumn?_eq_some_iff] at hkind
        subst hkind
        refine ⟨name, level, mode, kind, rest, hw, List.isPrefixOf_iff_prefix.1 hlevel, ?_⟩
        rw [hw]
        rfl
      · cases h
    · cases h
  · rintro ⟨name, level, mode, kind, rest, hw, hlevel, rfl⟩
    have hkind : kindOfColumn? kind.name.toList = some kind := kindOfColumn?_eq_some_iff.2 rfl
    unfold readRow
    rw [hw]
    simp only [List.isPrefixOf_iff_prefix.2 hlevel, hkind, if_true, Option.map_some]
    rfl

theorem isSnapshotRow_iff {row : List Char} :
    isSnapshotRow row = true ↔ (words row)[3]? = some "snapshot".toList := by
  rw [isSnapshotRow, beq_iff_eq]

theorem isSnapshotRow_of_readRow {compatible hasLayers : Bool} {row : List Char} {d : Descriptor}
    (h : readRow compatible hasLayers row = some d) : isSnapshotRow row = false := by
  obtain ⟨name, level, mode, kind, rest, hw, -, -⟩ := readRow_eq_some_iff.1 h
  have hkind : kind.name.toList ≠ "snapshot".toList := by cases kind <;> decide
  rw [← Bool.not_eq_true, isSnapshotRow_iff, hw]
  exact fun h => hkind (Option.some.inj h)

theorem cache?_eq_some_iff {l : Line} {d : Descriptor} : l.cache? = some d ↔ l = .cache d := by
  cases l <;> simp [Line.cache?]

/-- A line gives a cache if it starts like a row, in a section, and can be read as one. -/
theorem read_eq_cache_iff {s : Section} {line : List Char} {d : Descriptor} :
    Line.read s line = .cache d ↔ ∃ compatible, s.compatible = some compatible ∧
      StartsLikeRow line ∧ readRow compatible s.hasLayers (trim line) = some d := by
  constructor
  · intro h
    rcases line_cases line with ⟨compatible, ht⟩ | hh | hp | hrow
    · rw [read_of_title s ht] at h
      cases h
    · rw [read_of_header s hh] at h
      cases h
    · rw [read_of_passed s hp] at h
      cases h
    · cases hs : s.compatible with
      | none =>
        rw [read_of_outside hs hrow] at h
        cases h
      | some compatible =>
        rw [read_of_startsLikeRow hs hrow] at h
        refine ⟨compatible, rfl, hrow, ?_⟩
        split at h
        · cases h
        · cases hr : readRow compatible s.hasLayers (trim line) with
          | none =>
            rw [hr] at h
            cases h
          | some e =>
            rw [hr] at h
            cases h
            rfl
  · rintro ⟨compatible, hs, hrow, hr⟩
    rw [read_of_startsLikeRow hs hrow, isSnapshotRow_of_readRow hr, hr]
    rfl

end CacheWarden.Listing
