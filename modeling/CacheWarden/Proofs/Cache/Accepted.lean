import CacheWarden.Proofs.Cache.Reading
import Mathlib

/-!
# Which lines give a cache

A listing is taken line by line: a line gives a cache exactly if it stands behind a title, does not
start like another line of a listing, and has four columns or more of which the second starts like a
level and the fourth names a kind. Nothing else in the text matters. Main statement: `caches_exact`,
the caches of a text are those of its rows, one for each, in their order.
-/

namespace CacheWarden.Listing

open Text

/-- Whether a line is the row of a cache, wherever it stands. -/
structure IsCacheRow (line : List Char) : Prop extends StartsLikeRow line where
  fourColumns : 4 ≤ (words line).length
  levelled : ∃ level, (words line)[1]? = some level ∧ "Java".toList <+: level
  kindNamed : ∃ kind, (words line)[3]? = some kind ∧
    (kind = "persistent".toList ∨ kind = "non-persistent".toList)

/-- Whether the line at a place is the row of a cache and stands behind a title. -/
def IsRowAt (ls : List (List Char)) (i : Nat) : Prop :=
  ∃ line, ls[i]? = some line ∧ IsCacheRow line ∧
    ∃ title ∈ ls.take i, ∃ compatible, titleText compatible <+: trim title

/-- Whether a cache is the one that a row shows, apart from what stands behind its kind. -/
structure Shows (line : List Char) (d : Descriptor) : Prop where
  name : d.name.map String.toList = (words line)[0]?
  level : some d.jvmLevel.toList = (words line)[1]?
  mode : some d.addressMode = (words line)[2]?.map AddressMode.ofText
  kind : some d.persistence.name.toList = (words line)[3]?
  noSize : d.sizeBytes = none
  noFree : d.freeBytes = none
  handles : d.sharedMemoryId.isSome = d.semaphoreId.isSome

/-- Whether a cache is the one that the line at a place shows, with the compatibility of the last
    title before it. -/
def ShowsAt (ls : List (List Char)) (i : Nat) (d : Descriptor) : Prop :=
  ∃ line, ls[i]? = some line ∧ Shows line d ∧ openSection? (ls.take i) = some d.compatible

theorem openSection?_ne_none_iff {before : List (List Char)} :
    openSection? before ≠ none ↔
      ∃ title ∈ before, ∃ compatible, titleText compatible <+: trim title := by
  simp only [openSection?, ne_eq, List.getLast?_eq_none_iff, List.filterMap_eq_nil_iff, not_forall,
    Option.ne_none_iff_exists', title?_eq_some_iff, exists_prop]

/-! ### One line -/

theorem handles_isSome (hasLayers : Bool) (columns : List (List Char)) :
    (handles hasLayers columns).1.isSome = (handles hasLayers columns).2.isSome := by
  unfold handles
  dsimp only
  split <;> rfl

theorem shows_cacheOf {line name level mode : List Char} {kind : Persistence}
    {rest : List (List Char)} (hw : words line = name :: level :: mode :: kind.name.toList :: rest)
    (compatible hasLayers : Bool) :
    Shows line (cacheOf compatible hasLayers name level mode kind rest) where
  name := by simp [hw, cacheOf]
  level := by simp [hw, cacheOf]
  mode := by simp [hw, cacheOf]
  kind := by simp [hw, cacheOf]
  noSize := rfl
  noFree := rfl
  handles := handles_isSome hasLayers _

theorem columns_of_isCacheRow {line : List Char} (h : IsCacheRow line) :
    ∃ name level mode, ∃ kind : Persistence, ∃ rest,
      words line = name :: level :: mode :: kind.name.toList :: rest ∧ "Java".toList <+: level := by
  obtain ⟨level, hlevel, hjava⟩ := h.levelled
  obtain ⟨column, hcolumn, hkind⟩ := h.kindNamed
  have hfour := h.fourColumns
  obtain ⟨kind, rfl⟩ : ∃ kind : Persistence, column = kind.name.toList := by
    rcases hkind with rfl | rfl
    · exact ⟨.persistent, rfl⟩
    · exact ⟨.nonPersistent, rfl⟩
  match hw : words line, hfour with
  | name :: second :: mode :: fourth :: rest, _ =>
    rw [hw] at hlevel hcolumn
    cases hlevel
    cases hcolumn
    exact ⟨name, level, mode, kind, rest, rfl, hjava⟩

theorem isCacheRow_of_columns {line name level mode : List Char} {kind : Persistence}
    {rest : List (List Char)} (hstart : StartsLikeRow line)
    (hw : words line = name :: level :: mode :: kind.name.toList :: rest)
    (hjava : "Java".toList <+: level) : IsCacheRow line where
  toStartsLikeRow := hstart
  fourColumns := by rw [hw]; simp
  levelled := ⟨level, by rw [hw]; rfl, hjava⟩
  kindNamed := ⟨kind.name.toList, by rw [hw]; rfl, by cases kind <;> decide⟩

/-- A line of a section gives a cache exactly if it is the row of one. -/
theorem exists_read_eq_cache_iff {s : Section} {line : List Char} :
    (∃ d, Line.read s line = .cache d) ↔ s.compatible ≠ none ∧ IsCacheRow line := by
  constructor
  · rintro ⟨d, h⟩
    obtain ⟨compatible, hs, hstart, hr⟩ := read_eq_cache_iff.1 h
    obtain ⟨name, level, mode, kind, rest, hw, hjava, -⟩ := readRow_eq_some_iff.1 hr
    rw [words_trim] at hw
    refine ⟨?_, isCacheRow_of_columns hstart hw hjava⟩
    rw [hs]
    exact Option.some_ne_none compatible
  · rintro ⟨hs, hrow⟩
    obtain ⟨compatible, hs⟩ := Option.ne_none_iff_exists'.1 hs
    obtain ⟨name, level, mode, kind, rest, hw, hjava⟩ := columns_of_isCacheRow hrow
    rw [← words_trim] at hw
    exact ⟨_, read_eq_cache_iff.2 ⟨compatible, hs, hrow.toStartsLikeRow,
      readRow_eq_some_iff.2 ⟨name, level, mode, kind, rest, hw, hjava, rfl⟩⟩⟩

theorem shows_of_read {s : Section} {line : List Char} {d : Descriptor}
    (h : Line.read s line = .cache d) : Shows line d ∧ s.compatible = some d.compatible := by
  obtain ⟨compatible, hs, -, hr⟩ := read_eq_cache_iff.1 h
  obtain ⟨name, level, mode, kind, rest, hw, -, rfl⟩ := readRow_eq_some_iff.1 hr
  rw [words_trim] at hw
  exact ⟨shows_cacheOf hw compatible s.hasLayers, hs⟩

/-! ### All lines -/

section

variable {ls : List (List Char)} {line : List Char} {i : Nat}

/-- What a line is does not depend on the lines behind it. -/
theorem isRowAt_concat_of_lt (hi : i < ls.length) : IsRowAt (ls ++ [line]) i ↔ IsRowAt ls i := by
  unfold IsRowAt
  rw [List.getElem?_append_left hi, List.take_append_of_le_length hi.le]

theorem showsAt_concat_of_lt (hi : i < ls.length) {d : Descriptor} :
    ShowsAt (ls ++ [line]) i d ↔ ShowsAt ls i d := by
  unfold ShowsAt
  rw [List.getElem?_append_left hi, List.take_append_of_le_length hi.le]

theorem isRowAt_concat_length :
    IsRowAt (ls ++ [line]) ls.length ↔ openSection? ls ≠ none ∧ IsCacheRow line := by
  rw [openSection?_ne_none_iff, IsRowAt, List.getElem?_concat_length, List.take_left]
  simp only [Option.some.injEq, exists_eq_left', and_comm]

theorem lt_length_of_isRowAt (h : IsRowAt ls i) : i < ls.length := by
  obtain ⟨line, hline, -⟩ := h
  exact (List.getElem?_eq_some_iff.1 hline).1

theorem isRowAt_concat_iff :
    IsRowAt (ls ++ [line]) i ↔
      IsRowAt ls i ∨ i = ls.length ∧ IsRowAt (ls ++ [line]) ls.length := by
  rcases lt_trichotomy i ls.length with hi | rfl | hi
  · rw [isRowAt_concat_of_lt hi, or_iff_left fun h => absurd h.1 hi.ne]
  · rw [or_iff_right fun h => absurd (lt_length_of_isRowAt h) (lt_irrefl _)]
    exact ⟨fun h => ⟨rfl, h⟩, And.right⟩
  · rw [or_iff_left fun h => absurd h.1 hi.ne']
    constructor
    · intro h
      have hlt := lt_length_of_isRowAt h
      rw [List.length_append, List.length_singleton] at hlt
      omega
    · intro h
      have hlt := lt_length_of_isRowAt h
      omega

end

/-- The rows of some lines, in their order, show the caches that are listed. -/
theorem exists_places (ls : List (List Char)) :
    ∃ places : List Nat, places.Pairwise (· < ·) ∧ (∀ i, i ∈ places ↔ IsRowAt ls i) ∧
      List.Forall₂ (ShowsAt ls) places (listed ls) := by
  induction ls using List.reverseRecOn with
  | nil =>
    refine ⟨[], List.Pairwise.nil, fun i => ?_, List.Forall₂.nil⟩
    constructor
    · rintro ⟨⟩
    · intro h
      cases lt_length_of_isRowAt h
  | append_singleton ls line ih =>
    obtain ⟨places, hsorted, hmem, hshow⟩ := ih
    have hbound : ∀ i ∈ places, i < ls.length := fun i hi => lt_length_of_isRowAt ((hmem i).1 hi)
    have hkept : List.Forall₂ (ShowsAt (ls ++ [line])) places (listed ls) :=
      ((List.forall₂_and_left _ _).2 ⟨hbound, hshow⟩).imp fun i d h =>
        (showsAt_concat_of_lt h.1).2 h.2
    rw [listed_concat]
    -- only the new line can add a place, and it does if it is a row
    by_cases hrow : IsRowAt (ls ++ [line]) ls.length
    · obtain ⟨d, hd⟩ : ∃ d, Line.read (Section.behind ls) line = .cache d :=
        exists_read_eq_cache_iff.2 (isRowAt_concat_length.1 hrow)
      obtain ⟨hline, hcompatible⟩ := shows_of_read hd
      have hnew : ShowsAt (ls ++ [line]) ls.length d := by
        refine ⟨line, List.getElem?_concat_length, hline, ?_⟩
        rw [List.take_left]
        exact hcompatible
      rw [hd]
      refine ⟨places ++ [ls.length], ?_, fun i => ?_, List.rel_append hkept (.cons hnew .nil)⟩
      · rw [List.pairwise_append]
        refine ⟨hsorted, List.pairwise_singleton _ _, fun i hi j hj => ?_⟩
        rw [List.mem_singleton.1 hj]
        exact hbound i hi
      · rw [List.mem_append, hmem, List.mem_singleton, isRowAt_concat_iff, and_iff_left hrow]
    · have hnone : (Line.read (Section.behind ls) line).cache? = none := by
        rw [Option.eq_none_iff_forall_ne_some]
        intro d hd
        have hread := cache?_eq_some_iff.1 hd
        exact hrow (isRowAt_concat_length.2 (exists_read_eq_cache_iff.1 ⟨d, hread⟩))
      rw [hnone, Option.toList_none, List.append_nil]
      refine ⟨places, hsorted, fun i => ?_, hkept⟩
      rw [hmem, isRowAt_concat_iff, or_iff_left fun h => hrow h.2]

/-- A cache is listed exactly if some row shows it. -/
theorem mem_listed_places {ls : List (List Char)} :
    (∀ d ∈ listed ls, ∃ i, IsRowAt ls i ∧ ShowsAt ls i d) ∧
      ∀ i, IsRowAt ls i → ∃ d ∈ listed ls, ShowsAt ls i d := by
  obtain ⟨places, -, hmem, hshow⟩ := exists_places ls
  obtain ⟨hlen, hget⟩ := List.forall₂_iff_get.1 hshow
  constructor
  · intro d hd
    obtain ⟨k, hk, rfl⟩ := List.getElem_of_mem hd
    have hk' : k < places.length := hlen ▸ hk
    exact ⟨places[k], (hmem _).1 (List.getElem_mem hk'), hget k hk' hk⟩
  · intro i hi
    obtain ⟨k, hk, rfl⟩ := List.getElem_of_mem ((hmem i).2 hi)
    have hk' : k < (listed ls).length := hlen ▸ hk
    exact ⟨(listed ls)[k], List.getElem_mem hk', hget k hk hk'⟩

theorem usableName_of_mem_caches {text : String} {d : Descriptor} (hd : d ∈ caches text) :
    d.usableName = d.name := by
  obtain ⟨n, hname, hne, -⟩ := name_of_mem_caches hd
  simp [Descriptor.usableName, hname, hne]

/-- The caches of a text are those of its rows, one for each, in their order. No row of a snapshot
    is among them, and each cache has a name without blanks. -/
theorem caches_exact (text : String) :
    ∃ places : List Nat, places.Pairwise (· < ·) ∧
      (∀ i, i ∈ places ↔ IsRowAt (lines text.toList) i) ∧
      List.Forall₂ (ShowsAt (lines text.toList)) places (caches text) ∧
      (∀ i line, (lines text.toList)[i]? = some line → (words line)[3]? = some "snapshot".toList →
        i ∉ places) ∧
      ∀ d ∈ caches text, ∃ n, d.usableName = some n ∧ ∀ c ∈ n.toList, isBlank c = false := by
  obtain ⟨places, hsorted, hmem, hshow⟩ := exists_places (lines text.toList)
  refine ⟨places, hsorted, hmem, hshow, fun i line hline hsnapshot hi => ?_, fun d hd => ?_⟩
  · obtain ⟨row, hrow, hcache, -⟩ := (hmem i).1 hi
    rw [hline, Option.some_inj] at hrow
    subst hrow
    obtain ⟨kind, hkind, hnamed⟩ := hcache.kindNamed
    rw [hsnapshot, Option.some_inj] at hkind
    subst hkind
    revert hnamed
    decide
  · obtain ⟨n, hname, -, hplain⟩ := name_of_mem_caches hd
    exact ⟨n, (usableName_of_mem_caches hd).trans hname, hplain⟩

end CacheWarden.Listing
