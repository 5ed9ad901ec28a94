import CacheWarden.Proofs.Cache.Reading
import CacheWarden.Proofs.Cache.Row
import Mathlib

/-!
# Rows without handles

A row may print no handles, and still its cache has some: numbers behind the feature are handles
wherever they stand, and what tells the last detach is set aside only if it is read as a moment. Of
a date in another language, or with a wrong weekday, the day and the year are left over. Main
statement: `handles_eq_none_iff_of_row`, when the cache of such a row has no handles.
-/

namespace CacheWarden.Listing

open Text

/-- The columns of a cache that prints no handles, with five words that tell its last detach. -/
structure DetachedRow where
  name : List Char
  unlikeMessage : ¬ "JVMSHRC".toList <+: name
  level : List Char
  levelled : "Java".toList <+: level
  mode : List Char
  persistence : Persistence
  feature : List Char
  featureNoNumber : ¬ IsNumber feature
  layer : Int
  detach : List (List Char)
  fiveWords : detach.length = 5

/-- What is left of the words that tell the last detach, for handles to be looked for. -/
def leftOver (detach : List (List Char)) : List (List Char) :=
  if RowEnd.inUse.columns <:+ detach then detach.take 3
  else if (Calendar.Moment.ofListing? ([' '].intercalate detach)).isSome then []
  else detach

/-! ### Handles among columns -/

theorem handles_eq_none_iff {hasLayers : Bool} {columns : List (List Char)} :
    (handles hasLayers columns).1 = none ∧ (handles hasLayers columns).2 = none ↔
      (columns.filterMap readInt64?).length ≠ if hasLayers then 3 else 2 := by
  unfold handles
  generalize columns.filterMap readInt64? = numbers
  cases hasLayers with
  | false => rcases numbers with _ | ⟨a, _ | ⟨b, _ | ⟨c, numbers⟩⟩⟩ <;> simp
  | true => rcases numbers with _ | ⟨a, _ | ⟨b, _ | ⟨c, _ | ⟨d, numbers⟩⟩⟩⟩ <;> simp

/-- The words that tell the last detach are the last five columns. -/
theorem splitDetach_append (columns : List (List Char)) {detach : List (List Char)}
    (h : detach.length = 5) :
    (splitDetach (columns ++ detach)).1 = columns ++ leftOver detach := by
  have hlen : (columns ++ detach).length = columns.length + 5 := by rw [List.length_append, h]
  by_cases hin : RowEnd.inUse.columns <:+ detach
  · obtain ⟨front, rfl⟩ := hin
    have hfront : front.length = 3 := by
      rw [List.length_append] at h
      exact Nat.add_right_cancel h
    rw [← List.append_assoc, splitDetach_inUse, leftOver, if_pos (List.suffix_append _ _),
      ← hfront, List.take_left]
  · have hlast : RowEnd.inUse.columns.isSuffixOf (columns ++ detach) = false := by
      rw [← Bool.not_eq_true, List.isSuffixOf_iff_suffix]
      intro hsuffix
      have hshort : RowEnd.inUse.columns.length ≤ detach.length := by
        rw [h]
        decide
      exact hin (List.suffix_of_suffix_length_le hsuffix (List.suffix_append _ _) hshort)
    rw [leftOver, if_neg hin]
    unfold splitDetach
    simp only [hlen, Nat.add_sub_cancel, List.take_left, List.drop_left, Nat.le_add_left, if_true]
    have hlast' : ¬ ["In".toList, "use".toList].isSuffixOf (columns ++ detach) = true :=
      Bool.not_eq_true _ ▸ hlast
    rw [if_neg hlast']
    cases Calendar.Moment.ofListing? ([' '].intercalate detach) with
    | none => rfl
    | some m => exact (List.append_nil columns).symm

namespace DetachedRow

variable (r : DetachedRow)

/-- The columns behind the kind, up to the words that tell the last detach. -/
def middle (hasLayers : Bool) : List (List Char) :=
  r.feature :: if hasLayers then [decimalInt r.layer] else []

/-- The columns of the row. -/
def columns (hasLayers : Bool) : List (List Char) :=
  r.name :: r.level :: r.mode :: r.persistence.name.toList :: (r.middle hasLayers ++ r.detach)

/-- The cache of the row. -/
def cache (compatible hasLayers : Bool) : Descriptor :=
  cacheOf compatible hasLayers r.name r.level r.mode r.persistence (r.middle hasLayers ++ r.detach)

theorem read_of_words {s : Section} {compatible : Bool} (hs : s.compatible = some compatible)
    {line : List Char} (hw : words line = r.columns s.hasLayers) :
    Line.read s line = .cache (r.cache compatible s.hasLayers) := by
  have hstart : StartsLikeRow line :=
    startsLikeRow_of_columns (by rw [hw]; rfl) r.unlikeMessage (by rw [hw]; rfl) r.levelled
  refine read_eq_cache_iff.2 ⟨compatible, hs, hstart, readRow_eq_some_iff.2 ?_⟩
  exact ⟨r.name, r.level, r.mode, r.persistence, _, by rw [words_trim, hw]; rfl, r.levelled, rfl⟩

/-- How many numbers it takes behind the layer for two of them to be handles: the number of a layer
    that does not fit 64 bits is not counted, and the next number is taken for it. -/
def needed (hasLayers : Bool) : Nat := if hasLayers ∧ ¬ FitsInt64 r.layer then 3 else 2

/-- Behind the kind only the layer is a number, and what is left over may have more. -/
theorem length_numbers (hasLayers : Bool) :
    ((r.middle hasLayers ++ leftOver r.detach).filterMap readInt64?).length =
      (if hasLayers ∧ FitsInt64 r.layer then 1 else 0) +
        ((leftOver r.detach).filterMap readInt64?).length := by
  have hfeature : readInt64? r.feature = none := readInt64?_of_not_isNumber r.featureNoNumber
  rw [List.filterMap_append, List.length_append, middle, List.filterMap_cons_none hfeature]
  congr 1
  cases hasLayers with
  | false => rfl
  | true =>
    by_cases hfit : FitsInt64 r.layer
    · simp [hfit, readInt64?_of_fits hfit]
    · simp [hfit, readInt64?_of_not_fits hfit]

theorem handles_cache_iff (compatible hasLayers : Bool) :
    (r.cache compatible hasLayers).sharedMemoryId = none ∧
        (r.cache compatible hasLayers).semaphoreId = none ↔
      ((leftOver r.detach).filterMap readInt64?).length ≠ r.needed hasLayers := by
  have hcolumns : (splitDetach (r.middle hasLayers ++ r.detach)).1 =
      r.middle hasLayers ++ leftOver r.detach := splitDetach_append _ r.fiveWords
  rw [cache, cacheOf]
  dsimp only
  rw [hcolumns, handles_eq_none_iff, r.length_numbers, needed, not_iff_not]
  generalize ((leftOver r.detach).filterMap readInt64?).length = numbers
  cases hasLayers with
  | false => simp
  | true =>
    by_cases hfit : FitsInt64 r.layer
    · simp only [true_and, if_pos hfit, if_neg (not_not.2 hfit), if_true]
      omega
    · simp only [true_and, if_neg hfit, if_pos hfit, if_true, Nat.zero_add]

end DetachedRow

/-- The cache of a row that prints no handles has none exactly if the words that tell its last
    detach are read as a moment, or the wrong number of numbers is left over of them. -/
theorem handles_eq_none_iff_of_row (r : DetachedRow) (text : String)
    (before : List (List Char)) (line : List Char) (rest : List (List Char)) (compatible : Bool)
    (hlines : lines text.toList = before ++ line :: rest)
    (hwords : words line = r.columns (layerColumn before))
    (hopen : openSection? before = some compatible) :
    ∃ d, (caches text)[(listed before).length]? = some d ∧
      (d.sharedMemoryId = none ∧ d.semaphoreId = none ↔
        ((leftOver r.detach).filterMap readInt64?).length ≠ r.needed (layerColumn before)) := by
  have hread : Line.read (Section.behind before) line =
      .cache (r.cache compatible (layerColumn before)) := r.read_of_words hopen hwords
  refine ⟨r.cache compatible (layerColumn before), ?_, r.handles_cache_iff _ _⟩
  rw [caches_eq_listed, hlines, listed_append_cons, hread, List.getElem?_append_right le_rfl,
    Nat.sub_self]
  rfl

/-! ### A wrong weekday -/

/-- A row whose cache was last detached on a day of January 2021, under the name of a weekday. -/
def januaryRow (weekday : String) : DetachedRow where
  name := "T2".toList
  unlikeMessage := by decide
  level := "Java17".toList
  levelled := by decide
  mode := "64-bit".toList
  persistence := .persistent
  feature := "cr".toList
  featureNoNumber := not_isNumber_cons (c := 'c') (by decide) (by decide) (by decide) ['r']
  layer := 0
  detach := [weekday, "Jan", "25", "10:25:00", "2021"].map String.toList
  fiveWords := rfl

/-- The lines in front of the row. -/
def januaryFront : List (List Char) :=
  ["Cache name level cache-type feature layer", "Compatible shared caches"].map String.toList

/-- The line of the row. -/
def januaryLine (weekday : String) : List Char :=
  [' '].intercalate ((januaryRow weekday).columns true)

/-- The listing with the row. -/
def januaryListing (weekday : String) : String :=
  String.ofList (['\n'].intercalate (januaryFront ++ [januaryLine weekday, []]))

/-- The day was a Monday. Under the name of another weekday the day and the year become handles of
    a cache that has none. -/
theorem handles_of_wrong_weekday :
    januaryListing "Tue" =
        "Cache name level cache-type feature layer\nCompatible shared caches\n" ++
          "T2 Java17 64-bit persistent cr 0 Tue Jan 25 10:25:00 2021\n" ∧
      words (januaryLine "Tue") = (januaryRow "Tue").columns (layerColumn januaryFront) ∧
      (caches (januaryListing "Tue")).map (fun d => (d.sharedMemoryId, d.semaphoreId)) =
        [(some 25, some 2021)] := by
  decide +kernel

/-- Under its own name the day leaves no handles. -/
theorem handles_eq_none_of_weekday :
    lines (januaryListing "Mon").toList = januaryFront ++ januaryLine "Mon" :: [] ∧
      words (januaryLine "Mon") = (januaryRow "Mon").columns (layerColumn januaryFront) ∧
      openSection? januaryFront = some true ∧
      ∃ d, (caches (januaryListing "Mon"))[(listed januaryFront).length]? = some d ∧
        d.sharedMemoryId = none ∧ d.semaphoreId = none := by
  have hlines : lines (januaryListing "Mon").toList = januaryFront ++ januaryLine "Mon" :: [] := by
    decide +kernel
  have hwords : words (januaryLine "Mon") =
      (januaryRow "Mon").columns (layerColumn januaryFront) := by
    decide +kernel
  have hopen : openSection? januaryFront = some true := by decide +kernel
  obtain ⟨d, hd, hnone⟩ :=
    handles_eq_none_iff_of_row (januaryRow "Mon") _ januaryFront _ [] true hlines hwords hopen
  exact ⟨hlines, hwords, hopen, d, hd, hnone.2 (by decide +kernel)⟩

end CacheWarden.Listing
