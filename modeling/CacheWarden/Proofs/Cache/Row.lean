import CacheWarden.Cache.Listing
import CacheWarden.Proofs.Cache.Printed
import Mathlib

/-!
# Reading a printed row

The columns of a row come back although their positions are lost: the end of a row goes first, then
the layer, and two numbers have to be left. Main statement: `readRow_columns`, a row gives the cache
that was printed, but without its handles where the number of the layer does not fit 64 bits, since
the first handle is then taken for the layer.
-/

namespace CacheWarden

open Text

theorem AddressMode.ofText_text {m : AddressMode} (h : m.isKnown = true) :
    AddressMode.ofText m.text.toList = m := by
  rcases AddressMode.eq_of_isKnown h with rfl | rfl <;> decide

namespace Listing

/-! ### Words that do not speak of corruption -/

theorem tellsCorrupt_eq_false {w : List Char} (h : ¬ "corrupt".toList <:+: lowerAscii w) :
    tellsCorrupt w = false := by
  rw [tellsCorrupt, ← Bool.not_eq_true, contains_iff_isInfix]
  exact h

/-- The word looked for has seven letters. -/
theorem tellsCorrupt_of_length_lt {w : List Char} (h : w.length < 7) : tellsCorrupt w = false := by
  apply tellsCorrupt_eq_false
  intro hi
  have hlen : 7 ≤ (lowerAscii w).length := hi.length_le
  rw [lowerAscii, List.length_map] at hlen
  omega

/-- The word looked for starts with the letter `c`. -/
theorem tellsCorrupt_of_ne {w : List Char} (h : ∀ c ∈ w, c.toLower ≠ 'c') :
    tellsCorrupt w = false := by
  apply tellsCorrupt_eq_false
  intro hi
  have hmem : 'c' ∈ w.map Char.toLower := hi.subset (by decide)
  obtain ⟨c, hc, hlower⟩ := List.mem_map.1 hmem
  exact h c hc hlower

theorem toLower_ne_of_isDigit {c : Char} (h : isDigit c = true) : c.toLower ≠ 'c' := by
  have hsmall : c.toNat ≤ 0x39 := (bounds_of_isDigit h).2
  have hcapital : ¬ (c.val ≥ 'A'.val ∧ c.val ≤ 'Z'.val) := by
    rintro ⟨hA, -⟩
    have hA : 0x41 ≤ c.toNat := hA
    omega
  rw [Char.toLower, dif_neg hcapital]
  exact ne_of_isDigit h (by decide)

theorem tellsCorrupt_of_isDigit {w : List Char} (h : ∀ c ∈ w, isDigit c = true) :
    tellsCorrupt w = false :=
  tellsCorrupt_of_ne fun c hc => toLower_ne_of_isDigit (h c hc)

theorem tellsCorrupt_decimalInt (n : Int) : tellsCorrupt (decimalInt n) = false := by
  apply tellsCorrupt_of_ne
  intro c hc
  rcases isDigit_of_mem_decimalInt hc with rfl | hc
  · decide
  · exact toLower_ne_of_isDigit hc

theorem ShownMoment.tellsCorrupt_of_mem_columns (m : ShownMoment) {w : List Char}
    (hw : w ∈ m.moment.columns m.paddedDay) : tellsCorrupt w = false := by
  obtain ⟨hmonth0, hmonth1, -⟩ := Calendar.Moment.bounds_of_isValid m.valid
  simp only [Calendar.Moment.columns, List.mem_cons, List.not_mem_nil, or_false] at hw
  rcases hw with rfl | rfl | rfl | rfl | rfl
  · apply tellsCorrupt_of_length_lt
    rw [(Calendar.Moment.weekdayNames_found _ m.moment.date.weekday_lt).1]
    decide
  · apply tellsCorrupt_of_length_lt
    rw [(Calendar.Moment.monthNames_found _ (by omega)).1]
    decide
  · apply tellsCorrupt_of_isDigit
    intro c hc
    split at hc
    · exact isDigit_of_mem_padded hc
    · exact isDigit_of_mem_decimal hc
  · apply tellsCorrupt_of_ne
    intro c hc
    rcases Calendar.Moment.mem_timeText hc with rfl | hc
    · decide
    · exact toLower_ne_of_isDigit hc
  · exact tellsCorrupt_of_isDigit fun c hc => isDigit_of_mem_padded hc

theorem RowStart.tellsCorrupt_levelColumn (r : RowStart) :
    tellsCorrupt (levelColumn r.level) = false := by
  apply tellsCorrupt_of_ne
  intro c hc
  rcases List.mem_append.1 hc with hc | hc
  · have hall : ("Java".toList.all fun c => c.toLower != 'c') = true := by decide
    exact bne_iff_ne.1 (List.all_eq_true.1 hall c hc)
  · exact toLower_ne_of_isDigit (r.levelled c hc)

theorem RowEnd.tellsCorrupt_of_mem_columns {e : RowEnd} {w : List Char} (hw : w ∈ e.columns) :
    tellsCorrupt w = false := by
  cases e with
  | inUse =>
    have hall : ∀ w ∈ RowEnd.inUse.columns, tellsCorrupt w = false := by decide
    exact hall w hw
  | detached m => exact m.tellsCorrupt_of_mem_columns hw
  | nothing => cases hw

/-! ### The end of a row -/

/-- A row does not end like one of a cache in use if its last column is another word. -/
theorem inUse_isSuffixOf_of_ne {last : List Char} (h : last ≠ "use".toList)
    (front : List (List Char)) : RowEnd.inUse.columns.isSuffixOf (front ++ [last]) = false := by
  rw [← Bool.not_eq_true, List.isSuffixOf_iff_suffix]
  rintro ⟨t, ht⟩
  have hcut : (t ++ ["In".toList]) ++ ["use".toList] = front ++ [last] := by
    rw [List.append_assoc]
    exact ht
  exact h (List.singleton_inj.1 (List.append_inj_right' hcut rfl)).symm

theorem decimalInt_ne_use (n : Int) : decimalInt n ≠ "use".toList := by
  intro h
  have hu : 'u' ∈ decimalInt n := h ▸ List.mem_cons_self
  rcases isDigit_of_mem_decimalInt hu with hu | hu
  · cases hu
  · cases hu

theorem padded_ne_use (width n : Nat) : padded width n ≠ "use".toList := by
  intro h
  have hu : 'u' ∈ padded width n := h ▸ List.mem_cons_self
  have hdigit := isDigit_of_mem_padded hu
  cases hdigit

theorem splitDetach_inUse (columns : List (List Char)) :
    splitDetach (columns ++ RowEnd.inUse.columns) = (columns, none) := by
  have hsuffix : RowEnd.inUse.columns.isSuffixOf (columns ++ RowEnd.inUse.columns) = true :=
    List.isSuffixOf_iff_suffix.2 (List.suffix_append _ _)
  have htake : (columns ++ RowEnd.inUse.columns).take
      ((columns ++ RowEnd.inUse.columns).length - 2) = columns := by
    rw [List.length_append]
    exact List.take_left
  unfold splitDetach
  exact (if_pos hsuffix).trans (by rw [htake])

/-- A moment at the end of a row is found: a year is not the last word of a cache in use. -/
theorem splitDetach_detached (columns : List (List Char)) (m : ShownMoment) :
    splitDetach (columns ++ (RowEnd.detached m).columns) = (columns, some m.moment) := by
  have hlast :
      RowEnd.inUse.columns.isSuffixOf (columns ++ (RowEnd.detached m).columns) = false := by
    obtain ⟨front, hfront⟩ : ∃ front, (RowEnd.detached m).columns =
        front ++ [padded 4 m.moment.date.year.toNat] := ⟨[_, _, _, _], rfl⟩
    rw [hfront, ← List.append_assoc]
    exact inUse_isSuffixOf_of_ne (padded_ne_use 4 _) _
  have hlen : (columns ++ (RowEnd.detached m).columns).length = columns.length + 5 := by
    rw [List.length_append]
    rfl
  have hread : Calendar.Moment.ofListing? ([' '].intercalate (RowEnd.detached m).columns) =
      some m.moment :=
    Calendar.Moment.ofListing?_columns m.valid m.year_nonneg m.year_le m.whole m.paddedDay
  unfold splitDetach
  simp only [hlen, Nat.add_sub_cancel, List.take_left, List.drop_left, hread, Nat.le_add_left,
    if_true]
  exact if_neg (Bool.not_eq_true _ ▸ hlast)

theorem splitDetach_short {columns : List (List Char)} (hlen : columns.length < 5)
    (hlast : RowEnd.inUse.columns.isSuffixOf columns = false) :
    splitDetach columns = (columns, none) := by
  unfold splitDetach
  simp only [Nat.not_le.2 hlen, if_false]
  exact if_neg (Bool.not_eq_true _ ▸ hlast)

namespace CacheRow

variable (r : CacheRow) (hasLayers : Bool)

theorem length_middle : (r.middle hasLayers).length < 5 := by
  unfold middle handleColumns
  rcases r.handles with _ | ⟨memory, semaphore⟩ <;> cases hasLayers <;> simp

/-- The last column in front of the end of a row is a number, unless the feature stands alone. -/
theorem inUse_isSuffixOf_middle :
    RowEnd.inUse.columns.isSuffixOf (r.middle hasLayers) = false := by
  unfold middle handleColumns
  rcases r.handles with _ | ⟨memory, semaphore⟩
  · cases hasLayers with
    | true => exact inUse_isSuffixOf_of_ne (decimalInt_ne_use r.layer) [r.feature]
    | false =>
      rw [← Bool.not_eq_true, List.isSuffixOf_iff_suffix]
      intro h
      exact absurd h.length_le (Nat.not_succ_le_self 1)
  · have hlast := inUse_isSuffixOf_of_ne (decimalInt_ne_use semaphore)
    cases hasLayers with
    | true => exact hlast [r.feature, decimalInt r.layer, decimalInt memory]
    | false => exact hlast [r.feature, decimalInt memory]

theorem splitDetach_columns : splitDetach (r.middle hasLayers ++ r.ending.columns) =
    (r.middle hasLayers, r.ending.moment?) := by
  cases r.ending with
  | inUse => exact splitDetach_inUse _
  | detached m => exact splitDetach_detached _ m
  | nothing =>
    rw [show RowEnd.nothing.columns = [] from rfl, List.append_nil]
    exact splitDetach_short (r.length_middle hasLayers) (r.inUse_isSuffixOf_middle hasLayers)

/-! ### The handles -/

/-- The handles that are found in a row: none where the first one is taken for the layer, because
    the number of the layer does not fit 64 bits and so is not counted. -/
def foundHandles : Option (Int × Int) :=
  if hasLayers = true ∧ ¬ FitsInt64 r.layer then none else r.handles

theorem filterMap_handleColumns : r.handleColumns.filterMap readInt64? =
    (r.handles.elim [] fun h => [h.1, h.2]) := by
  unfold handleColumns
  cases hh : r.handles with
  | none => rfl
  | some h =>
    obtain ⟨hmemory, hsemaphore⟩ := r.handlesFit h hh
    simp only [List.filterMap_cons, readInt64?_of_fits hmemory, readInt64?_of_fits hsemaphore,
      List.filterMap_nil, Option.elim_some]

theorem handles_middle : Listing.handles hasLayers (r.middle hasLayers) =
    ((r.foundHandles hasLayers).map Prod.fst, (r.foundHandles hasLayers).map Prod.snd) := by
  have hnumbers : (r.middle hasLayers).filterMap readInt64? =
      (if hasLayers then [decimalInt r.layer] else []).filterMap readInt64? ++
        r.handles.elim [] fun h => [h.1, h.2] := by
    rw [middle, List.filterMap_cons_none (readInt64?_of_not_isNumber r.featureNoNumber),
      List.filterMap_append, filterMap_handleColumns]
  unfold Listing.handles foundHandles
  simp only [hnumbers]
  -- without the number of the layer, dropping one number leaves a single handle
  by_cases hfit : FitsInt64 r.layer
  · have hlayer := readInt64?_of_fits hfit
    cases r.handles <;> cases hasLayers <;> simp [hlayer, hfit]
  · have hlayer := readInt64?_of_not_fits hfit
    cases r.handles <;> cases hasLayers <;> simp [hlayer, hfit]

/-- The cache that is found in a row. -/
def found (compatible : Bool) : Descriptor :=
  { r.descriptor compatible with
    semaphoreId := (r.foundHandles hasLayers).map Prod.snd
    sharedMemoryId := (r.foundHandles hasLayers).map Prod.fst }

theorem found_eq_descriptor (compatible : Bool) (h : r.foundHandles hasLayers = r.handles) :
    r.found hasLayers compatible = r.descriptor compatible := by
  rw [found, h]
  rfl

/-- Handles are lost only if there are any, and only behind a layer that does not fit 64 bits. -/
theorem found_eq_descriptor_iff (compatible : Bool) :
    r.found hasLayers compatible = r.descriptor compatible ↔
      (hasLayers = true → r.handles.isSome = true → FitsInt64 r.layer) := by
  constructor
  · intro h hl hsome
    obtain ⟨handles, hh⟩ := Option.isSome_iff_exists.1 hsome
    have hmemory : (r.foundHandles hasLayers).map Prod.fst = r.handles.map Prod.fst :=
      congrArg Descriptor.sharedMemoryId h
    by_contra hfit
    rw [foundHandles, if_pos ⟨hl, hfit⟩, hh] at hmemory
    cases hmemory
  · intro h
    apply r.found_eq_descriptor
    rw [foundHandles]
    split
    · rename_i hlost
      cases hh : r.handles with
      | none => rfl
      | some => exact absurd (h hlost.1 (by rw [hh]; rfl)) hlost.2
    · rfl

/-! ### The whole row -/

theorem tellsCorrupt_of_mem_columns {w : List Char} (hw : w ∈ r.columns hasLayers) :
    tellsCorrupt w = false := by
  have hmode : tellsCorrupt r.mode.text.toList = false := by
    rcases AddressMode.eq_of_isKnown r.known with h | h
    · rw [h]
      decide
    · rw [h]
      decide
  have hkind : tellsCorrupt r.persistence.name.toList = false := by
    cases r.persistence <;> decide
  exact r.forall_mem_columns hasLayers (P := fun w => tellsCorrupt w = false)
    (tellsCorrupt_eq_false r.nameSound) r.tellsCorrupt_levelColumn hmode hkind
    (tellsCorrupt_eq_false r.featureSound) tellsCorrupt_decimalInt
    (fun _ => RowEnd.tellsCorrupt_of_mem_columns) w hw

/-- A row gives the cache that is found in it. -/
theorem readRow_columns (compatible : Bool) (separators : Nat → Separator) :
    readRow compatible hasLayers (spaced separators (r.columns hasLayers)) =
      some (r.found hasLayers compatible) := by
  have hwords : words (spaced separators (r.columns hasLayers)) = r.columns hasLayers :=
    words_spaced separators fun _ => isWord_of_mem_columns
  have hcorrupt : (r.columns hasLayers).any tellsCorrupt = false := by
    rw [List.any_eq_false]
    intro w hw
    rw [r.tellsCorrupt_of_mem_columns hasLayers hw]
    exact Bool.false_ne_true
  have hlevel : "Java".toList.isPrefixOf (levelColumn r.level) = true :=
    List.isPrefixOf_iff_prefix.2 (List.prefix_append _ _)
  have hkind : kindOfColumn? r.persistence.name.toList = some r.persistence := by
    rw [kindOfColumn?, String.ofList_toList, Persistence.ofName?_name]
  have hmode : AddressMode.ofText r.mode.text.toList = r.mode := AddressMode.ofText_text r.known
  have hcolumns : r.columns hasLayers = r.name :: levelColumn r.level :: r.mode.text.toList ::
      r.persistence.name.toList :: (r.middle hasLayers ++ r.ending.columns) := rfl
  unfold readRow
  rw [hwords, hcorrupt, hcolumns]
  simp only [hlevel, hkind, hmode, r.splitDetach_columns, r.handles_middle, if_true,
    Option.map_some]
  rfl

end CacheRow

end Listing

end CacheWarden
