import CacheWarden.Proofs.Cache.Accepted
import CacheWarden.Proofs.Verification.Clean
import Mathlib

/-!
# The spellings of an address mode

Besides the number of bits alone and the number with its unit, a width is read from the number with
a plus sign, with zeros in front and with the unit more than once, and from nothing else. Main
statement: `ofText_exact`, also for the caches of a listing, whose modes are found fault with
exactly if their columns have no such spelling.
-/

namespace CacheWarden

open Text

namespace AddressMode

/-- The unit of a width. -/
def unit : List Char := "-bit".toList

/-- The unit, some times over. -/
def units (count : Nat) : List Char := (List.replicate count unit).flatten

/-- Whether a text is a number of bits: in decimal, perhaps with a plus sign and with zeros in
    front, and with the unit behind it, as often as it stands there. -/
def Spells (bits : Nat) (s : List Char) : Prop :=
  ∃ sign ∈ [[], ['+']], ∃ zeros count,
    s = sign ++ (List.replicate zeros '0' ++ decimal bits) ++ units count

/-- The two usual spellings of a number of bits. -/
def usualTexts (bits : Nat) : List (List Char) := [decimal bits, decimal bits ++ unit]

theorem spells_of_mem_usualTexts {bits : Nat} {s : List Char} (h : s ∈ usualTexts bits) :
    Spells bits s := by
  simp only [usualTexts, List.mem_cons, List.not_mem_nil, or_false] at h
  rcases h with rfl | rfl
  · exact ⟨[], by simp, 0, 0, by simp [units]⟩
  · exact ⟨[], by simp, 0, 1, by simp [units]⟩

/-- A usual text is a spelling, so a text keeps to the usual ones if it is no other spelling. -/
theorem spells_iff_usual {bits : Nat} {s : List Char} :
    (Spells bits s ↔ s ∈ usualTexts bits) ↔ (Spells bits s → s ∈ usualTexts bits) :=
  ⟨Iff.mp, fun h => ⟨h, spells_of_mem_usualTexts⟩⟩

/-! ### Dropping the unit -/

theorem units_succ (count : Nat) : units (count + 1) = units count ++ unit := by
  rw [units, List.replicate_succ', List.flatten_concat, units]

theorem exists_units (reversed : List Char) :
    ∃ count, reversed.reverse = dropUnits reversed ++ units count := by
  fun_induction dropUnits reversed with
  | case1 r ih =>
    obtain ⟨count, hcount⟩ := ih
    refine ⟨count + 1, ?_⟩
    rw [units_succ, ← List.append_assoc, ← hcount]
    simp [unit]
  | case2 s => exact ⟨0, (List.append_nil _).symm⟩

theorem dropUnits_append_units {s : List Char} (h : 't' ∉ s) (count : Nat) :
    dropUnits (s ++ units count).reverse = s := by
  induction count with
  | zero =>
    have hnone : s ++ units 0 = s := List.append_nil s
    rw [hnone, dropUnits, List.reverse_reverse]
    intro r hr
    exact h (List.mem_reverse.1 (hr ▸ List.mem_cons_self))
  | succ count ih =>
    rw [units_succ, ← List.append_assoc, List.reverse_append]
    exact ih

/-! ### Reading a width -/

/-- A number of bits is read from its spellings only. -/
theorem readInt64?_dropUnits_iff {bits : Nat} (hbits : bits ≠ 0) (hfit : FitsInt64 bits)
    {s : List Char} : readInt64? (dropUnits s.reverse) = some (bits : Int) ↔ Spells bits s := by
  constructor
  · intro h
    obtain ⟨sign, hsign, zeros, hnumber⟩ := (readInt64?_eq_some_iff hbits hfit).1 h
    obtain ⟨count, hcount⟩ := exists_units s.reverse
    rw [List.reverse_reverse, hnumber] at hcount
    exact ⟨sign, hsign, zeros, count, hcount⟩
  · rintro ⟨sign, hsign, zeros, count, rfl⟩
    have hplain : 't' ∉ sign ++ (List.replicate zeros '0' ++ decimal bits) := by
      intro ht
      rcases List.mem_append.1 ht with ht | ht
      · simp only [List.mem_cons, List.not_mem_nil, or_false] at hsign
        rcases hsign with rfl | rfl <;> simp at ht
      · have hdigit := isDigit_of_mem_zeros_append ht
        cases hdigit
    rw [dropUnits_append_units hplain]
    exact (readInt64?_eq_some_iff hbits hfit).2 ⟨sign, hsign, zeros, rfl⟩

theorem ofBits_eq_bits32_iff {bits : Int} : ofBits bits = .bits32 ↔ bits = (32 : Nat) := by
  unfold ofBits
  split_ifs <;> simp_all

theorem ofBits_eq_bits64_iff {bits : Int} : ofBits bits = .bits64 ↔ bits = (64 : Nat) := by
  unfold ofBits
  split_ifs <;> simp_all

theorem ofText_eq_bits32_iff {s : List Char} : ofText s = .bits32 ↔ Spells 32 (trim s) := by
  rw [← readInt64?_dropUnits_iff (by decide) (by decide), ofText]
  cases readInt64? (dropUnits (trim s).reverse) with
  | none => simp
  | some bits => rw [ofBits_eq_bits32_iff, Option.some_inj]

theorem ofText_eq_bits64_iff {s : List Char} : ofText s = .bits64 ↔ Spells 64 (trim s) := by
  rw [← readInt64?_dropUnits_iff (by decide) (by decide), ofText]
  cases readInt64? (dropUnits (trim s).reverse) with
  | none => simp
  | some bits => rw [ofBits_eq_bits64_iff, Option.some_inj]

theorem isKnown_eq_false_iff {m : AddressMode} : m.isKnown = false ↔ m ≠ .bits32 ∧ m ≠ .bits64 := by
  cases m <;> simp [isKnown]

theorem isKnown_ofText_eq_false_iff {s : List Char} :
    (ofText s).isKnown = false ↔ ¬ Spells 32 (trim s) ∧ ¬ Spells 64 (trim s) := by
  rw [isKnown_eq_false_iff, ne_eq, ne_eq, ofText_eq_bits32_iff, ofText_eq_bits64_iff]

end AddressMode

/-! ### The modes of a listing -/

namespace Verification

theorem unknownAddressMode_not_mem_countFindings (name reported : String)
    (check : Option CountCheck) : .unknownAddressMode name reported ∉ countFindings check := by
  cases check with
  | none => exact List.not_mem_nil
  | some c =>
    rw [countFindings]
    split <;> simp

theorem unknownAddressMode_mem_cacheFindings_iff {r : Registry} {name other reported : String}
    {d : Descriptor} : .unknownAddressMode name reported ∈ cacheFindings r other d ↔
      other = name ∧ d.addressMode.isKnown = false ∧ reported = d.addressMode.text := by
  have hkind : .unknownAddressMode name reported ∉ kindFindings r other d := by
    unfold kindFindings
    split
    · split <;> simp
    · exact List.not_mem_nil
  rw [cacheFindings, List.mem_append, or_iff_right hkind, modeFindings]
  cases d.addressMode.isKnown with
  | true => simp
  | false => simp [eq_comm]

/-- A name is found fault with for its mode exactly if it is of the workload and some cache of that
    name has an unknown mode. -/
theorem exists_unknownAddressMode_mem_iff {live : List Descriptor} {r : Registry} {w : Workload}
    {e : CountExpectation} {name : String} :
    (∃ reported, .unknownAddressMode name reported ∈ (report live r w e).findings) ↔
      name ∈ w.names ∧ ∃ d ∈ live, d.usableName = some name ∧ d.addressMode.isKnown = false := by
  simp only [report, List.mem_append, List.mem_flatMap, Prod.exists, mem_owned,
    unknownAddressMode_not_mem_countFindings, unknownAddressMode_mem_cacheFindings_iff, false_or]
  constructor
  · rintro ⟨reported, n, d, ⟨hd, hname, hw⟩, rfl, hmode, -⟩
    exact ⟨hw, d, hd, hname, hmode⟩
  · rintro ⟨hw, d, hd, hname, hmode⟩
    exact ⟨d.addressMode.text, name, d, ⟨hd, hname, hw⟩, rfl, hmode, rfl⟩

end Verification

namespace Listing

/-- Whether the line at a place is the row of a cache with this name and this column for its
    mode. -/
def IsRowWith (ls : List (List Char)) (name : String) (mode : List Char) : Prop :=
  ∃ i line, IsRowAt ls i ∧ ls[i]? = some line ∧ (words line)[0]? = some name.toList ∧
    (words line)[2]? = some mode

/-- The modes of the caches of a name are those that the rows of that name have in their columns. -/
theorem exists_mem_caches_iff {text name : String} {P : AddressMode → Prop} :
    (∃ d ∈ caches text, d.usableName = some name ∧ P d.addressMode) ↔
      ∃ mode, IsRowWith (lines text.toList) name mode ∧ P (AddressMode.ofText mode) := by
  obtain ⟨hsound, hcomplete⟩ := @mem_listed_places (lines text.toList)
  constructor
  · rintro ⟨d, hd, hname, hP⟩
    obtain ⟨i, hrow, line, hline, hshows, -⟩ := hsound d hd
    have hfirst := hshows.name
    rw [← usableName_of_mem_caches hd, hname, Option.map_some] at hfirst
    obtain ⟨mode, hmode, hread⟩ := Option.map_eq_some_iff.1 hshows.mode.symm
    exact ⟨mode, ⟨i, line, hrow, hline, hfirst.symm, hmode⟩, hread ▸ hP⟩
  · rintro ⟨mode, ⟨i, line, hrow, hline, hfirst, hmode⟩, hP⟩
    obtain ⟨d, hd, line', hline', hshows, -⟩ := hcomplete i hrow
    obtain rfl : line = line' := Option.some.inj (hline.symm.trans hline')
    have hname := hshows.name
    have hread := hshows.mode
    rw [hfirst, Option.map_eq_some_iff] at hname
    obtain ⟨n, hn, heq⟩ := hname
    rw [hmode, Option.map_some, Option.some_inj] at hread
    obtain rfl : n = name := String.toList_inj.1 heq
    exact ⟨d, hd, (usableName_of_mem_caches hd).trans hn, hread ▸ hP⟩

end Listing

namespace AddressMode

/-- A text is read as a width exactly if it spells one when it is trimmed, so only the usual texts
    are read as one exactly if it is no other spelling. In the report on a listing a name is found
    fault with for its mode exactly if it is of the workload and some row of that name has a column
    for the mode that spells no width. -/
theorem ofText_exact (s : List Char) (text : String) (r : Registry) (w : Workload)
    (e : CountExpectation) (name : String) :
    (ofText s = .bits32 ↔ Spells 32 (trim s)) ∧ (ofText s = .bits64 ↔ Spells 64 (trim s)) ∧
    ((ofText s).isKnown = false ↔ ¬ Spells 32 (trim s) ∧ ¬ Spells 64 (trim s)) ∧
    ((ofText s = .bits32 ↔ trim s ∈ usualTexts 32) ∧ (ofText s = .bits64 ↔ trim s ∈ usualTexts 64) ↔
      ∀ bits ∈ [32, 64], Spells bits (trim s) → trim s ∈ usualTexts bits) ∧
    ((∃ reported, .unknownAddressMode name reported ∈
        (Verification.report (Listing.caches text) r w e).findings) ↔
      name ∈ w.names ∧ ∃ mode, Listing.IsRowWith (lines text.toList) name mode ∧
        ¬ Spells 32 mode ∧ ¬ Spells 64 mode) := by
  refine ⟨ofText_eq_bits32_iff, ofText_eq_bits64_iff, isKnown_ofText_eq_false_iff, ?_, ?_⟩
  · rw [ofText_eq_bits32_iff, ofText_eq_bits64_iff, spells_iff_usual, spells_iff_usual]
    simp only [List.forall_mem_cons, List.not_mem_nil, false_implies, implies_true, and_true]
  · rw [Verification.exists_unknownAddressMode_mem_iff,
      Listing.exists_mem_caches_iff (P := fun m => m.isKnown = false)]
    refine and_congr_right fun _ => exists_congr fun mode => and_congr_right fun hrow => ?_
    -- a column has nothing to trim
    obtain ⟨i, line, -, -, -, hmode⟩ := hrow
    have hword : IsWord mode := isWord_of_mem_words (List.mem_of_getElem? hmode)
    rw [isKnown_ofText_eq_false_iff, hword.trim_eq]

/-- The usual spellings are not the only ones: the unit may stand there twice. -/
theorem ofText_doubled_unit :
    ofText "64-bit-bit".toList = .bits64 ∧
      trim "64-bit-bit".toList ∉ usualTexts 32 ++ usualTexts 64 := by
  decide

end AddressMode

end CacheWarden
