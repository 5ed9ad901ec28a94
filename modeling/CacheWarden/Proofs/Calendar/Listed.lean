import CacheWarden.Calendar.Moment
import CacheWarden.Proofs.Text.Numeral
import CacheWarden.Proofs.Text.Scan
import CacheWarden.Proofs.Text.Words
import Mathlib

/-!
# Moments that a listing writes

The five columns of a moment, from the weekday to the year, are read back as that moment. Main
statement: `ofListing?_columns`.
-/

namespace CacheWarden

namespace Calendar.Moment

open Text

/-! ### Writing -/

/-- The columns of a moment. A day before the tenth may have a zero in front. -/
def columns (m : Moment) (paddedDay : Bool) : List (List Char) :=
  [(weekdayNames.getD m.date.weekday "").toList, (monthNames.getD (m.date.month - 1) "").toList,
    if paddedDay then padded 2 m.date.day else decimal m.date.day, m.timeText,
    padded 4 m.date.year.toNat]

/-! ### What a valid moment consists of -/

theorem monthLength_le {year : Int} {length : Nat} (h : length ∈ monthLengths year) :
    length ≤ 31 := by
  have hall : ∀ n ∈ monthLengths year, n ≤ 31 := by
    unfold monthLengths
    split <;> decide
  exact hall length h

/-- The parts of a valid moment are in their bounds. -/
theorem bounds_of_isValid {m : Moment} (h : m.isValid = true) :
    1 ≤ m.date.month ∧ m.date.month ≤ 12 ∧ m.date.day ≤ 31 ∧ m.hour ≤ 23 ∧ m.minute ≤ 59 ∧
      m.second ≤ 60 := by
  simp only [isValid, Date.isValid, Bool.and_eq_true, decide_eq_true_eq] at h
  obtain ⟨⟨⟨⟨⟨⟨⟨-, hmonth⟩, -⟩, hday⟩, hhour⟩, hminute⟩, hsecond⟩, -⟩ := h
  rw [Option.any_eq_true] at hday
  obtain ⟨length, hlength, hday⟩ := hday
  have hlt : m.date.month - 1 < 12 := (List.getElem?_eq_some_iff.1 hlength).1
  have hle : length ≤ 31 := monthLength_le (List.mem_of_getElem? hlength)
  rw [decide_eq_true_eq] at hday
  exact ⟨hmonth, by omega, by omega, hhour, hminute, hsecond⟩

/-! ### Columns are words -/

theorem weekdayNames_found : ∀ i < 7, (weekdayNames.getD i "").toList.length = 3 ∧
    weekdayNames.findIdx
      (fun n => sameIgnoringCase n.toList (weekdayNames.getD i "").toList) = i := by
  decide

theorem monthNames_found : ∀ i < 12, (monthNames.getD i "").toList.length = 3 ∧
    monthNames.findIdx (fun n => sameIgnoringCase n.toList (monthNames.getD i "").toList) = i := by
  decide

theorem weekdayNames_unbroken :
    ∀ i < 7, ((weekdayNames.getD i "").toList.all (!isBlank ·)) = true := by
  decide

theorem monthNames_unbroken :
    ∀ i < 12, ((monthNames.getD i "").toList.all (!isBlank ·)) = true := by
  decide

/-- A name of three letters is a word if none of them is blank. -/
theorem isWord_of_name {w : List Char} (hlen : w.length = 3) (h : w.all (!isBlank ·) = true) :
    IsWord w := by
  have hpos : 0 < w.length := by omega
  exact isWord_of_all (List.length_pos_iff.1 hpos) h

theorem isWord_weekday (m : Moment) : IsWord (weekdayNames.getD m.date.weekday "").toList :=
  isWord_of_name (weekdayNames_found _ m.date.weekday_lt).1
    (weekdayNames_unbroken _ m.date.weekday_lt)

theorem isWord_month {i : Nat} (h : i < 12) : IsWord (monthNames.getD i "").toList :=
  isWord_of_name (monthNames_found i h).1 (monthNames_unbroken i h)

theorem isWord_day (day : Nat) (paddedDay : Bool) :
    IsWord (if paddedDay then padded 2 day else decimal day) := by
  cases paddedDay with
  | true => exact isWord_padded 2 day
  | false => exact isWord_decimal day

theorem mem_timeText {m : Moment} {c : Char} (h : c ∈ m.timeText) :
    c = ':' ∨ isDigit c = true := by
  simp only [timeText, List.mem_append, List.mem_cons] at h
  rcases h with (h | rfl | h) | rfl | h
  · exact Or.inr (isDigit_of_mem_padded h)
  · exact Or.inl rfl
  · exact Or.inr (isDigit_of_mem_padded h)
  · exact Or.inl rfl
  · exact Or.inr (isDigit_of_mem_padded h)

theorem isWord_timeText (m : Moment) : IsWord m.timeText := by
  constructor
  · simp [timeText]
  · intro c hc
    rcases mem_timeText hc with rfl | hc
    · decide
    · exact not_isBlank_of_isDigit hc

theorem isWord_of_mem_columns {m : Moment} (h : m.isValid = true) {paddedDay : Bool}
    {w : List Char} (hw : w ∈ m.columns paddedDay) : IsWord w := by
  obtain ⟨hmonth0, hmonth1, -⟩ := bounds_of_isValid h
  simp only [columns, List.mem_cons, List.not_mem_nil, or_false] at hw
  rcases hw with rfl | rfl | rfl | rfl | rfl
  · exact isWord_weekday m
  · exact isWord_month (by omega)
  · exact isWord_day m.date.day paddedDay
  · exact isWord_timeText m
  · exact isWord_padded 4 _

/-! ### Reading -/

theorem run_blanks {g rest : List Char} (hg : ∀ c ∈ g, isBlank c = true)
    (hrest : ∀ c, rest.head? = some c → isBlank c = false) :
    blanks (g ++ rest) = some ((), rest) := by
  rw [blanks, Scan.run_bind (Scan.run_takeWhile hg hrest)]
  rfl

theorem run_blanks_of_head {rest : List Char}
    (hrest : ∀ c, rest.head? = some c → isBlank c = false) : blanks rest = some ((), rest) :=
  run_blanks (g := []) (by simp) hrest

/-- A number ends where its width is used up, or at a character that is no digit. -/
theorem run_digitsUpTo {width n : Nat} {digits rest : List Char}
    (hdigits : ∀ c ∈ digits, isDigit c = true) (hread : readNat? 10 digits = some n)
    (hlen : digits.length ≤ width)
    (hrest : digits.length = width ∨ ∀ c, rest.head? = some c → isDigit c = false) :
    digitsUpTo width (digits ++ rest) = some (n, rest) := by
  have htake : ((digits ++ rest).take width).takeWhile isDigit = digits := by
    have hstop : (rest.take (width - digits.length)).takeWhile isDigit = [] := by
      rcases hrest with hfull | hrest
      · rw [hfull, Nat.sub_self, List.take_zero, List.takeWhile_nil]
      · cases rest with
        | nil => simp
        | cons c rest =>
          cases width - digits.length with
          | zero => rfl
          | succ k => rw [List.take_succ_cons, List.takeWhile_cons_of_neg (by simp [hrest c rfl])]
    rw [List.take_append, List.take_of_length_le hlen, List.takeWhile_append_of_pos hdigits, hstop,
      List.append_nil]
  unfold digitsUpTo
  simp only [htake, hread]
  simp

theorem run_name {names : List String} {text : List Char} {i : Nat} (hlen : text.length = 3)
    (hfound : names.findIdx (fun n => sameIgnoringCase n.toList text) = i) (hi : i < names.length)
    (rest : List Char) : name names (text ++ rest) = some (i, rest) := by
  have htake : (text ++ rest).take 3 = text := by rw [← hlen, List.take_left]
  have hdrop : (text ++ rest).drop 3 = rest := by rw [← hlen, List.drop_left]
  unfold name
  simp only [htake, hdrop, hfound, hi, if_true]

/-- A number with as many digits as it may have. -/
theorem run_number {width n : Nat} {digits rest : List Char}
    (hne : digits ≠ []) (hdigits : ∀ c ∈ digits, isDigit c = true)
    (hread : readNat? 10 digits = some n) (hlen : digits.length ≤ width)
    (hrest : digits.length = width ∨ ∀ c, rest.head? = some c → isDigit c = false) :
    number width (digits ++ rest) = some (n, rest) := by
  have hhead : ∀ c, (digits ++ rest).head? = some c → isBlank c = false := by
    obtain ⟨d, ds, rfl⟩ := List.exists_cons_of_ne_nil hne
    rintro c ⟨⟩
    exact not_isBlank_of_isDigit (hdigits d List.mem_cons_self)
  rw [number, Scan.run_bind (run_blanks_of_head hhead)]
  exact run_digitsUpTo hdigits hread hlen hrest

theorem run_number_padded {width n : Nat} (hw : 0 < width) (hn : n < 10 ^ width)
    (rest : List Char) : number width (padded width n ++ rest) = some (n, rest) := by
  have hlen := length_padded hw hn
  have hne : padded width n ≠ [] := by
    rw [← List.length_pos_iff, hlen]
    exact hw
  exact run_number hne (fun _ => isDigit_of_mem_padded) (readNat?_padded width n)
    (Nat.le_of_eq hlen) (Or.inl hlen)

theorem run_number_decimal {width n : Nat} (hw : 0 < width) (hn : n < 10 ^ width)
    {rest : List Char} (hrest : ∀ c, rest.head? = some c → isDigit c = false) :
    number width (decimal n ++ rest) = some (n, rest) :=
  run_number (decimal_ne_nil n) (fun _ => isDigit_of_mem_decimal) (readNat?_decimal n)
    ((Nat.length_toDigits_le_iff (by decide) hw).2 hn) (Or.inr hrest)

/-- A single space between two columns. -/
theorem run_space {rest : List Char} (h : ∀ c, rest.head? = some c → isBlank c = false) :
    blanks (' ' :: rest) = some ((), rest) :=
  run_blanks (g := [' ']) (by simp; decide) h

theorem run_year {year : Int} (h0 : 0 ≤ year) (h1 : year ≤ 9999) :
    Moment.year (padded 4 year.toNat) = some (year, []) := by
  have hlen : (padded 4 year.toNat).length = 4 := length_padded (by decide) (by omega)
  obtain ⟨d, ds, hd⟩ : ∃ d ds, padded 4 year.toNat = d :: ds :=
    List.exists_cons_of_ne_nil (isWord_padded 4 _).ne_nil
  have hdigit : isDigit d = true := isDigit_of_mem_padded (hd ▸ List.mem_cons_self)
  have hdigits : digitsUpTo 4 (padded 4 year.toNat) = some (year.toNat, []) := by
    have h : digitsUpTo 4 (padded 4 year.toNat ++ []) = some (year.toNat, []) :=
      run_digitsUpTo (fun _ => isDigit_of_mem_padded) (readNat?_padded 4 year.toNat)
        (Nat.le_of_eq hlen) (Or.inl hlen)
    rwa [List.append_nil] at h
  have hblank : ∀ c, (padded 4 year.toNat).head? = some c → isBlank c = false := by
    rw [hd]
    rintro c ⟨⟩
    exact not_isBlank_of_isDigit hdigit
  rw [Moment.year, Scan.run_bind (run_blanks_of_head hblank), hd,
    Scan.run_bind (show (get : Scan (List Char)) (d :: ds) = some (d :: ds, d :: ds) from rfl)]
  have habs : ((year.toNat : Nat) : Int) = year := by omega
  have hunsigned : (do return (← digitsUpTo 4) : Scan Int) (d :: ds) = some (year, []) := by
    rw [hd] at hdigits
    rw [Scan.run_bind hdigits, habs]
    rfl
  refine Eq.trans (congrFun ?_ (d :: ds)) hunsigned
  split
  · rename_i heq
    cases heq
    cases hdigit
  · rename_i heq
    cases heq
    cases hdigit
  · rfl

/-- A valid moment in whole seconds and with a year of four digits is read back. -/
theorem ofListing?_columns {m : Moment} (hvalid : m.isValid = true) (hyear0 : 0 ≤ m.date.year)
    (hyear1 : m.date.year ≤ 9999) (hwhole : m.nanosecond = 0) (paddedDay : Bool) :
    ofListing? ([' '].intercalate (m.columns paddedDay)) = some m := by
  obtain ⟨hmonth0, hmonth1, hday, hhour, hminute, hsecond⟩ := bounds_of_isValid hvalid
  obtain ⟨hweekdayLen, hweekday⟩ := weekdayNames_found m.date.weekday m.date.weekday_lt
  obtain ⟨hmonthLen, hmonth⟩ := monthNames_found (m.date.month - 1) (by omega)
  have hmonthLt : m.date.month - 1 < monthNames.length := by
    show m.date.month - 1 < 12
    omega
  have hdayWord : IsWord (if paddedDay then padded 2 m.date.day else decimal m.date.day) :=
    isWord_day m.date.day paddedDay
  have hdayRun : ∀ rest, number 2 ((if paddedDay then padded 2 m.date.day
      else decimal m.date.day) ++ ' ' :: rest) = some (m.date.day, ' ' :: rest) := by
    intro rest
    cases paddedDay with
    | true => exact run_number_padded (by decide) (by omega) _
    | false => exact run_number_decimal (by decide) (by omega) (by rintro c ⟨⟩; decide)
  have hsame : (⟨⟨m.date.year, m.date.month - 1 + 1, m.date.day⟩, m.hour, m.minute, m.second, 0⟩ :
      Moment) = m := by
    rw [Nat.sub_add_cancel hmonth0, ← hwhole]
  have hchecked : checked m [] = some (m, []) := by
    rw [checked, if_pos hvalid]
    rfl
  have hrun : listed ([' '].intercalate (m.columns paddedDay)) = some (m, []) := by
    simp only [columns, List.intercalate_cons_cons, List.intercalate_singleton, timeText,
      List.append_assoc, List.cons_append, List.nil_append]
    rw [listed, Scan.run_bind (run_name hweekdayLen hweekday m.date.weekday_lt _),
      Scan.run_bind (run_space ((isWord_month (by omega)).isBlank_of_head? _)),
      Scan.run_bind (run_name hmonthLen hmonth hmonthLt _),
      Scan.run_bind (run_space (hdayWord.isBlank_of_head? _)),
      Scan.run_bind (hdayRun _),
      Scan.run_bind (run_space ((isWord_padded 2 m.hour).isBlank_of_head? _)),
      Scan.run_bind (run_number_padded (by decide) (by omega) _),
      Scan.run_bind (Scan.run_char ':' _),
      Scan.run_bind (run_number_padded (by decide) (by omega) _),
      Scan.run_bind (Scan.run_char ':' _),
      Scan.run_bind (run_number_padded (by decide) (by omega) _),
      Scan.run_bind (run_space fun c hc => (isWord_padded 4 m.date.year.toNat).unbroken c
        (List.mem_of_mem_head? hc)),
      Scan.run_bind (run_year hyear0 hyear1), hsame, Scan.run_bind hchecked,
      if_pos (beq_self_eq_true _)]
    rfl
  rw [ofListing?, Scan.whole?, hrun]

end Calendar.Moment

end CacheWarden
