import CacheWarden.Text.Numeral
import Mathlib

/-!
# Numbers that are written and read back

A number in decimal is read back, with zeros in front as well, and with its sign. Main statements:
`readNat?_decimal`, `readNat?_padded`, `readInt64?_decimalInt`, where a number that does not fit
64 bits is refused, and `readNat?_eq_some_iff`, `readInt64?_eq_some_iff`,
`readNat?_sixteen_eq_some_iff`, from which texts a number is read.
-/

namespace CacheWarden.Text

theorem digitValue?_digitChar {n : Nat} (h : n < 10) : digitValue? 10 n.digitChar = some n := by
  have hall : ∀ n < 10, digitValue? 10 n.digitChar = some n := by decide
  exact hall n h

theorem readDigits_decimal (n : Nat) : readDigits 10 0 (decimal n) = some n := by
  induction n using Nat.strong_induction_on with
  | _ n ih =>
    by_cases h : n < 10
    · rw [decimal, Nat.toDigits_of_lt_base h, readDigits, digitValue?_digitChar h]
      simp [readDigits]
    · have hcut : decimal n = decimal (n / 10) ++ [(n % 10).digitChar] :=
        Nat.toDigits_of_base_le (by decide) (by omega)
      rw [hcut, readDigits_append, ih (n / 10) (by omega), Option.bind_some, readDigits,
        digitValue?_digitChar (Nat.mod_lt n (by decide)), Option.bind_some, readDigits]
      congr 1
      omega

theorem decimal_ne_nil (n : Nat) : decimal n ≠ [] := Nat.toDigits_ne_nil

/-- A number has no needless zero in front. -/
theorem head?_decimal {n : Nat} (h : n ≠ 0) : (decimal n).head? ≠ some '0' := by
  induction n using Nat.strong_induction_on with
  | _ n ih =>
    by_cases hn : n < 10
    · have hall : ∀ n < 10, n ≠ 0 → n.digitChar ≠ '0' := by decide
      rw [decimal, Nat.toDigits_of_lt_base hn]
      exact fun heq => hall n hn h (Option.some.inj heq)
    · have hcut : decimal n = decimal (n / 10) ++ [(n % 10).digitChar] :=
        Nat.toDigits_of_base_le (by decide) (by omega)
      rw [hcut, List.head?_append_of_ne_nil _ (decimal_ne_nil _)]
      exact ih (n / 10) (by omega) (by omega)

theorem readNat?_decimal (n : Nat) : readNat? 10 (decimal n) = some n := by
  rw [readNat?, List.isEmpty_eq_false_iff.2 (decimal_ne_nil n)]
  exact readDigits_decimal n

theorem readDigits_zeros (k : Nat) : readDigits 10 0 (List.replicate k '0') = some 0 := by
  induction k with
  | zero => rfl
  | succ k ih => exact ih

theorem readNat?_padded (width n : Nat) : readNat? 10 (padded width n) = some n := by
  have hne : padded width n ≠ [] := List.append_ne_nil_of_right_ne_nil _ (decimal_ne_nil n)
  rw [readNat?, List.isEmpty_eq_false_iff.2 hne]
  show readDigits 10 0 (_ ++ decimal n) = some n
  rw [readDigits_append, readDigits_zeros]
  exact readDigits_decimal n

/-! ### The characters of a number -/

theorem isDigit_of_bounds {c : Char} (h : c.isDigit = true) : isDigit c = true := by
  rw [Char.isDigit, Bool.and_eq_true, decide_eq_true_eq, decide_eq_true_eq] at h
  have hlow : 0x30 ≤ c.toNat := h.1
  have hhigh : c.toNat ≤ 0x39 := h.2
  have hlt : c.toNat - 0x30 < 10 := by omega
  simp [isDigit, digitValue?, hlow, hhigh, hlt]

theorem bounds_of_isDigit {c : Char} (h : isDigit c = true) :
    0x30 ≤ c.toNat ∧ c.toNat ≤ 0x39 := by
  by_contra hc
  rw [isDigit, Option.isSome_iff_exists] at h
  obtain ⟨d, hd⟩ := h
  simp only [digitValue?, Option.filter_eq_some_iff, Bool.and_eq_true, decide_eq_true_eq,
    if_neg hc] at hd
  obtain ⟨hd, hlt⟩ := hd
  split at hd
  · have := Option.some.inj hd
    omega
  · split at hd
    · have := Option.some.inj hd
      omega
    · cases hd

theorem isDigit_of_mem_decimal {n : Nat} {c : Char} (h : c ∈ decimal n) : isDigit c = true :=
  isDigit_of_bounds (Nat.isDigit_of_mem_toDigits (by decide) (by decide) h)

theorem isDigit_of_mem_padded {width n : Nat} {c : Char} (h : c ∈ padded width n) :
    isDigit c = true := by
  rcases List.mem_append.1 h with h | h
  · rw [List.eq_of_mem_replicate h]
    decide
  · exact isDigit_of_mem_decimal h

theorem length_padded {width n : Nat} (hw : 0 < width) (h : n < 10 ^ width) :
    (padded width n).length = width := by
  have hlen : (decimal n).length ≤ width := (Nat.length_toDigits_le_iff (by decide) hw).2 h
  show (List.replicate (width - (decimal n).length) '0' ++ decimal n).length = width
  rw [List.length_append, List.length_replicate]
  omega

theorem ne_of_isDigit {c d : Char} (hc : isDigit c = true) (hd : isDigit d = false) : c ≠ d := by
  rintro rfl
  rw [hc] at hd
  cases hd

theorem beq_eq_false_of_isDigit {c d : Char} (hc : isDigit c = true) (hd : isDigit d = false) :
    (c == d) = false := beq_eq_false_iff_ne.2 (ne_of_isDigit hc hd)

/-! ### Numbers with a sign -/

/-- A number is read back exactly if it fits 64 bits. -/
theorem readInt64?_decimalInt (n : Int) :
    readInt64? (decimalInt n) = (some n).filter fun n => decide (FitsInt64 n) := by
  unfold decimalInt
  split
  · have habs : -((n.natAbs : Nat) : Int) = n := by omega
    rw [readInt64?, readNat?_decimal]
    show (some (-((n.natAbs : Nat) : Int))).filter _ = _
    rw [habs]
  · have habs : Int.ofNat n.natAbs = n := by
      show ((n.natAbs : Nat) : Int) = n
      omega
    have hread : readInt64? (decimal n.natAbs) =
        ((readNat? 10 (decimal n.natAbs)).map Int.ofNat).filter fun n => decide (FitsInt64 n) := by
      obtain ⟨c, cs, hcs⟩ := List.exists_cons_of_ne_nil (decimal_ne_nil n.natAbs)
      have hc : isDigit c = true := isDigit_of_mem_decimal (hcs ▸ List.mem_cons_self)
      rw [hcs, readInt64?]
      · rintro _ ⟨⟩
        cases hc
      · rintro _ ⟨⟩
        cases hc
    rw [hread, readNat?_decimal, Option.map_some, habs]

theorem readInt64?_of_fits {n : Int} (h : FitsInt64 n) : readInt64? (decimalInt n) = some n := by
  rw [readInt64?_decimalInt, Option.filter_some, decide_eq_true h, if_pos rfl]

theorem readInt64?_of_not_fits {n : Int} (h : ¬ FitsInt64 n) :
    readInt64? (decimalInt n) = none := by
  rw [readInt64?_decimalInt, Option.filter_some, decide_eq_false h, if_neg Bool.false_ne_true]

/-- Whether a text is a number: digits, with a sign in front or without. -/
def IsNumber (w : List Char) : Prop :=
  ∃ digits, digits ≠ [] ∧ (∀ c ∈ digits, isDigit c = true) ∧
    (w = digits ∨ w = '+' :: digits ∨ w = '-' :: digits)

theorem not_isNumber_cons {c : Char} (hd : isDigit c = false) (hp : c ≠ '+') (hm : c ≠ '-')
    (r : List Char) : ¬ IsNumber (c :: r) := by
  rintro ⟨digits, -, hdigits, rfl | h | h⟩
  · rw [hdigits c List.mem_cons_self] at hd
    cases hd
  · exact hp (List.cons.inj h).1
  · exact hm (List.cons.inj h).1

theorem isDigit_of_readDigits {value n : Nat} {s : List Char} (h : readDigits 10 value s = some n) :
    ∀ c ∈ s, isDigit c = true := by
  induction s generalizing value with
  | nil => rintro c ⟨⟩
  | cons d s ih =>
    rw [readDigits] at h
    obtain ⟨digit, hdigit, hrest⟩ := Option.bind_eq_some_iff.1 h
    intro c hc
    rcases List.mem_cons.1 hc with rfl | hc
    · rw [isDigit, hdigit]
      rfl
    · exact ih hrest c hc

theorem digits_of_readNat? {n : Nat} {s : List Char} (h : readNat? 10 s = some n) :
    s ≠ [] ∧ ∀ c ∈ s, isDigit c = true := by
  rw [readNat?] at h
  split at h
  · cases h
  · rename_i hne
    exact ⟨fun hs => hne (List.isEmpty_iff.2 hs), isDigit_of_readDigits h⟩

/-- Nothing but a number is read as one. -/
theorem isNumber_of_readInt64? {n : Int} {w : List Char} (h : readInt64? w = some n) :
    IsNumber w := by
  unfold readInt64? at h
  obtain ⟨h, -⟩ := Option.filter_eq_some_iff.1 h
  split at h
  · obtain ⟨m, hm, -⟩ := Option.map_eq_some_iff.1 h
    obtain ⟨k, hk, -⟩ := Option.bind_eq_some_iff.1 hm
    obtain ⟨hne, hdigits⟩ := digits_of_readNat? hk
    exact ⟨_, hne, hdigits, Or.inr (Or.inr rfl)⟩
  · obtain ⟨m, hm, -⟩ := Option.map_eq_some_iff.1 h
    obtain ⟨hne, hdigits⟩ := digits_of_readNat? hm
    exact ⟨_, hne, hdigits, Or.inr (Or.inl rfl)⟩
  · obtain ⟨m, hm, -⟩ := Option.map_eq_some_iff.1 h
    obtain ⟨hne, hdigits⟩ := digits_of_readNat? hm
    exact ⟨_, hne, hdigits, Or.inl rfl⟩

theorem readInt64?_of_not_isNumber {w : List Char} (h : ¬ IsNumber w) : readInt64? w = none := by
  rw [Option.eq_none_iff_forall_ne_some]
  intro n hn
  exact h (isNumber_of_readInt64? hn)

theorem isDigit_of_mem_decimalInt {n : Int} {c : Char} (h : c ∈ decimalInt n) :
    c = '-' ∨ isDigit c = true := by
  unfold decimalInt at h
  split at h
  · rcases List.mem_cons.1 h with rfl | h
    · exact Or.inl rfl
    · exact Or.inr (isDigit_of_mem_decimal h)
  · exact Or.inr (isDigit_of_mem_decimal h)

theorem decimalInt_ne_nil (n : Int) : decimalInt n ≠ [] := by
  unfold decimalInt
  split
  · exact List.cons_ne_nil _ _
  · exact decimal_ne_nil _

/-! ### The spellings of a number -/

theorem eq_digitChar_of_digitValue? {c : Char} {d : Nat} (h : digitValue? 10 c = some d) :
    c = d.digitChar ∧ d < 10 := by
  have hdigit : isDigit c = true := by
    rw [isDigit, h]
    rfl
  obtain ⟨hlow, hhigh⟩ := bounds_of_isDigit hdigit
  have hd : d = c.toNat - 0x30 := by
    simp only [digitValue?, hlow, hhigh, decide_true, Bool.and_self, if_true,
      Option.filter_eq_some_iff] at h
    exact (Option.some.inj h.1).symm
  have hlt : d < 10 := by omega
  have hall : ∀ d < 10, (Nat.digitChar d).toNat = 0x30 + d := by decide
  refine ⟨Char.toNat_inj.1 ?_, hlt⟩
  rw [hall d hlt]
  omega

theorem decimal_concat {v d : Nat} (hv : v ≠ 0) (hd : d < 10) :
    decimal (v * 10 + d) = decimal v ++ [d.digitChar] := by
  have hcut : decimal (v * 10 + d) =
      decimal ((v * 10 + d) / 10) ++ [((v * 10 + d) % 10).digitChar] :=
    Nat.toDigits_of_base_le (by decide) (by omega)
  rw [hcut, show (v * 10 + d) / 10 = v by omega, show (v * 10 + d) % 10 = d by omega]

/-- Digits are their number in decimal with zeros in front. -/
theorem eq_zeros_append_decimal {s : List Char} {n : Nat} (h : readDigits 10 0 s = some n)
    (hne : s ≠ []) : ∃ zeros, s = List.replicate zeros '0' ++ decimal n := by
  induction s using List.reverseRecOn generalizing n with
  | nil => exact absurd rfl hne
  | append_singleton s c ih =>
    rw [readDigits_append] at h
    obtain ⟨v, hv, hc⟩ := Option.bind_eq_some_iff.1 h
    obtain ⟨d, hd, hn⟩ := Option.bind_eq_some_iff.1 hc
    obtain ⟨rfl, hlt⟩ := eq_digitChar_of_digitValue? hd
    obtain rfl : v * 10 + d = n := Option.some.inj hn
    have hdecimal : decimal d = [d.digitChar] := Nat.toDigits_of_lt_base hlt
    by_cases hs : s = []
    · subst hs
      obtain rfl : 0 = v := Option.some.inj hv
      exact ⟨0, by simp [hdecimal]⟩
    · obtain ⟨zeros, hzeros⟩ := ih hv hs
      by_cases h0 : v = 0
      · -- the zero before is one more in front
        subst h0
        refine ⟨zeros + 1, ?_⟩
        have hzero : decimal 0 = ['0'] := rfl
        rw [hzeros, hzero, Nat.zero_mul, Nat.zero_add, hdecimal, ← List.replicate_succ']
      · refine ⟨zeros, ?_⟩
        rw [decimal_concat h0 hlt, hzeros, List.append_assoc]

/-- A number is read from its digits with zeros in front, and from nothing else. -/
theorem readNat?_eq_some_iff {s : List Char} {n : Nat} :
    readNat? 10 s = some n ↔ ∃ zeros, s = List.replicate zeros '0' ++ decimal n := by
  constructor
  · intro h
    obtain ⟨hne, -⟩ := digits_of_readNat? h
    rw [readNat?, List.isEmpty_eq_false_iff.2 hne] at h
    exact eq_zeros_append_decimal h hne
  · rintro ⟨zeros, rfl⟩
    have hne : List.replicate zeros '0' ++ decimal n ≠ [] :=
      List.append_ne_nil_of_right_ne_nil _ (decimal_ne_nil n)
    rw [readNat?, List.isEmpty_eq_false_iff.2 hne]
    show readDigits 10 0 (_ ++ decimal n) = some n
    rw [readDigits_append, readDigits_zeros]
    exact readDigits_decimal n

theorem isDigit_of_mem_zeros_append {zeros n : Nat} {c : Char}
    (h : c ∈ List.replicate zeros '0' ++ decimal n) : isDigit c = true := by
  rcases List.mem_append.1 h with h | h
  · rw [List.eq_of_mem_replicate h]
    decide
  · exact isDigit_of_mem_decimal h

/-- A positive number is read from its digits with zeros in front, with a plus sign or without. -/
theorem readInt64?_eq_some_iff {s : List Char} {n : Nat} (hn : n ≠ 0) (hfit : FitsInt64 n) :
    readInt64? s = some (n : Int) ↔
      ∃ sign ∈ [[], ['+']], ∃ zeros, s = sign ++ (List.replicate zeros '0' ++ decimal n) := by
  have hmap : ∀ r, (readNat? 10 r).map Int.ofNat = some (n : Int) ↔ readNat? 10 r = some n := by
    intro r
    simp only [Option.map_eq_some_iff, Int.ofNat_eq_natCast, Int.natCast_inj, exists_eq_right]
  have hnumber : ∀ zeros, ∀ c ∈ List.replicate zeros '0' ++ decimal n, isDigit c = true :=
    fun _ _ => isDigit_of_mem_zeros_append
  unfold readInt64?
  simp only [Option.filter_eq_some_iff, decide_eq_true_eq, and_iff_left hfit, List.mem_cons,
    List.not_mem_nil, or_false, exists_eq_or_imp, exists_eq_left, List.nil_append]
  split
  · rename_i r
    constructor
    · intro h
      obtain ⟨m, hm, hneg⟩ := Option.map_eq_some_iff.1 h
      obtain ⟨k, -, hk⟩ := Option.bind_eq_some_iff.1 hm
      obtain rfl : (k : Int) = m := Option.some.inj hk
      omega
    · rintro (⟨zeros, h⟩ | ⟨zeros, h⟩)
      · have hminus := hnumber zeros '-' (h ▸ List.mem_cons_self)
        cases hminus
      · cases h
  · rename_i r
    rw [hmap, readNat?_eq_some_iff]
    constructor
    · rintro ⟨zeros, rfl⟩
      exact Or.inr ⟨zeros, rfl⟩
    · rintro (⟨zeros, h⟩ | ⟨zeros, h⟩)
      · have hplus := hnumber zeros '+' (h ▸ List.mem_cons_self)
        cases hplus
      · exact ⟨zeros, (List.cons.inj h).2⟩
  · rename_i hminus hplus
    rw [hmap, readNat?_eq_some_iff]
    constructor
    · exact Or.inl
    · rintro (h | ⟨zeros, h⟩)
      · exact h
      · exact absurd h (hplus _)

/-! ### Hexadecimal numbers -/

/-- Whether a character is a hexadecimal digit with this value, small or capital. -/
def IsHex (c : Char) (value : Nat) : Prop :=
  value < 10 ∧ c.toNat = '0'.toNat + value ∨
    10 ≤ value ∧ value < 16 ∧
      (c.toNat + 10 = 'a'.toNat + value ∨ c.toNat + 10 = 'A'.toNat + value)

/-- Whether a text is made of hexadecimal digits that give this number. -/
def IsHexNumber (s : List Char) (n : Nat) : Prop :=
  ∃ values, List.Forall₂ IsHex s values ∧ n = values.foldl (fun n value => n * 16 + value) 0

theorem digitValue?_eq_some_iff {c : Char} {value : Nat} :
    digitValue? 16 c = some value ↔ IsHex c value := by
  have hzero : '0'.toNat = 0x30 := rfl
  have ha : 'a'.toNat = 0x61 := rfl
  have hA : 'A'.toNat = 0x41 := rfl
  simp only [digitValue?, IsHex, hzero, ha, hA, Option.filter_eq_some_iff, decide_eq_true_eq,
    Bool.and_eq_true]
  split_ifs
  · rw [Option.some_inj]
    omega
  · rw [Option.some_inj]
    omega
  · rw [Option.some_inj]
    omega
  · simp only [false_and, false_iff]
    omega

theorem readDigits_eq_some_iff {s : List Char} {start n : Nat} :
    readDigits 16 start s = some n ↔
      ∃ values, List.Forall₂ IsHex s values ∧
        n = values.foldl (fun n value => n * 16 + value) start := by
  induction s generalizing start with
  | nil => simp [readDigits, eq_comm]
  | cons c s ih =>
    simp only [readDigits, Option.bind_eq_some_iff, digitValue?_eq_some_iff, ih,
      List.forall₂_cons_left_iff]
    constructor
    · rintro ⟨value, hvalue, values, hvalues, hn⟩
      exact ⟨value :: values, ⟨value, values, hvalue, hvalues, rfl⟩, hn⟩
    · rintro ⟨_, ⟨value, values, hvalue, hvalues, rfl⟩, hn⟩
      exact ⟨value, hvalue, values, hvalues, hn⟩

theorem readNat?_sixteen_eq_some_iff {s : List Char} {n : Nat} :
    readNat? 16 s = some n ↔ s ≠ [] ∧ IsHexNumber s n := by
  unfold readNat? IsHexNumber
  cases s with
  | nil => simp
  | cons c s => simp [readDigits_eq_some_iff]

theorem not_isHex_plus (value : Nat) : ¬ IsHex '+' value := by
  have hplus : '+'.toNat = 0x2b := rfl
  have hzero : '0'.toNat = 0x30 := rfl
  have ha : 'a'.toNat = 0x61 := rfl
  have hA : 'A'.toNat = 0x41 := rfl
  rw [IsHex]
  omega

theorem not_isHexNumber_plus (s : List Char) (n : Nat) : ¬ IsHexNumber ('+' :: s) n := by
  rintro ⟨values, h, -⟩
  cases h with
  | cons hplus _ => exact not_isHex_plus _ hplus

end CacheWarden.Text
