import CacheWarden.Proofs.Properties.Escape
import CacheWarden.Proofs.Text.Numeral
import Mathlib

/-!
# What an entry is decoded into

The grammar of entries, said without the decoder: which units stand for which characters, whether
they are protected, and what an escape takes. It leaves open which four characters behind `\u` name
another one. Main statements: `Decoding.unique`, by every such grammar an entry has one list of
units; `decode_eq_iff`, by which of them it is decoded; `decode_exact`, when that makes no
difference to the one in which nothing but four hexadecimal digits names a character.
-/

namespace CacheWarden

open Text

theorem scalar?_eq_some_iff {n : Nat} {c : Char} : scalar? n = some c ↔ c.toNat = n := by
  unfold scalar?
  split
  · rename_i h
    rw [Option.some_inj]
    constructor
    · rintro rfl
      rw [Char.toNat_ofNat, if_pos h]
    · rintro rfl
      exact Char.ofNat_toNat c
  · rename_i h
    simp only [reduceCtorEq, false_iff]
    rintro rfl
    exact h c.valid

namespace Properties

/-! ### Escapes with a code -/

/-- Whether the characters taken by `\u` name a character: four hexadecimal digits with its code. -/
def Names (taken : List Char) (c : Char) : Prop := taken.length = 4 ∧ IsHexNumber taken c.toNat

/-- Whether the characters taken by `\u` are a plus sign and three hexadecimal digits with the code
    of a character. -/
def NamesWithPlus (taken : List Char) (c : Char) : Prop :=
  ∃ digits, taken = '+' :: digits ∧ digits.length = 3 ∧ IsHexNumber digits c.toNat

/-- Whether the characters taken by `\u` are read as a character. -/
def IsReadAs (taken : List Char) (c : Char) : Prop := Names taken c ∨ NamesWithPlus taken c

variable {taken : List Char} {c : Char}

theorem readUnsigned?_toNat_iff : readUnsigned? 16 bound32 taken = some c.toNat ↔
    taken ≠ [] ∧ IsHexNumber taken c.toNat ∨
      ∃ digits, taken = '+' :: digits ∧ digits ≠ [] ∧ IsHexNumber digits c.toNat := by
  have hbound : c.toNat < bound32 := c.val.toNat_lt
  simp only [readUnsigned?, Option.filter_eq_some_iff, decide_eq_true hbound, and_true]
  split
  · rename_i digits
    simp [readNat?_sixteen_eq_some_iff, not_isHexNumber_plus]
  · rename_i hplus
    rw [readNat?_sixteen_eq_some_iff, or_iff_left]
    rintro ⟨digits, rfl, -⟩
    exact hplus digits rfl

theorem isReadAs_iff : IsReadAs taken c ↔
    taken.length = 4 ∧ (readUnsigned? 16 bound32 taken).bind scalar? = some c := by
  have hcode : (readUnsigned? 16 bound32 taken).bind scalar? = some c ↔
      readUnsigned? 16 bound32 taken = some c.toNat := by
    simp [Option.bind_eq_some_iff, scalar?_eq_some_iff]
  rw [hcode, readUnsigned?_toNat_iff, IsReadAs, Names, NamesWithPlus]
  constructor
  · rintro (⟨hlen, hnumber⟩ | ⟨digits, rfl, hlen, hnumber⟩)
    · exact ⟨hlen, Or.inl ⟨List.ne_nil_of_length_eq_add_one hlen, hnumber⟩⟩
    · exact ⟨by simp [hlen], Or.inr ⟨digits, rfl, List.ne_nil_of_length_eq_add_one hlen, hnumber⟩⟩
  · rintro ⟨hlen, ⟨-, hnumber⟩ | ⟨digits, rfl, -, hnumber⟩⟩
    · exact Or.inl ⟨hlen, hnumber⟩
    · exact Or.inr ⟨digits, rfl, by simpa using hlen, hnumber⟩

theorem isReadAs_unique {d : Char} (hc : IsReadAs taken c) (hd : IsReadAs taken d) : c = d := by
  rw [isReadAs_iff] at hc hd
  exact Option.some.inj (hc.2.symm.trans hd.2)

/-! ### The grammar -/

/-- The unit of a `\u` escape, given which characters name another one. -/
inductive CodeUnit (names : List Char → Char → Prop) (taken : List Char) : PropertyUnit → Prop where
  | named {c : Char} (h : names taken c) : CodeUnit names taken (.escaped c)
  | unnamed (h : ∀ c, ¬ names taken c) : CodeUnit names taken (.malformed taken)

/-- The letters that stand for control characters behind a backslash. -/
def controls : List (Char × Char) := [('t', '\t'), ('n', '\n'), ('r', '\r'), ('f', '\x0c')]

/-- The units of an entry, given which characters taken by `\u` name another one. An escape takes
    four characters, or all that are left. -/
inductive Decoding (names : List Char → Char → Prop) : List Char → List PropertyUnit → Prop where
  | nil : Decoding names [] []
  | lone : Decoding names ['\\'] []
  | plain {c : Char} {r : List Char} {units : List PropertyUnit} (h : c ≠ '\\')
      (hr : Decoding names r units) : Decoding names (c :: r) (.plain c :: units)
  | control {letter c : Char} {r : List Char} {units : List PropertyUnit}
      (h : (letter, c) ∈ controls) (hr : Decoding names r units) :
      Decoding names ('\\' :: letter :: r) (.escaped c :: units)
  | code {u : PropertyUnit} {r : List Char} {units : List PropertyUnit}
      (h : CodeUnit names (r.take 4) u) (hr : Decoding names (r.drop 4) units) :
      Decoding names ('\\' :: 'u' :: r) (u :: units)
  | self {c : Char} {r : List Char} {units : List PropertyUnit} (hu : c ≠ 'u')
      (hc : c ∉ controls.map Prod.fst) (hr : Decoding names r units) :
      Decoding names ('\\' :: c :: r) (.escaped c :: units)

theorem codeUnit_codeEscape (taken : List Char) : CodeUnit IsReadAs taken (codeEscape taken) := by
  unfold codeEscape
  split
  · rename_i c hc
    split
    · rename_i hlen
      exact .named (isReadAs_iff.2 ⟨hlen, hc⟩)
    · rename_i hlen
      exact .unnamed fun d hd => hlen (isReadAs_iff.1 hd).1
  · rename_i hnone
    refine .unnamed fun d hd => ?_
    rw [(isReadAs_iff.1 hd).2] at hnone
    cases hnone

theorem escapeLetter_of_mem_controls {letter : Char} (h : (letter, c) ∈ controls) :
    letter ≠ 'u' ∧ escapeLetter letter = c := by
  simp only [controls, List.mem_cons, Prod.mk.injEq, List.not_mem_nil, or_false] at h
  rcases h with ⟨rfl, rfl⟩ | ⟨rfl, rfl⟩ | ⟨rfl, rfl⟩ | ⟨rfl, rfl⟩ <;> decide

theorem escapeLetter_of_not_mem_controls (h : c ∉ controls.map Prod.fst) : escapeLetter c = c := by
  simp only [controls, List.map_cons, List.map_nil, List.mem_cons, List.not_mem_nil, or_false,
    not_or] at h
  obtain ⟨ht, hn, hr, hf⟩ := h
  unfold escapeLetter
  split
  · exact absurd rfl ht
  · exact absurd rfl hn
  · exact absurd rfl hr
  · exact absurd rfl hf
  · rfl

theorem ne_backslash {r : List Char} (hpair : ∀ d t, c = '\\' → r = d :: t → False)
    (hlone : c = '\\' → r = [] → False) : c ≠ '\\' := by
  rintro rfl
  cases r with
  | nil => exact hlone rfl rfl
  | cons d t => exact hpair d t rfl rfl

/-- A letter behind a backslash is decoded by the grammar. -/
theorem Decoding.letter {names : List Char → Char → Prop} {r : List Char}
    {units : List PropertyUnit} (hu : c ≠ 'u') (hr : Decoding names r units) :
    Decoding names ('\\' :: c :: r) (.escaped (escapeLetter c) :: units) := by
  by_cases hc : c ∈ controls.map Prod.fst
  · obtain ⟨⟨letter, d⟩, hmem, rfl⟩ := List.mem_map.1 hc
    rw [(escapeLetter_of_mem_controls hmem).2]
    exact .control hmem hr
  · rw [escapeLetter_of_not_mem_controls hc]
    exact .self hu hc hr

/-- Every entry has units, whatever names a character. -/
theorem exists_decoding (names : List Char → Char → Prop) (s : List Char) :
    ∃ units, Decoding names s units := by
  fun_induction decode s with
  | case1 => exact ⟨[], .nil⟩
  | case2 r ih =>
    obtain ⟨units, hunits⟩ := ih
    by_cases hnamed : ∃ c, names (r.take 4) c
    · obtain ⟨c, hc⟩ := hnamed
      exact ⟨_, .code (.named hc) hunits⟩
    · exact ⟨_, .code (.unnamed (not_exists.1 hnamed)) hunits⟩
  | case3 c r hu ih =>
    obtain ⟨units, hunits⟩ := ih
    exact ⟨_, .letter hu hunits⟩
  | case4 => exact ⟨[], .lone⟩
  | case5 c r _ hpair hlone ih =>
    obtain ⟨units, hunits⟩ := ih
    exact ⟨_, .plain (ne_backslash hpair hlone) hunits⟩

theorem decoding_decode (s : List Char) : Decoding IsReadAs s (decode s) := by
  fun_induction decode s with
  | case1 => exact .nil
  | case2 r ih => exact .code (codeUnit_codeEscape _) ih
  | case3 c r hu ih => exact .letter hu ih
  | case4 => exact .lone
  | case5 c r _ hpair hlone ih => exact .plain (ne_backslash hpair hlone) ih

section

variable {names : List Char → Char → Prop} {s taken : List Char} {units others : List PropertyUnit}

theorem CodeUnit.unique (hnames : ∀ taken c d, names taken c → names taken d → c = d)
    {u v : PropertyUnit} (hu : CodeUnit names taken u) (hv : CodeUnit names taken v) : u = v := by
  cases hu with
  | named hc =>
    cases hv with
    | named hd => rw [hnames _ _ _ hc hd]
    | unnamed h => exact absurd hc (h _)
  | unnamed h =>
    cases hv with
    | named hd => exact absurd hd (h _)
    | unnamed _ => rfl

/-- The units of an entry are determined. -/
theorem Decoding.unique (hnames : ∀ taken c d, names taken c → names taken d → c = d)
    (h : Decoding names s units) (h' : Decoding names s others) : units = others := by
  induction h generalizing others with
  | nil =>
    cases h'
    rfl
  | lone =>
    cases h' with
    | lone => rfl
    | plain hc _ => exact absurd rfl hc
  | plain hc _ ih =>
    cases h' with
    | plain _ hr => rw [ih hr]
    | lone => exact absurd rfl hc
    | control _ _ => exact absurd rfl hc
    | code _ _ => exact absurd rfl hc
    | self _ _ _ => exact absurd rfl hc
  | control hmem _ ih =>
    obtain ⟨hu, heq⟩ := escapeLetter_of_mem_controls hmem
    cases h' with
    | plain hc _ => exact absurd rfl hc
    | control hmem' hr => rw [← heq, (escapeLetter_of_mem_controls hmem').2, ih hr]
    | code _ _ => exact absurd rfl hu
    | self _ hc _ => exact absurd (List.mem_map_of_mem hmem) hc
  | code hu _ ih =>
    cases h' with
    | plain hc _ => exact absurd rfl hc
    | control hmem _ => exact absurd rfl (escapeLetter_of_mem_controls hmem).1
    | code hv hr => rw [hu.unique hnames hv, ih hr]
    | self hc _ _ => exact absurd rfl hc
  | self hu hc _ ih =>
    cases h' with
    | plain hc' _ => exact absurd rfl hc'
    | control hmem _ => exact absurd (List.mem_map_of_mem hmem) hc
    | code _ _ => exact absurd rfl hu
    | self _ _ hr => rw [ih hr]

/-- What a malformed escape took names no character. -/
theorem Decoding.not_names_of_malformed (h : Decoding names s units)
    (hmem : .malformed taken ∈ units) (c : Char) : ¬ names taken c := by
  induction h with
  | nil => cases hmem
  | lone => cases hmem
  | plain _ _ ih => exact ih (by simpa using hmem)
  | control _ _ ih => exact ih (by simpa using hmem)
  | self _ _ _ ih => exact ih (by simpa using hmem)
  | code hu _ ih =>
    rcases List.mem_cons.1 hmem with rfl | hmem
    · cases hu with
      | unnamed h => exact h c
    · exact ih hmem

/-- More may name a character as long as nothing that a malformed escape took does. -/
theorem Decoding.of_names {more : List Char → Char → Prop} (h : Decoding names s units)
    (hmore : ∀ taken c, names taken c → more taken c)
    (hnone : ∀ taken c, .malformed taken ∈ units → ¬ more taken c) : Decoding more s units := by
  induction h with
  | nil => exact .nil
  | lone => exact .lone
  | plain hc _ ih => exact .plain hc (ih fun t c ht => hnone t c (List.mem_cons_of_mem _ ht))
  | control hc _ ih => exact .control hc (ih fun t c ht => hnone t c (List.mem_cons_of_mem _ ht))
  | self hu hc _ ih => exact .self hu hc (ih fun t c ht => hnone t c (List.mem_cons_of_mem _ ht))
  | code hu _ ih =>
    refine .code ?_ (ih fun t c ht => hnone t c (List.mem_cons_of_mem _ ht))
    cases hu with
    | named h => exact .named (hmore _ _ h)
    | unnamed _ => exact .unnamed fun c => hnone _ c List.mem_cons_self

end

theorem decode_eq_iff {s : List Char} {units : List PropertyUnit} :
    decode s = units ↔ Decoding IsReadAs s units := by
  constructor
  · rintro rfl
    exact decoding_decode s
  · exact (decoding_decode s).unique fun _ _ _ => isReadAs_unique

/-- An entry is decoded by the grammar in which a plus sign may take the place of the first of four
    hexadecimal digits. By the grammar in which it may not, an entry has units of its own, and it is
    decoded into these exactly if no malformed escape among them took such a plus sign. -/
theorem decode_exact (s : List Char) :
    (∀ units, decode s = units ↔ Decoding IsReadAs s units) ∧
      ∃ strict, (∀ units, Decoding Names s units ↔ units = strict) ∧
        (decode s = strict ↔
          ∀ taken c, .malformed taken ∈ strict → ¬ NamesWithPlus taken c) := by
  refine ⟨fun _ => decode_eq_iff, ?_⟩
  obtain ⟨strict, hstrict⟩ := exists_decoding Names s
  have hnames : ∀ taken c d, Names taken c → Names taken d → c = d :=
    fun _ _ _ hc hd => isReadAs_unique (Or.inl hc) (Or.inl hd)
  refine ⟨strict, fun units => ⟨fun h => h.unique hnames hstrict, fun h => h ▸ hstrict⟩, ?_⟩
  rw [decode_eq_iff]
  constructor
  · intro h taken c hmem hplus
    exact h.not_names_of_malformed hmem c (Or.inr hplus)
  · intro hnone
    refine hstrict.of_names (fun _ _ => Or.inl) fun taken c hmem => ?_
    rintro (h | h)
    · exact hstrict.not_names_of_malformed hmem c h
    · exact hnone taken c hmem h

/-- A plus sign and three digits are read as a character. -/
theorem decode_plusSign :
    Decoding Names "\\u+12f".toList [.malformed "+12f".toList] ∧
      decode "\\u+12f".toList = [.escaped '\u012f'] := by
  have hdigits : List.Forall₂ IsHex "12f".toList [1, 2, 15] := by
    simp [IsHex]
  constructor
  · refine .code (.unnamed fun c h => ?_) .nil
    exact not_isHexNumber_plus _ _ h.2
  · rw [decode_eq_iff]
    exact .code (.named (Or.inr ⟨"12f".toList, rfl, rfl, [1, 2, 15], hdigits, rfl⟩)) .nil

end Properties

end CacheWarden
