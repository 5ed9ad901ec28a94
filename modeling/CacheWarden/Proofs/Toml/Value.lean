import CacheWarden.Proofs.Text.Numeral
import CacheWarden.Proofs.Toml.Text
import CacheWarden.Toml.Reader

/-!
# Values that are written and read back

Texts, whole numbers that fit 64 bits, truth values, and arrays of these are read back from what
stands behind the equals sign of a document. Main statements: `run_scalar`, `run_value`.
-/

namespace CacheWarden.Toml

open Text Scan

/-- What follows a value: a comma, the end of its array, or the end of its line. -/
inductive Follows : List Char → Prop
  | comma (r : List Char) : Follows (',' :: r)
  | bracket (r : List Char) : Follows (']' :: r)
  | lineEnd (r : List Char) : Follows ('\n' :: r)

theorem Follows.ne {rest : List Char} (h : Follows rest) {d : Char}
    (hd : d ≠ ',' ∧ d ≠ ']' ∧ d ≠ '\n') : rest.head? ≠ some d := by
  obtain ⟨hc, hb, hn⟩ := hd
  cases h with
  | comma r => exact fun heq => hc (Option.some.inj heq).symm
  | bracket r => exact fun heq => hb (Option.some.inj heq).symm
  | lineEnd r => exact fun heq => hn (Option.some.inj heq).symm

theorem Follows.not {rest : List Char} (h : Follows rest) {p : Char → Bool}
    (hp : p ',' = false ∧ p ']' = false ∧ p '\n' = false) :
    ∀ c, rest.head? = some c → p c = false := by
  obtain ⟨hc, hb, hn⟩ := hp
  cases h with
  | comma r =>
    rintro c ⟨⟩
    exact hc
  | bracket r =>
    rintro c ⟨⟩
    exact hb
  | lineEnd r =>
    rintro c ⟨⟩
    exact hn

/-! ### Whole numbers -/

/-- What is left of a number and of what follows it. -/
def NumberLeft (s : List Char) : Prop :=
  ∃ digits rest, s = digits ++ rest ∧ (∀ c ∈ digits, isDigit c = true) ∧ Follows rest

section NumberLeft

variable {s r : List Char}

theorem NumberLeft.not (h : NumberLeft s) {p : Char → Bool}
    (hdigit : ∀ c, isDigit c = true → p c = false)
    (hp : p ',' = false ∧ p ']' = false ∧ p '\n' = false) :
    ∀ c, s.head? = some c → p c = false := by
  obtain ⟨digits, rest, rfl, hdigits, hrest⟩ := h
  cases digits with
  | nil => exact hrest.not hp
  | cons d digits =>
    rintro c ⟨⟩
    exact hdigit d (hdigits d List.mem_cons_self)

theorem NumberLeft.run_char_of_ne (h : NumberLeft s) {d : Char} (hd : isDigit d = false)
    (hf : d ≠ ',' ∧ d ≠ ']' ∧ d ≠ '\n') : char d s = none := by
  have hno : ∀ c, s.head? = some c → (c == d) = false :=
    h.not (fun c hc => beq_eq_false_of_isDigit hc hd)
      (by simp [beq_eq_false_iff_ne, Ne.symm hf.1, Ne.symm hf.2.1, Ne.symm hf.2.2])
  exact Scan.run_char_of_ne fun heq => beq_eq_false_iff_ne.1 (hno d heq) rfl

theorem NumberLeft.of_satisfy (h : NumberLeft s) {c : Char}
    (hrun : satisfy isDigit s = some (c, r)) : NumberLeft r := by
  obtain ⟨digits, rest, rfl, hdigits, hrest⟩ := h
  cases digits with
  | nil =>
    have hnone : satisfy isDigit rest = none := run_satisfy_of_not (hrest.not (by decide))
    rw [List.nil_append, hnone] at hrun
    cases hrun
  | cons d digits =>
    rw [List.cons_append, run_satisfy (hdigits d List.mem_cons_self)] at hrun
    obtain ⟨rfl, rfl⟩ := Prod.mk.inj (Option.some.inj hrun)
    exact ⟨digits, rest, rfl, fun e he => hdigits e (List.mem_cons_of_mem _ he), hrest⟩

theorem NumberLeft.of_takeExactly {n : Nat} (h : NumberLeft s) {taken : List Char}
    (hrun : takeExactly isDigit n s = some (taken, r)) : NumberLeft r := by
  induction n generalizing s taken with
  | zero =>
    obtain ⟨-, rfl⟩ := Prod.mk.inj (Option.some.inj hrun)
    exact h
  | succ n ih =>
    obtain ⟨⟨c, s'⟩, hc, hrun⟩ := run_bind_eq_some hrun
    obtain ⟨⟨cs, r'⟩, hcs, hrun⟩ := run_bind_eq_some hrun
    obtain ⟨-, rfl⟩ := Prod.mk.inj (Option.some.inj hrun)
    exact ih (h.of_satisfy hc) hcs

theorem NumberLeft.of_boundedNumber {n low high v : Nat} (h : NumberLeft s)
    (hrun : boundedNumber n low high s = some (v, r)) : NumberLeft r := by
  obtain ⟨⟨digits, s'⟩, hdigits, hrun⟩ := run_bind_eq_some hrun
  have hleft := h.of_takeExactly hdigits
  cases hvalue : (readNat? 10 digits).filter fun v => decide (low ≤ v) && decide (v ≤ high) with
  | none =>
    simp only [hvalue] at hrun
    cases hrun
  | some w =>
    simp only [hvalue] at hrun
    obtain ⟨-, rfl⟩ := Prod.mk.inj (Option.some.inj hrun)
    exact hleft

/-- No number is the start of a date or a time. -/
theorem NumberLeft.run_moment (h : NumberLeft s) : moment s = none := by
  have hday : day s = none := by
    refine run_bind_eq_none fun year r hyear => ?_
    exact run_bind_of_none ((h.of_boundedNumber hyear).run_char_of_ne (by decide) (by decide)) _
  have hclock : clock s = none := by
    refine run_bind_eq_none fun hour r hhour => ?_
    exact run_bind_of_none ((h.of_boundedNumber hhour).run_char_of_ne (by decide) (by decide)) _
  rw [moment, run_orElse_of_none (run_bind_of_none hday _)]
  exact run_bind_of_none hclock _

end NumberLeft

section Integer

variable {rest : List Char} (hrest : Follows rest)

include hrest

theorem rounds_moreDigits {digits : List Char} (h : ∀ c ∈ digits, isDigit c = true) :
    Rounds ((do
      let _ ← maybe (char '_')
      let c ← satisfy isDigit
      pure (some c)) <|> pure none) (digits ++ rest) digits rest := by
  have hbar {s : List Char} (hs : s.head? ≠ some '_') : maybe (char '_') s = some (none, s) :=
    run_maybe_of_none (run_char_of_ne hs)
  induction digits with
  | nil =>
    refine .done ((run_orElse_of_none ?_ _).trans rfl)
    rw [List.nil_append, run_bind (hbar (hrest.ne (by decide)))]
    exact run_bind_of_none (run_satisfy_of_not (hrest.not (by decide))) _
  | cons c digits ih =>
    have hc : isDigit c = true := h c List.mem_cons_self
    have hne : (c :: (digits ++ rest)).head? ≠ some '_' := fun heq =>
      ne_of_isDigit hc (by decide) (Option.some.inj heq)
    show Rounds _ ([c] ++ (digits ++ rest)) _ _
    refine .cons (List.cons_ne_nil c []) (run_orElse ?_ _)
      (ih fun d hd => h d (List.mem_cons_of_mem c hd))
    rw [List.singleton_append, run_bind (hbar hne), run_bind (run_satisfy hc _)]
    rfl

theorem numberLeft_decimal (n : Nat) : NumberLeft (decimal n ++ rest) :=
  ⟨decimal n, rest, rfl, fun _ => isDigit_of_mem_decimal, hrest⟩

/-- The sign of a number is taken, and its digits are left. -/
theorem run_sign (n : Int) :
    sign (decimalInt n ++ rest) = some (decide (n < 0), decimal n.natAbs ++ rest) := by
  by_cases hn : n < 0
  · rw [decimalInt, if_pos hn, decide_eq_true hn]
    rfl
  · have hnone : satisfy (fun c => c == '+' || c == '-') (decimal n.natAbs ++ rest) = none := by
      apply run_satisfy_of_not
      refine (numberLeft_decimal hrest n.natAbs).not (fun c hc => ?_) (by decide)
      rw [beq_eq_false_of_isDigit hc (by decide), beq_eq_false_of_isDigit hc (by decide)]
      rfl
    rw [decimalInt, if_neg hn, sign, run_bind (run_maybe_of_none hnone), decide_eq_false hn]
    rfl

theorem run_decimalInteger (n : Int) :
    decimalInteger (decimalInt n ++ rest) =
      some ((decide (n < 0), decimal n.natAbs), rest) := by
  obtain ⟨c, cs, hcs⟩ := List.exists_cons_of_ne_nil (decimal_ne_nil n.natAbs)
  have hdigits : ∀ d ∈ c :: cs, isDigit d = true := fun d hd => isDigit_of_mem_decimal (hcs ▸ hd)
  rw [decimalInteger, run_bind (run_sign hrest n), hcs, List.cons_append,
    run_bind (run_satisfy (hdigits c List.mem_cons_self) _)]
  by_cases hc : c = '0'
  · have hzero : n.natAbs = 0 := by
      by_contra hne
      exact head?_decimal hne (by rw [hcs, hc]; rfl)
    have hcs0 : cs = [] := by
      rw [hzero] at hcs
      exact (List.cons.inj hcs).2.symm
    rw [hc, hcs0]
    rfl
  · have hmore : moreDigits isDigit (cs ++ rest) = some (cs, rest) :=
      run_repeated (rounds_moreDigits hrest fun d hd => hdigits d (List.mem_cons_of_mem c hd))
    rw [if_neg (by simpa using hc), run_bind hmore]
    rfl

theorem run_float_of_integer (n : Int) : float (decimalInt n ++ rest) = none := by
  have hexponent : exponent rest = none :=
    run_bind_of_none (run_satisfy_of_not (hrest.not (by decide))) _
  have hfraction : fraction rest = none :=
    run_bind_of_none (run_char_of_ne (hrest.ne (by decide))) _
  rw [float, run_bind (run_decimalInteger hrest n)]
  refine run_bind_of_none ?_ _
  rw [run_orElse_of_none (run_bind_of_none hexponent _)]
  exact run_bind_of_none hfraction _

theorem run_specialFloat_of_integer (n : Int) : specialFloat (decimalInt n ++ rest) = none := by
  have hleft := numberLeft_decimal hrest n.natAbs
  have hword {word : List Char} {c : Char} (hw : word.head? = some c) (hc : isDigit c = false)
      (hf : c ≠ ',' ∧ c ≠ ']' ∧ c ≠ '\n') : exactly word (decimal n.natAbs ++ rest) = none := by
    refine run_exactly_of_not_isPrefix fun ⟨r, hr⟩ => ?_
    cases word with
    | nil => cases hw
    | cons d word =>
      obtain rfl : d = c := Option.some.inj hw
      have hchar := hleft.run_char_of_ne hc hf
      rw [← hr, List.cons_append, run_char] at hchar
      cases hchar
  rw [specialFloat, run_bind (run_sign hrest n),
    run_orElse_of_none (run_bind_of_none (hword rfl (by decide) (by decide)) _)]
  exact run_bind_of_none (hword rfl (by decide) (by decide)) _

theorem run_integer {n : Int} (hn : FitsInt64 n) :
    integer (decimalInt n ++ rest) = some (.integer n, rest) := by
  have hmarked : (do
      char '0'
      satisfy fun c => c == 'x' || c == 'o' || c == 'b' : Scan Char) (decimalInt n ++ rest) =
        none := by
    by_cases h : n < 0
    · rw [decimalInt, if_pos h]
      exact run_bind_of_none (run_char_of_ne (by rintro ⟨⟩)) _
    · rw [decimalInt, if_neg h]
      refine run_bind_eq_none fun _ r hzero => ?_
      have hleft := numberLeft_decimal hrest n.natAbs
      rw [eq_of_run_exactly hzero] at hleft
      have hr : NumberLeft r := hleft.of_satisfy (run_satisfy (by decide) r)
      refine run_satisfy_of_not (hr.not (fun c hc => ?_) (by decide))
      rw [beq_eq_false_of_isDigit hc (by decide), beq_eq_false_of_isDigit hc (by decide),
        beq_eq_false_of_isDigit hc (by decide)]
      rfl
  have hvalue : (if decide (n < 0) = true then -(n.natAbs : Int) else n.natAbs) = n := by
    by_cases h : n < 0
    · rw [if_pos (decide_eq_true h)]
      omega
    · rw [if_neg (by simpa using h)]
      omega
  have hbounded : boundedInteger (decide (n < 0)) 10 (decimal n.natAbs) rest =
      some (.integer n, rest) := by
    rw [boundedInteger, readNat?_decimal]
    simp only [hvalue, if_pos hn]
    rfl
  rw [integer, run_bind (run_maybe_of_none (run_ahead_of_none hmarked))]
  show (decimalInteger >>= _) (decimalInt n ++ rest) = _
  rw [run_bind (run_decimalInteger hrest n)]
  exact hbounded

end Integer

/-! ### Values on one line -/

/-- A value on one line that holds no others. -/
inductive Plain : Value → Prop
  | text (s : String) : Plain (.text s)
  | integer {n : Int} (fits : FitsInt64 n) : Plain (.integer n)
  | boolean (b : Bool) : Plain (.boolean b)

theorem head?_textValue (s : List Char) :
    (textValue s).head? = some '"' ∨ (textValue s).head? = some '\'' := by
  simp only [textValue]
  split
  · exact Or.inl rfl
  · split
    · exact Or.inr rfl
    · split
      · exact Or.inl rfl
      · split
        · exact Or.inr rfl
        · split <;> exact Or.inl rfl

theorem head?_decimalInt (n : Int) :
    ∃ c, (decimalInt n).head? = some c ∧ (c = '-' ∨ isDigit c = true) := by
  unfold decimalInt
  split
  · exact ⟨'-', rfl, Or.inl rfl⟩
  · obtain ⟨c, cs, hcs⟩ := List.exists_cons_of_ne_nil (decimal_ne_nil n.natAbs)
    exact ⟨c, by rw [hcs]; rfl, Or.inr (isDigit_of_mem_decimal (hcs ▸ List.mem_cons_self))⟩

/-- Which characters a plain value starts with. -/
theorem head?_inlineText {v : Value} (hv : Plain v) :
    ∃ c, (inlineText v).head? = some c ∧
      (c ∈ "\"'tf-".toList ∨ isDigit c = true) := by
  cases hv with
  | text s =>
    rcases head?_textValue s.toList with h | h
    · exact ⟨'"', h, Or.inl (by decide)⟩
    · exact ⟨'\'', h, Or.inl (by decide)⟩
  | @integer n fits =>
    obtain ⟨c, hc, rfl | hdigit⟩ := head?_decimalInt n
    · exact ⟨'-', hc, Or.inl (by decide)⟩
    · exact ⟨c, hc, Or.inr hdigit⟩
  | boolean b =>
    cases b with
    | true => exact ⟨'t', rfl, Or.inl (by decide)⟩
    | false => exact ⟨'f', rfl, Or.inl (by decide)⟩

/-- A plain value does not start with a character that is neither a digit nor one of these. -/
theorem head?_inlineText_ne {v : Value} (hv : Plain v) {d : Char} (hd : isDigit d = false)
    (hne : d ∉ "\"'tf-".toList) (rest : List Char) : (inlineText v ++ rest).head? ≠ some d := by
  obtain ⟨c, hc, hstart⟩ := head?_inlineText hv
  rw [List.head?_append, hc, Option.some_or]
  rintro ⟨⟩
  rcases hstart with h | h
  · exact hne h
  · rw [hd] at h
    cases h

theorem run_scalar_integer {n : Int} (fits : FitsInt64 n) {rest : List Char}
    (hrest : Follows rest) : scalar (decimalInt n ++ rest) = some (.integer n, rest) := by
  have hmoment : moment (decimalInt n ++ rest) = none := by
    by_cases h : n < 0
    · rw [decimalInt, if_pos h]
      rfl
    · rw [decimalInt, if_neg h]
      exact (numberLeft_decimal hrest n.natAbs).run_moment
  have hnumber : ((do let m ← moment; pure (.moment m)) <|> float <|> specialFloat <|> integer :
      Scan Value) (decimalInt n ++ rest) = some (.integer n, rest) := by
    rw [run_orElse_of_none (run_bind_of_none hmoment _),
      run_orElse_of_none (run_float_of_integer hrest n),
      run_orElse_of_none (run_specialFloat_of_integer hrest n)]
    exact run_integer hrest fits
  obtain ⟨c, hc, hstart⟩ := head?_decimalInt n
  rw [scalar, run_bind (run_peek? _), List.head?_append, hc, Option.some_or]
  refine (congrFun ?_ _).trans hnumber
  have hsigned : (c == '+' || c == '-' || isDigit c) = true := by
    rcases hstart with rfl | h
    · rfl
    · rw [h, Bool.or_true]
  have hne {d : Char} (hd : d ≠ '-' ∧ isDigit d = false) : ¬ some c = some d := by
    rintro ⟨⟩
    rcases hstart with rfl | h
    · exact hd.1 rfl
    · rw [hd.2] at h
      cases h
  split
  · exact absurd ‹_› (hne (by decide))
  · exact absurd ‹_› (hne (by decide))
  · exact absurd ‹_› (hne (by decide))
  · exact absurd ‹_› (hne (by decide))
  · rename_i d _ _ _ _ heq
    obtain rfl : c = d := Option.some.inj heq
    exact if_pos hsigned
  · rename_i heq
    cases heq

theorem run_scalar {v : Value} (hv : Plain v) {rest : List Char} (hrest : Follows rest) :
    scalar (inlineText v ++ rest) = some (v, rest) := by
  cases hv with
  | text s =>
    have hread : (do let s ← anyText; pure (.text (String.ofList s)) : Scan Value)
        (textValue s.toList ++ rest) = some (.text s, rest) := by
      rw [run_bind (run_anyText_textValue s.toList (hrest.ne (by decide)) (hrest.ne (by decide))),
        String.ofList_toList]
      rfl
    rw [inlineText, scalar, run_bind (run_peek? _), List.head?_append]
    rcases head?_textValue s.toList with hc | hc <;> rw [hc] <;> exact hread
  | integer fits => exact run_scalar_integer fits hrest
  | boolean b =>
    have hread (word : List Char) : (do exactly word; pure (.boolean b) : Scan Value)
        (word ++ rest) = some (.boolean b, rest) := run_bind (run_exactly word rest) _
    cases b with
    | true => exact hread "true".toList
    | false => exact hread "false".toList

theorem run_valueWithin {v : Value} (hv : Plain v) (depth : Nat) {rest : List Char}
    (hrest : Follows rest) : valueWithin depth (inlineText v ++ rest) = some (v, rest) := by
  have hread := run_scalar hv hrest
  cases depth with
  | zero => exact hread
  | succ depth =>
    rw [valueWithin, run_bind (run_peek? _)]
    refine (congrFun ?_ _).trans hread
    split
    · exact absurd ‹_› (head?_inlineText_ne hv (by decide) (by decide) rest)
    · exact absurd ‹_› (head?_inlineText_ne hv (by decide) (by decide) rest)
    · rfl

/-! ### Arrays -/

/-- The blanks that the writer puts between the items of an array: nothing, or a line end and
    spaces. -/
inductive Break : List Char → Prop
  | none : Break []
  | line {spaces : List Char} (h : ∀ c ∈ spaces, isSpace c = true) : Break ('\n' :: spaces)

theorem break_line : Break ['\n'] := .line (by simp)

theorem break_indent : Break "\n    ".toList := by
  have hspaces : ∀ c ∈ List.replicate 4 ' ', isSpace c = true := by
    intro c hc
    rw [List.eq_of_mem_replicate hc]
    rfl
  exact .line hspaces

/-- Whether a text starts with something other than blanks, line ends and comments. -/
def Solid (rest : List Char) : Prop :=
  ∀ c, rest.head? = some c → isSpace c = false ∧ c ≠ '\n' ∧ c ≠ '\r' ∧ c ≠ '#'

theorem run_newline (r : List Char) : newline ('\n' :: r) = some ((), r) :=
  run_orElse (run_exactly ['\n'] r) _

theorem run_newline_of_solid {rest : List Char} (h : Solid rest) : newline rest = none :=
  run_newline_of_head fun c hc => ⟨(h c hc).2.1, (h c hc).2.2.1⟩

theorem run_comment_of_solid {rest : List Char} (h : Solid rest) : comment rest = none :=
  run_bind_of_none (run_char_of_ne fun hc => (h '#' hc).2.2.2 rfl) _

/-- One round of a gap. -/
def gapPart : Scan (Option Unit) :=
  (do
    (do let _ ← takeSome isSpace) <|> newline <|> (do comment; newline)
    pure (some ())) <|> pure none

theorem run_gapPart_solid {rest : List Char} (hr : Solid rest) :
    gapPart rest = some (none, rest) := by
  refine (run_orElse_of_none (run_bind_of_none ?_ _) _).trans rfl
  rw [run_orElse_of_none (run_bind_of_none (run_takeSome_of_not fun c hc => (hr c hc).1) _),
    run_orElse_of_none (run_newline_of_solid hr)]
  exact run_bind_of_none (run_comment_of_solid hr) _

theorem run_gapPart_line (r : List Char) : gapPart ('\n' :: r) = some (some (), r) := by
  refine run_orElse (run_bind (a := ()) (r := r) ?_ _) _
  rw [run_orElse_of_none (run_bind_of_none (run_takeSome_of_not (by rintro c ⟨⟩; decide)) _)]
  exact run_orElse (run_newline r) _

theorem run_gapPart_spaces {spaces rest : List Char} (hne : spaces ≠ [])
    (h : ∀ c ∈ spaces, isSpace c = true) (hr : Solid rest) :
    gapPart (spaces ++ rest) = some (some (), rest) := by
  have htake := run_takeSome hne h fun c hc => (hr c hc).1
  exact run_orElse (run_bind (run_orElse (run_bind htake _) _) _) _

theorem run_gap {blank rest : List Char} (hb : Break blank) (hr : Solid rest) :
    gap (blank ++ rest) = some ((), rest) := by
  have hend : Rounds gapPart rest [] rest := .done (run_gapPart_solid hr)
  suffices hrounds : ∃ units, Rounds gapPart (blank ++ rest) units rest by
    obtain ⟨units, hrounds⟩ := hrounds
    exact run_bind (run_repeated hrounds) _
  cases hb with
  | none => exact ⟨[], hend⟩
  | @line spaces hspaces =>
    have hline {units : List Unit} (later : Rounds gapPart (spaces ++ rest) units rest) :
        Rounds gapPart ('\n' :: (spaces ++ rest)) (() :: units) rest :=
      .cons (List.cons_ne_nil '\n' []) (run_gapPart_line _) later
    by_cases hnil : spaces = []
    · subst hnil
      exact ⟨_, hline hend⟩
    · exact ⟨_, hline (.cons hnil (run_gapPart_spaces hnil hspaces hr) hend)⟩

theorem run_gap_of_solid {rest : List Char} (hr : Solid rest) : gap rest = some ((), rest) := by
  have h := run_gap .none hr
  rwa [List.nil_append] at h

theorem solid_inlineText {v : Value} (hv : Plain v) (rest : List Char) :
    Solid (inlineText v ++ rest) := by
  have hne {d : Char} (hd : isDigit d = false) (hstart : d ∉ "\"'tf-".toList) {c : Char}
      (hc : (inlineText v ++ rest).head? = some c) : c ≠ d := by
    rintro rfl
    exact head?_inlineText_ne hv hd hstart rest hc
  intro c hc
  have hspace : c ≠ ' ' := hne (by decide) (by decide) hc
  have htab : c ≠ '\t' := hne (by decide) (by decide) hc
  exact ⟨by simp [isSpace, hspace, htab], hne (by decide) (by decide) hc,
    hne (by decide) (by decide) hc, hne (by decide) (by decide) hc⟩

theorem solid_comma (r : List Char) : Solid (',' :: r) := by
  rintro c ⟨⟩
  decide

theorem solid_bracket (r : List Char) : Solid (']' :: r) := by
  rintro c ⟨⟩
  decide

/-- A comma and the next element, or nothing where there is no further one. -/
def commaPart {α : Type} (element : Scan α) : Scan (Option α) :=
  (do
    char ','
    let a ← element
    pure (some a)) <|> pure none

theorem run_separated {α : Type} {element : Scan α} {s s' rest : List Char} {a : α} {as : List α}
    (h : element s = some (a, s')) (hrest : Rounds (commaPart element) s' as rest) :
    separated element s = some (a :: as, rest) := by
  rw [separated, run_bind (run_maybe h)]
  exact run_bind (run_repeated hrest) _

theorem run_separated_of_none {α : Type} {element : Scan α} {s : List Char}
    (h : element s = none) : separated element s = some ([], s) :=
  run_bind (run_maybe_of_none h) _

/-- An item of an array with the blanks around it. -/
def spacedItem (item : Scan Value) : Scan Value := do
  gap
  let v ← item
  gap
  pure v

/-- The items of an array as they are written over several lines. -/
def spread (items : List Value) : List Char :=
  items.flatMap fun v => "\n    ".toList ++ inlineText v ++ [',']

section Array

variable {item : Scan Value}

/-- Whether a scan reads plain values, and nothing at the end of an array. -/
structure ReadsPlain (item : Scan Value) : Prop where
  plain : ∀ v, Plain v → ∀ rest, Follows rest → item (inlineText v ++ rest) = some (v, rest)
  closed : ∀ r, item (']' :: r) = none

theorem readsPlain_valueWithin (depth : Nat) : ReadsPlain (valueWithin depth) where
  plain v hv rest hrest := run_valueWithin hv depth hrest
  closed r := by cases depth <;> rfl

/-- Behind its items an array may hold a comma and blanks. -/
theorem run_arrayOf {s s' blank rest : List Char} {v : Value} {items : List Value}
    {comma : Option Unit} (hitems : separated (spacedItem item) s = some (v :: items, s'))
    (hcomma : maybe (char ',') s' = some (comma, blank ++ ']' :: rest)) (hb : Break blank) :
    arrayOf item ('[' :: s) = some (.array (v :: items), rest) := by
  show (char '[' >>= _) ('[' :: s) = _
  rw [run_bind (run_char '[' _)]
  show (separated (spacedItem item) >>= _) s = _
  rw [run_bind hitems]
  show (maybe (char ',') >>= _) s' = _
  rw [run_bind hcomma]
  show (gap >>= _) (blank ++ ']' :: rest) = _
  rw [run_bind (run_gap hb (solid_bracket rest)), run_bind (run_char ']' rest)]
  rfl

variable (hitem : ReadsPlain item)

include hitem

theorem run_spacedItem {blank : List Char} (hb : Break blank) {v : Value} (hv : Plain v)
    {rest : List Char} (hrest : Follows rest) (hsolid : Solid rest) :
    spacedItem item (blank ++ (inlineText v ++ rest)) = some (v, rest) := by
  rw [spacedItem, run_bind (run_gap hb (solid_inlineText hv rest)),
    run_bind (hitem.plain v hv rest hrest), run_bind (run_gap_of_solid hsolid)]
  rfl

theorem run_spacedItem_of_closed {blank : List Char} (hb : Break blank) (r : List Char) :
    spacedItem item (blank ++ ']' :: r) = none := by
  rw [spacedItem, run_bind (run_gap hb (solid_bracket r))]
  exact run_bind_of_none (hitem.closed r) _

theorem run_arrayOf_nil (rest : List Char) :
    arrayOf item ("[]".toList ++ rest) = some (.array [], rest) := by
  have hitems : separated (spacedItem item) (']' :: rest) = some ([], ']' :: rest) :=
    run_separated_of_none (run_spacedItem_of_closed hitem .none rest)
  show (char '[' >>= _) ('[' :: ']' :: rest) = _
  rw [run_bind (run_char '[' _)]
  show (separated (spacedItem item) >>= _) (']' :: rest) = _
  rw [run_bind hitems]
  show (gap >>= _) (']' :: rest) = _
  rw [run_bind (run_gap_of_solid (solid_bracket rest)), run_bind (run_char ']' rest)]
  rfl

theorem run_arrayOf_singleton {v : Value} (hv : Plain v) (rest : List Char) :
    arrayOf item ('[' :: inlineText v ++ ']' :: rest) = some (.array [v], rest) := by
  have hitems : separated (spacedItem item) (inlineText v ++ ']' :: rest) =
      some ([v], ']' :: rest) := by
    refine run_separated (run_spacedItem hitem .none hv (.bracket rest) (solid_bracket rest)) ?_
    exact .done ((run_orElse_of_none
      (run_bind_of_none (run_char_of_ne (by rintro ⟨⟩)) _) _).trans rfl)
  have hcomma : maybe (char ',') (']' :: rest) = some (none, [] ++ ']' :: rest) :=
    run_maybe_of_none (run_char_of_ne (by rintro ⟨⟩))
  exact run_arrayOf hitems hcomma .none

/-- Behind an item come the other ones; the last comma is left. -/
theorem rounds_spread {items : List Value} (h : ∀ v ∈ items, Plain v) (rest : List Char) :
    Rounds (commaPart (spacedItem item)) (',' :: (spread items ++ '\n' :: ']' :: rest)) items
      (',' :: '\n' :: ']' :: rest) := by
  induction items with
  | nil =>
    refine .done ((run_orElse_of_none ?_ _).trans rfl)
    rw [run_bind (run_char ',' _)]
    exact run_bind_of_none (run_spacedItem_of_closed hitem break_line rest) _
  | cons v items ih =>
    have hv : Plain v := h v List.mem_cons_self
    have hitems : ∀ w ∈ items, Plain w := fun w hw => h w (List.mem_cons_of_mem v hw)
    have hcut : ',' :: (spread (v :: items) ++ '\n' :: ']' :: rest) =
        (',' :: "\n    ".toList ++ inlineText v) ++
          ',' :: (spread items ++ '\n' :: ']' :: rest) := by
      simp [spread]
    rw [hcut]
    refine .cons (by simp) (run_orElse ?_ _) (ih hitems)
    rw [List.append_assoc, List.cons_append, run_bind (run_char ',' _),
      run_bind (run_spacedItem hitem break_indent hv (.comma _) (solid_comma _))]
    rfl

theorem run_arrayOf_spread {v : Value} {items : List Value} (h : ∀ w ∈ v :: items, Plain w)
    (rest : List Char) :
    arrayOf item ('[' :: spread (v :: items) ++ '\n' :: ']' :: rest) =
      some (.array (v :: items), rest) := by
  have hv : Plain v := h v List.mem_cons_self
  have hitems : separated (spacedItem item) (spread (v :: items) ++ '\n' :: ']' :: rest) =
      some (v :: items, ',' :: '\n' :: ']' :: rest) := by
    have hcut : spread (v :: items) ++ '\n' :: ']' :: rest =
        "\n    ".toList ++ (inlineText v ++ ',' :: (spread items ++ '\n' :: ']' :: rest)) := by
      simp [spread]
    rw [hcut]
    exact run_separated (run_spacedItem hitem break_indent hv (.comma _) (solid_comma _))
      (rounds_spread hitem (fun w hw => h w (List.mem_cons_of_mem v hw)) rest)
  have hcomma : maybe (char ',') (',' :: '\n' :: ']' :: rest) =
      some (some (), ['\n'] ++ ']' :: rest) := run_maybe (run_char ',' _)
  exact run_arrayOf hitems hcomma break_line

end Array

/-! ### Values of a document -/

/-- A value of a document: a plain one, or an array of plain ones. -/
inductive Storable : Value → Prop
  | plain {v : Value} (h : Plain v) : Storable v
  | array {items : List Value} (h : ∀ v ∈ items, Plain v) : Storable (.array items)

theorem documentValue_of_plain {v : Value} (h : Plain v) : documentValue v = inlineText v := by
  cases h <;> rfl

theorem inlineTexts_eq_map (items : List Value) : inlineTexts items = items.map inlineText := by
  induction items with
  | nil => rfl
  | cons v items ih => rw [inlineTexts, ih, List.map_cons]

theorem documentValue_cons_cons (v w : Value) (items : List Value) :
    documentValue (.array (v :: w :: items)) =
      '[' :: spread (v :: w :: items) ++ ['\n', ']'] := by
  have hlong : ¬ (v :: w :: items).length ≤ 1 := by simp
  rw [documentValue, if_neg hlong, inlineTexts_eq_map, List.map_map, spread, List.flatMap_def]
  rfl

/-- A value is read back from its line. -/
theorem run_value {v : Value} (h : Storable v) (rest : List Char) :
    value (documentValue v ++ '\n' :: rest) = some (v, '\n' :: rest) := by
  cases h with
  | plain h =>
    rw [documentValue_of_plain h]
    exact run_valueWithin h _ (.lineEnd rest)
  | @array items h =>
    have hpeek (s : List Char) : value ('[' :: s) = arrayOf (valueWithin 78) ('[' :: s) := rfl
    have hitem := readsPlain_valueWithin 78
    match items, h with
    | [], _ => exact (hpeek _).trans (run_arrayOf_nil hitem _)
    | [v], h =>
      have hcut : documentValue (.array [v]) ++ '\n' :: rest =
          '[' :: inlineText v ++ ']' :: '\n' :: rest := by
        simp [documentValue, inlineText, inlineTexts]
      rw [hcut]
      exact (hpeek _).trans (run_arrayOf_singleton hitem (h v List.mem_cons_self) _)
    | v :: w :: items, h =>
      have hcut : documentValue (.array (v :: w :: items)) ++ '\n' :: rest =
          '[' :: spread (v :: w :: items) ++ '\n' :: ']' :: '\n' :: rest := by
        rw [documentValue_cons_cons]
        simp
      rw [hcut]
      exact (hpeek _).trans (run_arrayOf_spread hitem h _)

end CacheWarden.Toml
