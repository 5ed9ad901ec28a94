import CacheWarden.Proofs.Text.Scan
import CacheWarden.Toml.Printer
import CacheWarden.Toml.Scalar
import Mathlib

/-!
# Texts that are written and read back

A text is written in one of four spellings, and whichever it is, the text is read back from it.
Between quotes this is shown character by character (`Spelled`). Between three quotes or apostrophes
the marks are read in runs, and `LongBody` says what may stand there. Main statement:
`run_anyText_textValue`.
-/

namespace CacheWarden.Toml

open Text Scan

/-! ### One character -/

theorem isPrintable_of_not_needsCode {c : Char} (h : needsCode c = false) (hn : c ≠ '\n') :
    isPrintable c = true := by
  simp only [needsCode, Bool.or_eq_false_iff, Bool.and_eq_false_iff, decide_eq_false_iff_not,
    bne_eq_false_iff_eq, beq_eq_false_iff_ne] at h
  obtain ⟨hcode, hdel⟩ := h
  rw [isPrintable, Bool.or_eq_true, Bool.and_eq_true, decide_eq_true_eq, beq_iff_eq, bne_iff_ne]
  rcases hcode with (hlow | rfl) | rfl
  · exact Or.inr ⟨by omega, hdel⟩
  · exact Or.inl rfl
  · exact absurd rfl hn

theorem toNat_of_needsCode {c : Char} (h : needsCode c = true) : c.toNat < 256 := by
  simp only [needsCode, Bool.or_eq_true, Bool.and_eq_true, decide_eq_true_eq, beq_iff_eq] at h
  rcases h with ⟨⟨hlow, -⟩, -⟩ | rfl
  · omega
  · decide

theorem digitValue?_upperDigit : ∀ d < 16, digitValue? 16 d.digitChar.toUpper = some d := by
  decide

/-- A code below 256 has two digits at most, and zeros in front of them. -/
theorem codeDigits_eq {n : Nat} (h : n < 256) :
    let digits := (Nat.toDigits 16 n).map Char.toUpper
    List.replicate (4 - digits.length) '0' ++ digits =
      ['0', '0', (n / 16).digitChar.toUpper, (n % 16).digitChar.toUpper] := by
  by_cases hlow : n < 16
  · rw [Nat.toDigits_of_lt_base hlow, Nat.div_eq_of_lt hlow, Nat.mod_eq_of_lt hlow]
    rfl
  · have hhigh : n / 16 < 16 := by omega
    rw [Nat.toDigits_of_base_le (by decide) (by omega), Nat.toDigits_of_lt_base hhigh]
    rfl

theorem run_codePoint {c : Char} (h : c.toNat < 256) (r : List Char) :
    let digits := (Nat.toDigits 16 c.toNat).map Char.toUpper
    codePoint 4 (List.replicate (4 - digits.length) '0' ++ digits ++ r) = some (c, r) := by
  intro digits
  have hzero : digitValue? 16 '0' = some 0 := by decide
  have hhigh := digitValue?_upperDigit (c.toNat / 16) (by omega)
  have hlow := digitValue?_upperDigit (c.toNat % 16) (Nat.mod_lt _ (by decide))
  rw [show List.replicate (4 - digits.length) '0' ++ digits = _ from codeDigits_eq h]
  have hhex : ∀ d ∈ ['0', '0', (c.toNat / 16).digitChar.toUpper,
      (c.toNat % 16).digitChar.toUpper], isHexDigit d = true := by
    simp [isHexDigit, hzero, hhigh, hlow]
  have hread : readNat? 16 ['0', '0', (c.toNat / 16).digitChar.toUpper,
      (c.toNat % 16).digitChar.toUpper] = some c.toNat := by
    simp only [readNat?, List.isEmpty_cons, Bool.false_eq_true, if_false, readDigits, hzero, hhigh,
      hlow, Option.bind_some]
    congr 1
    omega
  have hvalid : (some c.toNat).filter (fun code => decide code.isValidChar) = some c.toNat :=
    Option.filter_eq_some_iff.2 ⟨rfl, decide_eq_true c.valid⟩
  have hdigits : takeExactly isHexDigit 4 _ = some (_, r) := run_takeExactly hhex r
  rw [codePoint, run_bind hdigits, hread, hvalid]
  exact congrArg (fun d => some (d, r)) (Char.ofNat_toNat c)

/-- What stands for a character between quotes: a backslash and what follows it, or the character
    itself. -/
inductive Spelled (c : Char) : List Char → Prop
  | escaped (d : Char) (e : List Char) (letter : isSpace d = false ∧ d ≠ '\n' ∧ d ≠ '\r')
      (h : ∀ r, escape (d :: e ++ r) = some (c, r)) : Spelled c ('\\' :: d :: e)
  | plain (printable : isPrintable c = true) (hq : c ≠ '"') (hb : c ≠ '\\') : Spelled c [c]

theorem Spelled.ne_nil {c : Char} {piece : List Char} (h : Spelled c piece) : piece ≠ [] := by
  cases h <;> exact List.cons_ne_nil _ _

/-- A quote never stands for itself, nor does a line end. -/
theorem Spelled.ne_of_head? {c d : Char} {piece : List Char} (h : Spelled c piece)
    (hd : piece.head? = some d) : d ≠ '"' ∧ d ≠ '\n' ∧ d ≠ '\r' := by
  cases h with
  | escaped e es letter h =>
    obtain rfl : '\\' = d := Option.some.inj hd
    decide
  | plain printable hq hb =>
    obtain rfl : c = d := Option.some.inj hd
    refine ⟨hq, ?_, ?_⟩
    · rintro rfl
      cases printable
    · rintro rfl
      cases printable

/-- Between quotes every character is spelled, except that between three of them a line feed stands
    for itself. -/
theorem spelled_quotedChar (three : Bool) (c : Char) :
    (three = true ∧ c = '\n' ∧ quotedChar three c = ['\n']) ∨ Spelled c (quotedChar three c) := by
  unfold quotedChar
  split
  case h_1 => exact Or.inr (.escaped 'b' [] (by decide) fun _ => rfl)
  case h_2 => exact Or.inr (.escaped 't' [] (by decide) fun _ => rfl)
  case h_3 =>
    cases three with
    | true => exact Or.inl ⟨rfl, rfl, rfl⟩
    | false => exact Or.inr (.escaped 'n' [] (by decide) fun _ => rfl)
  case h_4 => exact Or.inr (.escaped 'f' [] (by decide) fun _ => rfl)
  case h_5 => exact Or.inr (.escaped 'r' [] (by decide) fun _ => rfl)
  case h_6 => exact Or.inr (.escaped '"' [] (by decide) fun _ => rfl)
  case h_7 => exact Or.inr (.escaped '\\' [] (by decide) fun _ => rfl)
  case h_8 hb ht hn hf hr hq hs =>
    right
    by_cases hcode : needsCode c = true
    · rw [if_pos hcode]
      exact .escaped 'u' _ (by decide) (run_codePoint (toNat_of_needsCode hcode))
    · rw [if_neg hcode]
      rw [Bool.not_eq_true] at hcode
      exact .plain (isPrintable_of_not_needsCode hcode hn) hq hs

theorem spelled_quotedChar_false (c : Char) : Spelled c (quotedChar false c) :=
  (spelled_quotedChar false c).resolve_left (by rintro ⟨⟨⟩, -⟩)

/-- A character that stands for itself. -/
theorem run_some_satisfy (c : Char) (r : List Char) :
    (do let c ← satisfy fun _ => true; pure (some [c]) : Scan _) ([c] ++ r) = some (some [c], r) :=
  run_bind (run_satisfy rfl r) _

theorem run_basicPart {c : Char} {piece : List Char} (h : Spelled c piece) (r : List Char) :
    basicPart (piece ++ r) = some (some [c], r) := by
  cases h with
  | escaped d e letter h =>
    rw [basicPart, run_bind (run_peek? _)]
    show (do char '\\'; let c ← escape; pure (some [c]) : Scan _) ('\\' :: (d :: e ++ r)) = _
    rw [run_bind (run_char _ _), run_bind (h r)]
    rfl
  | plain printable hq hb =>
    have hfits : (c != '"' && isPrintable c) = true := by simp [hq, printable]
    rw [basicPart, run_bind (run_peek? _)]
    refine (congrFun ?_ _).trans (run_some_satisfy c r)
    split
    · rename_i heq
      exact absurd (Option.some.inj heq) hb
    · rename_i d _ heq
      obtain rfl : c = d := Option.some.inj heq
      exact if_pos hfits
    · rename_i heq
      cases heq

theorem run_newline_of_head {s : List Char} (h : ∀ c, s.head? = some c → c ≠ '\n' ∧ c ≠ '\r') :
    newline s = none := by
  rw [newline, run_orElse_of_none]
  · refine run_exactly_of_not_isPrefix fun ⟨r, hr⟩ => ?_
    exact (h '\r' (by rw [← hr]; rfl)).2 rfl
  · refine run_exactly_of_not_isPrefix fun ⟨r, hr⟩ => ?_
    exact (h '\n' (by rw [← hr]; rfl)).1 rfl

theorem run_foldedLine_of_letter {d : Char} (h : isSpace d = false ∧ d ≠ '\n' ∧ d ≠ '\r')
    (r : List Char) : foldedLine ('\\' :: d :: r) = none := by
  obtain ⟨hspace, hletter⟩ := h
  have hspaces : spaces (d :: r) = some ((), d :: r) := by
    rw [spaces, run_bind (run_takeWhile_of_head (by rintro c ⟨⟩; exact hspace))]
    rfl
  have hnewline : newline (d :: r) = none := run_newline_of_head (by rintro c ⟨⟩; exact hletter)
  rw [foldedLine, run_bind (run_char _ _), run_bind hspaces]
  exact run_bind_of_none hnewline _

theorem run_longBasicPart {c : Char} {piece : List Char} (h : Spelled c piece) (r : List Char) :
    longBasicPart (piece ++ r) = some (some [c], r) := by
  cases h with
  | escaped d e letter h =>
    apply run_orElse
    rw [run_bind (run_peek? _)]
    show ((do foldedLine; pure (some [])) <|>
      (do char '\\'; let c ← escape; pure (some [c])) : Scan _) ('\\' :: d :: (e ++ r)) = _
    rw [run_orElse_of_none (run_bind_of_none (run_foldedLine_of_letter letter _) _),
      run_bind (run_char _ _)]
    exact run_bind (h r) _
  | plain printable hq hb =>
    apply run_orElse
    rw [run_bind (run_peek? _)]
    refine (congrFun ?_ _).trans (run_some_satisfy c r)
    split
    · rename_i heq
      exact absurd (Option.some.inj heq) hb
    · rename_i heq
      exact absurd (Option.some.inj heq) hq
    · rename_i d _ _ heq
      obtain rfl : c = d := Option.some.inj heq
      exact if_pos printable
    · rename_i heq
      cases heq

/-! ### Texts on one line -/

theorem basicPart_quote (r : List Char) : basicPart ('"' :: r) = some (none, '"' :: r) := rfl

theorem rounds_basicPart (s r : List Char) :
    Rounds basicPart (s.flatMap (quotedChar false) ++ '"' :: r) (s.map fun c => [c])
      ('"' :: r) := by
  induction s with
  | nil => exact .done (basicPart_quote r)
  | cons c s ih =>
    have hspelled := spelled_quotedChar_false c
    rw [List.flatMap_cons, List.append_assoc]
    exact .cons hspelled.ne_nil (run_basicPart hspelled _) ih

theorem run_basicText_quoted (s r : List Char) :
    basicText (quoted s ++ r) = some (s, r) := by
  have hjoined : (s.map fun c => [c]).flatten = s := by
    rw [← List.flatMap_def, List.flatMap_singleton']
  simp only [quoted, List.cons_append, List.append_assoc, List.nil_append]
  rw [basicText, run_bind (run_char _ _), run_bind (run_repeated (rounds_basicPart s r)),
    run_bind (run_char _ _), hjoined]
  rfl

theorem run_literalText_literal {s : List Char}
    (h : ∀ c ∈ s, (c != '\'' && isPrintable c) = true) (r : List Char) :
    literalText (literal s ++ r) = some (s, r) := by
  have htake : Scan.takeWhile (fun c => c != '\'' && isPrintable c) (s ++ '\'' :: r) =
      some (s, '\'' :: r) := run_takeWhile h (by rintro c ⟨⟩; decide)
  simp only [literal, List.cons_append, List.append_assoc, List.nil_append]
  rw [literalText, run_bind (run_char _ _), run_bind htake, run_bind (run_char _ _)]
  rfl

/-! ### Texts between three quotes or apostrophes -/

/-- What may stand between three marks after a run of so many of them, and the text it means: up to
    two marks in a row, and pieces that are read as one character. -/
inductive LongBody (part : Scan (Option (List Char))) (mark : Char) :
    Nat → List Char → List Char → Prop
  | done {run : Nat} (hrun : run ≤ 2) : LongBody part mark run [] []
  | mark {run : Nat} {w s : List Char} (later : LongBody part mark (run + 1) w s) :
      LongBody part mark run (mark :: w) (mark :: s)
  | piece {run : Nat} {piece w s : List Char} {c : Char} (hrun : run ≤ 2) (hne : piece ≠ [])
      (hmark : piece.head? ≠ some mark) (h : ∀ r, part (piece ++ r) = some (some [c], r))
      (later : LongBody part mark 0 w s) : LongBody part mark run (piece ++ w) (c :: s)

theorem run_innerQuotes {mark : Char} {n : Nat} (h0 : 0 < n) (h2 : n ≤ 2) {t : List Char}
    (hne : t ≠ []) (ht : t.head? ≠ some mark) :
    innerQuotes mark (List.replicate n mark ++ t) = some (some (List.replicate n mark), t) := by
  have htake : Scan.takeWhile (· == mark) (List.replicate n mark ++ t) =
      some (List.replicate n mark, t) := by
    refine run_takeWhile (fun c hc => ?_) (fun c hc => ?_)
    · rw [List.eq_of_mem_replicate hc]
      exact beq_self_eq_true mark
    · exact beq_eq_false_iff_ne.2 (by rintro rfl; exact ht hc)
  have hfew : ¬ ((List.replicate n mark).isEmpty || 2 < (List.replicate n mark).length) = true := by
    simp
    omega
  obtain ⟨c, r, rfl⟩ := List.exists_cons_of_ne_nil hne
  rw [innerQuotes, run_bind htake, if_neg hfew]
  rfl

theorem run_innerQuotes_of_three {mark : Char} {n : Nat} (h : 2 < n) (t : List Char) :
    innerQuotes mark (List.replicate n mark ++ t) = none := by
  have htake : Scan.takeWhile (· == mark) (List.replicate n mark ++ t) =
      some (List.replicate n mark ++ t.takeWhile (· == mark), t.dropWhile (· == mark)) := by
    have hmarks : ∀ c ∈ List.replicate n mark, (c == mark) = true := fun c hc => by
      rw [List.eq_of_mem_replicate hc]
      exact beq_self_eq_true mark
    rw [Scan.takeWhile, List.takeWhile_append_of_pos hmarks, List.dropWhile_append_of_pos hmarks]
  have hmany : ((List.replicate n mark ++ t.takeWhile (· == mark)).isEmpty ||
      2 < (List.replicate n mark ++ t.takeWhile (· == mark)).length) = true := by
    simp
    omega
  rw [innerQuotes, run_bind htake, if_pos hmany]
  rfl

section LongBody

variable {part : Scan (Option (List Char))} {mark : Char}

/-- The part scan of a long text reads a run of marks as `innerQuotes` does. -/
def ReadsMarks (part : Scan (Option (List Char))) (mark : Char) : Prop :=
  ∀ r, part (mark :: r) = (innerQuotes mark <|> pure none) (mark :: r)

/-- Up to two marks in front of something else are one part. -/
theorem rounds_marks (hpart : ReadsMarks part mark) {n : Nat} (hn : n ≤ 2) {t rest : List Char}
    (hne : t ≠ []) (ht : t.head? ≠ some mark) {parts : List (List Char)}
    (h : Rounds part t parts rest) :
    ∃ parts', parts'.flatten = List.replicate n mark ++ parts.flatten ∧
      Rounds part (List.replicate n mark ++ t) parts' rest := by
  cases n with
  | zero => exact ⟨parts, rfl, h⟩
  | succ n =>
    refine ⟨List.replicate (n + 1) mark :: parts, rfl, .cons (by simp) ?_ h⟩
    exact (hpart _).trans (run_orElse (run_innerQuotes (Nat.succ_pos n) hn hne ht) _)

/-- The parts of a body give its text, except for up to two marks at its end, which are left to the
    closing marks. -/
theorem rounds_of_longBody (hpart : ReadsMarks part mark) {run : Nat} {w s : List Char}
    (h : LongBody part mark run w s) (rest : List Char) :
    ∃ parts k, k ≤ 2 ∧ parts.flatten ++ List.replicate k mark = List.replicate run mark ++ s ∧
      Rounds part (List.replicate run mark ++ (w ++ (List.replicate 3 mark ++ rest))) parts
        (List.replicate (k + 3) mark ++ rest) := by
  induction h with
  | @done run hrun =>
    refine ⟨[], run, hrun, by simp, .done ?_⟩
    rw [List.nil_append, ← List.append_assoc, List.replicate_append_replicate]
    have hmany : innerQuotes mark (List.replicate (run + 3) mark ++ rest) = none :=
      run_innerQuotes_of_three (by omega) rest
    exact (hpart _).trans (run_orElse_of_none hmany _)
  | @mark run w s later ih =>
    have hmove (t : List Char) :
        List.replicate run mark ++ mark :: t = List.replicate (run + 1) mark ++ t := by
      rw [List.replicate_succ', List.append_assoc]
      rfl
    rw [List.cons_append, hmove, hmove]
    exact ih
  | @piece run piece w s c hrun hne hmark h later ih =>
    obtain ⟨parts, k, hk, htext, hrounds⟩ := ih
    rw [List.replicate_zero, List.nil_append] at htext hrounds
    have hpiece : Rounds part (piece ++ (w ++ (List.replicate 3 mark ++ rest))) ([c] :: parts)
        (List.replicate (k + 3) mark ++ rest) := .cons hne (h _) hrounds
    have hhead : (piece ++ (w ++ (List.replicate 3 mark ++ rest))).head? ≠ some mark := by
      rwa [List.head?_append_of_ne_nil _ hne]
    obtain ⟨parts', hflat, hmarks⟩ := rounds_marks hpart hrun (by simp [hne]) hhead hpiece
    refine ⟨parts', k, hk, ?_, ?_⟩
    · rw [hflat, List.flatten_cons, ← htext]
      simp
    · rwa [List.append_assoc]

theorem run_closingQuotes {k : Nat} (hk : k ≤ 2) {rest : List Char}
    (hrest : rest.head? ≠ some mark) :
    closingQuotes mark (List.replicate (k + 3) mark ++ rest) =
      some (List.replicate k mark, rest) := by
  have hfew : ∀ m, k < m →
      ¬ List.replicate (m + 3) mark <+: List.replicate (k + 3) mark ++ rest := by
    intro m hm hprefix
    have hsplit : List.replicate (m + 3) mark =
        List.replicate (k + 3) mark ++ List.replicate (m - k) mark := by
      rw [List.replicate_append_replicate]
      congr 1
      omega
    rw [hsplit, List.prefix_append_right_inj] at hprefix
    obtain ⟨d, hd⟩ : ∃ d, m - k = d + 1 := ⟨m - k - 1, by omega⟩
    rw [hd, List.replicate_succ] at hprefix
    obtain ⟨r, rfl⟩ := hprefix
    exact hrest rfl
  have hmore : (do
      exactly (List.replicate (k + 3) mark)
      pure (List.replicate k mark) : Scan _) (List.replicate (k + 3) mark ++ rest) =
        some (List.replicate k mark, rest) := run_bind (run_exactly _ _) _
  have hless : ∀ m, k < m → (do
      exactly (List.replicate (m + 3) mark)
      pure (List.replicate m mark) : Scan _) (List.replicate (k + 3) mark ++ rest) = none :=
    fun m hm => run_bind_of_none (run_exactly_of_not_isPrefix (hfew m hm)) _
  obtain rfl | rfl | rfl : k = 2 ∨ k = 1 ∨ k = 0 := by omega
  · exact run_orElse hmore _
  · exact (run_orElse_of_none (hless 2 (by decide)) _).trans (run_orElse hmore _)
  · exact (run_orElse_of_none (hless 2 (by decide)) _).trans
      ((run_orElse_of_none (hless 1 (by decide)) _).trans hmore)

/-- A text between three marks: its end may hold two more. -/
def longText (part : Scan (Option (List Char))) (mark : Char) : Scan (List Char) := do
  exactly [mark, mark, mark]
  let _ ← maybe newline
  let parts ← repeated part
  let last ← closingQuotes mark
  pure (parts.flatten ++ last)

theorem run_longText (hpart : ReadsMarks part mark) {w s : List Char}
    (hbody : LongBody part mark 0 w s)
    (hopen : '\n' ∉ s → ∀ c, (w ++ [mark]).head? = some c → c ≠ '\n' ∧ c ≠ '\r')
    {rest : List Char} (hrest : rest.head? ≠ some mark) :
    longText part mark
      ([mark, mark, mark] ++ openingLine s ++ w ++ [mark, mark, mark] ++ rest) =
        some (s, rest) := by
  obtain ⟨parts, k, hk, htext, hrounds⟩ := rounds_of_longBody hpart hbody rest
  rw [List.replicate_zero, List.nil_append] at htext hrounds
  have hnewline : ∃ a, maybe newline
      (openingLine s ++ (w ++ (List.replicate 3 mark ++ rest))) =
        some (a, w ++ (List.replicate 3 mark ++ rest)) := by
    by_cases hs : '\n' ∈ s
    · rw [openingLine, if_pos (List.contains_iff_mem.2 hs)]
      exact ⟨_, run_maybe (run_orElse (run_exactly ['\n'] _) _)⟩
    · rw [openingLine, if_neg (by simpa using hs), List.nil_append]
      have hhead : ∀ c, (w ++ (List.replicate 3 mark ++ rest)).head? = some c →
          c ≠ '\n' ∧ c ≠ '\r' := by
        intro c hc
        apply hopen hs c
        cases w <;> exact hc
      exact ⟨none, run_maybe_of_none (run_newline_of_head hhead)⟩
  obtain ⟨a, hnewline⟩ := hnewline
  have hthree : [mark, mark, mark] = List.replicate 3 mark := rfl
  rw [List.append_assoc, List.append_assoc, List.append_assoc, longText,
    run_bind (run_exactly _ _), hthree, run_bind hnewline, run_bind (run_repeated hrounds),
    run_bind (run_closingQuotes hk hrest), htext]
  rfl

end LongBody

theorem readsMarks_longBasicPart : ReadsMarks longBasicPart '"' := fun _ => rfl

theorem readsMarks_longLiteralPart : ReadsMarks longLiteralPart '\'' := fun _ => rfl

theorem longQuotedChars_cons {c : Char} (hc : c ≠ '"') (run : Nat) (s : List Char) :
    longQuotedChars run (c :: s) = quotedChar true c ++ longQuotedChars 0 s := by
  rw [longQuotedChars]
  exact hc

theorem longBody_longQuotedChars (s : List Char) {run : Nat} (hrun : run ≤ 2) :
    LongBody longBasicPart '"' run (longQuotedChars run s) s := by
  induction s generalizing run with
  | nil => exact .done hrun
  | cons c s ih =>
    by_cases hc : c = '"'
    · subst hc
      rw [longQuotedChars]
      split
      · exact .mark (ih (by omega))
      · have hescaped : Spelled '"' ['\\', '"'] := .escaped '"' [] (by decide) fun _ => rfl
        exact .piece hrun hescaped.ne_nil (by decide) (run_longBasicPart hescaped)
          (ih (Nat.zero_le 2))
    · rw [longQuotedChars_cons hc]
      rcases spelled_quotedChar true c with ⟨-, rfl, hfeed⟩ | hspelled
      · rw [hfeed]
        exact .piece hrun (List.cons_ne_nil _ _) (by decide) (fun _ => rfl) (ih (Nat.zero_le 2))
      · exact .piece hrun hspelled.ne_nil (fun h => (hspelled.ne_of_head? h).1 rfl)
          (run_longBasicPart hspelled) (ih (Nat.zero_le 2))

theorem le_longestRun (c : Char) (run : Nat) (s : List Char) : run ≤ longestRun c run s := by
  induction s generalizing run with
  | nil => exact Nat.le_refl run
  | cons d s ih =>
    rw [longestRun]
    split
    · exact Nat.le_trans (Nat.le_succ run) (ih (run + 1))
    · exact Nat.le_max_left _ _

theorem run_longLiteralPart {c : Char} (hcode : needsCode c = false) (hc : c ≠ '\'')
    (r : List Char) : longLiteralPart ([c] ++ r) = some (some [c], r) := by
  apply run_orElse
  rw [run_bind (run_peek? _)]
  by_cases hn : c = '\n'
  · subst hn
    rfl
  · refine (congrFun ?_ _).trans (run_some_satisfy c r)
    split
    · rename_i heq
      exact absurd (Option.some.inj heq) hc
    · rename_i d _ heq
      obtain rfl : c = d := Option.some.inj heq
      exact if_pos (isPrintable_of_not_needsCode hcode hn)
    · rename_i heq
      cases heq

theorem longBody_literal {s : List Char} (hcodes : ∀ c ∈ s, needsCode c = false) {run : Nat}
    (hrun : longestRun '\'' run s ≤ 2) : LongBody longLiteralPart '\'' run s s := by
  induction s generalizing run with
  | nil => exact .done hrun
  | cons c s ih =>
    have hle : run ≤ 2 := Nat.le_trans (le_longestRun _ _ _) hrun
    have hs : ∀ d ∈ s, needsCode d = false := fun d hd => hcodes d (List.mem_cons_of_mem c hd)
    rw [longestRun] at hrun
    split at hrun
    · subst c
      exact .mark (ih hs hrun)
    · rename_i hc
      have hread := run_longLiteralPart (hcodes c List.mem_cons_self) hc
      exact .piece hle (List.cons_ne_nil c []) (fun h => hc (Option.some.inj h)) hread
        (ih hs (Nat.le_trans (Nat.le_max_right _ _) hrun))

/-! ### Any spelling -/

theorem run_anyText_of_three (r : List Char) :
    anyText (['"', '"', '"'] ++ r) = longBasicText (['"', '"', '"'] ++ r) := rfl

theorem run_anyText_of_threeApostrophes (r : List Char) :
    anyText (['\'', '\'', '\''] ++ r) = longLiteralText (['\'', '\'', '\''] ++ r) := rfl

theorem run_anyText_quoted {s rest : List Char} (hrest : rest.head? ≠ some '"') :
    anyText (quoted s ++ rest) = some (s, rest) := by
  have hone : ¬ ['"', '"', '"'] <+: quoted s ++ rest := by
    cases s with
    | nil =>
      rintro ⟨r, hr⟩
      have hnext : '"' :: r = rest := List.cons.inj (List.cons.inj hr).2 |>.2
      exact hrest (hnext ▸ rfl)
    | cons c s =>
      have hspelled := spelled_quotedChar_false c
      rintro ⟨r, hr⟩
      have hnext : '"' :: '"' :: r = (c :: s).flatMap (quotedChar false) ++ ['"'] ++ rest :=
        (List.cons.inj hr).2
      have hhead : (quotedChar false c).head? = some '"' := by
        rw [List.flatMap_cons, List.append_assoc, List.append_assoc] at hnext
        rw [← List.head?_append_of_ne_nil _ hspelled.ne_nil, ← hnext]
        rfl
      exact (hspelled.ne_of_head? hhead).1 rfl
  have hpeek : (quoted s ++ rest).head? = some '"' := rfl
  rw [anyText, run_bind (run_peek? _), hpeek]
  show (maybe (ahead (exactly ['"', '"', '"'])) >>= _) (quoted s ++ rest) = _
  rw [run_bind (run_maybe_of_none (run_ahead_of_none (run_exactly_of_not_isPrefix hone)))]
  exact run_basicText_quoted s rest

theorem run_anyText_literal {s rest : List Char}
    (h : ∀ c ∈ s, (c != '\'' && isPrintable c) = true) (hne : s ≠ []) :
    anyText (literal s ++ rest) = some (s, rest) := by
  have hone : ¬ ['\'', '\'', '\''] <+: literal s ++ rest := by
    obtain ⟨c, cs, rfl⟩ := List.exists_cons_of_ne_nil hne
    rintro ⟨r, hr⟩
    have hc : '\'' = c := (List.cons.inj (List.cons.inj hr).2).1
    have hfits := h c List.mem_cons_self
    rw [← hc] at hfits
    cases hfits
  have hpeek : (literal s ++ rest).head? = some '\'' := rfl
  rw [anyText, run_bind (run_peek? _), hpeek]
  show (maybe (ahead (exactly ['\'', '\'', '\''])) >>= _) (literal s ++ rest) = _
  rw [run_bind (run_maybe_of_none (run_ahead_of_none (run_exactly_of_not_isPrefix hone)))]
  exact run_literalText_literal h rest

theorem head?_longQuotedChars {s : List Char} (hs : '\n' ∉ s) {c : Char}
    (hc : (longQuotedChars 0 s ++ ['"']).head? = some c) : c ≠ '\n' ∧ c ≠ '\r' := by
  cases s with
  | nil =>
    obtain rfl : '"' = c := Option.some.inj hc
    decide
  | cons d s =>
    by_cases hd : d = '"'
    · subst hd
      obtain rfl : '"' = c := Option.some.inj hc
      decide
    · have hspelled : Spelled d (quotedChar true d) :=
        (spelled_quotedChar true d).resolve_left fun h => hs (h.2.1 ▸ List.mem_cons_self)
      rw [longQuotedChars_cons hd, List.append_assoc,
        List.head?_append_of_ne_nil _ hspelled.ne_nil] at hc
      exact (hspelled.ne_of_head? hc).2

theorem run_anyText_longQuoted (s : List Char) {rest : List Char} (hrest : rest.head? ≠ some '"') :
    anyText (longQuoted s ++ rest) = some (s, rest) := by
  have hread := run_longText readsMarks_longBasicPart (longBody_longQuotedChars s (Nat.zero_le 2))
    (fun hs c hc => head?_longQuotedChars hs hc) hrest
  rw [longQuoted, List.append_assoc, List.append_assoc, List.append_assoc, run_anyText_of_three]
  rwa [List.append_assoc, List.append_assoc, List.append_assoc] at hread

theorem run_anyText_longLiteral {s rest : List Char} (hcodes : ∀ c ∈ s, needsCode c = false)
    (hrun : longestRun '\'' 0 s ≤ 2) (hrest : rest.head? ≠ some '\'') :
    anyText (longLiteral s ++ rest) = some (s, rest) := by
  have hopen : '\n' ∉ s → ∀ c, (s ++ ['\'']).head? = some c → c ≠ '\n' ∧ c ≠ '\r' := by
    intro hs c hc
    cases s with
    | nil =>
      obtain rfl : '\'' = c := Option.some.inj hc
      decide
    | cons d s =>
      obtain rfl : d = c := Option.some.inj hc
      refine ⟨?_, ?_⟩
      · rintro rfl
        exact hs List.mem_cons_self
      · rintro rfl
        cases hcodes _ List.mem_cons_self
  have hread := run_longText readsMarks_longLiteralPart (longBody_literal hcodes hrun) hopen hrest
  rw [longLiteral, List.append_assoc, List.append_assoc, List.append_assoc,
    run_anyText_of_threeApostrophes]
  rwa [List.append_assoc, List.append_assoc, List.append_assoc] at hread

/-- A text is read back, whatever it holds, unless a quote or an apostrophe follows. -/
theorem run_anyText_textValue (s : List Char) {rest : List Char} (hq : rest.head? ≠ some '"')
    (ha : rest.head? ≠ some '\'') : anyText (textValue s ++ rest) = some (s, rest) := by
  simp only [textValue]
  split
  · exact run_anyText_quoted hq
  · rename_i hquoted
    split
    · rename_i hliteral
      simp only [Bool.and_eq_true, Bool.not_eq_true', List.any_eq_false,
        Bool.not_eq_true] at hliteral
      obtain ⟨⟨hcodes, happ⟩, hfeed⟩ := hliteral
      refine run_anyText_literal (fun c hc => ?_) ?_
      · have hn : c ≠ '\n' := by
          rintro rfl
          rw [List.contains_iff_mem.2 hc] at hfeed
          cases hfeed
        have hm : c ≠ '\'' := by
          rintro rfl
          rw [List.contains_iff_mem.2 hc] at happ
          cases happ
        rw [Bool.and_eq_true, bne_iff_ne]
        exact ⟨hm, isPrintable_of_not_needsCode (hcodes c hc) hn⟩
      · rintro rfl
        exact hquoted rfl
    · split
      · exact run_anyText_longQuoted s hq
      · split
        · rename_i hlong
          simp only [Bool.and_eq_true, Bool.not_eq_true', List.any_eq_false, Bool.not_eq_true,
            decide_eq_true_eq] at hlong
          exact run_anyText_longLiteral hlong.1 hlong.2 ha
        · split
          · exact run_anyText_longQuoted s hq
          · exact run_anyText_quoted hq

end CacheWarden.Toml
