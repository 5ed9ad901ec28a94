import CacheWarden.Proofs.Command.Verdict
import Mathlib

/-!
# Patterns read from texts

When a text is a pattern, and what the pattern that is read from it asks of a line, said of the text
alone. Main statements: `parseAll_eq_ok_iff` and `parseAll_eq_error_iff`, several texts are read one
by one, and the first that is no pattern is reported; `exists_isMatchBy_iff`, the lines that the
patterns match are those that have what one of the texts asks for.
-/

namespace CacheWarden

open Text Pattern

namespace MessagePattern

/-- Whether a text has a character that makes it a regular expression. -/
def HasSign (text : String) : Prop := ∃ c ∈ text.toList, c ∈ regexSigns

/-- Whether a text can be read as a pattern. -/
def IsPattern (text : String) : Prop := HasSign text → ∃ e, Regex.read? text.toList = some e

/-- Whether a text is the first of several that is no pattern. -/
def FirstBroken (texts : List String) (text : String) : Prop :=
  ∃ before after, texts = before ++ text :: after ∧ (∀ t ∈ before, IsPattern t) ∧ ¬ IsPattern text

/-- Whether a line has what a text asks for, where a rule says how regular expressions match. -/
inductive Fits (rule : Regex → List Char → Bool) (text : String) (line : List Char) : Prop where
  | plain (hplain : ¬ HasSign text) (hline : text.toList <:+: line)
  | expression {e : Regex} (hsign : HasSign text) (hread : Regex.read? text.toList = some e)
      (hmatch : rule e line = true)

variable {rule : Regex → List Char → Bool} {text : String} {texts : List String}
  {p : MessagePattern} {patterns : List MessagePattern} {e : Failure} {line : List Char}

/-- The failure that reports a text that is no pattern. -/
def broken (text : String) : Failure := .invalidPattern text "not a regular expression"

theorem any_regexSigns_iff : text.toList.any regexSigns.contains = true ↔ HasSign text := by
  simp [HasSign, List.any_eq_true]

theorem parse_of_plain (h : ¬ HasSign text) : parse text = .ok (.literal text) := by
  rw [parse, if_neg (mt any_regexSigns_iff.1 h)]

theorem parse_of_sign (h : HasSign text) :
    parse text = match Regex.read? text.toList with
      | some e => .ok (.regex text e)
      | none => .error (broken text) := by
  rw [parse, if_pos (any_regexSigns_iff.2 h), ofRegex]
  rfl

theorem parse_of_isPattern (h : IsPattern text) : ∃ p, parse text = .ok p := by
  by_cases hs : HasSign text
  · obtain ⟨e, he⟩ := h hs
    exact ⟨.regex text e, by rw [parse_of_sign hs, he]⟩
  · exact ⟨_, parse_of_plain hs⟩

theorem parse_of_not_isPattern (h : ¬ IsPattern text) : parse text = .error (broken text) := by
  obtain ⟨hs, hread⟩ := Classical.not_imp.1 h
  rw [parse_of_sign hs, Option.eq_none_iff_forall_ne_some.2 fun e he => hread ⟨e, he⟩]

theorem isPattern_of_parse (h : parse text = .ok p) : IsPattern text := by
  by_contra hbroken
  rw [parse_of_not_isPattern hbroken] at h
  cases h

theorem isMatchBy_iff_fits (h : parse text = .ok p) :
    p.isMatchBy rule line = true ↔ Fits rule text line := by
  by_cases hs : HasSign text
  · rw [parse_of_sign hs] at h
    cases hread : Regex.read? text.toList with
    | none =>
      rw [hread] at h
      cases h
    | some e =>
      rw [hread] at h
      cases h
      constructor
      · intro hmatch
        exact .expression hs hread hmatch
      · intro hfits
        cases hfits with
        | plain hplain _ => exact absurd hs hplain
        | expression _ hread' hmatch =>
          have hsame := Option.some.inj (hread.symm.trans hread')
          rwa [← hsame] at hmatch
  · rw [parse_of_plain hs] at h
    cases h
    rw [isMatchBy, contains_iff_isInfix]
    constructor
    · intro hline
      exact .plain hs hline
    · intro hfits
      cases hfits with
      | plain _ hline => exact hline
      | expression hsign _ _ => exact absurd hsign hs

/-! ### Several texts -/

theorem parseAll_cons (text : String) (texts : List String) :
    parseAll (text :: texts) =
      (parse text).bind fun p => (parseAll texts).bind fun ps => .ok (p :: ps) := by
  rw [parseAll, List.mapM_cons]
  rfl

theorem firstBroken_cons_of_isPattern (h : IsPattern text) {t : String} :
    FirstBroken (text :: texts) t ↔ FirstBroken texts t := by
  constructor
  · intro hfirst
    obtain ⟨before, after, htexts, hbefore, ht⟩ := hfirst
    cases before with
    | nil =>
      cases htexts
      exact absurd h ht
    | cons first before =>
      cases htexts
      have hrest := (List.forall_mem_cons.1 hbefore).2
      exact ⟨before, after, rfl, hrest, ht⟩
  · intro hfirst
    obtain ⟨before, after, rfl, hbefore, ht⟩ := hfirst
    exact ⟨text :: before, after, rfl, List.forall_mem_cons.2 ⟨h, hbefore⟩, ht⟩

theorem firstBroken_cons_of_not_isPattern (h : ¬ IsPattern text) {t : String} :
    FirstBroken (text :: texts) t ↔ t = text := by
  constructor
  · intro hfirst
    obtain ⟨before, after, htexts, hbefore, -⟩ := hfirst
    cases before with
    | nil =>
      cases htexts
      rfl
    | cons first before =>
      cases htexts
      exact absurd (hbefore text List.mem_cons_self) h
  · intro ht
    subst ht
    exact ⟨[], texts, rfl, List.forall_mem_nil _, h⟩

/-- Some texts are patterns, or the first of them that is none is reported. -/
theorem parseAll_eq_error_iff :
    parseAll texts = .error e ↔ ∃ text, FirstBroken texts text ∧ e = broken text := by
  induction texts with
  | nil =>
    constructor
    · intro h
      cases h
    · intro h
      obtain ⟨text, hfirst, -⟩ := h
      obtain ⟨before, after, htexts, -⟩ := hfirst
      have hne : before ++ text :: after ≠ [] :=
        List.append_ne_nil_of_right_ne_nil before (List.cons_ne_nil text after)
      exact absurd htexts.symm hne
  | cons text texts ih =>
    rw [parseAll_cons]
    by_cases h : IsPattern text
    · obtain ⟨p, hp⟩ := parse_of_isPattern h
      simp only [firstBroken_cons_of_isPattern h, ← ih, hp, Except.bind]
      cases parseAll texts <;> simp
    · simp only [parse_of_not_isPattern h, firstBroken_cons_of_not_isPattern h, Except.bind,
        exists_eq_left, Except.error.injEq]
      exact eq_comm

theorem parseAll_eq_ok_iff :
    parseAll texts = .ok patterns ↔
      List.Forall₂ (fun text p => parse text = .ok p) texts patterns := by
  induction texts generalizing patterns with
  | nil =>
    rw [List.forall₂_nil_left_iff]
    exact ⟨fun h => (Except.ok.inj h).symm, fun h => h ▸ rfl⟩
  | cons text texts ih =>
    rw [parseAll_cons, List.forall₂_cons_left_iff]
    cases parse text with
    | error e => simp [Except.bind]
    | ok p =>
      cases hrest : parseAll texts with
      | error e =>
        have hnone : ∀ ps, ¬ List.Forall₂ (fun text p => parse text = .ok p) texts ps := by
          intro ps h
          rw [ih.2 h] at hrest
          cases hrest
        simp [Except.bind, hnone]
      | ok ps =>
        simp only [Except.bind, Except.ok.injEq, ← ih, hrest]
        constructor
        · intro hpatterns
          exact ⟨p, ps, rfl, rfl, hpatterns.symm⟩
        · intro h
          obtain ⟨_, _, rfl, rfl, rfl⟩ := h
          rfl

theorem isPattern_of_parseAll (h : parseAll texts = .ok patterns) :
    ∀ text ∈ texts, IsPattern text := by
  rw [parseAll_eq_ok_iff] at h
  induction h with
  | nil => simp
  | cons hp _ ih => exact List.forall_mem_cons.2 ⟨isPattern_of_parse hp, ih⟩

theorem ne_nil_of_parseAll (h : parseAll (text :: texts) = .ok patterns) : patterns ≠ [] := by
  rw [parseAll_eq_ok_iff] at h
  cases h
  exact List.cons_ne_nil _ _

/-- Texts that are looked for as they are. -/
theorem exists_literal_iff (texts : List String) (ls : List (List Char)) :
    (∃ p ∈ texts.map literal, ∃ l ∈ ls, p.isMatchBy rule l = true) ↔
      ∃ l ∈ ls, ∃ text ∈ texts, text.toList <:+: l := by
  constructor
  · intro h
    obtain ⟨p, hp, l, hl, hmatch⟩ := h
    obtain ⟨text, htext, rfl⟩ := List.mem_map.1 hp
    exact ⟨l, hl, text, htext, contains_iff_isInfix.1 hmatch⟩
  · intro h
    obtain ⟨l, hl, text, htext, hline⟩ := h
    exact ⟨.literal text, List.mem_map_of_mem htext, l, hl, contains_iff_isInfix.2 hline⟩

/-- What several patterns match is what the texts ask for from which they were read. -/
theorem exists_isMatchBy_iff (h : parseAll texts = .ok patterns) (ls : List (List Char)) :
    (∃ p ∈ patterns, ∃ l ∈ ls, p.isMatchBy rule l = true) ↔
      ∃ l ∈ ls, ∃ text ∈ texts, Fits rule text l := by
  rw [parseAll_eq_ok_iff] at h
  induction h with
  | nil => simp
  | cons hp _ ih =>
    simp only [List.exists_mem_cons_iff, ih, isMatchBy_iff_fits hp]
    constructor
    · intro h
      rcases h with ⟨l, hl, hf⟩ | ⟨l, hl, hf⟩
      · exact ⟨l, hl, Or.inl hf⟩
      · exact ⟨l, hl, Or.inr hf⟩
    · intro h
      obtain ⟨l, hl, hf⟩ := h
      rcases hf with hf | hf
      · exact Or.inl ⟨l, hl, hf⟩
      · exact Or.inr ⟨l, hl, hf⟩

end MessagePattern

end CacheWarden
