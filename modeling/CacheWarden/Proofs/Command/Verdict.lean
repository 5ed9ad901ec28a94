import CacheWarden.Proofs.Command.Output
import Mathlib

/-!
# What a verdict means

The verdict on a command, said without the interpreter: four rules, of which exactly one applies to
each output. How a regular expression matches a line is left open, so nothing here depends on it.
Main statements: `judgement_iff`, the rules settle the verdict; `interpret_exact`, with what follows
for other outputs and other patterns.
-/

namespace CacheWarden

open Text Pattern

/-- Whether a pattern matches a line, where a rule says how regular expressions match. -/
def MessagePattern.isMatchBy (rule : Regex → List Char → Bool) (line : List Char) :
    MessagePattern → Bool
  | literal text => contains text.toList line
  | regex _ e => rule e line

/-- The lines that some pattern matches. -/
def matchedLines (rule : Regex → List Char → Bool) (patterns : List MessagePattern)
    (ls : List (List Char)) : List (List Char) :=
  ls.filter fun line => patterns.any fun p => p.isMatchBy rule line

/-- The verdict on a command, where a rule says how regular expressions match. -/
def interpretBy (rule : Regex → List Char → Bool) (o : CommandOutput) (allowed : List Int)
    (patterns : List MessagePattern) (stream : Stream) : Verdict :=
  if !allowsExit allowed o.exitCode then .failure (.unexpectedExit o.exitCode)
  else if patterns.isEmpty then .success none 0
  else
    let ls := lines (o.text stream).toList
    let count := (matchedLines rule patterns ls).length
    if count = 0 then .failure .noExpectedMessage
    else
      let first := patterns.find? fun p => ls.any fun line => p.isMatchBy rule line
      .success (first.map MessagePattern.text) count

/-- What is held of a command that has ended, and why. -/
inductive Judgement (rule : Regex → List Char → Bool) (o : CommandOutput) (allowed : List Int)
    (patterns : List MessagePattern) (stream : Stream) : Verdict → Prop where
  | exit (hexit : ∀ code, o.exitCode = some code → code ∉ allowed) :
      Judgement rule o allowed patterns stream (.failure (.unexpectedExit o.exitCode))
  | unasked {code : Int} (hexit : o.exitCode = some code) (hcode : code ∈ allowed)
      (hpatterns : patterns = []) : Judgement rule o allowed patterns stream (.success none 0)
  | found {code : Int} {front back : List MessagePattern} {p : MessagePattern} {line : List Char}
      (hexit : o.exitCode = some code) (hcode : code ∈ allowed)
      (hpatterns : patterns = front ++ p :: back)
      (hfront : ∀ q ∈ front, ∀ l ∈ lines (o.text stream).toList, q.isMatchBy rule l = false)
      (hline : line ∈ lines (o.text stream).toList) (hmatch : p.isMatchBy rule line = true) :
      Judgement rule o allowed patterns stream
        (.success (some p.text) (matchedLines rule patterns (lines (o.text stream).toList)).length)
  | missing {code : Int} (hexit : o.exitCode = some code) (hcode : code ∈ allowed)
      (hpatterns : patterns ≠ [])
      (hnone : ∀ p ∈ patterns, ∀ l ∈ lines (o.text stream).toList, p.isMatchBy rule l = false) :
      Judgement rule o allowed patterns stream (.failure .noExpectedMessage)

/-- A verdict without the pattern it names. -/
def Verdict.withoutPattern : Verdict → Verdict
  | success _ count => success none count
  | failure reason => failure reason

variable {rule : Regex → List Char → Bool} {o o' : CommandOutput} {allowed : List Int}
  {patterns patterns' : List MessagePattern} {stream : Stream}

theorem interpret_eq_interpretBy (o : CommandOutput) (allowed : List Int)
    (patterns : List MessagePattern) (stream : Stream) :
    interpret o allowed patterns stream = interpretBy Regex.isMatch o allowed patterns stream := by
  have hmatch : ∀ line p, MessagePattern.isMatchBy Regex.isMatch line p = p.isMatch line := by
    intro line p
    cases p <;> rfl
  simp only [interpret, interpretBy, MessagePattern.countMatches, matchedLines, hmatch,
    List.countP_eq_length_filter]

theorem allowsExit_iff {code : Option Int} :
    allowsExit allowed code = true ↔ ∃ c, code = some c ∧ c ∈ allowed := by
  cases code <;> simp [allowsExit]

/-! ### The rules settle the verdict -/

theorem matchedLines_eq_nil_iff {ls : List (List Char)} :
    matchedLines rule patterns ls = [] ↔
      ∀ p ∈ patterns, ∀ l ∈ ls, p.isMatchBy rule l = false := by
  rw [matchedLines, List.filter_eq_nil_iff]
  constructor
  · intro h p hp l hl
    rw [← Bool.not_eq_true]
    exact fun hm => h l hl (List.any_eq_true.2 ⟨p, hp, hm⟩)
  · intro h l hl hm
    obtain ⟨p, hp, hm⟩ := List.any_eq_true.1 hm
    rw [h p hp l hl] at hm
    cases hm

theorem interpretBy_of_refused (h : allowsExit allowed o.exitCode = false) :
    interpretBy rule o allowed patterns stream = .failure (.unexpectedExit o.exitCode) := by
  rw [interpretBy, h]
  rfl

theorem interpretBy_of_unasked (h : allowsExit allowed o.exitCode = true) :
    interpretBy rule o allowed [] stream = .success none 0 := by
  rw [interpretBy, h]
  rfl

theorem interpretBy_of_asked (h : allowsExit allowed o.exitCode = true) (hne : patterns ≠ []) :
    interpretBy rule o allowed patterns stream =
      let ls := lines (o.text stream).toList
      if matchedLines rule patterns ls = [] then .failure .noExpectedMessage
      else
        .success ((patterns.find? fun p => ls.any fun line => p.isMatchBy rule line).map
          MessagePattern.text) (matchedLines rule patterns ls).length := by
  rw [interpretBy, h, List.isEmpty_eq_false_iff.2 hne]
  simp only [Bool.not_true, Bool.false_eq_true, if_false, List.length_eq_zero_iff]

theorem Judgement.eq {v : Verdict} (h : Judgement rule o allowed patterns stream v) :
    v = interpretBy rule o allowed patterns stream := by
  cases h with
  | exit hexit =>
    rw [interpretBy_of_refused]
    rw [← Bool.not_eq_true, allowsExit_iff]
    rintro ⟨code, hcode, ha⟩
    exact hexit code hcode ha
  | unasked hexit hcode hpatterns =>
    rw [hpatterns, interpretBy_of_unasked (allowsExit_iff.2 ⟨_, hexit, hcode⟩)]
  | @found code front back p line hexit hcode hpatterns hfront hline hmatch =>
    have hp : p ∈ patterns := by rw [hpatterns]; simp
    have hsome : matchedLines rule patterns (lines (o.text stream).toList) ≠ [] := by
      rw [ne_eq, matchedLines_eq_nil_iff]
      intro h
      rw [h p hp line hline] at hmatch
      cases hmatch
    have hfind : (patterns.find? fun q =>
        (lines (o.text stream).toList).any fun l => q.isMatchBy rule l) = some p := by
      rw [List.find?_eq_some_iff_append]
      refine ⟨List.any_eq_true.2 ⟨line, hline, hmatch⟩, front, back, hpatterns, ?_⟩
      intro q hq
      rw [Bool.not_eq_true', List.any_eq_false]
      intro l hl
      rw [hfront q hq l hl]
      exact Bool.false_ne_true
    rw [interpretBy_of_asked (allowsExit_iff.2 ⟨code, hexit, hcode⟩) (List.ne_nil_of_mem hp)]
    simp only [hsome, if_false, hfind, Option.map_some]
  | missing hexit hcode hpatterns hnone =>
    rw [interpretBy_of_asked (allowsExit_iff.2 ⟨_, hexit, hcode⟩) hpatterns]
    simp only [matchedLines_eq_nil_iff.2 hnone, if_true]

/-- One of the rules always applies. -/
theorem judgement_interpretBy (rule : Regex → List Char → Bool) (o : CommandOutput)
    (allowed : List Int) (patterns : List MessagePattern) (stream : Stream) :
    Judgement rule o allowed patterns stream (interpretBy rule o allowed patterns stream) := by
  cases hx : allowsExit allowed o.exitCode with
  | false =>
    rw [interpretBy_of_refused hx]
    refine .exit fun code hcode ha => ?_
    rw [allowsExit_iff.2 ⟨code, hcode, ha⟩] at hx
    cases hx
  | true =>
    obtain ⟨code, hexit, hcode⟩ := allowsExit_iff.1 hx
    by_cases hne : patterns = []
    · subst hne
      rw [interpretBy_of_unasked hx]
      exact .unasked hexit hcode rfl
    by_cases hnone : matchedLines rule patterns (lines (o.text stream).toList) = []
    · rw [interpretBy_of_asked hx hne]
      simp only [hnone, if_true]
      exact .missing hexit hcode hne (matchedLines_eq_nil_iff.1 hnone)
    · cases hfind : patterns.find? fun p =>
          (lines (o.text stream).toList).any fun line => p.isMatchBy rule line with
      | none =>
        refine absurd (matchedLines_eq_nil_iff.2 fun p hp l hl => ?_) hnone
        have hp := List.find?_eq_none.1 hfind p hp
        rw [Bool.not_eq_true, List.any_eq_false] at hp
        exact Bool.eq_false_of_not_eq_true (hp l hl)
      | some p =>
        obtain ⟨hmatch, front, back, hpatterns, hfront⟩ := List.find?_eq_some_iff_append.1 hfind
        obtain ⟨line, hline, hmatch⟩ := List.any_eq_true.1 hmatch
        rw [interpretBy_of_asked hx hne]
        simp only [hnone, if_false, hfind, Option.map_some]
        refine .found hexit hcode hpatterns (fun q hq l hl => ?_) hline hmatch
        have hq := hfront q hq
        rw [Bool.not_eq_true', List.any_eq_false] at hq
        exact Bool.eq_false_of_not_eq_true (hq l hl)

theorem judgement_iff {v : Verdict} :
    Judgement rule o allowed patterns stream v ↔
      interpretBy rule o allowed patterns stream = v := by
  constructor
  · exact fun h => h.eq.symm
  · rintro rfl
    exact judgement_interpretBy rule o allowed patterns stream

/-! ### Other outputs and other patterns -/

theorem Judgement.isSuccess_iff {v : Verdict} (h : Judgement rule o allowed patterns stream v) :
    v.isSuccess = true ↔ allowsExit allowed o.exitCode = true ∧ (patterns = [] ∨
      ∃ p ∈ patterns, ∃ l ∈ lines (o.text stream).toList, p.isMatchBy rule l = true) := by
  rw [allowsExit_iff]
  cases h with
  | exit hexit =>
    refine iff_of_false Bool.false_ne_true ?_
    rintro ⟨⟨code, hcode, ha⟩, -⟩
    exact hexit code hcode ha
  | unasked hexit hcode hpatterns =>
    exact iff_of_true rfl ⟨⟨_, hexit, hcode⟩, Or.inl hpatterns⟩
  | found hexit hcode hpatterns hfront hline hmatch =>
    exact iff_of_true rfl
      ⟨⟨_, hexit, hcode⟩, Or.inr ⟨_, by rw [hpatterns]; simp, _, hline, hmatch⟩⟩
  | missing hexit hcode hpatterns hnone =>
    refine iff_of_false Bool.false_ne_true ?_
    rintro ⟨-, h | ⟨p, hp, l, hl, hm⟩⟩
    · exact hpatterns h
    · rw [hnone p hp l hl] at hm
      cases hm

/-- A success stays one where there are more patterns and more lines. -/
theorem isSuccess_mono (hexit : o'.exitCode = o.exitCode) (hempty : patterns = [] → patterns' = [])
    (hpatterns : patterns ⊆ patterns')
    (hlines : lines (o.text stream).toList ⊆ lines (o'.text stream).toList)
    (h : (interpretBy rule o allowed patterns stream).isSuccess = true) :
    (interpretBy rule o' allowed patterns' stream).isSuccess = true := by
  rw [(judgement_interpretBy ..).isSuccess_iff] at h ⊢
  obtain ⟨ha, h⟩ := h
  refine ⟨hexit ▸ ha, ?_⟩
  rcases h with h | ⟨p, hp, l, hl, hm⟩
  · exact Or.inl (hempty h)
  · exact Or.inr ⟨p, hpatterns hp, l, hlines hl, hm⟩

theorem matchedLines_perm (h : patterns'.Perm patterns) (ls : List (List Char)) :
    matchedLines rule patterns' ls = matchedLines rule patterns ls := by
  unfold matchedLines
  congr 1
  funext line
  exact h.any_eq

/-- The order of the patterns settles only which of them is named. -/
theorem interpretBy_perm (h : patterns'.Perm patterns) (o : CommandOutput) (stream : Stream) :
    (interpretBy rule o allowed patterns' stream).withoutPattern =
      (interpretBy rule o allowed patterns stream).withoutPattern := by
  cases hx : allowsExit allowed o.exitCode with
  | false => rw [interpretBy_of_refused hx, interpretBy_of_refused hx]
  | true =>
    by_cases hne : patterns = []
    · subst hne
      rw [h.eq_nil]
    · have hne' : patterns' ≠ [] := fun h' => hne (h' ▸ h).symm.eq_nil
      rw [interpretBy_of_asked hx hne, interpretBy_of_asked hx hne']
      simp only [matchedLines_perm h]
      split <;> rfl

/-- Only the streams count, as long as the exit code is allowed. -/
theorem interpretBy_congr (hout : o'.stdout = o.stdout) (herr : o'.stderr = o.stderr)
    (hx : allowsExit allowed o.exitCode = true) (hx' : allowsExit allowed o'.exitCode = true)
    (patterns : List MessagePattern) (stream : Stream) :
    interpretBy rule o' allowed patterns stream = interpretBy rule o allowed patterns stream := by
  have htext : o'.text stream = o.text stream := by
    cases stream with
    | stdout => exact hout
    | stderr => exact herr
    | both => simp only [CommandOutput.text, CommandOutput.combined, hout, herr]
  rw [interpretBy, interpretBy, hx, hx', htext]
  rfl

/-- A success names a pattern and counts a line, unless nothing was asked for. -/
theorem Judgement.of_success {pattern : Option String} {count : Nat}
    (h : Judgement rule o allowed patterns stream (.success pattern count)) :
    patterns = [] ∨ pattern ≠ none ∧ 1 ≤ count := by
  cases h with
  | unasked hexit hcode hpatterns => exact Or.inl hpatterns
  | @found code front back p line hexit hcode hpatterns hfront hline hmatch =>
    refine Or.inr ⟨Option.some_ne_none _, List.length_pos_iff.2 fun hnil => ?_⟩
    have hp : p ∈ patterns := by rw [hpatterns]; simp
    rw [matchedLines_eq_nil_iff.1 hnil p hp line hline] at hmatch
    cases hmatch

/-- For every output, and whatever it takes for a regular expression to match a line: the verdict is
    the one that the rules allow. It depends on the streams only once the exit code is allowed, the
    order of the patterns changes nothing but the pattern that is named, and neither more patterns
    nor more whole lines turn a success into a failure. -/
theorem interpret_exact (o : CommandOutput) (allowed : List Int) (patterns : List MessagePattern)
    (stream : Stream) :
    interpret o allowed patterns stream = interpretBy Regex.isMatch o allowed patterns stream ∧
      ∀ rule : Regex → List Char → Bool,
        let verdict := interpretBy rule o allowed patterns stream
        (∀ v, verdict = v ↔ Judgement rule o allowed patterns stream v) ∧
        (∀ pattern count, verdict = .success pattern count →
          patterns = [] ∨ pattern ≠ none ∧ 1 ≤ count) ∧
        (∀ o' : CommandOutput, o'.stdout = o.stdout → o'.stderr = o.stderr →
          allowsExit allowed o.exitCode = true → allowsExit allowed o'.exitCode = true →
          interpretBy rule o' allowed patterns stream = verdict) ∧
        (∀ patterns' : List MessagePattern, patterns'.Perm patterns →
          (interpretBy rule o allowed patterns' stream).withoutPattern = verdict.withoutPattern) ∧
        (∀ patterns', patterns ≠ [] → patterns ⊆ patterns' → verdict.isSuccess = true →
          (interpretBy rule o allowed patterns' stream).isSuccess = true) ∧
        ∀ o', o.Extended o' → verdict.isSuccess = true →
          (interpretBy rule o' allowed patterns stream).isSuccess = true := by
  refine ⟨interpret_eq_interpretBy o allowed patterns stream, ?_⟩
  intro rule verdict
  refine ⟨?_, ?_, ?_, ?_, ?_, ?_⟩
  · exact fun v => judgement_iff.symm
  · exact fun pattern count h => (judgement_iff.2 h).of_success
  · exact fun o' hout herr hx hx' => interpretBy_congr hout herr hx hx' patterns stream
  · exact fun patterns' h => interpretBy_perm h o stream
  · intro patterns' hne hsub
    exact isSuccess_mono rfl (fun h => absurd h hne) hsub (List.Subset.refl _)
  · intro o' h
    exact isSuccess_mono h.exitCode_eq id (List.Subset.refl _) (h.subset stream)

end CacheWarden
