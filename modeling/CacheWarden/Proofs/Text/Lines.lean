import CacheWarden.Proofs.Text.Trim
import CacheWarden.Text.Lines
import Mathlib

/-!
# Lines with either line end

Lines that end with a line feed, some of them with a carriage return in front of it, are read back.
A text that does not end in the middle of a line has no influence on how the text behind it is cut
into lines. Main statements: `lines_endLines`, `lines_append_of_ended`, and `MoreLines.subset`, by
which no line is lost where whole lines are put in; `exists_standsBetween`, each line of a text has
its place in it.
-/

namespace CacheWarden.Text

/-- Whether a text is a line: it has no line feed, and no carriage return where the line ends. -/
def IsLine (l : List Char) : Prop := '\n' ∉ l ∧ l.getLast? ≠ some '\r'

theorem isLine_of_not_mem {l : List Char} (hn : '\n' ∉ l) (hr : '\r' ∉ l) : IsLine l :=
  ⟨hn, fun h => hr (List.mem_of_getLast? h)⟩

theorem IsLine.append {a l : List Char} (hn : '\n' ∉ a) (hr : '\r' ∉ a) (h : IsLine l) :
    IsLine (a ++ l) := by
  constructor
  · rw [List.mem_append, not_or]
    exact ⟨hn, h.1⟩
  · rw [List.getLast?_append]
    cases hl : l.getLast? with
    | none => exact fun ha => hr (List.mem_of_getLast? ha)
    | some c =>
      rw [Option.some_or, ← hl]
      exact h.2

namespace Gap

theorem newline_not_mem (g : Gap) : '\n' ∉ g.chars := not_mem (by decide) (by decide)

theorem return_not_mem (g : Gap) : '\r' ∉ g.chars := not_mem (by decide) (by decide)

theorem isLine (g : Gap) : IsLine g.chars := isLine_of_not_mem g.newline_not_mem g.return_not_mem

end Gap

/-- Ends each line with a line feed, and those for which it is asked with a carriage return in front
    of it. -/
def endLines (crlf : Nat → Bool) : List (List Char) → List Char
  | [] => []
  | l :: ls =>
      l ++ ((if crlf 0 then ['\r', '\n'] else ['\n']) ++ endLines (fun i => crlf (i + 1)) ls)

theorem lines_append_return_newline {l : List Char} (h : '\n' ∉ l) (r : List Char) :
    lines (l ++ '\r' :: '\n' :: r) = l :: lines r := by
  induction l with
  | nil => rfl
  | cons c l ih =>
    rw [List.mem_cons, not_or] at h
    have hnext : (l ++ '\r' :: '\n' :: r).head? ≠ some '\n' := by
      cases l with
      | nil => simp
      | cons d l =>
        intro hd
        exact h.2 (Option.some.inj hd ▸ List.mem_cons_self)
    rw [List.cons_append, lines_cons_of_ne (Ne.symm h.1) fun _ => hnext, ih h.2]
    rfl

theorem lines_endLines (crlf : Nat → Bool) {ls : List (List Char)} (h : ∀ l ∈ ls, IsLine l) :
    lines (endLines crlf ls) = ls := by
  induction ls generalizing crlf with
  | nil => rfl
  | cons l ls ih =>
    obtain ⟨hn, hr⟩ := h l List.mem_cons_self
    have hrest := ih (fun i => crlf (i + 1)) fun m hm => h m (List.mem_cons_of_mem l hm)
    rw [endLines]
    split
    · exact (lines_append_return_newline hn _).trans (congrArg (l :: ·) hrest)
    · exact (lines_append_newline hn hr).trans (congrArg (l :: ·) hrest)

/-! ### Texts one behind the other -/

/-- Whether a text does not end in the middle of a line. -/
def Ended (s : List Char) : Prop := ∀ c ∈ s.getLast?, c = '\n'

theorem ended_nil : Ended [] := by
  rintro c ⟨⟩

theorem ended_append_newline (s : List Char) : Ended (s ++ ['\n']) := by
  intro c hc
  rw [List.getLast?_append_of_ne_nil s (by simp)] at hc
  exact (Option.some.inj hc).symm

theorem Ended.append {s t : List Char} (hs : Ended s) (ht : Ended t) : Ended (s ++ t) := by
  cases t with
  | nil => rwa [List.append_nil]
  | cons d t =>
    intro c hc
    rw [List.getLast?_append_of_ne_nil s (List.cons_ne_nil d t)] at hc
    exact ht c hc

theorem ended_unlines (ls : List (List Char)) : Ended (unlines ls) := by
  induction ls with
  | nil => exact ended_nil
  | cons l ls ih => exact (ended_append_newline l).append ih

theorem consHead_ne_nil (c : Char) (ps : List (List Char)) : consHead c ps ≠ [] := by
  cases ps <;> exact List.cons_ne_nil _ _

theorem consHead_append (c : Char) {ps : List (List Char)} (h : ps ≠ []) (qs : List (List Char)) :
    consHead c (ps ++ qs) = consHead c ps ++ qs := by
  obtain ⟨p, ps, rfl⟩ := List.exists_cons_of_ne_nil h
  rfl

theorem lines_ne_nil {s : List Char} (h : s ≠ []) : lines s ≠ [] := by
  fun_cases lines s with
  | case1 => exact absurd rfl h
  | case2 r => exact List.cons_ne_nil _ _
  | case3 r => exact List.cons_ne_nil _ _
  | case4 c r => exact consHead_ne_nil c _

/-- A line feed ends the lines in front of it, whatever follows. -/
theorem lines_append_newline_append (s t : List Char) :
    lines (s ++ '\n' :: t) = lines (s ++ ['\n']) ++ lines t := by
  fun_induction lines s with
  | case1 => rfl
  | case2 r ih => exact congrArg ([] :: ·) ih
  | case3 r ih => exact congrArg ([] :: ·) ih
  | case4 c r hn hr ih =>
    -- a carriage return at the end of the text goes with the line feed
    by_cases hc : c = '\r' ∧ r = []
    · obtain ⟨rfl, rfl⟩ := hc
      rfl
    · have hnext : ∀ u, c = '\r' → (r ++ '\n' :: u).head? ≠ some '\n' := by
        rintro u rfl
        obtain ⟨d, r, rfl⟩ := List.exists_cons_of_ne_nil fun h => hc ⟨rfl, h⟩
        rintro ⟨⟩
        exact hr r rfl rfl
      have hne : lines (r ++ ['\n']) ≠ [] := lines_ne_nil (by simp)
      rw [List.cons_append, List.cons_append, lines_cons_of_ne hn (hnext t),
        lines_cons_of_ne hn (hnext []), ih, consHead_append c hne]

theorem lines_append_of_ended {s : List Char} (h : Ended s) (t : List Char) :
    lines (s ++ t) = lines s ++ lines t := by
  rcases List.eq_nil_or_concat' s with rfl | ⟨s, c, rfl⟩
  · rfl
  · obtain rfl : c = '\n' := h c (by simp)
    rw [List.append_assoc]
    exact lines_append_newline_append s t

/-- The first line of a text. -/
def firstLine (s : List Char) : List Char := (lines s).headD []

theorem consHead_eq (c : Char) (ps : List (List Char)) :
    consHead c ps = (c :: ps.headD []) :: ps.tail := by
  cases ps <;> rfl

/-- What stands in front of a text on its first line changes no other line. -/
theorem lines_append_of_isLine {l : List Char} (h : IsLine l) (hne : l ≠ []) (s : List Char) :
    lines (l ++ s) = (l ++ firstLine s) :: (lines s).tail := by
  obtain ⟨hn, hr⟩ := h
  induction l with
  | nil => exact absurd rfl hne
  | cons c l ih =>
    have hc : c ≠ '\n' := fun hc => hn (hc ▸ List.mem_cons_self)
    cases l with
    | nil =>
      have hcr : c ≠ '\r' := fun hc => hr (hc ▸ rfl)
      rw [List.cons_append, List.nil_append, lines_cons_of_ne hc fun h => absurd h hcr, consHead_eq]
      rfl
    | cons d l =>
      rw [List.mem_cons, not_or] at hn
      have hd : d ≠ '\n' := fun hd => hn.2 (hd ▸ List.mem_cons_self)
      rw [List.getLast?_cons_cons] at hr
      rw [List.cons_append, lines_cons_of_ne hc fun _ => by simpa using hd,
        ih (List.cons_ne_nil d l) hn.2 hr, consHead_eq]
      rfl

/-- The first line of a text starts as the text does. -/
theorem head?_firstLine {s : List Char} : ∀ c ∈ (firstLine s).head?, c ∈ s.head? := by
  unfold firstLine
  fun_cases lines s with
  | case1 => exact fun c hc => hc
  | case2 r => rintro c ⟨⟩
  | case3 r => rintro c ⟨⟩
  | case4 c r =>
    rw [consHead_eq]
    exact fun d hd => hd

theorem getLast?_ne_of_cons {c d : Char} {s : List Char} (h : (c :: s).getLast? ≠ some d) :
    s.getLast? ≠ some d := by
  intro hs
  rw [List.getLast?_cons, hs] at h
  exact h rfl

/-- Ending the last line changes nothing, unless the line ends in a carriage return. -/
theorem lines_append_newline_of_not_ended {s : List Char} (hs : ¬ Ended s)
    (hr : s.getLast? ≠ some '\r') : lines (s ++ ['\n']) = lines s := by
  fun_induction lines s with
  | case1 => exact absurd ended_nil hs
  | case2 r ih =>
    have hrest : ¬ Ended r := fun h => hs ((ended_append_newline []).append h)
    exact congrArg ([] :: ·) (ih hrest (getLast?_ne_of_cons hr))
  | case3 r ih =>
    have hrest : ¬ Ended r := fun h => hs ((ended_append_newline ['\r']).append h)
    exact congrArg ([] :: ·) (ih hrest (getLast?_ne_of_cons (getLast?_ne_of_cons hr)))
  | case4 c r hn hcr ih =>
    cases r with
    | nil =>
      have hc : c = '\r' → ['\n'].head? ≠ some '\n' := fun h => absurd (congrArg some h) hr
      rw [List.cons_append, List.nil_append, lines_cons_of_ne hn hc]
      rfl
    | cons d r =>
      have hrest : ¬ Ended (d :: r) := by
        intro h
        exact hs fun e he => h e (by rwa [List.getLast?_cons_cons] at he)
      have hd : c = '\r' → d ≠ '\n' := fun hc hd => hcr r hc (hd ▸ rfl)
      rw [List.cons_append, lines_cons_of_ne hn fun hc => by simpa using hd hc,
        ih hrest (getLast?_ne_of_cons hr)]

/-- A carriage return at the end of a text belongs to its last line, and not to the line any more
    once a line feed follows. -/
theorem exists_lines_append_return (s : List Char) :
    ∃ before line, lines (s ++ ['\r']) = before ++ [line ++ ['\r']] ∧
      lines (s ++ ['\r', '\n']) = before ++ [line] := by
  fun_induction lines s with
  | case1 => exact ⟨[], [], rfl, rfl⟩
  | case2 r ih =>
    obtain ⟨before, line, hopen, hended⟩ := ih
    exact ⟨[] :: before, line, congrArg ([] :: ·) hopen, congrArg ([] :: ·) hended⟩
  | case3 r ih =>
    obtain ⟨before, line, hopen, hended⟩ := ih
    exact ⟨[] :: before, line, congrArg ([] :: ·) hopen, congrArg ([] :: ·) hended⟩
  | case4 c r hn hcr ih =>
    obtain ⟨before, line, hopen, hended⟩ := ih
    have hnext : ∀ u, c = '\r' → (r ++ '\r' :: u).head? ≠ some '\n' := by
      intro u hc
      cases r with
      | nil => simp
      | cons d r => simpa using fun hd : d = '\n' => hcr r hc (hd ▸ rfl)
    rw [List.cons_append, List.cons_append, lines_cons_of_ne hn (hnext []),
      lines_cons_of_ne hn (hnext ['\n']), hopen, hended]
    cases before with
    | nil => exact ⟨[], c :: line, rfl, rfl⟩
    | cons b before => exact ⟨(c :: b) :: before, line, rfl, rfl⟩

/-- Puts whole lines into a text: in front of one of its lines, or behind a last line that is not
    ended yet. -/
inductive MoreLines : List Char → List Char → Prop where
  | before (front : List Char) (more : List (List Char)) (back : List Char) (h : Ended front) :
      MoreLines (front ++ back) (front ++ (unlines more ++ back))
  | behind (s : List Char) (more : List (List Char)) (hs : ¬ Ended s)
      (hr : s.getLast? ≠ some '\r') : MoreLines s (s ++ '\n' :: unlines more)

theorem MoreLines.subset {s t : List Char} (h : MoreLines s t) : lines s ⊆ lines t := by
  cases h with
  | before front more back h =>
    rw [lines_append_of_ended h, lines_append_of_ended h,
      lines_append_of_ended (ended_unlines more)]
    intro l hl
    rcases List.mem_append.1 hl with hl | hl
    · exact List.mem_append_left _ hl
    · exact List.mem_append_right _ (List.mem_append_right _ hl)
  | behind _ more hs hr =>
    rw [lines_append_newline_append, lines_append_newline_of_not_ended hs hr]
    exact List.subset_append_left _ _

/-! ### Where a line stands -/

/-- What a line is followed by: the end of the text, or a line end and the rest of the text. -/
inductive LineEnd (line : List Char) : List Char → List Char → Prop where
  | last : LineEnd line [] []
  | newline (rest : List Char) (h : line.getLast? ≠ some '\r') : LineEnd line ('\n' :: rest) rest
  | returnNewline (rest : List Char) : LineEnd line ('\r' :: '\n' :: rest) rest

theorem lines_of_not_mem {l : List Char} (h : '\n' ∉ l) (hne : l ≠ []) : lines l = [l] := by
  induction l with
  | nil => exact absurd rfl hne
  | cons c l ih =>
    rw [List.mem_cons, not_or] at h
    have hnext : l.head? ≠ some '\n' := fun hl => h.2 (List.mem_of_mem_head? hl)
    rw [lines_cons_of_ne (Ne.symm h.1) fun _ => hnext]
    cases l with
    | nil => rfl
    | cons d l => rw [ih h.2 (List.cons_ne_nil d l)]; rfl

theorem LineEnd.lines_append {line back rest : List Char} (h : LineEnd line back rest)
    (hplain : '\n' ∉ line) (hne : line ++ back ≠ []) :
    lines (line ++ back) = line :: lines rest := by
  cases h with
  | last =>
    rw [List.append_nil] at hne ⊢
    exact lines_of_not_mem hplain hne
  | newline rest h => exact lines_append_newline hplain h
  | returnNewline rest => exact lines_append_return_newline hplain rest

/-- A carriage return at the end of what stands in front of a line end may go with it. -/
theorem LineEnd.exists_lines_append {line back rest s : List Char} (h : LineEnd line back rest)
    (hplain : '\n' ∉ s) (hne : s ++ back ≠ []) :
    ∃ t, lines (s ++ back) = t :: lines rest ∧ t <+: s := by
  cases h with
  | last => exact ⟨s, LineEnd.last.lines_append hplain hne, List.prefix_refl s⟩
  | returnNewline rest =>
    exact ⟨s, lines_append_return_newline hplain rest, List.prefix_refl s⟩
  | newline rest _ =>
    by_cases hr : s.getLast? = some '\r'
    · obtain ⟨t, rfl⟩ := List.getLast?_eq_some_iff.1 hr
      have hcut : t ++ ['\r'] ++ '\n' :: rest = t ++ '\r' :: '\n' :: rest := by simp
      rw [List.mem_append, not_or] at hplain
      exact ⟨t, hcut ▸ lines_append_return_newline hplain.1 rest, List.prefix_append t _⟩
    · exact ⟨s, lines_append_newline hplain hr, List.prefix_refl s⟩

/-- The first line of a text and how it ends. -/
theorem exists_lineEnd {s : List Char} (h : s ≠ []) : ∃ line back rest,
    s = line ++ back ∧ '\n' ∉ line ∧ LineEnd line back rest := by
  fun_induction lines s with
  | case1 => exact absurd rfl h
  | case2 r => exact ⟨[], _, r, rfl, by simp, .newline r (by simp)⟩
  | case3 r => exact ⟨[], _, r, rfl, by simp, .returnNewline r⟩
  | case4 c r hn hcr ih =>
    by_cases hr : r = []
    · subst hr
      exact ⟨[c], [], [], rfl, by simpa using Ne.symm hn, .last⟩
    · obtain ⟨line, back, rest, rfl, hplain, hend⟩ := ih hr
      refine ⟨c :: line, back, rest, rfl, ?_, ?_⟩
      · rw [List.mem_cons, not_or]
        exact ⟨Ne.symm hn, hplain⟩
      · cases hend with
        | last => exact .last
        | returnNewline rest => exact .returnNewline rest
        | newline rest hlast =>
          apply LineEnd.newline
          cases line with
          | nil =>
            intro hc
            exact hcr rest (by simpa using hc) rfl
          | cons d line => rwa [List.getLast?_cons_cons]

/-- Where a line of a text stands: `front` is all that is in front of it, with the lines
    `before`. -/
structure StandsBetween (text : List Char) (before : List (List Char))
    (line front back : List Char) : Prop where
  text_eq : text = front ++ (line ++ back)
  ended : Ended front
  lines_front : lines front = before

theorem LineEnd.exists_front {line back rest : List Char} (h : LineEnd line back rest)
    (hplain : '\n' ∉ line) (hne : rest ≠ []) :
    ∃ front, line ++ back = front ++ rest ∧ Ended front ∧ lines front = [line] := by
  cases h with
  | last => exact absurd rfl hne
  | newline rest h =>
    exact ⟨line ++ ['\n'], by simp, ended_append_newline line, lines_append_newline hplain h⟩
  | returnNewline rest =>
    refine ⟨line ++ ['\r', '\n'], by simp, ?_, lines_append_return_newline hplain []⟩
    rw [show line ++ ['\r', '\n'] = line ++ ['\r'] ++ ['\n'] by simp]
    exact ended_append_newline _

/-- Each line of a text stands somewhere. -/
theorem exists_standsBetween {text line : List Char} {before after : List (List Char)}
    (h : lines text = before ++ line :: after) :
    ∃ front back, StandsBetween text before line front back := by
  induction before generalizing text with
  | nil =>
    have hne : text ≠ [] := by
      rintro rfl
      cases h
    obtain ⟨first, back, rest, rfl, hplain, hend⟩ := exists_lineEnd hne
    rw [hend.lines_append hplain hne] at h
    obtain ⟨rfl, -⟩ := List.cons.inj h
    exact ⟨[], back, rfl, ended_nil, rfl⟩
  | cons b before ih =>
    have hne : text ≠ [] := by
      rintro rfl
      cases h
    obtain ⟨first, end', rest, rfl, hplain, hend⟩ := exists_lineEnd hne
    rw [hend.lines_append hplain hne] at h
    obtain ⟨rfl, hrest⟩ := List.cons.inj h
    obtain ⟨front, back, htext, hended, hfront⟩ := ih hrest
    have hrestne : rest ≠ [] := by
      rintro rfl
      cases before <;> cases hrest
    obtain ⟨start, hcut, hstart, hline⟩ := hend.exists_front hplain hrestne
    refine ⟨start ++ front, back, ?_, hstart.append hended, ?_⟩
    · rw [hcut, htext, List.append_assoc]
    · rw [lines_append_of_ended hstart, hline, hfront]
      rfl

/-- A line that stands between two parts of a text ends where the second part starts. -/
theorem StandsBetween.exists_lineEnd {text line front back : List Char}
    {before after : List (List Char)} (h : StandsBetween text before line front back)
    (hlines : lines text = before ++ line :: after) :
    ∃ rest, '\n' ∉ line ∧ LineEnd line back rest ∧ lines rest = after := by
  obtain ⟨rfl, hended, rfl⟩ := h
  rw [lines_append_of_ended hended, List.append_cancel_left_eq] at hlines
  have hne : line ++ back ≠ [] := by
    intro hnil
    rw [hnil] at hlines
    cases hlines
  obtain ⟨first, back', rest, hcut, hplain, hend⟩ := Text.exists_lineEnd hne
  rw [hcut, hend.lines_append hplain (hcut ▸ hne)] at hlines
  obtain ⟨rfl, hrest⟩ := List.cons.inj hlines
  obtain rfl := List.append_cancel_left hcut
  exact ⟨rest, hplain, hend, hrest⟩

end CacheWarden.Text
