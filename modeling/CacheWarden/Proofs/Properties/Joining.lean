import CacheWarden.Proofs.Properties.Entry
import CacheWarden.Proofs.Table
import CacheWarden.Proofs.Text.Lines
import Mathlib

/-!
# Lines that are joined, one text behind the other

What some lines pass on to the next one: nothing, unless the last of them goes on. So texts may be
read one by one, and comments between them do not count. Main statements:
`exists_joinLines_append`, what one line passes on and from it what many do; `entries_append`;
`parse_append`, the settings of a text overwrite those of the text in front of it.
-/

namespace CacheWarden.Properties

open Text

variable {a s : List Char} {ls : List (List Char)}

/-! ### What is carried on -/

/-- Whether a line goes on in the next one, behind a line that does or behind one that does not. A
    comment never goes on. -/
def goesOn (behindOpen : Bool) (line : List Char) : Bool :=
  continues line && (behindOpen || !isSkipped (trimStart line))

/-- Whether the last of some lines goes on. -/
def endsOpen (ls : List (List Char)) : Bool := ls.foldl goesOn false

theorem joinLines_skipped (h : isSkipped (trimStart s) = true) (rest : List (List Char)) :
    joinLines none (s :: rest) = joinLines none rest := by
  rw [joinLines]
  simp only [h, Option.isNone_none, Bool.and_self, if_true]

/-- A line that counts is put behind what was carried on. -/
theorem joinLines_counted {carry : Option (List Char)}
    (h : carry.isSome = true ∨ isSkipped (trimStart s) = false) (rest : List (List Char)) :
    joinLines carry (s :: rest) =
      if continues s then joinLines (some (carry.getD [] ++ trimStart s).dropLast) rest
      else (carry.getD [] ++ trimStart s) :: joinLines none rest := by
  have hcount : (carry.isNone && isSkipped (trimStart s)) = false := by
    rcases h with h | h
    · rw [Option.isNone_eq_false_iff.2 h, Bool.false_and]
    · rw [h, Bool.and_false]
  rw [joinLines]
  simp only [hcount, Bool.false_eq_true, if_false, continues_trimStart]

/-- A line completes some entries and leaves something to be carried on exactly if it goes on. -/
theorem exists_joinLines_cons (carry : Option (List Char)) (line : List Char) :
    ∃ done left, left.isSome = goesOn carry.isSome line ∧
      ∀ rest, joinLines carry (line :: rest) = done ++ joinLines left rest := by
  by_cases hcount : carry.isSome = true ∨ isSkipped (trimStart line) = false
  · have hopen : goesOn carry.isSome line = continues line := by
      unfold goesOn
      rcases hcount with h | h <;> simp [h]
    simp only [hopen, joinLines_counted hcount]
    cases continues line with
    | true => exact ⟨[], some _, rfl, fun rest => rfl⟩
    | false => exact ⟨[_], none, rfl, fun rest => rfl⟩
  · rw [not_or, Bool.not_eq_true, Bool.not_eq_false] at hcount
    obtain ⟨hcarry, hskip⟩ := hcount
    obtain rfl : carry = none := by simpa using hcarry
    refine ⟨[], none, ?_, fun rest => joinLines_skipped hskip rest⟩
    simp [goesOn, hskip]

/-- Lines complete some entries, whatever follows, and leave something to be carried on exactly if
    the last of them goes on. -/
theorem exists_joinLines_append (carry : Option (List Char)) (ls : List (List Char)) :
    ∃ done left, left.isSome = ls.foldl goesOn carry.isSome ∧
      ∀ rest, joinLines carry (ls ++ rest) = done ++ joinLines left rest := by
  induction ls generalizing carry with
  | nil => exact ⟨[], carry, rfl, fun rest => rfl⟩
  | cons line ls ih =>
    obtain ⟨first, middle, hmiddle, hfirst⟩ := exists_joinLines_cons carry line
    obtain ⟨done, left, hleft, hdone⟩ := ih middle
    refine ⟨first ++ done, left, ?_, fun rest => ?_⟩
    · rw [List.foldl_cons, ← hmiddle, hleft]
    · rw [List.cons_append, hfirst, hdone, List.append_assoc]

/-! ### One text behind the other -/

/-- A text whose last line has ended and does not go on has no part in what is read behind it. -/
theorem entries_append (ha : Ended a) (hclosed : endsOpen (lines a) = false) (b : List Char) :
    entries (a ++ b) = entries a ++ entries b := by
  obtain ⟨done, left, hleft, hdone⟩ := exists_joinLines_append none (lines a)
  cases left with
  | some carried =>
    have hopen : true = endsOpen (lines a) := hleft
    rw [hclosed] at hopen
    cases hopen
  | none =>
    have halone : entries a = done := by
      have h := hdone []
      rwa [joinLines, List.append_nil, List.append_nil] at h
    rw [halone, entries, lines_append_of_ended ha, hdone]
    rfl

/-- Whether a text holds nothing but comments and blank lines. -/
def IsSilent (text : List Char) : Prop := ∀ line ∈ lines text, isSkipped (trimStart line) = true

theorem endsOpen_of_skipped (h : ∀ line ∈ ls, isSkipped (trimStart line) = true) :
    endsOpen ls = false := by
  unfold endsOpen
  induction ls with
  | nil => rfl
  | cons line ls ih =>
    have hline : goesOn false line = false := by simp [goesOn, h line List.mem_cons_self]
    rw [List.foldl_cons, hline]
    exact ih fun l hl => h l (List.mem_cons_of_mem line hl)

theorem joinLines_of_skipped (h : ∀ line ∈ ls, isSkipped (trimStart line) = true) :
    joinLines none ls = [] := by
  induction ls with
  | nil => rfl
  | cons line ls ih =>
    rw [joinLines_skipped (h line List.mem_cons_self)]
    exact ih fun l hl => h l (List.mem_cons_of_mem line hl)

theorem IsSilent.entries_eq (h : IsSilent s) : entries s = [] := joinLines_of_skipped h

theorem IsSilent.entries_append (h : IsSilent s) (hs : Ended s) (b : List Char) :
    entries (s ++ b) = entries b := by
  rw [Properties.entries_append hs (endsOpen_of_skipped h), h.entries_eq, List.nil_append]

theorem parse_congr {a b : String} (h : entries a.toList = entries b.toList) :
    parse a = parse b := by
  rw [parse, parse, assignments, assignments, h]

/-- Behind a text whose last line has ended and does not go on, the settings of any text overwrite
    those of the first. Comments and blank lines make no setting, and between two texts they change
    none, also comments that end in a backslash. -/
theorem parse_append {a : String} (ha : Ended a.toList)
    (hclosed : endsOpen (lines a.toList) = false) (b : String) :
    parse (a ++ b) = (parse a).overwrite (parse b) ∧
      (∀ key, (parse (a ++ b)).get? key = ((parse b).get? key).or ((parse a).get? key)) ∧
      ∀ block : String, IsSilent block.toList →
        parse block = Table.empty ∧ parse (a ++ block) = parse a ∧
          (Ended block.toList → parse (a ++ (block ++ b)) = parse (a ++ b)) := by
  have hoverwrite : parse (a ++ b) = (parse a).overwrite (parse b) := by
    rw [parse, assignments, String.toList_append, entries_append ha hclosed, List.filterMap_append,
      Table.ofList_append]
    rfl
  refine ⟨hoverwrite, fun key => ?_, fun block hblock => ⟨?_, ?_, fun hended => ?_⟩⟩
  · rw [hoverwrite, Table.get?_overwrite]
  · rw [parse, assignments, hblock.entries_eq]
    rfl
  · apply parse_congr
    rw [String.toList_append, entries_append ha hclosed, hblock.entries_eq, List.append_nil]
  · apply parse_congr
    rw [String.toList_append, String.toList_append, String.toList_append, entries_append ha hclosed,
      entries_append ha hclosed, hblock.entries_append hended]

/-- A folded setting and a comment that ends in a backslash in front of another text. -/
theorem parse_append_overwritten :
    parse ("name=T1\\\n  0\n# \\\n" ++ "name : T2") =
        (parse "name=T1\\\n  0\n# \\\n").overwrite (parse "name : T2") ∧
      parse ("name=T1\\\n  0\n# \\\n" ++ (" ! \\\r\n\n" ++ "name : T2")) =
        parse ("name=T1\\\n  0\n# \\\n" ++ "name : T2") := by
  have hended : Ended "name=T1\\\n  0\n# \\\n".toList :=
    ended_append_newline "name=T1\\\n  0\n# \\".toList
  have hclosed : endsOpen (lines "name=T1\\\n  0\n# \\\n".toList) = false := by decide +kernel
  obtain ⟨hoverwrite, -, hblock⟩ := parse_append hended hclosed "name : T2"
  have hsilent : IsSilent " ! \\\r\n\n".toList := by
    have hlines : lines " ! \\\r\n\n".toList = [" ! \\".toList, []] := by decide +kernel
    rw [IsSilent, hlines]
    decide
  exact ⟨hoverwrite, (hblock _ hsilent).2.2 (ended_append_newline " ! \\\r\n".toList)⟩

end CacheWarden.Properties
