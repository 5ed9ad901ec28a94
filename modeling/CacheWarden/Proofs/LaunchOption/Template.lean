import CacheWarden.LaunchOption
import CacheWarden.Proofs.Text.Replace
import Mathlib

/-!
# Options that keep a name and a directory

A template is cut at spaces, and a variable in a name or a directory is replaced like one of the
template. Main statements: `substitute_defaultTemplate`, what the default template stands for;
`replaced_eq_self_iff`, for which names and directories this is what was put in;
`arguments_between_iff`, when it is a single argument.
-/

namespace CacheWarden.LaunchOption

open Text

variable {a b s : List Char}

theorem arguments_append_space (a b : List Char) :
    arguments (a ++ ' ' :: b) = arguments a ++ arguments b := by
  rw [arguments, List.splitOnP_append_cons _ _ (by rfl), List.filter_append]
  rfl

theorem arguments_of_unbroken (h : ' ' ∉ s) (hs : s ≠ []) : arguments s = [s] := by
  have hone : s.splitOnP (· == ' ') = [s] :=
    List.splitOnP_eq_singleton fun c hc => beq_eq_false_iff_ne.2 fun e => h (e ▸ hc)
  rw [arguments, hone]
  simp [hs]

/-- A text with a character other than a space gives an argument. -/
theorem arguments_ne_nil {c : Char} (hc : c ∈ s) (hne : c ≠ ' ') : arguments s ≠ [] := by
  induction hn : s.length using Nat.strong_induction_on generalizing s with
  | _ n ih =>
    by_cases h : ' ' ∈ s
    · obtain ⟨a, b, rfl⟩ := List.append_of_mem h
      simp only [List.length_append, List.length_cons] at hn
      rw [arguments_append_space, Ne, List.append_eq_nil_iff, not_and_or]
      rcases List.mem_append.1 hc with ha | hb
      · exact Or.inl (ih a.length (by omega) ha rfl)
      · have hb : c ∈ b := (List.mem_cons.1 hb).resolve_left hne
        exact Or.inr (ih b.length (by omega) hb rfl)
    · rw [arguments_of_unbroken h (List.ne_nil_of_mem hc)]
      exact List.cons_ne_nil _ _

/-- A text between two that have no spaces is a single argument exactly if it has none either. -/
theorem arguments_between_iff {front back t : List Char} (hf : front ≠ []) (hb : back ≠ [])
    (hfront : ' ' ∉ front) (hback : ' ' ∉ back) :
    arguments (front ++ (s ++ back)) = [t] ↔ ' ' ∉ s ∧ front ++ (s ++ back) = t := by
  have hwhole : ' ' ∉ s → arguments (front ++ (s ++ back)) = [front ++ (s ++ back)] := fun hs =>
    arguments_of_unbroken (by simp [hfront, hs, hback]) (by simp [hf])
  constructor
  · intro h
    have hs : ' ' ∉ s := by
      intro hm
      obtain ⟨a, b, rfl⟩ := List.append_of_mem hm
      have hcut : front ++ (a ++ ' ' :: b ++ back) = (front ++ a) ++ ' ' :: (b ++ back) := by simp
      rw [hcut, arguments_append_space] at h
      obtain ⟨c, hc⟩ := List.exists_mem_of_ne_nil front hf
      obtain ⟨d, hd⟩ := List.exists_mem_of_ne_nil back hb
      have h1 : arguments (front ++ a) ≠ [] :=
        arguments_ne_nil (List.mem_append_left a hc) (fun e => hfront (e ▸ hc))
      have h2 : arguments (b ++ back) ≠ [] :=
        arguments_ne_nil (List.mem_append_right b hd) (fun e => hback (e ▸ hd))
      have hlen := congrArg List.length h
      rw [List.length_append, List.length_singleton] at hlen
      have := List.length_pos_iff.2 h1
      have := List.length_pos_iff.2 h2
      omega
    rw [hwhole hs] at h
    exact ⟨hs, List.singleton_inj.1 h⟩
  · rintro ⟨hs, rfl⟩
    exact hwhole hs

/-- What stands in front of the name of a cache. -/
def namePrefix : List Char := "-Xshareclasses:name=".toList

/-- What stands in front of a directory. -/
def dirPrefix : List Char := ",cacheDir=".toList

/-- A directory with what stands in front of it. -/
def dirPart : Option (List Char) → List Char
  | some d => dirPrefix ++ d
  | none => []

/-! ### What the default template stands for -/

/-- The directory of a template that has one. -/
def dirSlot (dir : Option (List Char)) : Option (List Char) := dir.map fun _ => dirVariable

theorem defaultTemplate_eq (dir : Option (List Char)) :
    defaultTemplate dir =
      namePrefix ++ (nameVariable ++ (dirPart (dirSlot dir) ++ operationVariable)) := by
  cases dir <;> rfl

theorem withOperation_defaultTemplate (dir : Option (List Char)) :
    withOperation (defaultTemplate dir) = defaultTemplate dir := by
  cases dir <;> rfl

theorem contains_colon_defaultTemplate (dir : Option (List Char)) :
    (defaultTemplate dir).contains ':' = true := by
  cases dir <;> rfl

theorem not_mem_namePrefix : '$' ∉ namePrefix := by decide

theorem not_mem_dirPrefix : '$' ∉ dirPrefix := by decide

/-- A text ends where the directory or the operation starts. -/
theorem cut_at_dirPart {piece : List Char} (hc : ',' ∉ piece.tail) (ho : '$' ∉ piece.tail)
    (dir : Option (List Char)) :
    ∀ c ∈ (dirPart dir ++ operationVariable).head?, c ∉ piece.tail := by
  cases dir with
  | none => rintro c ⟨⟩; exact ho
  | some d => rintro c ⟨⟩; exact hc

theorem replace_name_defaultTemplate (name : List Char) (dir : Option (List Char)) :
    replace nameVariable name (defaultTemplate dir) =
      namePrefix ++ (name ++ (dirPart (dirSlot dir) ++ operationVariable)) := by
  rw [defaultTemplate_eq, replace_append_of_not_mem rfl not_mem_namePrefix,
    replace_piece_append (by decide)]
  cases dir <;> rfl

theorem replace_dir_operationVariable (d : List Char) :
    replace dirVariable d operationVariable = operationVariable :=
  replace_of_not_isInfix (by decide)

theorem replace_operation_operationVariable (operation : List Char) :
    replace operationVariable operation operationVariable = operation := by
  have h : replace operationVariable operation (operationVariable ++ []) = operation ++ [] :=
    replace_piece_append (by decide) operation []
  rwa [List.append_nil, List.append_nil] at h

theorem replace_dir_dirSlot (dir : Option (List Char)) :
    replace dirVariable (dir.getD []) (dirPart (dirSlot dir) ++ operationVariable) =
      dirPart dir ++ operationVariable := by
  cases dir with
  | none =>
    rw [dirSlot, Option.map_none, dirPart, List.nil_append, replace_dir_operationVariable]
  | some d =>
    rw [dirSlot, Option.map_some, dirPart, dirPart, Option.getD_some, List.append_assoc,
      replace_append_of_not_mem rfl not_mem_dirPrefix, replace_piece_append (by decide),
      replace_dir_operationVariable, List.append_assoc]

theorem replace_operation_dirPart (operation : List Char) (dir : Option (List Char)) :
    replace operationVariable operation (dirPart dir ++ operationVariable) =
      dirPart (dir.map (replace operationVariable operation)) ++ operation := by
  cases dir with
  | none =>
    rw [Option.map_none, dirPart, List.nil_append, List.nil_append,
      replace_operation_operationVariable]
  | some d =>
    have hcut : ∀ c ∈ operationVariable.head?, c ∉ operationVariable.tail := by
      rintro c ⟨⟩
      decide
    rw [Option.map_some, dirPart, dirPart, List.append_assoc,
      replace_append_of_not_mem rfl not_mem_dirPrefix, replace_append (by decide) hcut,
      replace_operation_operationVariable, List.append_assoc]

theorem substitute_defaultTemplate (name : List Char) (dir : Option (List Char))
    (operation : List Char) :
    substitute (defaultTemplate dir) name (dir.getD []) operation =
      namePrefix ++ (replace operationVariable operation (replace dirVariable (dir.getD []) name) ++
        dirPart (dir.map (replace operationVariable operation)) ++ operation) := by
  rw [substitute, replace_name_defaultTemplate, replace_append_of_not_mem rfl not_mem_namePrefix,
    replace_append (by decide) (cut_at_dirPart (by decide) (by decide) _), replace_dir_dirSlot,
    replace_append_of_not_mem rfl not_mem_namePrefix,
    replace_append (by decide) (cut_at_dirPart (by decide) (by decide) _),
    replace_operation_dirPart, List.append_assoc]

/-! ### Texts that stay as they are -/

theorem not_mem_dirVariable : ',' ∉ dirVariable := by decide

theorem not_mem_operationVariable : ',' ∉ operationVariable := by decide

theorem operationVariable_ne_nil : operationVariable ≠ [] := by decide

theorem dirVariable_ne_nil : dirVariable ≠ [] := by decide

theorem eq_dirVariable_of_replace_eq_self {dir : Option (List Char)} {name : List Char}
    (h : replace dirVariable (dir.getD []) name = name) (hi : dirVariable <:+: name) :
    dir = some dirVariable := by
  have hd := eq_piece_of_replace_eq_self dirVariable_ne_nil hi h
  cases dir with
  | none => exact absurd hd.symm dirVariable_ne_nil
  | some d => rw [← hd, Option.getD_some]

theorem replace_dir_eq_self {dir : Option (List Char)} {name : List Char}
    (h : dirVariable <:+: name → dir = some dirVariable) :
    replace dirVariable (dir.getD []) name = name := by
  by_cases hi : dirVariable <:+: name
  · rw [h hi, Option.getD_some, replace_self dirVariable_ne_nil]
  · exact replace_of_not_isInfix hi

theorem map_replace_eq_self {operation : List Char} {dir : Option (List Char)}
    (h : ∀ d ∈ dir, ¬ operationVariable <:+: d) :
    dir.map (replace operationVariable operation) = dir := by
  cases dir with
  | none => rfl
  | some d => rw [Option.map_some, replace_of_not_isInfix (h d rfl)]

/-- The commas of both texts are counted: an operation brings at least one, and a variable has
    none. -/
theorem replaced_eq_self_iff {operation : List Char} (ho : ',' ∈ operation) (name : List Char)
    (dir : Option (List Char)) :
    replace operationVariable operation (replace dirVariable (dir.getD []) name) ++
          dirPart (dir.map (replace operationVariable operation)) = name ++ dirPart dir ↔
      ¬ operationVariable <:+: name ∧ (∀ d ∈ dir, ¬ operationVariable <:+: d) ∧
        (dirVariable <:+: name → dir = some dirVariable) := by
  set named := replace dirVariable (dir.getD []) name with hnamed
  have hgrown : name.count ',' ≤ named.count ',' :=
    count_le_count_replace dirVariable_ne_nil not_mem_dirVariable _ name
  have hmore : ∀ s, s.count ',' ≤ (replace operationVariable operation s).count ',' :=
    count_le_count_replace operationVariable_ne_nil not_mem_operationVariable operation
  have hsame : ∀ s, (replace operationVariable operation s).count ',' ≤ s.count ',' →
      ¬ operationVariable <:+: s := fun s =>
    not_infix_of_count_replace_le operationVariable_ne_nil not_mem_operationVariable ho
  constructor
  · intro h
    have hcount := congrArg (List.count ',') h
    rw [List.count_append, List.count_append] at hcount
    have hdir : ∀ d ∈ dir, ¬ operationVariable <:+: d := by
      rintro d rfl
      rw [Option.map_some, dirPart, dirPart, List.count_append, List.count_append] at hcount
      have := hmore named
      exact hsame d (by omega)
    rw [map_replace_eq_self hdir] at h hcount
    have hplain := hsame named (by omega)
    rw [replace_of_not_isInfix hplain, List.append_left_inj] at h
    exact ⟨h ▸ hplain, hdir, eq_dirVariable_of_replace_eq_self h⟩
  · rintro ⟨hname, hdir, hvar⟩
    rw [map_replace_eq_self hdir, hnamed, replace_dir_eq_self hvar, replace_of_not_isInfix hname]

end CacheWarden.LaunchOption
