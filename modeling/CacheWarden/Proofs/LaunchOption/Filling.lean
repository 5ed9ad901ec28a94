import CacheWarden.Proofs.LaunchOption.Template
import CacheWarden.Proofs.Text.Split
import Mathlib

/-!
# Filling in a template

A template is made of characters and variables. Its variables are replaced one kind after the other,
so a value could bring in a variable, or complete one, that a later step replaces. Without the sign
that variables start with, no value can: the steps commute, and together they fill in all variables
at once. Without spaces in the values, the pieces of the template are filled in apart. Main
statements: `replaceEach_written`, `splitOnP_fill`, and from both `resolve_written`.
-/

namespace CacheWarden.LaunchOption

open Text

/-- A variable of a template. -/
inductive Variable where
  | name
  | dir
  | operation
  deriving DecidableEq, Repr

/-- How a variable is written. -/
def Variable.text : Variable → List Char
  | name => nameVariable
  | dir => dirVariable
  | operation => operationVariable

/-- A part of a template: a character with which no variable starts, or a variable. -/
inductive Token where
  | char (c : Char) (plain : c ≠ '$')
  | slot (v : Variable)
  deriving DecidableEq, Repr

/-- A template: literal text and variables, in any order. -/
abbrev Template : Type := List Token

/-- What a part of a template stands for where variables have values. -/
def Token.fill (value : Variable → List Char) : Token → List Char
  | char c _ => [c]
  | slot v => value v

/-- The text in which all variables of a template are replaced by their values at once. -/
def fill (value : Variable → List Char) (t : Template) : List Char := t.flatMap (Token.fill value)

/-- The text of a template. -/
def written (t : Template) : List Char := fill Variable.text t

/-- Literal text as a part of a template. -/
def literal (s : List Char) (h : '$' ∉ s) : Template :=
  s.pmap Token.char fun _ hc hd => h (hd ▸ hc)

/-- Replaces variables by their values, one after the other. -/
def replaceEach (value : Variable → List Char) (order : List Variable) (s : List Char) :
    List Char :=
  order.foldl (fun s v => replace v.text (value v) s) s

/-- The space that sets two pieces of a template apart. -/
def Token.space : Token := char ' ' (by decide)

/-- The pieces of a template between its spaces. -/
def pieces (t : Template) : List Template := t.splitOn Token.space

section

variable (value : Variable → List Char)

@[simp] theorem fill_nil : fill value [] = [] := rfl

@[simp] theorem fill_cons (token : Token) (t : Template) :
    fill value (token :: t) = token.fill value ++ fill value t := List.flatMap_cons

@[simp] theorem fill_append (a b : Template) : fill value (a ++ b) = fill value a ++ fill value b :=
  List.flatMap_append

/-- Only the variables of a template matter. -/
theorem fill_congr {value other : Variable → List Char} {t : Template}
    (h : ∀ v, .slot v ∈ t → value v = other v) : fill value t = fill other t := by
  apply List.flatMap_congr
  intro token htoken
  cases token with
  | char c hc => rfl
  | slot v => exact h v htoken

theorem fill_literal {s : List Char} (h : '$' ∉ s) : fill value (literal s h) = s := by
  induction s with
  | nil => rfl
  | cons c s ih =>
    rw [List.mem_cons, not_or] at h
    exact congrArg (c :: ·) (ih h.2)

end

/-! ### Replacing one variable -/

namespace Variable

theorem text_ne_nil (v : Variable) : v.text ≠ [] := by
  cases v <;> decide

theorem space_not_mem_text (v : Variable) : ' ' ∉ v.text := by
  cases v <;> decide

/-- How variables are written: the sign comes first and does not come again. -/
theorem exists_text_eq (v : Variable) : ∃ r, v.text = '$' :: r ∧ '$' ∉ r := by
  cases v with
  | name => exact ⟨_, rfl, by decide⟩
  | dir => exact ⟨_, rfl, by decide⟩
  | operation => exact ⟨_, rfl, by decide⟩

theorem head?_text (v : Variable) : v.text.head? = some '$' := by
  obtain ⟨r, hr, -⟩ := v.exists_text_eq
  rw [hr, List.head?_cons]

/-- No variable is written like the start of another one. -/
theorem eq_of_text_prefix {u v : Variable} (h : u.text <+: v.text) : u = v := by
  revert h
  cases u <;> cases v <;> decide

end Variable

variable {value : Variable → List Char}

/-- A variable in front of a text is not touched where another one is replaced. -/
theorem replace_text_append {u v : Variable} (h : u ≠ v) (new s : List Char) :
    replace v.text new (u.text ++ s) = u.text ++ replace v.text new s := by
  have hfront : ¬ v.text <+: u.text ++ s := by
    intro hv
    rcases List.prefix_or_prefix_of_prefix hv (List.prefix_append u.text s) with hp | hp
    · exact h (Variable.eq_of_text_prefix hp).symm
    · exact h (Variable.eq_of_text_prefix hp)
  obtain ⟨r, hr, hplain⟩ := u.exists_text_eq
  rw [hr, List.cons_append] at hfront ⊢
  rw [replace_cons_of_not_isPrefix hfront, replace_append_of_not_mem v.head?_text hplain]
  rfl

/-- Values for some variables; the others are left as they are written. -/
def valueAmong (value : Variable → List Char) (done : List Variable) (v : Variable) : List Char :=
  if v ∈ done then value v else v.text

theorem valueAmong_cons_of_ne {u v : Variable} (h : u ≠ v) (done : List Variable) :
    valueAmong value (v :: done) u = valueAmong value done u := by
  simp [valueAmong, h]

/-- Replacing one more variable, whatever has been replaced before. -/
theorem replace_fill (hvalue : ∀ v, '$' ∉ value v) (done : List Variable) (v : Variable)
    (t : Template) : replace v.text (value v) (fill (valueAmong value done) t) =
      fill (valueAmong value (v :: done)) t := by
  induction t with
  | nil => rfl
  | cons token t ih =>
    rw [fill_cons, fill_cons, ← ih]
    cases token with
    | char c hc =>
      have hplain : '$' ∉ [c] := by simpa using Ne.symm hc
      exact replace_append_of_not_mem v.head?_text hplain _ _
    | slot u =>
      simp only [Token.fill]
      by_cases hu : u ∈ done
      · -- a value has no variable, and nothing that starts one
        have hsame : valueAmong value (v :: done) u = value u :=
          if_pos (List.mem_cons_of_mem v hu)
        rw [hsame, valueAmong, if_pos hu, replace_append_of_not_mem v.head?_text (hvalue u)]
      · by_cases huv : u = v
        · subst huv
          have hnew : valueAmong value (u :: done) u = value u := if_pos List.mem_cons_self
          rw [hnew, valueAmong, if_neg hu, replace_piece_append u.text_ne_nil]
        · rw [valueAmong_cons_of_ne huv, valueAmong, if_neg hu, replace_text_append huv]

/-! ### Replacing all variables -/

theorem replaceEach_fill (hvalue : ∀ v, '$' ∉ value v) (order done : List Variable)
    (t : Template) : replaceEach value order (fill (valueAmong value done) t) =
      fill (valueAmong value (order.reverse ++ done)) t := by
  induction order generalizing done with
  | nil => rfl
  | cons v order ih =>
    have hstep := replace_fill hvalue done v t
    rw [replaceEach, List.foldl_cons, hstep, ← replaceEach, ih, List.reverse_cons,
      List.append_assoc]
    rfl

/-- In any order that leaves no variable out, the steps fill in all variables at once. -/
theorem replaceEach_written (hvalue : ∀ v, '$' ∉ value v) {order : List Variable}
    (hall : ∀ v, v ∈ order) (t : Template) :
    replaceEach value order (written t) = fill value t := by
  have hnone : valueAmong value [] = Variable.text := rfl
  have hdone : valueAmong value (order.reverse ++ []) = value := by
    funext v
    have hv : v ∈ order.reverse ++ [] := by simpa using hall v
    exact if_pos hv
  rw [written, ← hnone, replaceEach_fill hvalue, hdone]

theorem substitute_written (hvalue : ∀ v, '$' ∉ value v) (t : Template) :
    substitute (written t) (value .name) (value .dir) (value .operation) = fill value t := by
  have hall : ∀ v, v ∈ [Variable.name, .dir, .operation] := by
    intro v
    cases v <;> decide
  exact replaceEach_written hvalue hall t

/-! ### Pieces -/

/-- What has no space in it goes to the first piece. -/
theorem splitOnP_append_of_not_mem {a : List Char} (h : ' ' ∉ a) (s : List Char) :
    (a ++ s).splitOnP (· == ' ') = (s.splitOnP (· == ' ')).modifyHead (a ++ ·) := by
  induction a with
  | nil => exact (congrFun List.modifyHead_id _).symm
  | cons c a ih =>
    rw [List.mem_cons, not_or] at h
    have hc : ¬ (c == ' ') = true := by simpa using Ne.symm h.1
    rw [List.cons_append, List.splitOnP_cons_eq_if_modifyHead, if_neg hc, ih h.2,
      List.modifyHead_modifyHead]
    rfl

theorem Token.space_not_mem_fill (hvalue : ∀ v, ' ' ∉ value v) {token : Token}
    (h : token ≠ space) : ' ' ∉ token.fill value := by
  cases token with
  | char c hc =>
    rw [fill, List.mem_singleton]
    rintro rfl
    exact h rfl
  | slot v => exact hvalue v

theorem pieces_space_cons (t : Template) : pieces (.space :: t) = [] :: pieces t := by
  rw [pieces, List.splitOn_cons_eq_if_modifyHead, if_pos (beq_self_eq_true _)]
  rfl

theorem map_fill_pieces_cons {token : Token} (h : token ≠ .space) (t : Template) :
    (pieces (token :: t)).map (fill value) =
      ((pieces t).map (fill value)).modifyHead (token.fill value ++ ·) := by
  obtain ⟨first, rest, hpieces⟩ :=
    List.exists_cons_of_ne_nil (List.splitOn_ne_nil Token.space t)
  rw [pieces, List.splitOn_cons_eq_if_modifyHead, if_neg (by simpa using h), pieces, hpieces]
  rfl

/-- Values without spaces leave the cuts of a template where they are. -/
theorem splitOnP_fill (hvalue : ∀ v, ' ' ∉ value v) (t : Template) :
    (fill value t).splitOnP (· == ' ') = (pieces t).map (fill value) := by
  induction t with
  | nil => rfl
  | cons token t ih =>
    rw [fill_cons]
    by_cases hspace : token = .space
    · subst hspace
      rw [pieces_space_cons, List.map_cons, ← ih]
      exact List.splitOnP_cons_eq_if_modifyHead ' ' (fill value t)
    · rw [splitOnP_append_of_not_mem (Token.space_not_mem_fill hvalue hspace), ih,
        map_fill_pieces_cons hspace]

theorem splitOnP_written (t : Template) :
    (written t).splitOnP (· == ' ') = (pieces t).map written :=
  splitOnP_fill Variable.space_not_mem_text t

/-- Without spaces in the values, each piece of a template stands for an argument of its own. -/
theorem resolve_of_unbroken (hplain : ∀ v, '$' ∉ value v) (hspace : ∀ v, ' ' ∉ value v)
    (t : Template) : resolve (written t) (value .name) (value .dir) (value .operation) =
      ((pieces t).map (fill value)).filter (!·.isEmpty) := by
  rw [resolve, substitute_written hplain, arguments, splitOnP_fill hspace]

/-- The arguments of a template are the non-empty pieces of the text in which all variables are
    replaced at once, in whatever order they are replaced. Where no value has a space, each argument
    is what a piece of the template stands for, in the order of the pieces, and those that stand for
    nothing are left out. -/
theorem resolve_written (t : Template) (value : Variable → List Char)
    (hvalue : ∀ v, '$' ∉ value v) :
    resolve (written t) (value .name) (value .dir) (value .operation) =
        arguments (fill value t) ∧
      (∀ order : List Variable, order.Perm [.name, .dir, .operation] →
        replaceEach value order (written t) = fill value t) ∧
      ((∀ v, ' ' ∉ value v) →
        (written t).splitOnP (· == ' ') = (pieces t).map written ∧
        resolve (written t) (value .name) (value .dir) (value .operation) =
          ((pieces t).filter fun piece => !(fill value piece).isEmpty).map (fill value)) := by
  refine ⟨?_, ?_, ?_⟩
  · rw [resolve, substitute_written hvalue]
  · intro order hperm
    apply replaceEach_written hvalue
    intro v
    rw [hperm.mem_iff]
    cases v <;> decide
  · intro hspace
    refine ⟨splitOnP_written t, ?_⟩
    rw [resolve_of_unbroken hvalue hspace, List.filter_map]
    rfl

/-- Options on both sides of the one for the cache, more than one space, and a variable twice. -/
theorem resolve_written_beside_options :
    let t := literal "-Xmx64m  -Xshareclasses:name=".toList (by decide) ++ .slot .name ::
      literal ",cacheDir=".toList (by decide) ++ .slot .dir :: .slot .operation ::
      literal " -Dcache=".toList (by decide) ++ [.slot .name]
    let value : Variable → List Char
      | .name => "T1".toList
      | .dir => "/tmp/sc".toList
      | .operation => ",printStats".toList
    (∀ v, '$' ∉ value v) ∧ (∀ v, ' ' ∉ value v) ∧
      resolve (written t) (value .name) (value .dir) (value .operation) =
        ["-Xmx64m".toList, "-Xshareclasses:name=T1,cacheDir=/tmp/sc,printStats".toList,
          "-Dcache=T1".toList] := by
  intro t value
  have hplain : ∀ v, '$' ∉ value v := by
    intro v
    cases v <;> decide
  have hspace : ∀ v, ' ' ∉ value v := by
    intro v
    cases v <;> decide
  refine ⟨hplain, hspace, ?_⟩
  rw [((resolve_written t value hplain).2.2 hspace).2]
  decide

end CacheWarden.LaunchOption
