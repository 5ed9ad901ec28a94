import CacheWarden.Command.Operation
import CacheWarden.Proofs.LaunchOption.Filling
import CacheWarden.Proofs.Text.Words
import Mathlib

/-!
# Operations that are put into a template

A template that does not say where its operation goes gets it behind each of its options for caches.
There the sub-options of the operation need a colon in front of them, or a comma where the option
has a colon already, but which of the two it is, is asked of the whole template and not of the
option. Main statement: `arguments_template_iff`, the arguments that come out, and that they are
well formed exactly if a template with a colon anywhere has one in each of its options for caches.
-/

namespace CacheWarden

open LaunchOption Text

namespace LaunchOption

/-! ### The places where an operation goes -/

/-- A piece of a template with the variable for the operation behind it, if it is an option for
    caches. -/
def extended (piece : Template) : Template :=
  if optionName <+: written piece then piece ++ [.slot .operation] else piece

/-- A template with the variable for the operation behind each of its options for caches. -/
def extendedAll (t : Template) : Template :=
  [Token.space].intercalate ((pieces t).map extended)

theorem written_intercalate (ps : List Template) :
    written ([Token.space].intercalate ps) = [' '].intercalate (ps.map written) := by
  induction ps with
  | nil => rfl
  | cons p ps ih =>
    cases ps with
    | nil => simp
    | cons q ps =>
      rw [List.intercalate_cons_cons, List.map_cons, List.map_cons, List.intercalate_cons_cons,
        ← List.map_cons, ← ih, written, fill_append, fill_append]
      rfl

theorem space_not_mem_of_mem_pieces {t piece : Template} (h : piece ∈ pieces t) :
    Token.space ∉ piece := by
  intro hmem
  rw [pieces, List.splitOn_eq_splitOnP] at h
  have hother := eq_false_of_mem_splitOnP h hmem
  rw [beq_self_eq_true] at hother
  cases hother

theorem pieces_extendedAll (t : Template) : pieces (extendedAll t) = (pieces t).map extended := by
  apply List.splitOn_intercalate
  · intro l hl
    obtain ⟨piece, hpiece, rfl⟩ := List.mem_map.1 hl
    have hplain := space_not_mem_of_mem_pieces hpiece
    unfold extended
    split
    · simpa [Token.space] using hplain
    · exact hplain
  · exact List.map_eq_nil_iff.not.2 (List.splitOn_ne_nil Token.space t)

section

variable {t : Template} (hslot : Token.slot .operation ∉ t)
include hslot

theorem operationVariable_not_infix_written : ¬ operationVariable <:+: written t := by
  intro hi
  -- replacing a variable that is not there leaves the text as it is
  have hsame : replace operationVariable [] (written t) = written t := by
    have hnone : ∀ v, '$' ∉ (fun _ => [] : Variable → List Char) v := fun _ => List.not_mem_nil
    have hstep := replace_fill hnone [] .operation t
    refine hstep.trans (fill_congr fun v hv => if_neg ?_)
    intro hmem
    exact hslot (List.mem_singleton.1 hmem ▸ hv)
  have hnil := eq_piece_of_replace_eq_self operationVariable_ne_nil hi hsame
  exact operationVariable_ne_nil hnil.symm

theorem withOperation_written : withOperation (written t) = written (extendedAll t) := by
  have hnone : contains operationVariable (written t) = false := by
    rw [← Bool.not_eq_true, contains_iff_isInfix]
    exact operationVariable_not_infix_written hslot
  rw [withOperation, hnone, extendedAll, written_intercalate, splitOnP_written, List.map_map,
    List.map_map]
  simp only [Bool.false_eq_true, if_false]
  congr 1
  apply List.map_congr_left
  intro piece _
  simp only [Function.comp_apply, List.isPrefixOf_iff_prefix, extended]
  split
  · rw [written, written, fill_append]
    rfl
  · rfl

end

/-- A character at which nothing is cut stands in one of the pieces. -/
theorem exists_mem_written_piece_iff {c : Char} (hc : c ≠ ' ') (t : Template) :
    (∃ piece ∈ pieces t, c ∈ written piece) ↔ c ∈ written t := by
  have hcut : (c == ' ') = false := beq_eq_false_iff_ne.2 hc
  rw [← exists_mem_splitOnP_iff (p := (· == ' ')) hcut, splitOnP_written]
  simp

end LaunchOption

namespace CacheOperation

/-- The values of the variables of a template for an operation and for what stands for it. -/
def values (op : CacheOperation) (dir : Option String) (operation : List Char) :
    Variable → List Char
  | .name => op.cacheName.toList
  | .dir => (dir.map String.toList).getD []
  | .operation => operation

/-- What introduces the sub-options of an operation behind a text: a comma if a colon has
    introduced others there, and else a colon. -/
def introduction (s : List Char) : Char := if ':' ∈ s then ',' else ':'

/-- The argument for a piece of a template: its variables are replaced, and behind an option for
    caches come the sub-options of the operation. -/
def argumentOf (op : CacheOperation) (dir : Option String) (sign : Char) (piece : Template) :
    List Char :=
  let argument := fill (op.values dir []) piece
  if optionName <+: written piece then argument ++ sign :: op.suboptions else argument

/-- What follows the arguments of a template. -/
def closing : CacheOperation → List (List Char)
  | reset _ => ["-version".toList]
  | _ => []

/-- The arguments for the pieces of a template, without those that stand for nothing. For each piece
    it is said what would introduce the sub-options there. -/
def argumentsBy (op : CacheOperation) (dir : Option String) (sign : Template → Char)
    (t : Template) : List String :=
  (((pieces t).map fun piece => op.argumentOf dir (sign piece) piece).filter (!·.isEmpty) ++
    op.closing).map String.ofList

/-- Whether a name and a directory go into a template as they are. -/
structure PlainFor (op : CacheOperation) (dir : Option String) : Prop where
  name : ' ' ∉ op.cacheName.toList ∧ '$' ∉ op.cacheName.toList
  dir : ∀ d ∈ dir, ' ' ∉ d.toList ∧ '$' ∉ d.toList

/-- One operation for each text that sub-options can be. -/
def examples : List CacheOperation :=
  [destroy "" .persistent, destroy "" .nonPersistent, destroyAll .persistent,
    destroyAll .nonPersistent, printStats "" [], listAll none, reset ""]

theorem exists_example (op : CacheOperation) : ∃ e ∈ examples, op.suboptions = e.suboptions := by
  cases op with
  | destroy name persistence =>
    cases persistence with
    | persistent => exact ⟨destroy "" .persistent, by decide, rfl⟩
    | nonPersistent => exact ⟨destroy "" .nonPersistent, by decide, rfl⟩
  | destroyAll persistence =>
    cases persistence with
    | persistent => exact ⟨destroyAll .persistent, by decide, rfl⟩
    | nonPersistent => exact ⟨destroyAll .nonPersistent, by decide, rfl⟩
  | printStats name expected => exact ⟨printStats "" [], by decide, rfl⟩
  | listAll name => exact ⟨listAll none, by decide, rfl⟩
  | reset name => exact ⟨reset "", by decide, rfl⟩

theorem suboptions_plain (op : CacheOperation) : ' ' ∉ op.suboptions ∧ '$' ∉ op.suboptions := by
  have hall : ∀ e ∈ examples, ' ' ∉ e.suboptions ∧ '$' ∉ e.suboptions := by decide
  obtain ⟨e, he, hop⟩ := op.exists_example
  rw [hop]
  exact hall e he

variable {op : CacheOperation} {dir : Option String} {t : Template}

theorem not_mem_values {c : Char} (hname : c ∉ op.cacheName.toList)
    (hdir : ∀ d ∈ dir, c ∉ d.toList) {operation : List Char} (hoperation : c ∉ operation)
    (v : Variable) : c ∉ op.values dir operation v := by
  cases v with
  | name => exact hname
  | operation => exact hoperation
  | dir =>
    cases dir with
    | none => exact List.not_mem_nil
    | some d => exact hdir d rfl

theorem templateArguments_eq (op : CacheOperation) (dir : Option (List Char))
    (template : List Char) : op.templateArguments dir template =
      resolve (withOperation template) op.cacheName.toList (dir.getD [])
        (introduction (withOperation template) :: op.suboptions) ++ op.closing := by
  have hsign : (if (withOperation template).contains ':' then op.suboption
      else ':' :: op.suboptions) = introduction (withOperation template) :: op.suboptions := by
    unfold introduction
    by_cases h : ':' ∈ withOperation template
    · simp [h, suboption]
    · simp [h]
  rw [← hsign]
  cases op with
  | reset name => rfl
  | _ => exact (List.append_nil _).symm

theorem arguments_some (op : CacheOperation) (dir : Option String) (template : String) :
    op.arguments dir (some template) =
      (op.templateArguments (dir.map String.toList) template.toList).map String.ofList := by
  cases op <;> rfl

theorem introduction_cases (s : List Char) : introduction s = ',' ∨ introduction s = ':' := by
  unfold introduction
  split
  · exact Or.inl rfl
  · exact Or.inr rfl

/-- What stands for an operation is as plain as the name and the directory are. -/
theorem PlainFor.values (hplain : op.PlainFor dir) (sign : Char)
    (hsign : sign = ',' ∨ sign = ':') : (∀ v, ' ' ∉ op.values dir (sign :: op.suboptions) v) ∧
      ∀ v, '$' ∉ op.values dir (sign :: op.suboptions) v := by
  have hne : ∀ c, c ≠ ',' → c ≠ ':' → c ≠ sign := by
    intro c hcomma hcolon
    rcases hsign with rfl | rfl
    · exact hcomma
    · exact hcolon
  constructor
  · apply not_mem_values hplain.name.1 fun d hd => (hplain.dir d hd).1
    rw [List.mem_cons, not_or]
    exact ⟨hne ' ' (by decide) (by decide), op.suboptions_plain.1⟩
  · apply not_mem_values hplain.name.2 fun d hd => (hplain.dir d hd).2
    rw [List.mem_cons, not_or]
    exact ⟨hne '$' (by decide) (by decide), op.suboptions_plain.2⟩

/-- The variable for the operation has no colon, so putting it in changes nothing about colons. -/
theorem introduction_extendedAll (t : Template) :
    introduction (written (extendedAll t)) = introduction (written t) := by
  have hvariable : ':' ∉ Variable.operation.text := by decide
  have hpiece : ∀ piece, ':' ∈ written (extended piece) ↔ ':' ∈ written piece := by
    intro piece
    unfold extended
    split
    · simp [written, Token.fill, hvariable]
    · rfl
  have hcolon : ':' ∈ written (extendedAll t) ↔ ':' ∈ written t := by
    rw [← exists_mem_written_piece_iff (by decide), ← exists_mem_written_piece_iff (by decide) t,
      pieces_extendedAll]
    simp [hpiece]
  simp only [introduction, hcolon]

/-- A template without a place for the operation stands for the same whatever the operation is. -/
theorem fill_values (hslot : .slot .operation ∉ t) (operation : List Char) :
    fill (op.values dir operation) t = fill (op.values dir []) t := by
  apply fill_congr
  intro v hv
  cases v with
  | name => rfl
  | dir => rfl
  | operation => exact absurd hv hslot

/-- What an extended piece stands for is the argument with the sub-options of the operation. -/
theorem map_fill_extended (hslot : .slot .operation ∉ t) {sign : Char}
    (hspace : ∀ v, ' ' ∉ op.values dir (sign :: op.suboptions) v) :
    ((pieces t).map extended).map (fill (op.values dir (sign :: op.suboptions))) =
      (pieces t).map (op.argumentOf dir sign) := by
  have hnone : ∀ v, ' ' ∉ op.values dir [] v := by
    intro v
    cases v with
    | name => exact hspace .name
    | dir => exact hspace .dir
    | operation => exact List.not_mem_nil
  have hsame : (pieces t).map (fill (op.values dir (sign :: op.suboptions))) =
      (pieces t).map (fill (op.values dir [])) := by
    rw [← splitOnP_fill hspace, fill_values hslot, splitOnP_fill hnone]
  rw [List.map_map]
  apply List.map_congr_left
  intro piece hpiece
  have hfill := List.map_inj_left.1 hsame piece hpiece
  simp only [Function.comp_apply, extended, argumentOf]
  split
  · rw [fill_append, hfill, fill_cons, fill_nil, List.append_nil]
    rfl
  · exact hfill

/-- Each option for caches gets the sub-options of the operation, introduced as the whole template
    has it. -/
theorem arguments_template (hslot : .slot .operation ∉ t) (hplain : op.PlainFor dir) :
    op.arguments dir (some (String.ofList (written t))) =
      op.argumentsBy dir (fun _ => introduction (written t)) t := by
  obtain ⟨hspace, hdollar⟩ := hplain.values _ (introduction_cases (written t))
  have hresolve := resolve_of_unbroken hdollar hspace (extendedAll t)
  rw [arguments_some, String.toList_ofList, templateArguments_eq, withOperation_written hslot,
    introduction_extendedAll, argumentsBy, ← map_fill_extended hslot hspace, ← pieces_extendedAll,
    ← hresolve]
  rfl

/-! ### Where a colon is missing -/

theorem argumentOf_eq_iff {piece : Template} {a b : Char} :
    op.argumentOf dir a piece = op.argumentOf dir b piece ↔
      (optionName <+: written piece → a = b) := by
  simp only [argumentOf]
  by_cases h : optionName <+: written piece
  · simp [h]
  · simp [h]

/-- Two lists of texts, of which the same are empty, agree exactly if what is left of them without
    the empty ones does. -/
theorem filter_map_eq_iff {α : Type} {f g : α → List Char} {l : List α}
    (h : ∀ x ∈ l, f x = [] ↔ g x = []) :
    (l.map f).filter (!·.isEmpty) = (l.map g).filter (!·.isEmpty) ↔ ∀ x ∈ l, f x = g x := by
  induction l with
  | nil => simp
  | cons x l ih =>
    rw [List.forall_mem_cons] at h ⊢
    rw [List.map_cons, List.map_cons, List.filter_cons, List.filter_cons, ← ih h.2]
    by_cases hx : g x = []
    · simp [hx, h.1.2 hx]
    · have hf : f x ≠ [] := mt h.1.1 hx
      simp [hx, hf]

theorem argumentsBy_eq_iff {a b : Template → Char} :
    op.argumentsBy dir a t = op.argumentsBy dir b t ↔
      ∀ piece ∈ pieces t, optionName <+: written piece → a piece = b piece := by
  have hempty : ∀ piece ∈ pieces t,
      op.argumentOf dir (a piece) piece = [] ↔ op.argumentOf dir (b piece) piece = [] := by
    intro piece _
    by_cases h : optionName <+: written piece
    · simp [argumentOf, h]
    · simp [argumentOf, h]
  have htext : Function.LeftInverse String.toList String.ofList := fun _ => String.toList_ofList
  rw [argumentsBy, argumentsBy, htext.injective.list_map.eq_iff, List.append_left_inj,
    filter_map_eq_iff hempty]
  simp only [argumentOf_eq_iff]

theorem introduction_eq_iff {s u : List Char} (h : ':' ∈ u → ':' ∈ s) :
    introduction s = introduction u ↔ (':' ∈ s → ':' ∈ u) := by
  unfold introduction
  by_cases hs : ':' ∈ s
  · by_cases hu : ':' ∈ u
    · simp [hs, hu]
    · simp [hs, hu]
  · have hu : ':' ∉ u := fun hu => hs (h hu)
    simp [hs, hu]

/-- For a template that does not say where the operation goes, the arguments are what its pieces
    stand for, in their order and without the empty ones, and behind each option for caches stand
    the sub-options of the operation; `-version` follows for a reset alone. The sub-options are
    introduced by a comma behind an option with a colon and by a colon behind one without exactly if
    either the whole template has no colon, or each of its options for caches has one. -/
theorem arguments_template_iff (op : CacheOperation) (dir : Option String) (t : Template)
    (hslot : .slot .operation ∉ t) (hplain : op.PlainFor dir) :
    op.arguments dir (some (String.ofList (written t))) =
        op.argumentsBy dir (fun _ => introduction (written t)) t ∧
      (op.arguments dir (some (String.ofList (written t))) =
          op.argumentsBy dir (fun piece => introduction (written piece)) t ↔
        (':' ∈ written t →
          ∀ piece ∈ pieces t, optionName <+: written piece → ':' ∈ written piece)) := by
  refine ⟨arguments_template hslot hplain, ?_⟩
  rw [arguments_template hslot hplain, argumentsBy_eq_iff]
  have hcolon : ∀ piece ∈ pieces t, ':' ∈ written piece → ':' ∈ written t := by
    intro piece hpiece hmem
    exact (exists_mem_written_piece_iff (by decide) t).1 ⟨piece, hpiece, hmem⟩
  constructor
  · intro h ht piece hpiece hoption
    exact (introduction_eq_iff (hcolon piece hpiece)).1 (h piece hpiece hoption) ht
  · intro h piece hpiece hoption
    exact (introduction_eq_iff (hcolon piece hpiece)).2 fun ht => h ht piece hpiece hoption

/-- Another option with a colon makes the sub-options of a bare option start with a comma. -/
theorem arguments_template_beside_colon :
    (listAll none).arguments none (some "-Xlog:gc -Xshareclasses") =
      ["-Xlog:gc", "-Xshareclasses,listAllCaches"] := by
  decide +kernel

/-- Where all options for caches have a colon, another option with one makes no difference. -/
theorem arguments_template_of_two_options :
    let t := literal "-Xlog:gc -Xshareclasses:name=".toList (by decide) ++ .slot .name ::
      literal " -Xshareclasses:".toList (by decide)
    .slot .operation ∉ t ∧ (reset "T2").PlainFor (some "/tmp/sc") ∧
      (reset "T2").arguments (some "/tmp/sc") (some (String.ofList (written t))) =
        ["-Xlog:gc", "-Xshareclasses:name=T2,reset", "-Xshareclasses:,reset", "-version"] := by
  intro t
  have hslot : .slot .operation ∉ t := by decide
  have hplain : (reset "T2").PlainFor (some "/tmp/sc") := by
    refine ⟨by decide, ?_⟩
    rintro d ⟨⟩
    decide
  refine ⟨hslot, hplain, ?_⟩
  have hshaped := (arguments_template_iff (reset "T2") (some "/tmp/sc") t hslot hplain).2.2
  rw [hshaped (by decide)]
  decide

end CacheOperation

end CacheWarden
