import CacheWarden.Proofs.Command.Operation
import CacheWarden.Proofs.Command.Template
import CacheWarden.Proofs.Text.Occurrence
import CacheWarden.Store.Runtime
import Mathlib

/-!
# The directory in an option

The option that an operation is run with can also be the one that a configuration takes its
directory from. It is read from the first colon on, and there up to the first sub-option that gives
a directory, so a comma is all that the directory itself has to do without. Main statement:
`location_of_arguments`, the directory that an option was made for comes back from it.
-/

namespace CacheWarden

open LaunchOption Text

namespace LaunchOption

/-! ### Reading sub-options -/

/-- What the first sub-option with a directory gives, be it empty. -/
def firstDir? (suboptions : List Char) : Option (List Char) :=
  (suboptions.splitOnP (· == ',')).findSome? (dropFront? dirSuboption)

theorem cacheDir?_option (suboptions : List Char) :
    cacheDir? (optionName ++ ':' :: suboptions) = (firstDir? suboptions).filter (!·.isEmpty) := by
  rw [cacheDir?, splitOnce_append (by decide)]
  rfl

theorem firstDir?_append {a : List Char} (h : ',' ∉ a) (b : List Char) :
    firstDir? (a ++ ',' :: b) = (dropFront? dirSuboption a).or (firstDir? b) := by
  have hone : a.splitOnP (· == ',') = [a] := by
    apply List.splitOnP_eq_singleton
    intro c hc
    rw [beq_eq_false_iff_ne]
    rintro rfl
    exact h hc
  rw [firstDir?, List.splitOnP_append_cons _ _ (by rfl), hone, List.findSome?_append]
  simp [firstDir?]

/-- The last sub-option may itself have more than one part. -/
theorem firstDir?_intercalate {parts : List (List Char)} (h : ∀ p ∈ parts, ',' ∉ p)
    (last : List Char) : firstDir? ([','].intercalate (parts ++ [last])) =
      (parts.findSome? (dropFront? dirSuboption)).or (firstDir? last) := by
  induction parts with
  | nil => simp
  | cons p parts ih =>
    rw [List.forall_mem_cons] at h
    rw [List.cons_append, List.intercalate_cons_of_ne_nil (by simp), List.append_assoc,
      List.singleton_append, firstDir?_append h.1, ih h.2, List.findSome?_cons]
    cases dropFront? dirSuboption p <;> rfl

end LaunchOption

namespace CacheOperation

/-- Whether an operation is about one cache, which its option names. -/
def isNamed : CacheOperation → Bool
  | destroyAll _ | listAll _ => false
  | _ => true

/-- The sub-options in front of an operation. -/
def leading (op : CacheOperation) (dir : Option String) : List (List Char) :=
  (if op.isNamed then ["name=".toList ++ op.cacheName.toList] else []) ++
    dir.toList.map (dirSuboption ++ ·.toList)

/-- The option for an operation that has no template. -/
def optionText (op : CacheOperation) (dir : Option String) : List Char :=
  optionName ++ ':' :: [','].intercalate (op.leading dir ++ [op.suboptions])

variable {op : CacheOperation} {dir : Option String}

/-! ### Writing an option -/

/-- The default template, as the parts that it is made of. -/
def defaultParts (dir : Option String) : Template :=
  literal namePrefix not_mem_namePrefix ++ .slot .name ::
    (if dir.isSome then literal dirPrefix not_mem_dirPrefix ++ [.slot .dir] else []) ++
      [.slot .operation]

theorem written_defaultParts (dir : Option String) :
    written (defaultParts dir) = defaultTemplate (dir.map String.toList) := by
  cases dir <;> rfl

theorem fill_defaultParts (hnamed : op.isNamed) (dir : Option String) :
    fill (op.values dir op.suboption) (defaultParts dir) = op.optionText dir := by
  have hname : namePrefix = optionName ++ ':' :: "name=".toList := rfl
  have hdir : dirPrefix = ',' :: dirSuboption := rfl
  cases dir with
  | none =>
    simp [defaultParts, fill_literal, Token.fill, values, optionText, leading, hnamed, hname,
      suboption]
  | some d =>
    simp [defaultParts, fill_literal, Token.fill, values, optionText, leading, hnamed, hname,
      hdir, suboption]

theorem arguments_of_named (hnamed : op.isNamed) (hplain : op.PlainFor dir) :
    op.arguments dir none = (op.optionText dir :: op.closing).map String.ofList := by
  have hdefault : op.arguments dir none = (op.templateArguments (dir.map String.toList)
      (defaultTemplate (dir.map String.toList))).map String.ofList := by
    cases op with
    | destroyAll persistence => cases hnamed
    | listAll name => cases hnamed
    | _ => rfl
  have hsign : introduction (defaultTemplate (dir.map String.toList)) = ',' := by
    cases dir <;> rfl
  obtain ⟨hspace, hdollar⟩ : (∀ v, ' ' ∉ op.values dir op.suboption v) ∧
      ∀ v, '$' ∉ op.values dir op.suboption v := hplain.values ',' (Or.inl rfl)
  have hpieces : pieces (defaultParts dir) = [defaultParts dir] := by
    cases dir <;> rfl
  have hresolve := resolve_of_unbroken hdollar hspace (defaultParts dir)
  rw [hpieces, written_defaultParts, List.map_singleton, fill_defaultParts hnamed] at hresolve
  rw [hdefault, templateArguments_eq, withOperation_defaultTemplate, hsign]
  exact congrArg (List.map String.ofList) (congrArg (· ++ op.closing) hresolve)

theorem arguments_of_not_named (hnamed : op.isNamed = false) :
    op.arguments dir none = (op.optionText dir :: op.closing).map String.ofList := by
  have hshort : op.shortArgument (dir.map String.toList) = op.optionText dir := by
    cases dir with
    | none => simp [shortArgument, optionText, leading, hnamed]
    | some d => simp [shortArgument, optionText, leading, hnamed]
  rw [← hshort]
  cases op with
  | destroyAll persistence => rfl
  | listAll name => rfl
  | _ => cases hnamed

/-! ### Reading an option -/

theorem firstDir?_suboptions (op : CacheOperation) : firstDir? op.suboptions = none := by
  have hall : ∀ e ∈ examples, firstDir? e.suboptions = none := by decide
  obtain ⟨e, he, hop⟩ := op.exists_example
  rw [hop]
  exact hall e he

theorem comma_not_mem_leading (hname : ',' ∉ op.cacheName.toList)
    (hdir : ∀ d ∈ dir, ',' ∉ d.toList) : ∀ p ∈ op.leading dir, ',' ∉ p := by
  have hnameFront : ',' ∉ "name=".toList := by decide
  have hdirFront : ',' ∉ dirSuboption := by decide
  intro p hp
  rcases List.mem_append.1 hp with hp | hp
  · split at hp
    · rw [List.mem_singleton.1 hp, List.mem_append, not_or]
      exact ⟨hnameFront, hname⟩
    · cases hp
  · obtain ⟨d, hd, rfl⟩ := List.mem_map.1 hp
    rw [List.mem_append, not_or]
    exact ⟨hdirFront, hdir d (Option.mem_toList.1 hd)⟩

/-- A name is not taken for a directory, whatever it is. -/
theorem findSome?_leading (op : CacheOperation) (dir : Option String) :
    (op.leading dir).findSome? (dropFront? dirSuboption) = dir.map String.toList := by
  have hname : dropFront? dirSuboption ("name=".toList ++ op.cacheName.toList) = none := rfl
  have hdir : (dir.toList.map (dirSuboption ++ ·.toList)).findSome? (dropFront? dirSuboption) =
      dir.map String.toList := by
    cases dir with
    | none => rfl
    | some d =>
      have hfront : dropFront? dirSuboption (dirSuboption ++ d.toList) = some d.toList :=
        List.isPrefixOf?_eq_some_iff_append_eq.2 rfl
      rw [Option.toList_some, List.map_singleton, List.findSome?_cons, hfront, Option.map_some]
  rw [leading, List.findSome?_append, hdir]
  split
  · rw [List.findSome?_cons, hname, List.findSome?_nil, Option.none_or]
  · rw [List.findSome?_nil, Option.none_or]

theorem cacheDir?_optionText (hname : ',' ∉ op.cacheName.toList)
    (hdir : ∀ d ∈ dir, d ≠ "" ∧ ',' ∉ d.toList) :
    cacheDir? (op.optionText dir) = dir.map String.toList := by
  have hplain := comma_not_mem_leading hname fun d hd => (hdir d hd).2
  rw [optionText, cacheDir?_option, firstDir?_intercalate hplain, firstDir?_suboptions,
    Option.or_none, findSome?_leading]
  cases dir with
  | none => rfl
  | some d =>
    have hsome : (!d.toList.isEmpty) = true := by simpa using (hdir d rfl).1
    rw [Option.map_some, Option.filter_some, if_pos hsome]

/-- The directory that an option was made for is read back from it, and none where it was made for
    none. So under such an option a configuration looks for its caches there, and a store that is
    asked by launch options lists them there. For an operation about one cache, neither its name nor
    the directory may be cut or changed on the way. -/
theorem location_of_arguments (op : CacheOperation) (dir : Option String)
    (hdir : ∀ d ∈ dir, d ≠ "" ∧ ',' ∉ d.toList)
    (hnamed : op.isNamed → ',' ∉ op.cacheName.toList ∧ op.PlainFor dir) :
    ∃ option rest, op.arguments dir none = option :: rest ∧
      (cacheDir? option.toList).map String.ofList = dir ∧
      (∀ c : Config, c.commandLineValues = true →
        c.launcher.sharedClassesOption = some option → c.effectiveLocation = dir) ∧
      (∀ (settings : LauncherSettings) (q : Query), q.fromLaunchOption = true →
        settings.sharedClassesOption = some option → RuntimeStore.location settings q = dir) := by
  have hname : ',' ∉ op.cacheName.toList := by
    by_cases h : op.isNamed
    · exact (hnamed h).1
    · cases op with
      | destroyAll persistence => exact List.not_mem_nil
      | listAll name => exact List.not_mem_nil
      | _ => exact absurd rfl h
  have harguments : op.arguments dir none =
      (op.optionText dir :: op.closing).map String.ofList := by
    by_cases h : op.isNamed
    · exact arguments_of_named h (hnamed h).2
    · exact arguments_of_not_named (Bool.eq_false_of_not_eq_true h)
  have hread : (cacheDir? (String.ofList (op.optionText dir)).toList).map String.ofList = dir := by
    rw [String.toList_ofList, cacheDir?_optionText hname hdir, Option.map_map]
    simp [Function.comp_def]
  refine ⟨_, _, harguments, hread, ?_, ?_⟩
  · intro c hvalues hoption
    rw [Config.effectiveLocation, if_pos hvalues, hoption]
    exact hread
  · intro settings q hlaunch hoption
    rw [RuntimeStore.location, if_pos hlaunch, hoption]
    exact hread

/-- A directory with a colon and an equals sign, and a name that looks like a directory. -/
theorem location_of_reset :
    (reset "cacheDir=:x").isNamed = true ∧
      (reset "cacheDir=:x").PlainFor (some "C:/a=b/cacheDir=c") ∧
      (reset "cacheDir=:x").arguments (some "C:/a=b/cacheDir=c") none =
        ["-Xshareclasses:name=cacheDir=:x,cacheDir=C:/a=b/cacheDir=c,reset", "-version"] ∧
      (cacheDir? "-Xshareclasses:name=cacheDir=:x,cacheDir=C:/a=b/cacheDir=c,reset".toList).map
        String.ofList = some "C:/a=b/cacheDir=c" := by
  have hplain : (reset "cacheDir=:x").PlainFor (some "C:/a=b/cacheDir=c") := by
    refine ⟨by decide, ?_⟩
    rintro d ⟨⟩
    decide
  have hdir : ∀ d ∈ some "C:/a=b/cacheDir=c", d ≠ "" ∧ ',' ∉ d.toList := by
    rintro d ⟨⟩
    decide
  have harguments : (reset "cacheDir=:x").arguments (some "C:/a=b/cacheDir=c") none =
      ["-Xshareclasses:name=cacheDir=:x,cacheDir=C:/a=b/cacheDir=c,reset", "-version"] := by
    decide +kernel
  obtain ⟨option, rest, hfirst, hread, -⟩ := location_of_arguments (reset "cacheDir=:x")
    (some "C:/a=b/cacheDir=c") hdir fun _ => ⟨by decide, hplain⟩
  rw [harguments] at hfirst
  rw [← (List.cons.inj hfirst).1] at hread
  exact ⟨rfl, hplain, harguments, hread⟩

end CacheOperation

end CacheWarden
