import CacheWarden.Command.Operation
import CacheWarden.Proofs.LaunchOption.Template
import Mathlib

/-!
# Arguments for listing and destroying

A listing puts its directory into the launcher argument as it is, while the destruction of a cache
goes through the default template. Main statement: `arguments_destroy_iff`, the destruction is one
argument with the name and the listed directory exactly for the texts that
`LaunchOption.Verbatim` describes.
-/

namespace CacheWarden

open LaunchOption Text

/-- Whether the option for a cache brings its name and directory to the launcher unchanged. The
    variable for the directory may stand in a name only if it is replaced by itself. -/
@[mk_iff] structure LaunchOption.Verbatim (name : String) (dir : Option String) : Prop where
  name_unbroken : ' ' ∉ name.toList
  dir_unbroken : ∀ d ∈ dir, ' ' ∉ d.toList
  name_operation : ¬ operationVariable <:+: name.toList
  dir_operation : ∀ d ∈ dir, ¬ operationVariable <:+: d.toList
  name_dir : dirVariable <:+: name.toList → dir.map String.toList = some dirVariable

instance (name : String) (dir : Option String) : Decidable (Verbatim name dir) :=
  decidable_of_iff' _ (verbatim_iff name dir)

theorem LaunchOption.verbatim_of_plain {name : String} {dir : Option String}
    (hname : ' ' ∉ name.toList ∧ '$' ∉ name.toList)
    (hdir : ∀ d ∈ dir, ' ' ∉ d.toList ∧ '$' ∉ d.toList) : Verbatim name dir := by
  have hoperation : '$' ∈ operationVariable := by decide
  have hvariable : '$' ∈ dirVariable := by decide
  refine ⟨hname.1, fun d hd => (hdir d hd).1, ?_, ?_, ?_⟩
  · exact fun h => hname.2 (h.subset hoperation)
  · exact fun d hd h => (hdir d hd).2 (h.subset hoperation)
  · exact fun h => absurd (h.subset hvariable) hname.2

namespace CacheOperation

/-- The argument that lists the caches of a directory. -/
def listArgument (dir : Option String) : String :=
  let dirText := match dir with
    | some d => "cacheDir=" ++ d ++ ","
    | none => ""
  "-Xshareclasses:" ++ dirText ++ "listAllCaches"

/-- The sub-option for a kind of cache. -/
def kindText : Persistence → String
  | .persistent => ""
  | .nonPersistent => ",nonpersistent"

/-- The argument that destroys a cache of a directory. -/
def destroyArgument (name : String) (dir : Option String) (persistence : Persistence) : String :=
  let dirText := match dir with
    | some d => ",cacheDir=" ++ d
    | none => ""
  "-Xshareclasses:name=" ++ name ++ dirText ++ ",destroy" ++ kindText persistence

theorem arguments_listAll (dir : Option String) :
    (listAll none).arguments dir none = [listArgument dir] := by
  have harg : ∀ dirText, ("-Xshareclasses:" ++ dirText ++ "listAllCaches").toList =
      optionName ++ ':' :: (dirText.toList ++ "listAllCaches".toList) := by
    intro dirText
    have hstart : "-Xshareclasses:".toList = optionName ++ [':'] := rfl
    simp only [String.toList_append, List.append_assoc, hstart, List.cons_append,
      List.nil_append]
  have htext :
      (listArgument dir).toList = (listAll none).shortArgument (dir.map String.toList) := by
    cases dir with
    | none => exact harg ""
    | some d =>
      have hd : ("cacheDir=" ++ d ++ ",").toList = dirSuboption ++ d.toList ++ [','] := by
        rw [String.toList_append, String.toList_append]
        rfl
      rw [Option.map_some, shortArgument, ← hd]
      exact harg ("cacheDir=" ++ d ++ ",")
  change [String.ofList ((listAll none).shortArgument (dir.map String.toList))] = _
  rw [← htext, String.ofList_toList]

theorem suboption_destroy (name : String) (persistence : Persistence) :
    (destroy name persistence).suboption = ",destroy".toList ++ (kindText persistence).toList := by
  cases persistence with
  | persistent =>
    change ',' :: "destroy".toList = _
    decide
  | nonPersistent =>
    change ',' :: ("destroy".toList ++ ",nonpersistent".toList) = _
    decide

theorem toList_destroyArgument (name : String) (dir : Option String) (persistence : Persistence) :
    (destroyArgument name dir persistence).toList =
      namePrefix ++ (name.toList ++ dirPart (dir.map String.toList) ++
        (destroy name persistence).suboption) := by
  have harg : ∀ dirText, ("-Xshareclasses:name=" ++ name ++ dirText ++ ",destroy" ++
      kindText persistence).toList =
      namePrefix ++ (name.toList ++ dirText.toList ++ (destroy name persistence).suboption) := by
    intro dirText
    have hstart : namePrefix = "-Xshareclasses:name=".toList := rfl
    simp only [String.toList_append, List.append_assoc, suboption_destroy, hstart]
  cases dir with
  | none => exact harg ""
  | some d =>
    have hd : (",cacheDir=" ++ d).toList = dirPart (some d.toList) := String.toList_append
    rw [Option.map_some, ← hd]
    exact harg (",cacheDir=" ++ d)

/-- What the arguments of a destruction are cut from. -/
def destroyText (name : String) (dir : Option String) (persistence : Persistence) : List Char :=
  let operation := (destroy name persistence).suboption
  let dir := dir.map String.toList
  namePrefix ++
    (replace operationVariable operation (replace dirVariable (dir.getD []) name.toList) ++
      dirPart (dir.map (replace operationVariable operation)) ++ operation)

theorem arguments_destroy (name : String) (dir : Option String) (persistence : Persistence) :
    (destroy name persistence).arguments dir none =
      (LaunchOption.arguments (destroyText name dir persistence)).map String.ofList := by
  have hfold : (destroy name persistence).arguments dir none =
      ((destroy name persistence).templateArguments (dir.map String.toList)
        (defaultTemplate (dir.map String.toList))).map String.ofList := rfl
  have htemplate : ∀ dir t, (destroy name persistence).templateArguments dir t =
      resolve (withOperation t) name.toList (dir.getD [])
        (if (withOperation t).contains ':' then (destroy name persistence).suboption
          else ':' :: (destroy name persistence).suboptions) := fun _ _ => rfl
  rw [hfold, htemplate, withOperation_defaultTemplate, if_pos (contains_colon_defaultTemplate _),
    resolve, substitute_defaultTemplate]
  rfl

theorem space_not_mem_iff (name : String) (dir : Option String) :
    ' ' ∉ name.toList ++ dirPart (dir.map String.toList) ↔
      ' ' ∉ name.toList ∧ ∀ d ∈ dir, ' ' ∉ d.toList := by
  have hfront : ' ' ∉ dirPrefix := by decide
  cases dir with
  | none => simp [dirPart]
  | some d => simp [dirPart, hfront]

theorem arguments_destroy_eq_iff (name : String) (dir : Option String)
    (persistence : Persistence) :
    (destroy name persistence).arguments dir none = [destroyArgument name dir persistence] ↔
      Verbatim name dir := by
  set operation := (destroy name persistence).suboption with hop
  have hcomma : ',' ∈ operation := List.mem_cons_self
  have hspace : ' ' ∉ operation := by
    rw [hop, suboption_destroy]
    cases persistence <;> decide
  have hkept := replaced_eq_self_iff hcomma name.toList (dir.map String.toList)
  rw [arguments_destroy, List.map_eq_singleton_iff]
  calc
    _ ↔ LaunchOption.arguments (destroyText name dir persistence) =
          [(destroyArgument name dir persistence).toList] := by
      constructor
      · rintro ⟨t, ht, hs⟩
        rw [ht, ← hs, String.toList_ofList]
      · intro h
        exact ⟨_, h, String.ofList_toList⟩
    _ ↔ ' ' ∉ name.toList ++ dirPart (dir.map String.toList) ∧ (
          replace operationVariable operation
              (replace dirVariable ((dir.map String.toList).getD []) name.toList) ++
            dirPart ((dir.map String.toList).map (replace operationVariable operation)) =
          name.toList ++ dirPart (dir.map String.toList)) := by
      rw [toList_destroyArgument, destroyText, arguments_between_iff (by decide)
        (List.ne_nil_of_mem hcomma) (by decide) hspace, List.append_right_inj, List.append_left_inj]
      exact and_congr_left fun h => by rw [h]
    _ ↔ Verbatim name dir := by
      rw [hkept, space_not_mem_iff]
      constructor
      · rintro ⟨⟨hname, hdir⟩, hnameOp, hdirOp, hnameDir⟩
        exact ⟨hname, hdir, hnameOp, fun d hd => hdirOp _ (Option.mem_map_of_mem _ hd), hnameDir⟩
      · intro h
        refine ⟨⟨h.name_unbroken, h.dir_unbroken⟩, h.name_operation, ?_, h.name_dir⟩
        intro t ht
        obtain ⟨d, hd, rfl⟩ := Option.mem_map.1 ht
        exact h.dir_operation d hd

/-- A listing is one argument for every directory; the destruction of a cache is one argument with
    the name and that directory exactly where neither is cut or changed. -/
theorem arguments_destroy_iff (name : String) (dir : Option String) (persistence : Persistence) :
    (listAll none).arguments dir none = [listArgument dir] ∧
      ((destroy name persistence).arguments dir none = [destroyArgument name dir persistence] ↔
        Verbatim name dir) :=
  ⟨arguments_listAll dir, arguments_destroy_eq_iff name dir persistence⟩

/-- A name that is the variable for the directory keeps it only in a directory of that name. -/
example : ¬ Verbatim "$\x7bcacheDir\x7d" (some "/tmp/sc") ∧
    Verbatim "$\x7bcacheDir\x7d" (some "$\x7bcacheDir\x7d") := by
  decide +kernel

/-- A directory with a space is listed as a whole, but the destruction gets the front of it. -/
theorem arguments_destroy_split :
    (listAll none).arguments (some "/tmp/my caches") none =
        ["-Xshareclasses:cacheDir=/tmp/my caches,listAllCaches"] ∧
      (destroy "T1" .persistent).arguments (some "/tmp/my caches") none =
        ["-Xshareclasses:name=T1,cacheDir=/tmp/my", "caches,destroy"] ∧
      destroyArgument "T1" (some "/tmp/my caches") .persistent =
        "-Xshareclasses:name=T1,cacheDir=/tmp/my caches,destroy" := by
  decide +kernel

end CacheOperation

end CacheWarden
