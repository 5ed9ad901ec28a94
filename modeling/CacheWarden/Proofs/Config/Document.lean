import CacheWarden.Config.Load
import CacheWarden.Proofs.Config.Fields
import CacheWarden.Proofs.Config.Read
import CacheWarden.Proofs.Files.Append
import CacheWarden.Proofs.Table
import CacheWarden.Proofs.Toml.Document
import Mathlib

/-!
# Configurations that are shown and loaded again

A configuration that was read is shown as a document, and loaded from it again it is the same but
for one field. The time limit stands in the document under a key that no setting has, so the usual
limit takes its place. Main statements: `read?_document_config`, `ofProperties_shown`,
`load_shown_config_iff`.
-/

namespace CacheWarden.Config

open Text Toml

/-! ### The settings of a document -/

theorem flatten_of_storable {fs : Fields} (h : ∀ f ∈ fs, Storable f.2) :
    flatten fs = fs.map settingOf := by
  induction fs with
  | nil => simp [flatten]
  | cons f fs ih =>
    obtain ⟨key, v⟩ := f
    have hrest := ih fun g hg => h g (List.mem_cons_of_mem (key, v) hg)
    have hv : Storable v := h (key, v) List.mem_cons_self
    cases hv with
    | plain hv => cases hv <;> simp [flatten, settingOf, hrest]
    | array _ => simp [flatten, settingOf, hrest]

theorem sortFields_perm (fs : Fields) : (sortFields fs).Perm fs := List.mergeSort_perm _ _

/-- Fields and those of a table after them are settings, in whatever order they stand. -/
theorem flatten_document {fs gs : Fields} (hfs : ∀ f ∈ fs, Storable f.2)
    (hgs : ∀ f ∈ gs, Storable f.2) (name : String) :
    (flatten (sortFields (fs ++ [(name, .table (sortFields gs))]))).Perm
      ((fs ++ gs).map settingOf) := by
  have htable : flatten [(name, .table (sortFields gs))] = flatten (sortFields gs) := by
    simp [flatten]
  refine (flatten_perm (sortFields_perm _)).trans ?_
  rw [flatten_append, htable, List.map_append, ← flatten_of_storable hfs,
    ← flatten_of_storable hgs]
  exact (flatten_perm (sortFields_perm gs)).append_left _

/-- What is loaded from a document is what its settings make. -/
theorem load_of_fields {files : FileTree} {path text : String} {fields : Fields}
    (hpath : isDocument path = true) (htext : files.readText path = .ok text)
    (hread : Toml.read? text = some fields) (javaHome : Option String) :
    (load files javaHome (some path)).value =
      .ok (ofProperties javaHome (settingsOfDocument fields)).value := by
  have hsettings : (loadSettings files path).value = .ok (settingsOfDocument fields) := by
    rw [loadSettings, htext]
    simp only [hpath, if_true, hread]
    rfl
  rw [load]
  simp only [Logged.value_bind, hsettings, Logged.value_map]

/-! ### The fields of a configuration -/

/-- The keys outside the launcher's table. -/
def mainKeys : List String :=
  ["cacheDir", "commandLineValues", "delete", "expectedCacheCount", "cacheFiles",
    "strictCountCheck", "reapMode", "recordsFile"]

/-- The keys of the launcher's table. -/
def launcherKeys : List String := ["java", "sharedClassesOption", "timeoutSecs"]

theorem keys_optional (key : String) (v : Option Value) :
    ((optional key v).map Prod.fst).Sublist [key] := by
  cases v with
  | none => exact List.nil_sublist _
  | some v => exact List.Sublist.refl _

theorem keys_mainFields (c : Config) : (c.mainFields.map Prod.fst).Sublist mainKeys := by
  show List.Sublist _ (["cacheDir"] ++ ["commandLineValues", "delete"] ++ ["expectedCacheCount"] ++
    ["cacheFiles", "strictCountCheck", "reapMode"] ++ ["recordsFile"])
  simp only [mainFields, List.map_append]
  exact ((((keys_optional _ _).append (.refl _)).append (keys_optional _ _)).append
    (.refl _)).append (keys_optional _ _)

theorem keys_launcherFields (c : Config) :
    (c.launcherFields.map Prod.fst).Sublist launcherKeys := by
  show List.Sublist _ (["java"] ++ ["sharedClassesOption"] ++ ["timeoutSecs"])
  simp only [launcherFields, List.map_append]
  exact ((List.Sublist.refl _).append (keys_optional _ _)).append (.refl _)

theorem forall_mem_optional {P : String × Value → Prop} {key : String} {v : Option Value} :
    (∀ f ∈ optional key v, P f) ↔ ∀ x ∈ v, P (key, x) := by
  cases v <;> simp [optional]

theorem fitsInt64_of_lt {n : Nat} (h : n < bound32) : FitsInt64 n := by
  have hbound : n < 0x100000000 := h
  constructor <;> omega

/-- A count is written as a whole number. -/
theorem map_integer (count : Option Nat) :
    (count : Option Int).map (fun n => Value.integer n) = count.map fun n => .integer n := by
  cases count <;> rfl

theorem storable_mainFields {c : Config} (h : c.Normal) : ∀ f ∈ c.mainFields, Storable f.2 := by
  simp only [mainFields, map_integer, List.forall_mem_append, forall_mem_optional,
    List.forall_mem_cons]
  refine ⟨⟨⟨⟨?_, .plain (.boolean _), .plain (.boolean _), by simp⟩, ?_⟩,
    .array ?_, .plain (.boolean _), .plain (.text _), by simp⟩, ?_⟩
  · intro x hx
    obtain ⟨d, -, rfl⟩ := Option.map_eq_some_iff.1 hx
    exact .plain (.text d)
  · intro x hx
    obtain ⟨n, hn, rfl⟩ := Option.map_eq_some_iff.1 hx
    exact .plain (.integer (fitsInt64_of_lt (h.expectedCacheCount n hn)))
  · intro x hx
    obtain ⟨f, -, rfl⟩ := List.mem_map.1 hx
    exact .text f
  · intro x hx
    obtain ⟨f, -, rfl⟩ := Option.map_eq_some_iff.1 hx
    exact .plain (.text f)

theorem storable_launcherFields {c : Config} (h : c.Normal) :
    ∀ f ∈ c.launcherFields, Storable f.2 := by
  simp only [launcherFields, List.forall_mem_append, forall_mem_optional, List.forall_mem_cons]
  refine ⟨⟨⟨.plain (.text _), by simp⟩, ?_⟩,
    .plain (.integer (fitsInt64_of_lt h.timeoutSecs)), by simp⟩
  intro x hx
  obtain ⟨o, -, rfl⟩ := Option.map_eq_some_iff.1 hx
  exact .plain (.text o)

theorem written_of_storable {fs : Fields} {keys : List String} (hbare : ∀ k ∈ keys, BareKey k)
    (hkeys : (fs.map Prod.fst).Sublist keys) (h : ∀ f ∈ fs, Storable f.2) : ∀ f ∈ fs, Written f :=
  fun f hf => ⟨hbare f.1 (hkeys.subset (List.mem_map_of_mem hf)), h f hf⟩

/-- The fields that a document with a configuration holds. -/
def shownFields (c : Config) : Fields :=
  sortFields (c.mainFields ++ [("store", .table (sortFields c.launcherFields))])

/-- The document of a configuration is a document, with any number of blank lines behind it. -/
theorem read?_document_config {c : Config} (h : c.Normal) (n : Nat) :
    Toml.read? (c.document ++ String.ofList (List.replicate n '\n')) = some c.shownFields := by
  have hmain : ∀ k ∈ mainKeys, BareKey k := by decide
  have hlauncher : ∀ k ∈ launcherKeys, BareKey k := by decide
  have hkeys : (c.mainFields.map Prod.fst ++ ["store"]).Nodup :=
    List.Nodup.sublist ((keys_mainFields c).append (.refl _))
      (by decide : (mainKeys ++ ["store"]).Nodup)
  have htable : (c.launcherFields.map Prod.fst).Nodup :=
    List.Nodup.sublist (keys_launcherFields c) (by decide)
  rw [document, ← String.ofList_append]
  exact read?_document (written_of_storable hmain (keys_mainFields c) (storable_mainFields h))
    (by decide) (written_of_storable hlauncher (keys_launcherFields c) (storable_launcherFields h))
    hkeys htable n

/-! ### The settings of a configuration -/

/-- The settings that a document with a configuration makes. -/
def shownSettings (c : Config) : Properties := settingsOfDocument c.shownFields

section

variable {c : Config} (h : c.Normal)

include h

theorem shownSettings_rows :
    (flatten c.shownFields).Perm ((c.mainFields ++ c.launcherFields).map settingOf) :=
  flatten_document (storable_mainFields h) (storable_launcherFields h) "store"

theorem nodup_keys : ((flatten c.shownFields).map Prod.fst).Nodup := by
  have hkeys : ((c.mainFields ++ c.launcherFields).map Prod.fst).Nodup := by
    rw [List.map_append]
    exact List.Nodup.sublist ((keys_mainFields c).append (keys_launcherFields c)) (by decide)
  rw [((shownSettings_rows h).map Prod.fst).nodup_iff, List.map_map]
  exact hkeys

theorem get?_shownSettings {key : String} {v : Value}
    (hmem : (key, v) ∈ c.mainFields ++ c.launcherFields) :
    c.shownSettings.get? key = some (String.ofList (settingText v)) := by
  apply Table.get?_ofList_of_mem (nodup_keys h)
  exact (shownSettings_rows h).mem_iff.2 (List.mem_map.2 ⟨(key, v), hmem, rfl⟩)

theorem get?_shownSettings_of_not_mem {key : String}
    (hmem : key ∉ (c.mainFields ++ c.launcherFields).map Prod.fst) :
    c.shownSettings.get? key = none := by
  apply Table.get?_ofList_of_not_mem
  rw [((shownSettings_rows h).map Prod.fst).mem_iff, List.map_map]
  exact hmem

theorem get?_shownSettings_optional {key : String} {v : Option Value}
    (hsome : ∀ f ∈ optional key v, f ∈ c.mainFields ++ c.launcherFields)
    (hnone : v = none → key ∉ (c.mainFields ++ c.launcherFields).map Prod.fst) :
    c.shownSettings.get? key = v.map fun x => String.ofList (settingText x) := by
  cases v with
  | none => exact get?_shownSettings_of_not_mem h (hnone rfl)
  | some x => exact get?_shownSettings h (hsome (key, x) List.mem_cons_self)

end

theorem mem_keys_optional {k key : String} {v : Option Value} :
    k ∈ (optional key v).map Prod.fst ↔ k = key ∧ v.isSome = true := by
  cases v <;> simp [optional]

/-- Which settings a configuration has. -/
theorem mem_keys {c : Config} {k : String} :
    k ∈ (c.mainFields ++ c.launcherFields).map Prod.fst ↔
      k ∈ ["commandLineValues", "delete", "cacheFiles", "strictCountCheck", "reapMode", "java",
        "timeoutSecs"] ∨
      (k = "cacheDir" ∧ c.cacheDir.isSome = true) ∨
      (k = "expectedCacheCount" ∧ c.expectedCacheCount.isSome = true) ∨
      (k = "recordsFile" ∧ c.recordsFile.isSome = true) ∨
      (k = "sharedClassesOption" ∧ c.launcher.sharedClassesOption.isSome = true) := by
  simp only [mainFields, launcherFields, map_integer, List.map_append, List.mem_append,
    mem_keys_optional, Option.isSome_map, List.map_cons, List.map_nil, List.mem_cons,
    List.not_mem_nil, or_false]
  grind

theorem readCount_decimal {n : Nat} (hn : n < bound32) :
    Setting.readCount (String.ofList (decimal n)) = .ok n := by
  have hread : readCount? (decimal n) = some n := by
    obtain ⟨c, cs, hcs⟩ := List.exists_cons_of_ne_nil (decimal_ne_nil n)
    have hc : isDigit c = true := isDigit_of_mem_decimal (hcs ▸ List.mem_cons_self)
    have hdigits : readUnsigned? 10 bound32 (decimal n) =
        (readNat? 10 (decimal n)).filter (· < bound32) := by
      rw [hcs, readUnsigned?]
      rintro _ ⟨⟩
      cases hc
    rw [readCount?, hdigits, readNat?_decimal, Option.filter_some, if_pos (decide_eq_true hn)]
  rw [Setting.readCount, String.toList_ofList, (isWord_decimal n).trim_eq, hread]

theorem settingTexts_map_text (texts : List String) :
    settingTexts (texts.map .text) = texts.map String.toList := by
  induction texts with
  | nil => simp [settingTexts]
  | cons s rest ih => rw [List.map_cons, settingTexts, ih, settingText, List.map_cons]

theorem map_settingText (o : Option String) :
    ((o.map Value.text).map fun x => String.ofList (settingText x)) = o := by
  cases o with
  | none => rfl
  | some s => exact congrArg some String.ofList_toList

section

variable {c : Config} (h : c.Normal)

include h

theorem get?_shownSettings_text {key : String} {o : Option String}
    (hsome : ∀ f ∈ optional key (o.map .text), f ∈ c.mainFields ++ c.launcherFields)
    (hnone : o = none → key ∉ (c.mainFields ++ c.launcherFields).map Prod.fst) :
    c.shownSettings.get? key = o := by
  rw [get?_shownSettings_optional h hsome fun h => hnone (Option.map_eq_none_iff.1 h),
    map_settingText]

theorem get?_cacheDir : c.shownSettings.get? "cacheDir" = c.cacheDir := by
  apply get?_shownSettings_text h
  · intro f hf
    simp [mainFields, hf]
  · intro hnone
    rw [mem_keys]
    simp [hnone]

theorem get?_recordsFile : c.shownSettings.get? "recordsFile" = c.recordsFile := by
  apply get?_shownSettings_text h
  · intro f hf
    simp [mainFields, hf]
  · intro hnone
    rw [mem_keys]
    simp [hnone]

theorem get?_sharedClassesOption :
    c.shownSettings.get? "sharedClassesOption" = c.launcher.sharedClassesOption := by
  apply get?_shownSettings_text h
  · intro f hf
    simp [launcherFields, hf]
  · intro hnone
    rw [mem_keys]
    simp [hnone]

theorem get?_expectedCacheCount :
    c.shownSettings.get? "expectedCacheCount" =
      c.expectedCacheCount.map fun n => String.ofList (decimal n) := by
  have hfields : ∀ f ∈ optional "expectedCacheCount"
      (c.expectedCacheCount.map fun n : Nat => .integer n),
      f ∈ c.mainFields ++ c.launcherFields := by
    intro f hf
    simp only [mainFields, map_integer, List.mem_append, hf, or_true, true_or]
  rw [get?_shownSettings_optional h hfields]
  · cases c.expectedCacheCount <;> rfl
  · intro hnone
    rw [mem_keys]
    simp [Option.map_eq_none_iff.1 hnone]

/-- The time limit has another key in a document than among the settings. -/
theorem get?_storeTimeoutSecs : c.shownSettings.get? "storeTimeoutSecs" = none := by
  apply get?_shownSettings_of_not_mem h
  rw [mem_keys]
  simp

/-! ### Reading the settings -/

theorem value_readCacheDir_shown : (readCacheDir c.shownSettings).value = c.cacheDir := by
  rw [value_readCacheDir, get?_cacheDir h]
  cases hdir : c.cacheDir with
  | none => rfl
  | some d =>
    obtain ⟨htrim, hne, hplace⟩ := h.cacheDir d hdir
    simp [htrim, hne, hplace]

theorem value_readExpectedCount_shown :
    (readExpectedCount c.shownSettings).value = c.expectedCacheCount := by
  rw [value_readExpectedCount, get?_expectedCacheCount h]
  cases hcount : c.expectedCacheCount with
  | none => rfl
  | some n =>
    rw [Option.map_some, Option.bind_some, readCount_decimal (h.expectedCacheCount n hcount)]
    rfl

theorem value_readReapMode_shown : (readReapMode c.shownSettings).value = c.reapMode := by
  have hmode : c.shownSettings.get? "reapMode" = some c.reapMode.name := by
    rw [get?_shownSettings h (v := .text c.reapMode.name) (by simp [mainFields])]
    exact congrArg some String.ofList_toList
  have hname : String.ofList (trim c.reapMode.name.toList) = c.reapMode.name := by
    cases c.reapMode <;> rfl
  simp only [readReapMode, hmode, hname, ReapMode.ofName?_name, Logged.value_pure]

theorem value_readTimeout_shown : (readTimeout c.shownSettings).value = 300 := by
  rw [value_readTimeout, get?_storeTimeoutSecs h]
  rfl

theorem filled?_java : filled? c.shownSettings "java" = some c.launcher.java := by
  have hjava : c.shownSettings.get? "java" = some c.launcher.java := by
    rw [get?_shownSettings h (v := .text c.launcher.java) (by simp [launcherFields])]
    exact congrArg some String.ofList_toList
  exact filled?_of_get? hjava fun v hv => Option.some.inj hv ▸ h.java

theorem value_lenientBool_shown {key : String} {b : Bool}
    (hmem : (key, Value.boolean b) ∈ c.mainFields ++ c.launcherFields) :
    (Setting.lenientBool key (c.shownSettings.get? key)).value = b := by
  rw [get?_shownSettings h hmem, Setting.lenientBool_value]
  cases b <;> rfl

theorem cacheFiles_shown :
    ((c.shownSettings.get? "cacheFiles").map fun raw => (words raw.toList).map String.ofList).getD
      [] = c.cacheFiles := by
  have htext : settingText (.array (c.cacheFiles.map .text)) =
      [' '].intercalate (c.cacheFiles.map String.toList) := by
    rw [settingText, settingTexts_map_text]
  rw [get?_shownSettings h (v := .array (c.cacheFiles.map .text)) (by simp [mainFields]), htext,
    Option.map_some, Option.getD_some, String.toList_ofList, words_intercalate,
    flatMap_words_eq_self_iff.2]
  · simp [Function.comp_def]
  · intro w hw
    obtain ⟨f, hf, rfl⟩ := List.mem_map.1 hw
    exact h.cacheFiles f hf

/-- Read from the settings that it makes, a configuration is the same but for its time limit. -/
theorem ofProperties_shown (javaHome : Option String) :
    (ofProperties javaHome c.shownSettings).value =
      { c with launcher := { c.launcher with timeoutSecs := 300 } } := by
  rw [value_ofProperties, value_readCacheDir_shown h, value_readExpectedCount_shown h,
    cacheFiles_shown h, value_readReapMode_shown h, value_readTimeout_shown h, filled?_java h,
    value_lenientBool_shown h (b := c.commandLineValues) (by simp [mainFields]),
    value_lenientBool_shown h (b := c.delete) (by simp [mainFields]),
    value_lenientBool_shown h (b := c.strictCountCheck) (by simp [mainFields]),
    filled?_of_get? (get?_recordsFile h) h.recordsFile,
    filled?_of_get? (get?_sharedClassesOption h) h.sharedClassesOption]
  rfl

/-- The configuration that is loaded from a document with a configuration. -/
theorem load_document {files : FileTree} {path : String} (hpath : isDocument path = true) {n : Nat}
    (htext : files.readText path = .ok (c.document ++ String.ofList (List.replicate n '\n')))
    (javaHome : Option String) :
    (load files javaHome (some path)).value =
      .ok { c with launcher := { c.launcher with timeoutSecs := 300 } } := by
  have hshown := ofProperties_shown h javaHome
  rw [shownSettings] at hshown
  rw [load_of_fields hpath htext (read?_document_config h n), hshown]

end

/-- For every set of settings, all files and any place of the runtime's installation: what is shown
    of the configuration, with any number of blank lines behind it, is loaded as that configuration,
    but with the usual time limit; so it is the same one exactly if it had the usual limit. -/
theorem load_shown_config_iff (files : FileTree) (javaHome : Option String) (props : Properties)
    (path : String) (n : Nat) (hpath : isDocument path = true)
    (htext : files.readText path = .ok ((ofProperties javaHome props).value.document ++
      String.ofList (List.replicate n '\n'))) :
    let c := (ofProperties javaHome props).value
    (load files javaHome (some path)).value =
        .ok { c with launcher := { c.launcher with timeoutSecs := 300 } } ∧
      ((load files javaHome (some path)).value = .ok c ↔ c.launcher.timeoutSecs = 300) := by
  intro c
  have hload := load_document (normal_ofProperties javaHome props) hpath htext javaHome
  refine ⟨hload, ?_⟩
  rw [hload, Except.ok.injEq]
  constructor
  · intro heq
    rw [← heq]
  · intro htime
    rw [← htime]

/-- A configuration with the usual time limit comes back. -/
theorem load_shown_config_usual :
    let props : Properties := Table.ofList
      [("delete", "TRUE"), ("cacheDir", " /tmp/my \"caches\" "),
        ("cacheFiles", "T1.props  T2.props"), ("expectedCacheCount", "2"), ("reapMode", "one"),
        ("storeTimeoutSecs", "300")]
    let c := (ofProperties (some "/opt/java") props).value
    let files := (FileTree.empty []).put ["shown.toml"] (.file (Utf8.encode (c.document ++ "\n")))
    (load files (some "/opt/java") (some "shown.toml")).value = .ok c := by
  intro props c files
  have hbytes : files.readBytes "shown.toml" = .ok (Utf8.encode (c.document ++ "\n")) := rfl
  have htext : files.readText "shown.toml" =
      .ok (c.document ++ String.ofList (List.replicate 1 '\n')) := FileTree.readText_of_bytes hbytes
  exact (load_shown_config_iff files (some "/opt/java") props "shown.toml" 1 (by decide)
    htext).2.2 (by decide)

/-- A configuration with another time limit does not. -/
theorem load_shown_config_other :
    let props : Properties := Table.ofList [("storeTimeoutSecs", "30")]
    let c := (ofProperties none props).value
    let files := (FileTree.empty []).put ["shown.toml"] (.file (Utf8.encode c.document))
    c.launcher.timeoutSecs = 30 ∧
      (load files none (some "shown.toml")).value ≠ .ok c ∧
      (load files none (some "shown.toml")).value =
        .ok { c with launcher := { c.launcher with timeoutSecs := 300 } } := by
  intro props c files
  have hbytes : files.readBytes "shown.toml" = .ok (Utf8.encode c.document) := rfl
  have htext : files.readText "shown.toml" =
      .ok (c.document ++ String.ofList (List.replicate 0 '\n')) := by
    rw [FileTree.readText_of_bytes hbytes, List.replicate_zero, String.ofList_nil,
      String.append_empty]
  have hload := load_document (normal_ofProperties none props) (by decide) htext none
  refine ⟨by decide, ?_, hload⟩
  rw [hload]
  decide

end CacheWarden.Config
