import CacheWarden.Proofs.Config.Document
import CacheWarden.Proofs.Registry.Load
import Mathlib

/-!
# Declaration files in a document

A document may list the declaration files as an array. On the way to the configuration the array
becomes one text, so what is loaded are the words of the listed paths, and not the paths. Main
statements: `get?_settingsOfDocument`, a key with one field in a document has the setting of that
field; and `load_listed_files`.
-/

namespace CacheWarden

/-- The texts between the blanks of a text. -/
def Text.wordTexts (s : String) : List String := (Text.words s.toList).map String.ofList

namespace Config

open Text Toml

/-! ### The field of a key -/

theorem get?_settingsOfDocument {fields : Fields} {key : String} {v : Value}
    (h : (leaves fields).filter (·.1 == key) = [(key, v)]) :
    (settingsOfDocument fields).get? key = some (String.ofList (settingText v)) := by
  apply Table.get?_ofList_of_filter
  have hkey : (fun row : String × String => row.1 == key) ∘ settingOf = (·.1 == key) := rfl
  rw [flatten_eq_map_leaves, List.filter_map, hkey, h]
  rfl

/-! ### Texts of an array -/

theorem map_toList_wordTexts (s : String) :
    (wordTexts s).map String.toList = words s.toList := by
  simp [wordTexts, Function.comp_def]

theorem map_ofList_words (paths : List String) :
    (words (settingText (.array (paths.map .text)))).map String.ofList =
      paths.flatMap wordTexts := by
  rw [settingText, settingTexts_map_text, words_intercalate, List.flatMap_map, List.map_flatMap]
  rfl

/-- The words of some texts are the texts themselves exactly if each text is a word. -/
theorem flatMap_wordTexts_eq_self_iff {paths : List String} :
    paths.flatMap wordTexts = paths ↔ ∀ p ∈ paths, IsWord p.toList := by
  have hwords : (paths.flatMap wordTexts).map String.toList =
      (paths.map String.toList).flatMap words := by
    simp only [List.map_flatMap, List.flatMap_map, map_toList_wordTexts]
  have hinj : Function.Injective String.toList := fun _ _ h => String.toList_inj.1 h
  rw [← (List.map_injective_iff.2 hinj).eq_iff, hwords, flatMap_words_eq_self_iff,
    List.forall_mem_map]

theorem cacheFiles_ofProperties {props : Properties} {paths : List String}
    (h : props.get? "cacheFiles" =
      some (String.ofList (settingText (.array (paths.map .text)))))
    (javaHome : Option String) :
    (ofProperties javaHome props).value.cacheFiles = paths.flatMap wordTexts := by
  rw [value_ofProperties]
  show ((props.get? "cacheFiles").map fun raw => (words raw.toList).map String.ofList).getD [] = _
  rw [h, Option.map_some, Option.getD_some, String.toList_ofList, map_ofList_words]

/-- For all files, any place of the runtime's installation and every document with one field for the
    declaration files, an array of texts: a configuration is loaded, its declaration files are the
    words of these texts in their order, and so they are the texts themselves exactly if each of
    them is a word. -/
theorem load_listed_files (files : FileTree) (javaHome : Option String) {path text : String}
    {fields : Fields} {paths : List String} (hpath : isDocument path = true)
    (htext : files.readText path = .ok text) (hread : Toml.read? text = some fields)
    (honly : (leaves fields).filter (·.1 == "cacheFiles") =
      [("cacheFiles", .array (paths.map .text))]) :
    ∃ c, (load files javaHome (some path)).value = .ok c ∧
      c.cacheFiles = paths.flatMap wordTexts ∧
      (c.cacheFiles = paths ↔ ∀ p ∈ paths, IsWord p.toList) := by
  have hfiles := cacheFiles_ofProperties (get?_settingsOfDocument honly) javaHome
  refine ⟨_, load_of_fields hpath htext hread javaHome, hfiles, ?_⟩
  rw [hfiles, flatMap_wordTexts_eq_self_iff]

/-- The array may stand in a table; of its paths those without blanks are kept. -/
theorem load_listed_files_in_table :
    let text := "[store]\ncacheFiles = [\"T1.props\", \"my caches/T2.props\"]\n"
    let files := (FileTree.empty []).put ["run.toml"] (.file (Utf8.encode text))
    ∃ c, (load files none (some "run.toml")).value = .ok c ∧
      c.cacheFiles = ["T1.props", "my", "caches/T2.props"] := by
  intro text files
  have htext : files.readText "run.toml" = .ok text := FileTree.readText_of_bytes rfl
  have hread : Toml.read? text = some [("store",
      .table [("cacheFiles", .array (["T1.props", "my caches/T2.props"].map .text))])] := by
    cbv
  obtain ⟨c, hload, hfiles, -⟩ := load_listed_files files none (by decide) htext hread
    (by simp only [leaves, placed]; rfl)
  refine ⟨c, hload, hfiles.trans ?_⟩
  decide +kernel

/-- A listed file whose path has a space is not read: the registry looks for the words of its path,
    which are no files. -/
theorem load_listed_files_spaced :
    let text := "cacheFiles = [\"my caches/T1.props\"]\n"
    let files := (((FileTree.empty []).put ["run.toml"] (.file (Utf8.encode text))).put
      ["my caches"] .directory).put ["my caches", "T1.props"] (.file (Utf8.encode "name=T1\n"))
    Toml.read? text = some [("cacheFiles", .array [.text "my caches/T1.props"])] ∧
      (Registry.load files ["my caches/T1.props"]).value =
        .ok (.ofList [⟨"T1", false, true, "my caches/T1.props"⟩]) ∧
      ∃ c, (load files none (some "run.toml")).value = .ok c ∧
        c.cacheFiles = ["my", "caches/T1.props"] ∧ c.cacheFiles ≠ ["my caches/T1.props"] ∧
        (Registry.load files c.cacheFiles).value = .error (.declarationRead "my" .notFound) := by
  intro text files
  have htext : files.readText "run.toml" = .ok text := FileTree.readText_of_bytes rfl
  have hread : Toml.read? text = some [("cacheFiles", .array [.text "my caches/T1.props"])] := by
    cbv
  have honly : (leaves [("cacheFiles", .array [.text "my caches/T1.props"])]).filter
      (·.1 == "cacheFiles") = [("cacheFiles", .array (["my caches/T1.props"].map .text))] := by
    simp only [leaves, placed]
    rfl
  have hfiles := cacheFiles_ofProperties (get?_settingsOfDocument honly) none
  have hwords : ["my caches/T1.props"].flatMap wordTexts = ["my", "caches/T1.props"] := by
    decide +kernel
  rw [hwords] at hfiles
  refine ⟨hread, by decide +kernel, _, load_of_fields (by decide) htext hread none, hfiles, ?_, ?_⟩
  · rw [hfiles]
    decide
  · rw [hfiles]
    decide +kernel

end Config

end CacheWarden
