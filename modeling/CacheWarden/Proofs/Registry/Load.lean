import CacheWarden.Registry
import Mathlib

/-!
# Loading declarations

What comes of a list of declaration files. Main statement: `load_isOk_iff`, declarations are loaded
exactly if every file can be read.
-/

namespace CacheWarden.Registry

theorem addFiles_cons_of_error {files : FileTree} {source : String} {cause : IoFailure}
    (h : files.readText source = .error cause) (r : Registry) (rest : List String) :
    (addFiles files r (source :: rest)).value = .error (.declarationRead source cause) := by
  rw [addFiles, h]
  rfl

theorem addFiles_cons_of_ok {files : FileTree} {source text : String}
    (h : files.readText source = .ok text) (r : Registry) (rest : List String) :
    (addFiles files r (source :: rest)).value =
      (addFiles files (r.addFile source text).value rest).value := by
  rw [addFiles, h]
  rfl

theorem addFiles_isOk_iff (files : FileTree) (r : Registry) (sources : List String) :
    (∃ r', (addFiles files r sources).value = .ok r') ↔
      ∀ source ∈ sources, ∃ text, files.readText source = .ok text := by
  induction sources generalizing r with
  | nil => simp [addFiles]
  | cons source rest ih =>
    cases h : files.readText source with
    | error cause =>
      rw [addFiles_cons_of_error h]
      simp [h]
    | ok text =>
      rw [addFiles_cons_of_ok h, ih]
      simp [h]

theorem load_isOk_iff (files : FileTree) (sources : List String) :
    (∃ r, (load files sources).value = .ok r) ↔
      ∀ source ∈ sources, ∃ text, files.readText source = .ok text :=
  addFiles_isOk_iff files empty sources

/-- Declarations depend on the files only as far as these are read. -/
theorem addFiles_congr {files files' : FileTree} {sources : List String}
    (h : ∀ source ∈ sources, files'.readText source = files.readText source) (r : Registry) :
    addFiles files' r sources = addFiles files r sources := by
  induction sources generalizing r with
  | nil => rfl
  | cons source rest ih =>
    have hrest := ih fun source' h' => h source' (List.mem_cons_of_mem _ h')
    simp only [addFiles, h source List.mem_cons_self, hrest]

end CacheWarden.Registry
