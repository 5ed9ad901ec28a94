import CacheWarden.Cache.Listing
import CacheWarden.Proofs.Text.Words
import Mathlib

/-!
# The names in a listing

A name is the first word of its row, whatever else was printed, so it is never empty and has no
blanks. Main statement: `name_of_mem_caches`.
-/

namespace CacheWarden

namespace Listing

open Text

theorem name_of_readRow {compatible hasLayers : Bool} {row : List Char} {d : Descriptor}
    (h : readRow compatible hasLayers row = some d) :
    ∃ w ∈ words row, d.name = some (String.ofList w) := by
  unfold readRow at h
  split at h
  · rename_i name level mode kind rest hw
    split at h
    · obtain ⟨p, -, rfl⟩ := Option.map_eq_some_iff.1 h
      exact ⟨name, hw ▸ List.mem_cons_self, rfl⟩
    · cases h
  · cases h

theorem name_of_read {s : Section} {line : List Char} {d : Descriptor}
    (h : Line.read s line = .cache d) :
    ∃ row, ∃ w ∈ words row, d.name = some (String.ofList w) := by
  simp only [Line.read] at h
  -- left are the rows of a section, those of a snapshot first
  split_ifs at h <;> split at h
  · cases h
  · cases h
  · cases h
  · split at h
    · rename_i hr
      cases h
      exact ⟨trim line, name_of_readRow hr⟩
    · cases h

theorem name_of_mem_readLines {s : Section} {ls : List (List Char)} {d : Descriptor}
    (h : Line.cache d ∈ readLines s ls) :
    ∃ row, ∃ w ∈ words row, d.name = some (String.ofList w) := by
  induction ls generalizing s with
  | nil => cases h
  | cons line rest ih =>
    rcases List.mem_cons.1 h with h | h
    · exact name_of_read h.symm
    · exact ih h

/-- A listed cache has a name without blanks. -/
theorem name_of_mem_caches {text : String} {d : Descriptor} (h : d ∈ caches text) :
    ∃ n, d.name = some n ∧ n ≠ "" ∧ ∀ c ∈ n.toList, isBlank c = false := by
  obtain ⟨l, hl, hd⟩ := List.mem_filterMap.1 h
  cases l with
  | cache e =>
    cases hd
    obtain ⟨row, w, hw, hn⟩ := name_of_mem_readLines hl
    refine ⟨String.ofList w, hn, ?_, ?_⟩
    · intro he
      have hnil : w = [] := by rw [← String.toList_ofList (l := w), he, String.toList_empty]
      exact ne_nil_of_mem_words hw hnil
    · intro c hc
      rw [String.toList_ofList] at hc
      exact isBlank_of_mem_word hw hc
  | passed => cases hd
  | header => cases hd
  | title => cases hd
  | snapshot => cases hd
  | unknown => cases hd

theorem space_not_mem_of_find? {text n : String} {d : Descriptor}
    (h : (caches text).find? (fun e => e.name == some n) = some d) : ' ' ∉ n.toList := by
  obtain ⟨m, hm, -, hplain⟩ := name_of_mem_caches (List.mem_of_find?_eq_some h)
  have hn : d.name = some n := by simpa using List.find?_some h
  rw [hm, Option.some_inj] at hn
  intro hs
  exact absurd (hplain ' ' (hn ▸ hs)) (by decide)

end Listing

end CacheWarden
