import CacheWarden.Files.Tree
import CacheWarden.Proofs.Table
import Mathlib

/-!
# Appending to a file

What a run may do to a tree keeps every directory, so a path that led somewhere goes on leading
there. Hence whether a file can be appended to is settled by the first attempt, and appending twice
is appending once. Main statements: `follow_of_keepsDirectories`; `appendable?_eq_some_iff`, a file
that can be appended to; `append_append`; `readBytes_append`.
-/

namespace CacheWarden

namespace FileTree

variable {tree tree' : FileTree} {place target p : Place} {steps : List String} {node : FileNode}

theorem node?_nil (tree : FileTree) : tree.node? [] = some .directory := rfl

theorem node?_put (tree : FileTree) {place : Place} (h : place ≠ []) (node : FileNode) (p : Place) :
    (tree.put place node).node? p = if p = place then some node else tree.node? p := by
  cases p with
  | nil => simp [node?, h.symm]
  | cons name p => simp [node?, put, Table.get?_insert]

theorem put_put (tree : FileTree) (place : Place) (node node' : FileNode) :
    (tree.put place node).put place node' = tree.put place node' := by
  simp only [put, Table.insert_insert]

/-- Whether a tree has all directories of another one, and starts relative paths at the same
    place. -/
structure KeepsDirectories (tree tree' : FileTree) : Prop where
  directories : ∀ p, tree.node? p = some .directory → tree'.node? p = some .directory
  workingDirectory : tree'.workingDirectory = tree.workingDirectory

namespace KeepsDirectories

theorem refl (tree : FileTree) : KeepsDirectories tree tree := ⟨fun _ h => h, rfl⟩

theorem trans {tree'' : FileTree} (h : KeepsDirectories tree tree')
    (h' : KeepsDirectories tree' tree'') : KeepsDirectories tree tree'' :=
  ⟨fun p hp => h'.directories p (h.directories p hp),
    h'.workingDirectory.trans h.workingDirectory⟩

/-- Putting something where no directory is keeps the directories. -/
theorem put (h : tree.node? place ≠ some .directory) (node : FileNode) :
    KeepsDirectories tree (tree.put place node) := by
  have hplace : place ≠ [] := by
    rintro rfl
    exact h tree.node?_nil
  refine ⟨?_, rfl⟩
  intro p hp
  rw [node?_put tree hplace, if_neg]
  · exact hp
  · rintro rfl
    exact h hp

theorem start (h : KeepsDirectories tree tree') (path : FilePath) :
    tree'.start path = tree.start path := by
  rw [FileTree.start, FileTree.start, h.workingDirectory]

end KeepsDirectories

theorem follow_cons_cons (tree : FileTree) (place : Place) (name next : String)
    (rest : List String) :
    tree.follow place (name :: next :: rest) =
      match step place name with
      | .error e => .error e
      | .ok p =>
          match tree.node? p with
          | none => .error .notFound
          | some (.file _) => .error .notADirectory
          | some .directory => tree.follow p (next :: rest) := rfl

theorem follow_of_directory {name : String} (hs : step place name = .ok p)
    (hp : tree.node? p = some .directory) (next : String) (rest : List String) :
    tree.follow place (name :: next :: rest) = tree.follow p (next :: rest) := by
  simp only [follow_cons_cons, hs, hp]

/-- What is followed beyond its first step leads through a directory. -/
theorem directory_of_follow {name next : String} {rest : List String}
    (h : tree.follow place (name :: next :: rest) = .ok target) :
    ∃ p, step place name = .ok p ∧ tree.node? p = some .directory ∧
      tree.follow p (next :: rest) = .ok target := by
  rw [follow_cons_cons] at h
  cases hs : step place name with
  | error e =>
    rw [hs] at h
    cases h
  | ok p =>
    simp only [hs] at h
    cases hp : tree.node? p with
    | none =>
      rw [hp] at h
      cases h
    | some node =>
      cases node with
      | file content =>
        rw [hp] at h
        cases h
      | directory =>
        rw [hp] at h
        exact ⟨p, rfl, hp, h⟩

/-- A path that led somewhere leads there as long as the directories are kept. -/
theorem follow_of_keepsDirectories (hk : KeepsDirectories tree tree')
    (h : tree.follow place steps = .ok target) : tree'.follow place steps = .ok target := by
  induction steps generalizing place with
  | nil => exact h
  | cons name rest ih =>
    cases rest with
    | nil => exact h
    | cons next rest =>
      obtain ⟨p, hs, hp, hrest⟩ := directory_of_follow h
      rw [follow_of_directory hs (hk.directories p hp)]
      exact ih hrest

/-! ### Making directories -/

theorem isDirectory_iff :
    tree.isDirectory place steps = true ↔
      ∃ target, tree.follow place steps = .ok target ∧ tree.node? target = some .directory := by
  unfold isDirectory
  cases hf : tree.follow place steps with
  | error e => simp
  | ok target =>
    cases hn : tree.node? target with
    | none => simp [hn]
    | some node => cases node <;> simp [hn]

theorem isDirectory_of_keepsDirectories (hk : KeepsDirectories tree tree')
    (h : tree.isDirectory place steps = true) : tree'.isDirectory place steps = true := by
  rw [isDirectory_iff] at h ⊢
  obtain ⟨target, hf, hn⟩ := h
  exact ⟨target, follow_of_keepsDirectories hk hf, hk.directories target hn⟩

theorem makeDirectory_eq_ok (h : tree.makeDirectory place steps = .ok tree') :
    KeepsDirectories tree tree' ∧ tree'.isDirectory place steps = true := by
  unfold makeDirectory at h
  cases hf : tree.follow place steps with
  | error e =>
    rw [hf] at h
    cases h
  | ok target =>
    simp only [hf] at h
    cases hn : tree.node? target with
    | some node =>
      rw [hn] at h
      cases h
    | none =>
      rw [hn] at h
      cases h
      have hk : KeepsDirectories tree (tree.put target .directory) :=
        .put (by rw [hn]; simp) .directory
      refine ⟨hk, isDirectory_iff.2 ⟨target, follow_of_keepsDirectories hk hf, ?_⟩⟩
      have htarget : target ≠ [] := by
        rintro rfl
        rw [node?_nil] at hn
        cases hn
      rw [node?_put tree htarget, if_pos rfl]

/-- A directory that is there is not made again. -/
theorem makeDirectory_of_isDirectory (h : tree.isDirectory place steps = true) :
    tree.makeDirectory place steps = .error .fileExists := by
  obtain ⟨target, hf, hn⟩ := isDirectory_iff.1 h
  simp only [makeDirectory, hf, hn]

theorem eq_true_of_ite_eq_ok {b : Bool} {e : IoFailure}
    (h : (if b then .ok () else .error e : Except IoFailure Unit) = .ok ()) : b = true := by
  cases b with
  | true => rfl
  | false => cases h

/-- What making directories does to a tree, and that the last of them is there afterwards. -/
theorem makeDirectories_spec (tree : FileTree) (place : Place) (above : List String) :
    let made := tree.makeDirectories place above
    KeepsDirectories tree made.2 ∧
      (made.1 = .ok () → above ≠ [] → made.2.isDirectory place above.reverse = true) := by
  induction above generalizing tree with
  | nil => exact ⟨.refl tree, fun _ h => absurd rfl h⟩
  | cons name above ih =>
    intro made
    have hmade : made = tree.makeDirectories place (name :: above) := rfl
    unfold makeDirectories at hmade
    dsimp only at hmade
    split at hmade
    · rename_i after hfirst
      obtain ⟨hk, hd⟩ := makeDirectory_eq_ok hfirst
      rw [hmade]
      exact ⟨hk, fun _ _ => hd⟩
    · obtain ⟨hk, -⟩ := ih tree
      split at hmade
      · rename_i e after hrest
        rw [hrest] at hk
        rw [hmade]
        exact ⟨hk, fun h => by cases h⟩
      · rename_i after hrest
        rw [hrest] at hk
        split at hmade
        · rename_i after' hagain
          obtain ⟨hk', hd⟩ := makeDirectory_eq_ok hagain
          rw [hmade]
          exact ⟨hk.trans hk', fun _ _ => hd⟩
        · rw [hmade]
          exact ⟨hk, fun h _ => eq_true_of_ite_eq_ok h⟩
    · rw [hmade]
      exact ⟨.refl tree, fun h _ => eq_true_of_ite_eq_ok h⟩

/-- Where the last of some directories is there, none has to be made. -/
theorem makeDirectories_of_isDirectory {above : List String}
    (h : above ≠ [] → tree.isDirectory place above.reverse = true) :
    tree.makeDirectories place above = (.ok (), tree) := by
  cases above with
  | nil => rfl
  | cons name above =>
    have hd := h (by simp)
    rw [makeDirectories, makeDirectory_of_isDirectory hd]
    simp only [hd, if_true]

/-! ### Appending -/

/-- What a file holds that stands at a place; nothing where no file is. -/
def contentAt (tree : FileTree) (place : Place) : ByteArray :=
  match tree.node? place with
  | some (.file content) => content
  | _ => .empty

/-- Whether a text names a file that can be appended to: once the directories above it are made, it
    leads to a place where no directory is. -/
structure Opens (tree : FileTree) (text : String) (opened : FileTree) (place : Place) : Prop where
  plain : (FilePath.ofString text).names.dropLast.any (·.toList.contains '\x00') = false
  made : tree.makeDirectories (tree.start (.ofString text))
    (FilePath.ofString text).names.dropLast.reverse = (.ok (), opened)
  checked : checkPath text = .ok (.ofString text)
  located : opened.locate (.ofString text) = .ok place
  free : opened.node? place ≠ some .directory
  wantsFile : (FilePath.ofString text).wantsDirectory = false

variable {text : String} {opened : FileTree} {bytes content : ByteArray}

theorem checkPath_eq_ok {path : FilePath} (h : checkPath text = .ok path) :
    path = .ofString text := by
  unfold checkPath at h
  split at h
  · cases h
  · split at h
    · cases h
    · split at h
      · cases h
      · exact (Except.ok.inj h).symm

theorem appendFile_eq_ok_iff {path : FilePath} (hpath : path = .ofString text) :
    tree.appendFile text bytes = .ok tree' ↔
      ∃ place, checkPath text = .ok path ∧ tree.locate path = .ok place ∧
        tree.node? place ≠ some .directory ∧ path.wantsDirectory = false ∧
        tree' = tree.put place (.file (tree.contentAt place ++ bytes)) := by
  unfold appendFile
  cases hc : checkPath text with
  | error e => simp
  | ok path' =>
    obtain rfl : path' = path := (checkPath_eq_ok hc).trans hpath.symm
    cases hl : tree.locate path' with
    | error e => simp [hl]
    | ok place =>
      simp only [hl, Except.ok.injEq, true_and, exists_eq_left']
      unfold contentAt
      rcases tree.node? place with _ | (_ | content)
      · cases path'.wantsDirectory <;> simp [eq_comm]
      · simp
      · cases path'.wantsDirectory <;> simp [eq_comm]

theorem append_of_opens (h : Opens tree text opened place) (bytes : ByteArray) :
    tree.append text bytes =
      (.ok (), opened.put place (.file (opened.contentAt place ++ bytes))) := by
  have happend : opened.appendFile text bytes = .ok _ :=
    (appendFile_eq_ok_iff rfl).2 ⟨place, h.checked, h.located, h.free, h.wantsFile, rfl⟩
  simp only [append, h.plain, Bool.false_eq_true, if_false, h.made, happend]

theorem opens_of_append (h : tree.append text bytes = (.ok (), tree')) :
    ∃ opened place, Opens tree text opened place := by
  unfold append at h
  dsimp only at h
  cases hp : (FilePath.ofString text).names.dropLast.any (·.toList.contains '\x00') with
  | true =>
    simp only [hp, if_true] at h
    cases h
  | false =>
    simp only [hp, Bool.false_eq_true, if_false] at h
    split at h
    · cases h
    · rename_i hmade
      split at h
      · cases h
      · rename_i happend
        obtain ⟨place, hc, hl, hn, hw, -⟩ := (appendFile_eq_ok_iff rfl).1 happend
        exact ⟨_, place, hp, Prod.ext hmade rfl, hc, hl, hn, hw⟩

namespace Opens

theorem place_ne_nil (h : Opens tree text opened place) : place ≠ [] := by
  rintro rfl
  exact h.free opened.node?_nil

theorem keepsDirectories (h : Opens tree text opened place) : KeepsDirectories tree opened := by
  have hk := (makeDirectories_spec tree (tree.start (.ofString text))
    (FilePath.ofString text).names.dropLast.reverse).1
  rwa [h.made] at hk

/-- Once something was written to the file it can be written to without further ado. -/
theorem again (h : Opens tree text opened place) (content : ByteArray) :
    let written := opened.put place (.file content)
    Opens written text written place ∧ written.contentAt place = content := by
  intro written
  have hput : KeepsDirectories opened written := .put h.free (.file content)
  have hstart : written.start (.ofString text) = tree.start (.ofString text) :=
    (h.keepsDirectories.trans hput).start _
  have hnode : written.node? place = some (.file content) := by
    rw [node?_put opened h.place_ne_nil, if_pos rfl]
  have hlast := (makeDirectories_spec tree (tree.start (.ofString text))
    (FilePath.ofString text).names.dropLast.reverse).2
  rw [h.made] at hlast
  refine ⟨⟨h.plain, ?_, h.checked, ?_, by simp [hnode], h.wantsFile⟩, by simp [contentAt, hnode]⟩
  · rw [hstart]
    exact makeDirectories_of_isDirectory fun hne =>
      isDirectory_of_keepsDirectories hput (hlast rfl hne)
  · have hlocated := h.located
    rw [locate] at hlocated ⊢
    rw [hput.start]
    exact follow_of_keepsDirectories hput hlocated

theorem readBytes (h : Opens tree text opened place) (content : ByteArray) :
    (opened.put place (.file content)).readBytes text = .ok content := by
  obtain ⟨hagain, -⟩ := h.again content
  simp only [FileTree.readBytes, hagain.checked, hagain.located,
    node?_put opened h.place_ne_nil, if_true, hagain.wantsFile, Bool.false_eq_true, if_false]

end Opens

/-- Appending twice is appending once. -/
theorem append_append (h : tree.append text bytes = (.ok (), tree')) (content : ByteArray) :
    tree'.append text content = tree.append text (bytes ++ content) := by
  obtain ⟨opened, place, hopens⟩ := opens_of_append h
  rw [append_of_opens hopens] at h
  cases h
  obtain ⟨hagain, hcontent⟩ := hopens.again (opened.contentAt place ++ bytes)
  rw [append_of_opens hagain, append_of_opens hopens, hcontent, put_put, ByteArray.append_assoc]

/-- What a file holds when it is opened for appending; none if it cannot be opened. A file that is
    not there yet is made, and empty. -/
def appendable? (tree : FileTree) (text : String) : Option ByteArray :=
  match tree.append text .empty with
  | (.ok (), opened) => (opened.readBytes text).toOption
  | (.error _, _) => none

theorem appendable?_eq_some_iff :
    tree.appendable? text = some content ↔
      ∃ opened place, Opens tree text opened place ∧ opened.contentAt place = content := by
  constructor
  · intro h
    unfold appendable? at h
    split at h
    · rename_i opened happend
      obtain ⟨opened, place, hopens⟩ := opens_of_append happend
      rw [append_of_opens hopens] at happend
      cases happend
      rw [hopens.readBytes, ByteArray.append_empty] at h
      exact ⟨opened, place, hopens, Option.some.inj h⟩
    · cases h
  · rintro ⟨opened, place, hopens, rfl⟩
    simp only [appendable?, append_of_opens hopens, hopens.readBytes, ByteArray.append_empty]
    rfl

/-- A file with the bytes of a text is read as that text. -/
theorem readText_of_bytes {content : String}
    (h : tree.readBytes text = .ok (Text.Utf8.encode content)) :
    tree.readText text = .ok content := by
  rw [readText, h]
  simp only [Text.Utf8.decode?_encode]

/-- Appending puts the bytes behind the old content. -/
theorem readBytes_append (h : tree.appendable? text = some content) (bytes : ByteArray) :
    ∃ after, tree.append text bytes = (.ok (), after) ∧
      after.readBytes text = .ok (content ++ bytes) ∧
      after.appendable? text = some (content ++ bytes) := by
  obtain ⟨opened, place, hopens, rfl⟩ := appendable?_eq_some_iff.1 h
  have hagain := hopens.again (opened.contentAt place ++ bytes)
  exact ⟨_, append_of_opens hopens bytes, hopens.readBytes _,
    appendable?_eq_some_iff.2 ⟨_, place, hagain⟩⟩

/-! ### Other files -/

/-- Whether appending to a file makes no difference to what is read of another one. -/
def Apart (tree : FileTree) (text source : String) : Prop :=
  ∀ bytes, (tree.append text bytes).2.readText source = tree.readText source

/-- What a file holds has no influence on where paths lead. -/
theorem follow_put_file (h : tree.node? place = some (.file content)) (content' : ByteArray)
    (start : Place) (steps : List String) :
    (tree.put place (.file content')).follow start steps = tree.follow start steps := by
  have hplace : place ≠ [] := by
    rintro rfl
    cases h
  induction steps generalizing start with
  | nil => rfl
  | cons name rest ih =>
    cases rest with
    | nil => rfl
    | cons next rest =>
      rw [follow_cons_cons, follow_cons_cons]
      cases hs : step start name with
      | error e => rfl
      | ok p =>
        simp only [node?_put tree hplace, ih p]
        by_cases hp : p = place
        · subst hp
          simp only [if_true, h]
        · rw [if_neg hp]

/-- A file that is there already is apart from the files at other places. -/
theorem apart_of_other_place {source : String} (h : Opens tree text tree place)
    (hfile : tree.node? place = some (.file content))
    (hother : tree.locate (.ofString source) ≠ .ok place) : Apart tree text source := by
  intro bytes
  rw [append_of_opens h, readText, readText, FileTree.readBytes, FileTree.readBytes]
  cases hc : checkPath source with
  | error e => rfl
  | ok path =>
    obtain rfl := checkPath_eq_ok hc
    have hlocate : (tree.put place (.file (tree.contentAt place ++ bytes))).locate
        (.ofString source) = tree.locate (.ofString source) :=
      follow_put_file hfile _ _ _
    simp only [hlocate]
    cases hl : tree.locate (.ofString source) with
    | error e => rfl
    | ok target =>
      have hne : target ≠ place := by
        rintro rfl
        exact hother hl
      simp only [node?_put tree h.place_ne_nil, if_neg hne]

end FileTree

end CacheWarden
