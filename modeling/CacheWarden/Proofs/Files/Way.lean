import CacheWarden.Proofs.Files.Append
import Mathlib

/-!
# The way of a path

What a path leads to is settled by the working directory and by what stands at the places that the
path goes through. Two trees that agree there give the same file. Main statements:
`readText_of_agree`; `keepsDirectories_append`, appending takes no directory away;
`refuses_of_directoryAt` and `refuses_of_fileAbove`, paths to which nothing can be appended.
-/

namespace CacheWarden.FileTree

variable {tree tree' : FileTree} {place target p : Place} {steps : List String} {text : String}

/-- The places that some steps go through, as far as they can be followed. -/
def way (tree : FileTree) (place : Place) : List String → List Place
  | [] => []
  | name :: rest =>
      match step place name with
      | .error _ => []
      | .ok next =>
          match tree.node? next with
          | some .directory => next :: tree.way next rest
          | _ => [next]

/-- The places that a path goes through: the directories on its way and what it leads to. A path
    that is cut short goes as far as the place where something else than a directory stands. -/
def wayOf (tree : FileTree) (text : String) : List Place :=
  match checkPath text with
  | .error _ => []
  | .ok path => tree.way (tree.start path) path.steps

/-! ### Trees that agree along a path -/

theorem mem_way_of_step {name : String} (h : step place name = .ok p) (rest : List String) :
    p ∈ tree.way place (name :: rest) := by
  rw [way, h]
  dsimp only
  split
  · exact List.mem_cons_self
  · exact List.mem_singleton_self p

theorem way_of_directory {name : String} (h : step place name = .ok p)
    (hp : tree.node? p = some .directory) (rest : List String) :
    tree.way place (name :: rest) = p :: tree.way p rest := by
  simp only [way, h, hp]

theorem follow_of_agree (h : ∀ p ∈ tree.way place steps, tree'.node? p = tree.node? p) :
    tree'.follow place steps = tree.follow place steps := by
  induction steps generalizing place with
  | nil => rfl
  | cons name rest ih =>
    cases rest with
    | nil => rfl
    | cons next rest =>
      rw [follow_cons_cons, follow_cons_cons]
      cases hs : step place name with
      | error e => rfl
      | ok p =>
        simp only [h p (mem_way_of_step hs _)]
        cases hp : tree.node? p with
        | none => rfl
        | some node =>
          cases node with
          | file content => rfl
          | directory =>
            refine ih fun q hq => h q ?_
            rw [way_of_directory hs hp]
            exact List.mem_cons_of_mem p hq

/-- What some steps lead to is the last place that they go through. -/
theorem mem_way_of_follow (hne : steps ≠ []) (h : tree.follow place steps = .ok target) :
    target ∈ tree.way place steps := by
  induction steps generalizing place with
  | nil => exact absurd rfl hne
  | cons name rest ih =>
    cases rest with
    | nil => exact mem_way_of_step h []
    | cons next rest =>
      obtain ⟨p, hs, hp, hrest⟩ := directory_of_follow h
      rw [way_of_directory hs hp]
      exact List.mem_cons_of_mem p (ih (List.cons_ne_nil next rest) hrest)

/-- A path without steps leads to the root. -/
theorem absolute_of_no_steps (hne : text.isEmpty = false)
    (h : (FilePath.ofString text).steps = []) : (FilePath.ofString text).absolute = true := by
  obtain ⟨c, r, hr⟩ : ∃ c r, text.toList = c :: r := by
    refine List.exists_cons_of_ne_nil fun hnil => ?_
    rw [String.toList_eq_nil_iff.1 hnil] at hne
    cases hne
  simp only [FilePath.ofString, hr, List.map_eq_nil_iff] at h ⊢
  by_cases hc : c = '/'
  · rw [hc]
    rfl
  · rw [List.splitOnP_cons_eq_if_modifyHead, if_neg (by simpa using hc)] at h
    obtain ⟨first, others, hcut⟩ := List.exists_cons_of_ne_nil (List.splitOnP_ne_nil (· == '/') r)
    rw [hcut] at h
    cases h

theorem node?_of_agree {path : FilePath} (hpath : checkPath text = .ok path)
    (hlocated : tree.locate path = .ok target)
    (h : ∀ p ∈ tree.wayOf text, tree'.node? p = tree.node? p) :
    tree'.node? target = tree.node? target := by
  by_cases hsteps : path.steps = []
  · have hroot : target = [] := by
      obtain rfl := checkPath_eq_ok hpath
      have habsolute : (FilePath.ofString text).absolute = true := by
        refine absolute_of_no_steps ?_ hsteps
        cases he : text.isEmpty with
        | false => rfl
        | true =>
          unfold checkPath at hpath
          split at hpath
          · cases hpath
          · cases hpath
      rw [locate, hsteps, start, habsolute] at hlocated
      exact (Except.ok.inj hlocated).symm
    rw [hroot, node?_nil, node?_nil]
  · refine h target ?_
    rw [wayOf, hpath]
    exact mem_way_of_follow hsteps hlocated

/-- Trees that agree along a path give the same file. -/
theorem readText_of_agree (hdir : tree'.workingDirectory = tree.workingDirectory)
    (h : ∀ p ∈ tree.wayOf text, tree'.node? p = tree.node? p) :
    tree'.readText text = tree.readText text := by
  have hbytes : tree'.readBytes text = tree.readBytes text := by
    unfold readBytes
    cases hc : checkPath text with
    | error e => rfl
    | ok path =>
      have hlocate : tree'.locate path = tree.locate path := by
        have hstart : tree'.start path = tree.start path := by rw [start, start, hdir]
        rw [locate, locate, hstart]
        refine follow_of_agree fun p hp => h p ?_
        rwa [wayOf, hc]
      simp only [hlocate]
      cases hl : tree.locate path with
      | error e => rfl
      | ok target => simp only [node?_of_agree hc hl h]
  rw [readText, readText, hbytes]

/-! ### What appending leaves in place -/

/-- The directories that a path wants above its file. -/
abbrev above (text : String) : List String := (FilePath.ofString text).names.dropLast

/-- What appending comes to, given what became of the directories and the tree with them. -/
def appendMade (text : String) (bytes : ByteArray) (made : Except IoFailure Unit × FileTree) :
    Except IoFailure Unit × FileTree :=
  match made.1 with
  | .error e => (.error e, made.2)
  | .ok () =>
      match made.2.appendFile text bytes with
      | .error e => (.error e, made.2)
      | .ok written => (.ok (), written)

theorem append_of_nul (h : (above text).any (·.toList.contains '\x00') = true)
    (bytes : ByteArray) : tree.append text bytes = (.error .nulCharacter, tree) := by
  simp only [append, h, if_true]

/-- Behind the directories, appending is a matter of the file. -/
theorem append_of_plain (h : (above text).any (·.toList.contains '\x00') = false)
    (bytes : ByteArray) :
    tree.append text bytes = appendMade text bytes
      (tree.makeDirectories (tree.start (.ofString text)) (above text).reverse) := by
  have hmade : (if (above text).any (·.toList.contains '\x00') then (.error .nulCharacter, tree)
      else tree.makeDirectories (tree.start (.ofString text)) (above text).reverse) = _ :=
    if_neg (by rw [h]; exact Bool.false_ne_true)
  exact congrArg (appendMade text bytes) hmade

/-- Appending takes no directory away, whether it succeeds or not. -/
theorem keepsDirectories_append (tree : FileTree) (text : String) (bytes : ByteArray) :
    KeepsDirectories tree (tree.append text bytes).2 := by
  cases hnul : (above text).any (·.toList.contains '\x00') with
  | true =>
    rw [append_of_nul hnul]
    exact .refl tree
  | false =>
    have hmade := (makeDirectories_spec tree (tree.start (.ofString text)) (above text).reverse).1
    rw [append_of_plain hnul, appendMade]
    split
    · exact hmade
    · split
      · exact hmade
      · rename_i happend
        obtain ⟨place, -, -, hfree, -, rfl⟩ := (appendFile_eq_ok_iff rfl).1 happend
        exact hmade.trans (.put hfree _)

/-! ### Paths to which nothing can be appended -/

/-- Whether nothing can be appended to a file, and nothing is made in the attempt. -/
def Refuses (tree : FileTree) (text : String) : Prop :=
  ∀ bytes, ∃ e, tree.append text bytes = (.error e, tree)

/-- Whether a file stands where a path wants the directory of its file. -/
def FileAbove (tree : FileTree) (text : String) : Prop :=
  above text ≠ [] ∧ ∃ target content,
    tree.follow (tree.start (.ofString text)) (above text) = .ok target ∧
      tree.node? target = some (.file content)

/-- Whether a path leads to a directory. -/
def DirectoryAt (tree : FileTree) (text : String) : Prop :=
  tree.isDirectory (tree.start (.ofString text)) (FilePath.ofString text).steps = true

theorem makeDirectories_of_file {steps : List String} {content : ByteArray} (hne : steps ≠ [])
    (h : tree.follow place steps = .ok target) (hfile : tree.node? target = some (.file content)) :
    tree.makeDirectories place steps.reverse = (.error .fileExists, tree) := by
  have hback : steps.reverse.reverse = steps := List.reverse_reverse steps
  obtain ⟨name, rest, hsteps⟩ := List.exists_cons_of_ne_nil (List.reverse_ne_nil_iff.2 hne)
  rw [hsteps] at hback ⊢
  have hfirst : tree.makeDirectory place steps = .error .fileExists := by
    simp only [makeDirectory, h, hfile]
  have hdir : tree.isDirectory place steps = false := by
    simp only [isDirectory, h, hfile]
  simp only [makeDirectories, hback, hfirst, hdir, Bool.false_eq_true, if_false]

theorem refuses_of_fileAbove (h : tree.FileAbove text) : tree.Refuses text := by
  intro bytes
  obtain ⟨hne, target, content, hfollow, hfile⟩ := h
  cases hnul : (above text).any (·.toList.contains '\x00') with
  | true => exact ⟨_, append_of_nul hnul bytes⟩
  | false =>
    refine ⟨.fileExists, ?_⟩
    rw [append_of_plain hnul, makeDirectories_of_file hne hfollow hfile]
    rfl

theorem isDirectory_cons {name : String} (hs : step place name = .ok p)
    (hp : tree.node? p = some .directory) (h : steps ≠ [] → tree.isDirectory p steps = true) :
    tree.isDirectory place (name :: steps) = true := by
  rw [isDirectory_iff]
  cases steps with
  | nil => exact ⟨p, hs, hp⟩
  | cons next rest =>
    obtain ⟨target, hfollow, htarget⟩ := isDirectory_iff.1 (h (List.cons_ne_nil next rest))
    exact ⟨target, (follow_of_directory hs hp next rest).trans hfollow, htarget⟩

/-- Above the last name of a path that can be followed there are directories. Steps that lead
    nowhere are left out, which makes no difference to where the others lead. -/
theorem isDirectory_names_dropLast (h : tree.follow place steps = .ok target)
    (hne : (steps.filter (· != ".")).dropLast ≠ []) :
    tree.isDirectory place (steps.filter (· != ".")).dropLast = true := by
  induction steps generalizing place with
  | nil => exact absurd rfl hne
  | cons name rest ih =>
    cases rest with
    | nil =>
      refine absurd ?_ hne
      rw [List.filter_singleton]
      cases name != "." <;> rfl
    | cons next rest =>
      obtain ⟨p, hs, hp, hrest⟩ := directory_of_follow h
      by_cases hdot : name = "."
      · obtain rfl : place = p := by
          rw [hdot] at hs
          exact Except.ok.inj hs
        rw [List.filter_cons_of_neg (by simpa using hdot)] at hne ⊢
        exact ih hrest hne
      · rw [List.filter_cons_of_pos (by simpa using hdot)] at hne ⊢
        cases hnames : (next :: rest).filter (· != ".") with
        | nil =>
          rw [hnames] at hne
          exact absurd rfl hne
        | cons first others =>
          rw [List.dropLast_cons_of_ne_nil (List.cons_ne_nil first others)]
          refine isDirectory_cons hs hp fun hothers => ?_
          rw [← hnames] at hothers ⊢
          exact ih hrest hothers

theorem refuses_of_directoryAt (h : tree.DirectoryAt text) : tree.Refuses text := by
  intro bytes
  obtain ⟨target, hfollow, hdir⟩ := isDirectory_iff.1 h
  cases hnul : (above text).any (·.toList.contains '\x00') with
  | true => exact ⟨_, append_of_nul hnul bytes⟩
  | false =>
    have hmade : tree.makeDirectories (tree.start (.ofString text)) (above text).reverse =
        (.ok (), tree) := by
      refine makeDirectories_of_isDirectory fun hne => ?_
      rw [List.reverse_reverse]
      exact isDirectory_names_dropLast hfollow (List.reverse_ne_nil_iff.1 hne)
    rw [append_of_plain hnul, hmade]
    cases happend : tree.appendFile text bytes with
    | error e => exact ⟨e, by simp only [appendMade, happend]⟩
    | ok written =>
      obtain ⟨place, -, hlocated, hfree, -, -⟩ := (appendFile_eq_ok_iff rfl).1 happend
      rw [locate, hfollow] at hlocated
      cases hlocated
      exact absurd hdir hfree

end CacheWarden.FileTree
