import CacheWarden.Proofs.Registry.Load
import CacheWarden.Proofs.Table
import Mathlib

/-!
# What a registry holds

What comes of a list of declaration files, said without the loader. A file declares at most one
cache, and everything that is known of a declared cache comes from one file: the last one in the
list that gives its name. Main statements: `declares_iff`, the settings of a file settle what it
declares; `get?_addFiles`; `load_exact`, all that comes of a list of files.
-/

namespace CacheWarden

open Text

namespace Declaration

/-- The name that a declaration file gives; none if it gives nothing but blanks. -/
def nameIn? (text : String) : Option String :=
  (((Properties.parse text).get? "name").map fun s => String.ofList (trim s.toList)).filter (· ≠ "")

/-- The setting of a declaration file that says of what kind the cache is. -/
def kindIn? (text : String) : Option String := (Properties.parse text).get? "persistence"

/-- Whether a setting writes a word, with blanks around it and in any ASCII case. -/
def Writes (raw word : String) : Prop := lowerAscii (trim raw.toList) = word.toList

/-- Whether a file with this text declares a cache. -/
structure Declares (source text : String) (d : Declaration) : Prop where
  name : nameIn? text = some d.name
  persistent : d.persistent = true ↔ ∃ raw, kindIn? text = some raw ∧ Writes raw "true"
  defaulted : d.defaulted = true ↔
    ∀ raw, kindIn? text = some raw → ¬ Writes raw "true" ∧ ¬ Writes raw "false"
  source : d.source = source

/-! ### One file -/

theorem sameIgnoringCase_iff {raw word : String} (h : lowerAscii word.toList = word.toList) :
    sameIgnoringCase (trim raw.toList) word.toList = true ↔ Writes raw word := by
  rw [sameIgnoringCase, h, beq_iff_eq, Writes]

theorem bool?_eq_true_iff {raw : String} :
    Setting.bool? (trim raw.toList) = some true ↔ Writes raw "true" := by
  rw [← sameIgnoringCase_iff (by decide), Setting.bool?]
  split
  · simp_all
  · split <;> simp_all

theorem bool?_eq_none_iff {raw : String} :
    Setting.bool? (trim raw.toList) = none ↔ ¬ Writes raw "true" ∧ ¬ Writes raw "false" := by
  rw [← sameIgnoringCase_iff (by decide), ← sameIgnoringCase_iff (by decide), Setting.bool?]
  split
  · simp_all
  · split <;> simp_all

theorem value_readKind (source : String) (value : Option String) :
    (readKind source value).value =
      match value.bind fun raw => Setting.bool? (trim raw.toList) with
      | some b => (b, false)
      | none => (false, true) := by
  cases value with
  | none => rfl
  | some raw =>
    simp only [readKind, Setting.readBool, Option.bind_some]
    cases Setting.bool? (trim raw.toList) <;> rfl

theorem persistent_readKind_iff (source : String) (value : Option String) :
    (readKind source value).value.1 = true ↔ ∃ raw, value = some raw ∧ Writes raw "true" := by
  rw [value_readKind]
  cases value with
  | none => simp
  | some raw =>
    simp only [Option.bind_some, Option.some.injEq, exists_eq_left', ← bool?_eq_true_iff]
    cases Setting.bool? (trim raw.toList) <;> simp

theorem defaulted_readKind_iff (source : String) (value : Option String) :
    (readKind source value).value.2 = true ↔
      ∀ raw, value = some raw → ¬ Writes raw "true" ∧ ¬ Writes raw "false" := by
  rw [value_readKind]
  cases value with
  | none => simp
  | some raw =>
    simp only [Option.bind_some, Option.some.injEq, forall_eq', ← bool?_eq_none_iff]
    cases Setting.bool? (trim raw.toList) <;> simp

theorem value_ofProperties (source text : String) :
    (ofProperties source (Properties.parse text)).value =
      (nameIn? text).map fun name =>
        let kind := (readKind source (kindIn? text)).value
        { name, persistent := kind.1, defaulted := kind.2, source } := by
  unfold ofProperties nameIn?
  dsimp only
  cases (((Properties.parse text).get? "name").map fun s =>
    String.ofList (trim s.toList)).filter (· ≠ "") <;> rfl

/-- The settings of a file settle what it declares. -/
theorem declares_iff {source text : String} {d : Declaration} :
    Declares source text d ↔ (ofProperties source (Properties.parse text)).value = some d := by
  have hpersistent := persistent_readKind_iff source (kindIn? text)
  have hdefaulted := defaulted_readKind_iff source (kindIn? text)
  rw [value_ofProperties, Option.map_eq_some_iff]
  constructor
  · intro h
    refine ⟨d.name, h.name, ?_⟩
    obtain ⟨name, persistent, defaulted, source'⟩ := d
    obtain rfl : source' = source := h.source
    have hp := Bool.eq_iff_iff.2 (hpersistent.trans h.persistent.symm)
    have hd := Bool.eq_iff_iff.2 (hdefaulted.trans h.defaulted.symm)
    simp only [hp, hd]
  · rintro ⟨name, hname, rfl⟩
    exact ⟨hname, hpersistent, hdefaulted, rfl⟩

theorem exists_declares {text name : String} (source : String) (h : nameIn? text = some name) :
    ∃ d, Declares source text d ∧ d.name = name := by
  simp only [declares_iff, value_ofProperties, h, Option.map_some, Option.some.injEq]
  exact ⟨_, rfl, rfl⟩

theorem ofProperties_eq_none_iff {source text : String} :
    (ofProperties source (Properties.parse text)).value = none ↔ nameIn? text = none := by
  rw [value_ofProperties, Option.map_eq_none_iff]

end Declaration

namespace Registry

open Declaration

/-- The name that one of some files gives, if the file can be read. -/
def nameGiven? (files : FileTree) (source : String) : Option String :=
  (files.readText source).toOption.bind nameIn?

/-- The names that some files give, in the order of the files. -/
def namesGiven (files : FileTree) (sources : List String) : List String :=
  sources.filterMap (nameGiven? files)

/-- Whether a declaration is the last one of its name. -/
def LastDeclared (files : FileTree) (sources : List String) (d : Declaration) : Prop :=
  ∃ before source after text, sources = before ++ source :: after ∧
    files.readText source = .ok text ∧ Declares source text d ∧
    ∀ later ∈ after, nameGiven? files later ≠ some d.name

variable {files : FileTree} {source text : String} {rest sources : List String}
  {d : Declaration} {r : Registry}

theorem nameGiven?_of_ok (h : files.readText source = .ok text) :
    nameGiven? files source = nameIn? text := by
  rw [nameGiven?, h]
  rfl

theorem mem_namesGiven_cons {name : String} :
    name ∈ namesGiven files (source :: rest) ↔
      nameGiven? files source = some name ∨ name ∈ namesGiven files rest := by
  simp [namesGiven, List.mem_filterMap]

theorem name_mem_namesGiven (h : LastDeclared files sources d) :
    d.name ∈ namesGiven files sources := by
  obtain ⟨before, source, after, text, rfl, htext, hd, -⟩ := h
  rw [namesGiven, List.mem_filterMap]
  exact ⟨source, by simp, by rw [nameGiven?_of_ok htext, hd.name]⟩

theorem lastDeclared_cons_iff (h : files.readText source = .ok text) :
    LastDeclared files (source :: rest) d ↔
      LastDeclared files rest d ∨ Declares source text d ∧ d.name ∉ namesGiven files rest := by
  have hgiven : d.name ∉ namesGiven files rest ↔
      ∀ later ∈ rest, nameGiven? files later ≠ some d.name := by
    simp [namesGiven, List.mem_filterMap]
  rw [hgiven]
  constructor
  · rintro ⟨before, source', after, text', hsources, htext, hd, hlast⟩
    cases before with
    | nil =>
      obtain ⟨rfl, rfl⟩ := List.cons.inj hsources
      rw [h] at htext
      cases htext
      exact Or.inr ⟨hd, hlast⟩
    | cons first before =>
      obtain ⟨rfl, rfl⟩ := List.cons.inj hsources
      exact Or.inl ⟨before, source', after, text', rfl, htext, hd, hlast⟩
  · rintro (⟨before, source', after, text', rfl, htext, hd, hlast⟩ | ⟨hd, hlast⟩)
    · exact ⟨source :: before, source', after, text', rfl, htext, hd, hlast⟩
    · exact ⟨[], source, rest, text, rfl, h, hd, hlast⟩

/-! ### One file after the other -/

theorem value_addFile (r : Registry) (source text : String) :
    (r.addFile source text).value =
      match (ofProperties source (Properties.parse text)).value with
      | none => r
      | some d => r.insert d := by
  rw [addFile, Logged.value_bind, Logged.value_bind]
  show Logged.value (match (ofProperties source (Properties.parse text)).value with
    | none => _ | some d => _) = _
  cases (ofProperties source (Properties.parse text)).value with
  | none => rfl
  | some d =>
    simp only [Logged.value_bind]
    cases r.get? d.name <;> rfl

/-- What a file adds: what it declares takes the place of what was declared under the name. -/
theorem get?_addFile_iff (h : files.readText source = .ok text) {name : String} :
    (r.addFile source text).value.get? name = some d ↔
      Declares source text d ∧ d.name = name ∨
        nameGiven? files source ≠ some name ∧ r.get? name = some d := by
  rw [value_addFile, nameGiven?_of_ok h]
  cases hv : (ofProperties source (Properties.parse text)).value with
  | none =>
    have hname : nameIn? text = none := ofProperties_eq_none_iff.1 hv
    simp [declares_iff, hv, hname]
  | some e =>
    have hname : nameIn? text = some e.name := (declares_iff.2 hv).name
    simp only [declares_iff, hv, hname, get?_insert, Option.some.injEq, ne_eq]
    by_cases hn : name = e.name
    · subst hn
      simp only [if_true, Option.some.injEq, not_true_eq_false, false_and, or_false]
      constructor
      · rintro rfl
        exact ⟨rfl, rfl⟩
      · exact fun h => h.1
    · rw [if_neg hn]
      constructor
      · exact fun hr => Or.inr ⟨Ne.symm hn, hr⟩
      · rintro (⟨rfl, rfl⟩ | ⟨-, hr⟩)
        · exact absurd rfl hn
        · exact hr

/-- The entry of a name is the last declaration of the name, or else what was there before. -/
theorem get?_addFiles {r' : Registry} (h : (addFiles files r sources).value = .ok r')
    {name : String} :
    r'.get? name = some d ↔
      LastDeclared files sources d ∧ d.name = name ∨
        name ∉ namesGiven files sources ∧ r.get? name = some d := by
  induction sources generalizing r with
  | nil =>
    cases h
    simp [LastDeclared, namesGiven]
  | cons source rest ih =>
    cases htext : files.readText source with
    | error cause =>
      rw [addFiles_cons_of_error htext] at h
      cases h
    | ok text =>
      rw [addFiles_cons_of_ok htext] at h
      rw [ih h, get?_addFile_iff htext, lastDeclared_cons_iff htext, mem_namesGiven_cons, not_or]
      constructor
      · rintro (⟨hd, hn⟩ | ⟨hrest, ⟨hd, rfl⟩ | ⟨hne, hr⟩⟩)
        · exact Or.inl ⟨Or.inl hd, hn⟩
        · exact Or.inl ⟨Or.inr ⟨hd, hrest⟩, rfl⟩
        · exact Or.inr ⟨⟨hne, hrest⟩, hr⟩
      · rintro (⟨hd | ⟨hd, hrest⟩, rfl⟩ | ⟨⟨hne, hrest⟩, hr⟩)
        · exact Or.inl ⟨hd, rfl⟩
        · exact Or.inr ⟨hrest, Or.inl ⟨hd, rfl⟩⟩
        · exact Or.inr ⟨hrest, Or.inr ⟨hne, hr⟩⟩

theorem get?_load {r : Registry} (h : (load files sources).value = .ok r) {name : String} :
    r.get? name = some d ↔ LastDeclared files sources d ∧ d.name = name := by
  rw [get?_addFiles h]
  simp [get?, empty]

/-! ### All files -/

/-- Whether a failure names the first of some files that cannot be read. -/
def FirstUnreadable (files : FileTree) (sources : List String) (e : Failure) : Prop :=
  ∃ before source after cause, sources = before ++ source :: after ∧
    (∀ earlier ∈ before, ∃ text, files.readText earlier = .ok text) ∧
    files.readText source = .error cause ∧ e = .declarationRead source cause

theorem firstUnreadable_cons_of_error {cause : IoFailure} {e : Failure}
    (h : files.readText source = .error cause) :
    FirstUnreadable files (source :: rest) e ↔ e = .declarationRead source cause := by
  constructor
  · rintro ⟨before, source', after, cause', hsources, hbefore, hsource, rfl⟩
    cases before with
    | nil =>
      obtain ⟨rfl, rfl⟩ := List.cons.inj hsources
      rw [h] at hsource
      cases hsource
      rfl
    | cons first before =>
      obtain ⟨rfl, rfl⟩ := List.cons.inj hsources
      obtain ⟨text, htext⟩ := hbefore source List.mem_cons_self
      rw [h] at htext
      cases htext
  · rintro rfl
    exact ⟨[], source, rest, cause, rfl, by simp, h, rfl⟩

theorem firstUnreadable_cons_of_ok {e : Failure} (h : files.readText source = .ok text) :
    FirstUnreadable files (source :: rest) e ↔ FirstUnreadable files rest e := by
  constructor
  · rintro ⟨before, source', after, cause, hsources, hbefore, hsource, rfl⟩
    cases before with
    | nil =>
      obtain ⟨rfl, rfl⟩ := List.cons.inj hsources
      rw [h] at hsource
      cases hsource
    | cons first before =>
      obtain ⟨rfl, rfl⟩ := List.cons.inj hsources
      exact ⟨before, source', after, cause, rfl,
        fun earlier hin => hbefore earlier (List.mem_cons_of_mem _ hin), hsource, rfl⟩
  · rintro ⟨before, source', after, cause, rfl, hbefore, hsource, rfl⟩
    refine ⟨source :: before, source', after, cause, rfl, ?_, hsource, rfl⟩
    intro earlier hearlier
    rcases List.mem_cons.1 hearlier with rfl | hearlier
    · exact ⟨text, h⟩
    · exact hbefore earlier hearlier

/-- The first file that cannot be read is the one that a failure names. -/
theorem addFiles_eq_error_iff {e : Failure} :
    (addFiles files r sources).value = .error e ↔ FirstUnreadable files sources e := by
  induction sources generalizing r with
  | nil => simp [addFiles, FirstUnreadable]
  | cons first rest ih =>
    cases hfirst : files.readText first with
    | error cause =>
      rw [addFiles_cons_of_error hfirst, firstUnreadable_cons_of_error hfirst, Except.error.injEq,
        eq_comm]
    | ok text => rw [addFiles_cons_of_ok hfirst, firstUnreadable_cons_of_ok hfirst, ih]

theorem exists_lastDeclared {name : String}
    (hread : ∀ source ∈ sources, ∃ text, files.readText source = .ok text)
    (h : name ∈ namesGiven files sources) : ∃ d, LastDeclared files sources d ∧ d.name = name := by
  induction sources with
  | nil => cases h
  | cons source rest ih =>
    obtain ⟨text, htext⟩ := hread source List.mem_cons_self
    simp only [lastDeclared_cons_iff htext]
    by_cases hlater : name ∈ namesGiven files rest
    · obtain ⟨d, hd, rfl⟩ := ih (fun source' h => hread source' (List.mem_cons_of_mem _ h)) hlater
      exact ⟨d, Or.inl hd, rfl⟩
    · have hname := (mem_namesGiven_cons.1 h).resolve_right hlater
      rw [nameGiven?_of_ok htext] at hname
      obtain ⟨d, hd, rfl⟩ := exists_declares source hname
      exact ⟨d, Or.inr ⟨hd, hlater⟩, rfl⟩

theorem size_load {r : Registry} (h : (load files sources).value = .ok r) :
    r.size = (namesGiven files sources).toFinset.card := by
  have hread := (load_isOk_iff files sources).1 ⟨r, h⟩
  have hkeys : r.entries.keys.toFinset = (namesGiven files sources).toFinset := by
    ext name
    rw [List.mem_toFinset, List.mem_toFinset, Table.mem_keys_iff]
    constructor
    · rintro ⟨d, hd⟩
      obtain ⟨hlast, rfl⟩ := (get?_load h).1 hd
      exact name_mem_namesGiven hlast
    · intro hname
      obtain ⟨d, hd⟩ := exists_lastDeclared hread hname
      exact ⟨d, (get?_load h).2 hd⟩
  have hdistinct : r.entries.keys.Nodup := r.entries.distinct
  rw [← hkeys, List.toFinset_card_of_nodup hdistinct, Table.keys, List.length_map]
  rfl

/-- Where no name is given twice, the order of the files makes no difference. -/
theorem lastDeclared_iff_of_nodup (distinct : (namesGiven files sources).Nodup) :
    LastDeclared files sources d ↔
      ∃ source ∈ sources, ∃ text, files.readText source = .ok text ∧ Declares source text d := by
  constructor
  · rintro ⟨before, source, after, text, rfl, htext, hd, -⟩
    exact ⟨source, by simp, text, htext, hd⟩
  · rintro ⟨source, hsource, text, htext, hd⟩
    obtain ⟨before, after, rfl⟩ := List.append_of_mem hsource
    refine ⟨before, source, after, text, rfl, htext, hd, ?_⟩
    intro later hlater hname
    have hgiven : nameGiven? files source = some d.name := by rw [nameGiven?_of_ok htext, hd.name]
    rw [namesGiven, List.filterMap_append, List.nodup_append, List.filterMap_cons, hgiven,
      List.nodup_cons, List.mem_filterMap] at distinct
    exact distinct.2.1.1 ⟨later, hlater, hname⟩

theorem get?_load_of_perm {sources' : List String} (hperm : sources'.Perm sources)
    (distinct : (namesGiven files sources).Nodup) {r r' : Registry}
    (h : (load files sources).value = .ok r) (h' : (load files sources').value = .ok r')
    (name : String) : r'.get? name = r.get? name := by
  have distinct' : (namesGiven files sources').Nodup :=
    (hperm.filterMap (nameGiven? files)).nodup_iff.2 distinct
  ext d
  rw [get?_load h, get?_load h', lastDeclared_iff_of_nodup distinct,
    lastDeclared_iff_of_nodup distinct']
  simp only [hperm.mem_iff]

/-- For all files and every list of sources: declarations are loaded exactly if every source can be
    read as text, and a failure names the first one that cannot. What is loaded holds for each name
    the last declaration of that name and nothing else, so there are as many entries as names, and
    sources that give no name twice may come in any order. -/
theorem load_exact (files : FileTree) (sources : List String) :
    (∀ e, (load files sources).value = .error e ↔
      ∃ before source after cause, sources = before ++ source :: after ∧
        (∀ earlier ∈ before, ∃ text, files.readText earlier = .ok text) ∧
        files.readText source = .error cause ∧ e = .declarationRead source cause) ∧
      ((∃ r, (load files sources).value = .ok r) ↔
        ∀ source ∈ sources, ∃ text, files.readText source = .ok text) ∧
      ∀ r, (load files sources).value = .ok r →
        (∀ name d, r.get? name = some d ↔ LastDeclared files sources d ∧ d.name = name) ∧
          r.size = (namesGiven files sources).toFinset.card ∧
          ((namesGiven files sources).Nodup → ∀ sources', sources'.Perm sources →
            ∃ r', (load files sources').value = .ok r' ∧ ∀ name, r'.get? name = r.get? name) := by
  refine ⟨fun e => addFiles_eq_error_iff, load_isOk_iff files sources, ?_⟩
  intro r h
  refine ⟨fun name d => get?_load h, size_load h, ?_⟩
  intro distinct sources' hperm
  have hread := (load_isOk_iff files sources).1 ⟨r, h⟩
  obtain ⟨r', h'⟩ := (load_isOk_iff files sources').2 fun source hsource =>
    hread source (hperm.mem_iff.1 hsource)
  exact ⟨r', h', get?_load_of_perm hperm distinct h h'⟩

/-- Two files with different names give the same entries in either order. -/
theorem load_of_swapped_files :
    let files := ((FileTree.empty []).put ["a"] (.file "name=T1\npersistence= TRUE".toUTF8)).put
      ["b"] (.file "name : T2\npersistence=yes".toUTF8)
    ∃ r r', (load files ["a", "b"]).value = .ok r ∧ (load files ["b", "a"]).value = .ok r' ∧
      r.get? "T1" = some ⟨"T1", true, false, "a"⟩ ∧ r.get? "T2" = some ⟨"T2", false, true, "b"⟩ ∧
      ∀ name, r'.get? name = r.get? name := by
  intro files
  let t1 : Declaration := ⟨"T1", true, false, "a"⟩
  let t2 : Declaration := ⟨"T2", false, true, "b"⟩
  have h : (load files ["a", "b"]).value = .ok (.ofList [t1, t2]) := by decide +kernel
  have distinct : (namesGiven files ["a", "b"]).Nodup := by decide +kernel
  obtain ⟨r', h', hsame⟩ :=
    ((load_exact files ["a", "b"]).2.2 _ h).2.2 distinct ["b", "a"] (.swap "a" "b" [])
  exact ⟨_, r', h, h', by decide +kernel, by decide +kernel, hsame⟩

end Registry

end CacheWarden
