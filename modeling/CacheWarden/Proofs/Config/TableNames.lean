import CacheWarden.Proofs.Config.Document
import CacheWarden.Proofs.Toml.Ordered
import Mathlib

/-!
# The names of the tables of a document

The names of tables are not kept in the settings, but they decide in which order the fields are met:
of several fields with one key the one whose path of names is the last one counts. So other names
for the tables leave the settings as they are exactly if, for each key, the field that counts has
the same text before and after. Main statements: `get?_settingsOfDocument_iff`, which field counts;
`placed_renamed`; and `load_renamed_iff`.
-/

namespace CacheWarden.Config

open Text Toml

/-! ### The order of fields -/

theorem exists_path_of_mem_placedAt {f : String × Value} {p : Placed} (h : p ∈ placedAt f) :
    ∃ more, p.path = f.1 :: more := by
  obtain ⟨key, v⟩ := f
  unfold placedAt at h
  split at h
  · rename_i heq
    obtain ⟨rfl, -⟩ := Prod.mk.inj heq
    obtain ⟨q, -, rfl⟩ := List.mem_map.1 h
    exact ⟨q.path, rfl⟩
  · rename_i heq
    obtain ⟨rfl, -⟩ := Prod.mk.inj heq
    obtain rfl := List.mem_singleton.1 h
    exact ⟨[], rfl⟩

/-- Where keys ascend in each table, the fields of a document stand in the order of their paths. -/
theorem pairwise_placed {fields : Fields} (h : Ordered fields) :
    (placed fields).Pairwise fun f g => f.path < g.path := by
  induction h with
  | @mk fields keys below ih =>
    rw [placed_eq_flatMap, List.pairwise_flatMap]
    constructor
    · rintro ⟨key, v⟩ hf
      unfold placedAt
      split
      · rename_i inner heq
        obtain ⟨rfl, rfl⟩ := Prod.mk.inj heq
        rw [List.pairwise_map]
        refine (ih key inner hf).imp fun hlt => ?_
        exact List.cons_lt_cons_iff.2 (Or.inr ⟨rfl, hlt⟩)
      · exact List.pairwise_singleton _ _
    · refine (List.pairwise_map.1 keys).imp fun hlt p hp q hq => ?_
      obtain ⟨more, hpath⟩ := exists_path_of_mem_placedAt hp
      obtain ⟨more', hpath'⟩ := exists_path_of_mem_placedAt hq
      rw [hpath, hpath']
      exact List.cons_lt_cons_iff.2 (Or.inl hlt)

/-! ### The field that counts -/

/-- Whether a field is the last one with its key, in the order that some paths give. -/
structure IsLast (fields : Fields) (path : Placed → List String) (f : Placed) : Prop where
  mem : f ∈ placed fields
  last : ∀ g ∈ placed fields, g.key = f.key → path g ≤ path f

theorem exists_isLast {fields : Fields} {f : Placed} (h : f ∈ placed fields)
    (path : Placed → List String) : ∃ g, IsLast fields path g ∧ g.key = f.key := by
  have hfinite : {g | g ∈ placed fields ∧ g.key = f.key}.Finite :=
    (placed fields).finite_toSet.subset fun g hg => hg.1
  obtain ⟨g, ⟨hg, hkey⟩, hlast⟩ := Set.exists_max_image _ path hfinite ⟨f, h, rfl⟩
  exact ⟨g, ⟨hg, fun f' hf' hkey' => hlast f' ⟨hf', hkey'.trans hkey⟩⟩, hkey⟩

/-- The setting of a key is that of the last field with this key. -/
theorem get?_settingsOfDocument_iff {fields : Fields} (h : Ordered fields) {k s : String} :
    (settingsOfDocument fields).get? k = some s ↔
      ∃ f, IsLast fields Placed.path f ∧ f.setting = (k, s) := by
  have hpaths := pairwise_placed h
  rw [settingsOfDocument, flatten_eq_map_placed, Table.get?_ofList_eq_some_iff]
  constructor
  · rintro ⟨before, after, hrows, hk⟩
    obtain ⟨fs, rest, hplaced, -, hrest⟩ := List.map_eq_append_iff.1 hrows
    obtain ⟨f, gs, rfl, hset, rfl⟩ := List.map_eq_cons_iff.1 hrest
    rw [hplaced] at hpaths
    have hbefore : ∀ g ∈ fs, g.path < f.path := fun g hg =>
      (List.pairwise_append.1 hpaths).2.2 g hg f List.mem_cons_self
    refine ⟨f, ⟨by simp [hplaced], fun g hg hkey => ?_⟩, hset⟩
    rw [hplaced, List.mem_append, List.mem_cons] at hg
    rcases hg with hg | rfl | hg
    · exact (hbefore g hg).le
    · exact le_rfl
    · refine absurd ?_ hk
      rw [List.map_map, ← (Prod.mk.inj hset).1, ← hkey]
      exact List.mem_map_of_mem hg
  · rintro ⟨f, ⟨hf, hlast⟩, hset⟩
    obtain ⟨fs, gs, hplaced⟩ := List.append_of_mem hf
    refine ⟨fs.map Placed.setting, gs.map Placed.setting, ?_, fun hk => ?_⟩
    · rw [hplaced, List.map_append, List.map_cons, hset]
    · rw [List.map_map] at hk
      obtain ⟨g, hg, hkey⟩ := List.mem_map.1 hk
      rw [hplaced] at hpaths hlast
      have hafter : f.path < g.path :=
        (List.pairwise_cons.1 (List.pairwise_append.1 hpaths).2.1).1 g hg
      have hle : g.path ≤ f.path :=
        hlast g (by simp [hg]) (hkey.trans (Prod.mk.inj hset).1.symm)
      exact hle.not_gt hafter

/-! ### Other names -/

/-- The names on a path of tables, where each table has the name that `name` gives its old path. -/
def renamePath (name : List String → String) : List String → List String
  | [] => []
  | key :: path => name [key] :: renamePath (fun p => name (key :: p)) path

/-- The fields in whose tables each table has the name that `name` gives to its old path. -/
def renameTables (name : List String → String) : Fields → Fields
  | [] => []
  | (key, .table inner) :: rest =>
      (name [key], .table (sortFields (renameTables (fun p => name (key :: p)) inner))) ::
        renameTables name rest
  | (key, v) :: rest => (key, v) :: renameTables name rest

/-- The document whose tables have other names. -/
def renamed (name : List String → String) (fields : Fields) : Fields :=
  sortFields (renameTables name fields)

/-- A field whose tables have other names. -/
def Placed.renamed (name : List String → String) (f : Placed) : Placed :=
  { f with tables := renamePath name f.tables }

/-- The names that lead to a field when its tables have other names. -/
def Placed.newPath (name : List String → String) (f : Placed) : List String :=
  (f.renamed name).path

theorem renamed_comp_below (name : List String → String) (key : String) :
    Placed.renamed name ∘ Placed.below key =
      Placed.below (name [key]) ∘ Placed.renamed fun p => name (key :: p) := rfl

/-- The fields keep their keys and values, and are found where their tables have gone. -/
theorem placed_renamed (name : List String → String) (fields : Fields) :
    (placed (renamed name fields)).Perm ((placed fields).map (Placed.renamed name)) := by
  refine (placed_perm (sortFields_perm _)).trans ?_
  fun_induction renameTables name fields with
  | case1 name => rw [placed, List.map_nil]
  | case2 name key inner rest ih ih' =>
    rw [placed, placed, List.map_append, List.map_map, renamed_comp_below, ← List.map_map]
    exact (((placed_perm (sortFields_perm _)).trans ih).map _).append ih'
  | case3 name key v rest h ih =>
    rw [placed, placed, List.map_cons]
    · exact ih.cons _
    · exact h
    · exact h

theorem isLast_renamed_iff {name : List String → String} {fields : Fields} {g : Placed} :
    IsLast (renamed name fields) Placed.path g ↔
      ∃ f, IsLast fields (Placed.newPath name) f ∧ f.renamed name = g := by
  have hmem (g : Placed) :
      g ∈ placed (renamed name fields) ↔ ∃ f ∈ placed fields, f.renamed name = g := by
    rw [(placed_renamed name fields).mem_iff, List.mem_map]
  constructor
  · rintro ⟨hg, hlast⟩
    obtain ⟨f, hf, rfl⟩ := (hmem g).1 hg
    exact ⟨f, ⟨hf, fun f' hf' => hlast _ ((hmem _).2 ⟨f', hf', rfl⟩)⟩, rfl⟩
  · rintro ⟨f, ⟨hf, hlast⟩, rfl⟩
    refine ⟨(hmem _).2 ⟨f, hf, rfl⟩, fun g' hg' hkey => ?_⟩
    obtain ⟨f', hf', rfl⟩ := (hmem g').1 hg'
    exact hlast f' hf' hkey

/-- What is below a table with other names is again a table with other names. -/
theorem exists_renamed_of_mem {name : List String → String} {fields : Fields} {key : String}
    {inner : Fields} (h : (key, Value.table inner) ∈ renameTables name fields) :
    ∃ name' inner', inner = renamed name' inner' := by
  fun_induction renameTables name fields with
  | case1 name => cases h
  | case2 name k inner' rest _ ih =>
    rcases List.mem_cons.1 h with heq | h
    · exact ⟨_, inner', Value.table.inj (Prod.mk.inj heq).2⟩
    · exact ih h
  | case3 name k v rest hv ih =>
    rcases List.mem_cons.1 h with heq | h
    · exact absurd (Prod.mk.inj heq).2.symm (hv inner)
    · exact ih h

theorem ordered_renamed {name : List String → String} {fields : Fields}
    (h : Distinct (renamed name fields)) : Ordered (renamed name fields) := by
  generalize hdocument : renamed name fields = document at h
  induction h generalizing name fields with
  | @mk document keys below ih =>
    subst hdocument
    have hkeys := (keys_sortFields_perm (renameTables name fields)).nodup_iff.1 keys
    refine .mk (pairwise_sortFields hkeys) fun key inner hmem => ?_
    obtain ⟨name', inner', heq⟩ := exists_renamed_of_mem (mem_sortFields.1 hmem)
    exact ih key inner hmem heq.symm

/-! ### Other names and the same settings -/

/-- Whether two sets of settings have the same value for every key. -/
def SameSettings (p q : Properties) : Prop := ∀ k, p.get? k = q.get? k

/-- Whether for each key the field that counts has the same text before and after. -/
def KeepsTexts (name : List String → String) (fields : Fields) : Prop :=
  ∀ f g, IsLast fields Placed.path f → IsLast fields (Placed.newPath name) g → f.key = g.key →
    f.text = g.text

/-- Whether fields with one key and different texts stand in the same order before and after. -/
def KeepsOrder (name : List String → String) (fields : Fields) : Prop :=
  ∀ f ∈ placed fields, ∀ g ∈ placed fields, f.key = g.key → f.text ≠ g.text →
    f.path < g.path → f.newPath name < g.newPath name

section

variable {name : List String → String} {fields : Fields}

theorem keepsTexts_of_keepsOrder (hfields : Ordered fields) (h : KeepsOrder name fields) :
    KeepsTexts name fields := by
  rintro f g ⟨hf, hlast⟩ ⟨hg, hlast'⟩ hkey
  by_contra hne
  have hpaths : ((placed fields).map Placed.path).Nodup :=
    List.pairwise_map.2 ((pairwise_placed hfields).imp ne_of_lt)
  have hpath : g.path ≠ f.path := by
    intro heq
    exact hne (List.inj_on_of_nodup_map hpaths hf hg heq.symm ▸ rfl)
  have hlt : g.path < f.path := lt_of_le_of_ne (hlast g hg hkey.symm) hpath
  exact (h g hg f hf hkey.symm (Ne.symm hne) hlt).not_ge (hlast' f hf hkey)

theorem sameSettings_renamed_iff (hfields : Ordered fields)
    (hdistinct : Distinct (renamed name fields)) :
    SameSettings (settingsOfDocument (renamed name fields)) (settingsOfDocument fields) ↔
      KeepsTexts name fields := by
  have hafter {k s : String} : (settingsOfDocument (renamed name fields)).get? k = some s ↔
      ∃ f, IsLast fields (Placed.newPath name) f ∧ f.setting = (k, s) := by
    rw [get?_settingsOfDocument_iff (ordered_renamed hdistinct)]
    constructor
    · rintro ⟨g, hg, hset⟩
      obtain ⟨f, hf, rfl⟩ := isLast_renamed_iff.1 hg
      exact ⟨f, hf, hset⟩
    · rintro ⟨f, hf, hset⟩
      exact ⟨_, isLast_renamed_iff.2 ⟨f, hf, rfl⟩, hset⟩
  constructor
  · intro hsame f g hf hg hkey
    have hfirst := (get?_settingsOfDocument_iff hfields).2 ⟨f, hf, rfl⟩
    have hsecond := hafter.2 ⟨g, hg, rfl⟩
    rw [hsame, ← hkey, hfirst] at hsecond
    exact Option.some.inj hsecond
  · intro hkeeps k
    apply Option.ext
    intro s
    rw [hafter, get?_settingsOfDocument_iff hfields]
    constructor
    · rintro ⟨g, hg, hset⟩
      obtain ⟨hk, hs⟩ := Prod.mk.inj hset
      obtain ⟨f, hf, hkey⟩ := exists_isLast hg.mem Placed.path
      exact ⟨f, hf, Prod.ext (hkey.trans hk) ((hkeeps f g hf hg hkey).trans hs)⟩
    · rintro ⟨f, hf, hset⟩
      obtain ⟨hk, hs⟩ := Prod.mk.inj hset
      obtain ⟨g, hg, hkey⟩ := exists_isLast hf.mem (Placed.newPath name)
      exact ⟨g, hg, Prod.ext (hkey.trans hk) ((hkeeps f g hf hg hkey.symm).symm.trans hs)⟩

end

/-- A configuration depends on what the keys have, and not on the order in which they were set. -/
theorem ofProperties_congr {p q : Properties} (h : SameSettings p q) (javaHome : Option String) :
    ofProperties javaHome p = ofProperties javaHome q := by
  simp only [ofProperties, readCacheDir, readExpectedCount, readReapMode, readTimeout, filled?, h _]

/-- For every text that is a document and all other names for its tables under which no key occurs
    twice in a table: the settings are the same exactly if for each key the last field has the same
    text before and after, and so they are if fields with one key and different texts keep their
    order. Where they are the same, so is the configuration, from whatever files the document is
    loaded with the one names and with the others. -/
theorem load_renamed_iff (name : List String → String) {text : String} {fields : Fields}
    (hread : Toml.read? text = some fields) (hdistinct : Distinct (renamed name fields)) :
    (SameSettings (settingsOfDocument (renamed name fields)) (settingsOfDocument fields) ↔
      KeepsTexts name fields) ∧
    (KeepsOrder name fields → KeepsTexts name fields) ∧
    (KeepsTexts name fields → ∀ javaHome : Option String,
      ofProperties javaHome (settingsOfDocument (renamed name fields)) =
        ofProperties javaHome (settingsOfDocument fields) ∧
      ∀ (files files' : FileTree) (path path' text' : String),
        isDocument path = true → files.readText path = .ok text →
        isDocument path' = true → files'.readText path' = .ok text' →
        Toml.read? text' = some (renamed name fields) →
        (load files' javaHome (some path')).value = (load files javaHome (some path)).value) := by
  have hfields := ordered_of_read? hread
  have hsame := sameSettings_renamed_iff hfields hdistinct
  refine ⟨hsame, keepsTexts_of_keepsOrder hfields, fun hkeeps javaHome => ?_⟩
  have hconfig := ofProperties_congr (hsame.2 hkeeps) javaHome
  refine ⟨hconfig, ?_⟩
  intro files files' path path' text' hpath htext hpath' htext' hread'
  rw [load_of_fields hpath htext hread, load_of_fields hpath' htext' hread', hconfig]

/-- A key that is set in two tables keeps its setting under names that keep the tables in their
    order. -/
theorem load_renamed_in_order :
    let text := "[a]\ndelete = true\n\n[b]\ndelete = false\n"
    let text' := "[x]\ndelete = true\n\n[y]\ndelete = false\n"
    let files := ((FileTree.empty []).put ["before.toml"] (.file (Utf8.encode text))).put
      ["after.toml"] (.file (Utf8.encode text'))
    (load files none (some "after.toml")).value = (load files none (some "before.toml")).value := by
  intro text text' files
  let name (path : List String) : String := if path = ["a"] then "x" else "y"
  let fields : Fields :=
    [("a", .table [("delete", .boolean true)]), ("b", .table [("delete", .boolean false)])]
  have hread : Toml.read? text = some fields := by cbv
  have hrenamed : renamed name fields =
      [("x", .table [("delete", .boolean true)]), ("y", .table [("delete", .boolean false)])] := by
    simp only [renamed, renameTables, name, fields]
    cbv
  have hread' : Toml.read? text' = some (renamed name fields) := by
    rw [hrenamed]
    cbv
  have htext : files.readText "before.toml" = .ok text := FileTree.readText_of_bytes rfl
  have htext' : files.readText "after.toml" = .ok text' := FileTree.readText_of_bytes rfl
  have horder : KeepsOrder name fields := by
    have hplaced : placed fields = [⟨["a"], "delete", .boolean true⟩,
        ⟨["b"], "delete", .boolean false⟩] := by
      simp [placed, Placed.below, fields]
    rw [KeepsOrder, hplaced]
    intro f hf g hg _ _ hlt
    simp only [List.mem_cons, List.not_mem_nil, or_false] at hf hg
    rcases hf with rfl | rfl <;> rcases hg with rfl | rfl
    · exact absurd hlt (lt_irrefl _)
    · show ["x", "delete"] < ["y", "delete"]
      decide
    · exact absurd (show ["b", "delete"] < ["a", "delete"] from hlt) (by decide)
    · exact absurd hlt (lt_irrefl _)
  obtain ⟨-, hkeeps, hload⟩ := load_renamed_iff name hread (ordered_of_read? hread').distinct
  exact (hload (hkeeps horder) none).2 files files "before.toml" "after.toml" text' (by decide)
    htext (by decide) htext' hread'

/-- Other names can put another field last: here the key has the text that the last table sets, and
    which table is the last one depends on its name. A table inside an array is no table that fields
    are taken from: its name stands in the text of the array. -/
theorem load_renamed_out_of_order :
    let text := "[a]\ndelete = true\n\n[b]\ndelete = false\n"
    let text' := "[b]\ndelete = false\n\n[c]\ndelete = true\n"
    let name := fun path => if path = ["a"] then "c" else "b"
    let files := ((FileTree.empty []).put ["before.toml"] (.file (Utf8.encode text))).put
      ["after.toml"] (.file (Utf8.encode text'))
    (∃ fields, Toml.read? text = some fields ∧ Toml.read? text' = some (renamed name fields) ∧
      Distinct (renamed name fields) ∧
      (settingsOfDocument fields).get? "delete" = some "false" ∧
      (settingsOfDocument (renamed name fields)).get? "delete" = some "true" ∧
      ∃ c c', (load files none (some "before.toml")).value = .ok c ∧ c.delete = false ∧
        (load files none (some "after.toml")).value = .ok c' ∧ c'.delete = true) ∧
    (Toml.read? "java = [\x7b a = \x7b n = 1 \x7d \x7d]\n").map
        (fun fields => (settingsOfDocument fields).get? "java") =
      some (some "\x7b a = \x7b n = 1 \x7d \x7d") ∧
    (Toml.read? "java = [\x7b b = \x7b n = 1 \x7d \x7d]\n").map
        (fun fields => (settingsOfDocument fields).get? "java") =
      some (some "\x7b b = \x7b n = 1 \x7d \x7d") := by
  intro text text' name files
  let fields : Fields :=
    [("a", .table [("delete", .boolean true)]), ("b", .table [("delete", .boolean false)])]
  have hread : Toml.read? text = some fields := by cbv
  have hrenamed : renamed name fields =
      [("b", .table [("delete", .boolean false)]), ("c", .table [("delete", .boolean true)])] := by
    simp only [renamed, renameTables, name, fields]
    cbv
  have hread' : Toml.read? text' = some (renamed name fields) := by
    rw [hrenamed]
    cbv
  have htext : files.readText "before.toml" = .ok text := FileTree.readText_of_bytes rfl
  have htext' : files.readText "after.toml" = .ok text' := FileTree.readText_of_bytes rfl
  have hbefore : (settingsOfDocument fields).get? "delete" = some "false" := by
    rw [settingsOfDocument]
    simp only [flatten, fields]
    cbv
  have hafter : (settingsOfDocument (renamed name fields)).get? "delete" = some "true" := by
    rw [settingsOfDocument, hrenamed]
    simp only [flatten]
    cbv
  refine ⟨⟨fields, hread, hread', (ordered_of_read? hread').distinct, hbefore, hafter, _, _,
    load_of_fields (by decide) htext hread none, ?_,
    load_of_fields (by decide) htext' hread' none, ?_⟩, by cbv, by cbv⟩
  · rw [value_ofProperties]
    simp only [hbefore]
    decide
  · rw [value_ofProperties]
    simp only [hafter]
    decide

end CacheWarden.Config
