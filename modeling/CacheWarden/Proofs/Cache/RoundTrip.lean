import CacheWarden.Proofs.Cache.Reading
import CacheWarden.Proofs.Cache.Row
import CacheWarden.Proofs.Text.Replace
import Mathlib

/-!
# Reading a printed listing

What a listing says is read back from its text, line by line: each line gives the cache it was
printed for, if any, and leaves the reader in the section that the line stands in. Main statements:
`caches_text`, the caches that are found in a printed listing, and `caches_text_eq_iff`, these are
the printed ones exactly if no handles stand behind a layer whose number does not fit 64 bits.
-/

namespace CacheWarden.Listing

open Text

/-! ### What a line is -/

theorem read_filler (s : Section) (f : Filler) : Line.read s f.line = .passed := by
  cases f with
  | blank g => exact read_of_passed s (Or.inl (trim_eq_nil fun _ => Gap.isBlank_of_mem))
  | message indent rest plain =>
    have htrim : trim (indent.chars ++ ("JVMSHRC".toList ++ rest)) =
        "JVMSHRC".toList ++ trimEnd rest :=
      trim_front (fun _ => Gap.isBlank_of_mem) (by decide) (by rintro c ⟨⟩; decide)
        (by rintro c ⟨⟩; decide) rest
    exact read_of_passed s (Or.inr (htrim ▸ List.prefix_append _ _))

theorem isHeader_append (indent : Gap) (heading : List Char) :
    IsHeader (indent.chars ++ ("Cache name".toList ++ heading)) := by
  have htrim : trim (indent.chars ++ ("Cache name".toList ++ heading)) =
      "Cache name".toList ++ trimEnd heading :=
    trim_front (fun _ => Gap.isBlank_of_mem) (by decide) (by rintro c ⟨⟩; decide)
      (by rintro c ⟨⟩; decide) heading
  rw [IsHeader, htrim]
  exact List.prefix_append _ _

theorem read_header (s : Section) (p : PrintedListing) :
    Line.read s p.header = .header p.hasLayers :=
  read_of_header s (isHeader_append p.indent p.heading)

theorem read_title (s : Section) (t : PrintedSection) :
    Line.read s t.title = .title t.compatible := by
  have htrim : trim t.title = titleText t.compatible := by
    apply trim_around (fun _ => Gap.isBlank_of_mem) (fun _ => Gap.isBlank_of_mem)
    · cases t.compatible <;> (rintro c ⟨⟩; decide)
    · cases t.compatible <;> (rintro c ⟨⟩; decide)
  refine read_of_title s (title?_eq_some_iff.2 ?_)
  rw [htrim]

/-- No name of a column and no title of a section has a second word that starts like a level. -/
theorem not_heading_of_secondInitial {row : List Char} (h : secondInitial row = some 'J') :
    "Cache name".toList.isPrefixOf row = false ∧
      "Incompatible shared caches".toList.isPrefixOf row = false ∧
      "Compatible shared caches".toList.isPrefixOf row = false := by
  simp only [← Bool.not_eq_true, List.isPrefixOf_iff_prefix]
  refine ⟨?_, ?_, ?_⟩
  · rintro ⟨r, rfl⟩
    have hn : secondInitial ("Cache name".toList ++ r) = some 'n' := rfl
    rw [hn] at h
    cases h
  · rintro ⟨r, rfl⟩
    have hs : secondInitial ("Incompatible shared caches".toList ++ r) = some 's' := rfl
    rw [hs] at h
    cases h
  · rintro ⟨r, rfl⟩
    have hs : secondInitial ("Compatible shared caches".toList ++ r) = some 's' := rfl
    rw [hs] at h
    cases h

/-- A line in a section that is neither a message nor a heading is read as a row. -/
theorem read_row {s : Section} {compatible : Bool} (hs : s.compatible = some compatible)
    {line row : List Char} (htrim : trim line = row)
    (hmessage : "JVMSHRC".toList.isPrefixOf row = false) (hJ : secondInitial row = some 'J') :
    Line.read s line =
      if isSnapshotRow row then .snapshot row
      else (readRow compatible s.hasLayers row).elim (.unknown row) .cache := by
  obtain ⟨hheader, hincompatible, hcompatible⟩ := not_heading_of_secondInitial hJ
  subst htrim
  have hstart : StartsLikeRow line := by
    refine ⟨fun hnil => ?_, isPrefixOf_eq_false_iff.1 hmessage,
      isPrefixOf_eq_false_iff.1 hheader, fun compatible => ?_⟩
    · rw [hnil] at hJ
      cases hJ
    · cases compatible with
      | true => exact isPrefixOf_eq_false_iff.1 hcompatible
      | false => exact isPrefixOf_eq_false_iff.1 hincompatible
  exact read_of_startsLikeRow hs hstart

theorem RowStart.secondInitial_columns (r : RowStart) (separators : Nat → Separator)
    (rest : List (List Char)) :
    secondInitial (spaced separators (r.columns ++ rest)) = some 'J' :=
  secondInitial_spaced separators r.named (isWord_levelColumn r.levelled)

/-- A message is told by its first word. -/
theorem not_message_spaced (separators : Nat → Separator) {name : List Char} (hname : name ≠ [])
    (h : ¬ "JVMSHRC".toList <+: name) (level : List Char) (rest : List (List Char)) :
    "JVMSHRC".toList.isPrefixOf (spaced separators (name :: level :: rest)) = false := by
  rw [← Bool.not_eq_true, List.isPrefixOf_iff_prefix, spaced_cons_cons]
  intro hprefix
  refine h (prefix_of_prefix_append hname ?_ hprefix)
  intro c hc
  rw [List.head?_append_of_ne_nil _ (separators 0).wide] at hc
  rcases (separators 0).plain c (List.mem_of_mem_head? hc) with rfl | rfl <;> decide

theorem read_cache {s : Section} {compatible : Bool} (hs : s.compatible = some compatible)
    (r : CacheRow) : Line.read s (r.layout.line (r.columns s.hasLayers)) =
      .cache (r.found s.hasLayers compatible) := by
  have hword : ∀ w ∈ r.columns s.hasLayers, IsWord w := fun _ => CacheRow.isWord_of_mem_columns
  have hsnapshot : isSnapshotRow (spaced r.layout.separators (r.columns s.hasLayers)) = false := by
    have hkind : (r.columns s.hasLayers)[3]? = some r.persistence.name.toList := rfl
    rw [isSnapshotRow, words_spaced _ hword, hkind]
    cases r.persistence <;> decide
  rw [read_row hs (r.layout.trim_line hword)
    (not_message_spaced r.layout.separators r.named.ne_nil r.unlikeMessage _ _)
    (r.secondInitial_columns r.layout.separators _), hsnapshot, r.readRow_columns]
  rfl

/-- The row of a snapshot is passed over, as a message if its name starts like one. -/
theorem read_snapshot {s : Section} {compatible : Bool} (hs : s.compatible = some compatible)
    (r : SnapshotRow) : Line.read s (r.layout.line r.columns) = .passed ∨
      ∃ row, Line.read s (r.layout.line r.columns) = .snapshot row := by
  have hword : ∀ w ∈ r.columns, IsWord w := fun _ => SnapshotRow.isWord_of_mem_columns
  have htrim := r.layout.trim_line hword
  -- unlike the name of a cache, that of a snapshot may start like a message
  by_cases hmessage : "JVMSHRC".toList.isPrefixOf (spaced r.layout.separators r.columns) = true
  · left
    refine read_of_passed s (Or.inr ?_)
    rw [htrim, ← List.isPrefixOf_iff_prefix]
    exact hmessage
  · right
    have hsnapshot : isSnapshotRow (spaced r.layout.separators r.columns) = true := by
      have hkind : r.columns[3]? = some "snapshot".toList := rfl
      rw [isSnapshotRow, words_spaced _ hword, hkind]
      exact beq_self_eq_true _
    rw [read_row hs htrim (Bool.not_eq_true _ ▸ hmessage)
      (r.secondInitial_columns r.layout.separators _), hsnapshot]
    exact ⟨_, rfl⟩

/-- Before the first section, a line that is not a title gives no cache. -/
theorem read_preface {s : Section} (hs : s.compatible = none) {line : List Char}
    (h : ∀ compatible, ¬ titleText compatible <+: trim line) :
    Line.read s line = .passed ∨ ∃ hasLayers, Line.read s line = .header hasLayers := by
  rcases line_cases line with ⟨compatible, ht⟩ | hheader | hpassed | hstart
  · exact absurd (title?_eq_some_iff.1 ht) (h compatible)
  · exact Or.inr ⟨_, read_of_header s hheader⟩
  · exact Or.inl (read_of_passed s hpassed)
  · exact Or.inl (read_of_outside hs hstart)

/-! ### From line to line -/

/-- Whether lines lead from one place of a listing to another, with these caches on the way,
    whatever follows. -/
def Leads (s : Section) (ls : List (List Char)) (caches : List Descriptor) (t : Section) : Prop :=
  ∀ rest, (readLines s (ls ++ rest)).filterMap Line.cache? =
    caches ++ (readLines t rest).filterMap Line.cache?

namespace Leads

variable {s t u : Section} {a b : List (List Char)} {f g : List Descriptor}

theorem nil (s : Section) : Leads s [] [] s := fun _ => rfl

theorem append (ha : Leads s a f t) (hb : Leads t b g u) : Leads s (a ++ b) (f ++ g) u := by
  intro rest
  rw [List.append_assoc, ha, hb, List.append_assoc]

theorem step {l : Line} {line : List Char} (h : Line.read s line = l) :
    Leads s [line] l.cache?.toList (s.after l) := by
  intro rest
  show ((Line.read s line :: readLines (s.after (Line.read s line)) rest).filterMap Line.cache?) = _
  rw [h]
  cases l <;> rfl

theorem caches_eq {text : String} (h : Leads {} (lines text.toList) f t) : caches text = f := by
  have h := h []
  rw [List.append_nil] at h
  rw [caches, linesOf, h]
  exact List.append_nil f

theorem fillers (s : Section) (fs : List Filler) : Leads s (fs.map Filler.line) [] s := by
  induction fs with
  | nil => exact nil s
  | cons f fs ih => exact append (step (read_filler s f)) ih

/-- What stands before the names of the columns gives no cache, and opens no section. -/
theorem preface {ls : List (List Char)} (s : Section) (hs : s.compatible = none)
    (h : ∀ l ∈ ls, ∀ compatible, ¬ titleText compatible <+: trim l) :
    ∃ t, t.compatible = none ∧ Leads s ls [] t := by
  induction ls generalizing s with
  | nil => exact ⟨s, hs, nil s⟩
  | cons l ls ih =>
    have hrest : ∀ m ∈ ls, ∀ compatible, ¬ titleText compatible <+: trim m :=
      fun m hm => h m (List.mem_cons_of_mem l hm)
    rcases read_preface hs (h l List.mem_cons_self) with hl | ⟨hasLayers, hl⟩
    · obtain ⟨t, ht, hleads⟩ := ih s hs hrest
      exact ⟨t, ht, append (step hl) hleads⟩
    · obtain ⟨t, ht, hleads⟩ := ih { s with hasLayers } hs hrest
      exact ⟨t, ht, append (step hl) hleads⟩

/-- A line of a section gives the cache of its row, if it has one, and opens no other section. -/
theorem entry {compatible : Bool} (hs : s.compatible = some compatible) (e : Entry) :
    Leads s [e.line s.hasLayers]
      (e.cacheRow?.map fun r => r.found s.hasLayers compatible).toList s := by
  cases e with
  | cache r => exact step (read_cache hs r)
  | snapshot r =>
    rcases read_snapshot hs r with h | ⟨row, h⟩
    · exact step h
    · exact step h
  | filler f => exact step (read_filler s f)

theorem entries {compatible : Bool} (hs : s.compatible = some compatible) (es : List Entry) :
    Leads s (es.map (Entry.line s.hasLayers))
      ((es.filterMap Entry.cacheRow?).map fun r => r.found s.hasLayers compatible) s := by
  induction es with
  | nil => exact nil s
  | cons e es ih =>
    -- the list of rows grows only by cases of the line
    have h := append (entry hs e) ih
    cases e <;> exact h

/-- A section gives the caches of its rows, with its own compatibility. -/
theorem ofSection (s : Section) (p : PrintedSection) :
    Leads s (p.lines s.hasLayers)
      ((p.entries.filterMap Entry.cacheRow?).map fun r => r.found s.hasLayers p.compatible)
      { s with compatible := some p.compatible } :=
  append (step (read_title s p)) (entries (s := { s with compatible := some p.compatible }) rfl _)

theorem ofSections (s : Section) (ps : List PrintedSection) :
    ∃ t, Leads s (ps.flatMap fun p => p.lines s.hasLayers)
      (ps.flatMap fun p =>
        (p.entries.filterMap Entry.cacheRow?).map fun r => r.found s.hasLayers p.compatible) t := by
  induction ps generalizing s with
  | nil => exact ⟨s, nil s⟩
  | cons p ps ih =>
    obtain ⟨t, ht⟩ := ih { s with compatible := some p.compatible }
    exact ⟨t, append (ofSection s p) ht⟩

end Leads

/-! ### The whole listing -/

/-- The caches that are found in a printed listing are those found in its rows, in their order. -/
theorem caches_text (p : PrintedListing) :
    caches p.text = p.rows.map fun row => row.2.found p.hasLayers row.1 := by
  obtain ⟨s, hs, hpreface⟩ := Leads.preface {} rfl fun l hl => (p.prefaced l hl).2
  have hheader : Leads s [p.header] [] { s with hasLayers := p.hasLayers } :=
    Leads.step (read_header s p)
  have hlead := Leads.fillers { s with hasLayers := p.hasLayers } p.lead
  obtain ⟨t, hsections⟩ := Leads.ofSections { s with hasLayers := p.hasLayers } p.sections
  have hall := ((hpreface.append hheader).append hlead).append hsections
  rw [List.append_assoc, List.append_assoc] at hall
  have hrows : p.rows.map (fun row => row.2.found p.hasLayers row.1) =
      p.sections.flatMap fun t =>
        (t.entries.filterMap Entry.cacheRow?).map fun r => r.found p.hasLayers t.compatible := by
    rw [PrintedListing.rows, List.map_flatMap]
    simp only [List.map_map]
    rfl
  rw [hrows]
  apply Leads.caches_eq
  rw [p.lines_text]
  exact hall

/-- A printed listing is read back exactly if no handles stand behind a layer whose number does not
    fit 64 bits. -/
theorem caches_text_eq_iff (p : PrintedListing) :
    caches p.text = p.caches ↔
      (p.hasLayers = true → ∀ row ∈ p.rows, row.2.handles.isSome = true →
        FitsInt64 row.2.layer) := by
  rw [caches_text, PrintedListing.caches, List.map_inj_left]
  simp only [CacheRow.found_eq_descriptor_iff]
  constructor
  · intro h hl row hrow
    exact h row hrow hl
  · intro h row hrow hl
    exact h hl row hrow

example : caches ("Cache name level cache-type feature layer\n" ++
      "Incompatible shared caches\r\n" ++
      "\told  Java8 32-bit persistent cr 0 7 -1 Thu Dec  3 09:01:02 2020\n") =
    [{ name := some "old", persistence := .persistent, addressMode := .bits32, jvmLevel := "Java8"
       compatible := false, lastDetach := some ⟨⟨2020, 12, 3⟩, 9, 1, 2, 0⟩
       sharedMemoryId := some 7, semaphoreId := some (-1) }] := by
  decide +kernel

/-- A listing of one cache, whose layer is the first number beyond 64 bits. -/
def wideLayer : PrintedListing where
  preface := []
  prefaced := by simp
  indent := .none
  heading := " level cache-type feature layer".toList
  headed := isLine_of_not_mem (by decide) (by decide)
  lead := []
  sections :=
    [{ compatible := true, indent := .none, trail := .none
       entries := [.cache
        { name := "T3".toList, named := isWord_of_all (by decide) (by decide)
          level := decimal 17, levelled := fun _ => isDigit_of_mem_decimal
          mode := .bits64, known := rfl
          unlikeMessage := by decide, nameSound := by decide
          persistence := .nonPersistent
          feature := "cr".toList, featured := isWord_of_all (by decide) (by decide)
          featureNoNumber := not_isNumber_cons (by decide) (by decide) (by decide) _
          featureSound := by decide
          layer := 0x8000000000000000
          handles := some (32789, 12), handlesFit := by decide
          ending := .inUse
          layout :=
            { indent := .none, separators := fun _ => ⟨.space, by decide⟩, trail := .none } }] }]
  crlf := fun _ => false

/-- Behind a layer that does not fit 64 bits, both handles are lost. -/
theorem caches_wideLayer_ne :
    wideLayer.text =
      "Cache name level cache-type feature layer\nCompatible shared caches\n" ++
        "T3 Java17 64-bit non-persistent cr 9223372036854775808 32789 12 In use\n" ∧
    caches wideLayer.text ≠ wideLayer.caches := by
  decide +kernel

end CacheWarden.Listing
