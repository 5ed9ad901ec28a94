import CacheWarden.Cache.Descriptor
import CacheWarden.Proofs.Calendar.Listed
import CacheWarden.Proofs.Text.Lines
import Mathlib

/-!
# Printed listings

Listings as the runtime prints them, with all the freedom that their layout leaves: how far lines
are indented, how wide the gaps between columns are, how lines end, what stands before the names of
the columns, and where blank lines, messages and rows of snapshots come in between. What a listing
says is `PrintedListing.caches`, and what is printed is `PrintedListing.text`; neither knows
anything of the reader. Main statement: `PrintedListing.lines_text`, the text has the lines that
were printed.
-/

namespace CacheWarden

open Text

theorem AddressMode.eq_of_isKnown {m : AddressMode} (h : m.isKnown = true) :
    m = .bits32 ∨ m = .bits64 := by
  cases m with
  | bits32 => exact Or.inl rfl
  | bits64 => exact Or.inr rfl
  | unknown => cases h

namespace Listing

/-! ### Rows -/

/-- The column of a level with these digits. -/
def levelColumn (digits : List Char) : List Char := "Java".toList ++ digits

theorem isWord_levelColumn {digits : List Char} (h : ∀ c ∈ digits, isDigit c = true) :
    IsWord (levelColumn digits) := by
  refine ⟨List.cons_ne_nil _ _, fun c hc => ?_⟩
  rcases List.mem_append.1 hc with hc | hc
  · have hall : ("Java".toList.all (!isBlank ·)) = true := by decide
    simpa using List.all_eq_true.1 hall c hc
  · exact not_isBlank_of_isDigit (h c hc)

theorem isWord_kind (kind : Persistence) : IsWord kind.name.toList := by
  cases kind <;> exact isWord_of_all (by decide) (by decide)

/-- The columns with which every row starts: a name, a level and an address mode. -/
structure RowStart where
  name : List Char
  named : IsWord name
  /-- The digits behind `Java`. -/
  level : List Char
  levelled : ∀ c ∈ level, isDigit c = true
  mode : AddressMode
  known : mode.isKnown = true

namespace RowStart

/-- The columns with which a row starts. -/
def columns (r : RowStart) : List (List Char) := [r.name, levelColumn r.level, r.mode.text.toList]

theorem isWord_mode (r : RowStart) : IsWord r.mode.text.toList := by
  rcases AddressMode.eq_of_isKnown r.known with h | h
  · rw [h]
    exact isWord_of_all (by decide) (by decide)
  · rw [h]
    exact isWord_of_all (by decide) (by decide)

theorem isWord_of_mem_columns {r : RowStart} {w : List Char} (hw : w ∈ r.columns) : IsWord w := by
  simp only [columns, List.mem_cons, List.not_mem_nil, or_false] at hw
  rcases hw with rfl | rfl | rfl
  · exact r.named
  · exact isWord_levelColumn r.levelled
  · exact r.isWord_mode

end RowStart

/-- How a row is laid out. -/
structure Layout where
  indent : Gap
  separators : Nat → Separator
  trail : Gap

namespace Layout

/-- A line with these columns. -/
def line (o : Layout) (columns : List (List Char)) : List Char :=
  o.indent.chars ++ (spaced o.separators columns ++ o.trail.chars)

variable {columns : List (List Char)} (h : ∀ w ∈ columns, IsWord w)
include h

theorem trim_line (o : Layout) : trim (o.line columns) = spaced o.separators columns :=
  trim_spaced o.indent o.trail o.separators h

theorem isLine_line (o : Layout) : IsLine (o.line columns) := by
  have hn : '\n' ∉ spaced o.separators columns :=
    ne_of_mem_spaced (by decide) (by decide) (by decide) h
  have hr : '\r' ∉ spaced o.separators columns :=
    ne_of_mem_spaced (by decide) (by decide) (by decide) h
  exact IsLine.append o.indent.newline_not_mem o.indent.return_not_mem
    (IsLine.append hn hr o.trail.isLine)

end Layout

/-- A moment that a row can show: in whole seconds, and with a year of four digits. -/
structure ShownMoment where
  moment : Calendar.Moment
  valid : moment.isValid = true
  year_nonneg : 0 ≤ moment.date.year
  year_le : moment.date.year ≤ 9999
  whole : moment.nanosecond = 0
  /-- Whether a day before the tenth is written with a zero in front. -/
  paddedDay : Bool

/-- How a row ends. -/
inductive RowEnd where
  | inUse
  | detached (m : ShownMoment)
  | nothing

namespace RowEnd

/-- The columns with which a row ends. -/
def columns : RowEnd → List (List Char)
  | inUse => ["In".toList, "use".toList]
  | detached m => m.moment.columns m.paddedDay
  | nothing => []

/-- The moment of the last detach. -/
def moment? : RowEnd → Option Calendar.Moment
  | detached m => some m.moment
  | _ => none

theorem isWord_of_mem_columns {e : RowEnd} {w : List Char} (hw : w ∈ e.columns) : IsWord w := by
  cases e with
  | inUse =>
    simp only [columns, List.mem_cons, List.not_mem_nil, or_false] at hw
    rcases hw with rfl | rfl <;> exact isWord_of_all (by decide) (by decide)
  | detached m => exact Calendar.Moment.isWord_of_mem_columns m.valid hw
  | nothing => cases hw

end RowEnd

/-- The row of a cache. -/
structure CacheRow extends RowStart where
  unlikeMessage : ¬ "JVMSHRC".toList <+: name
  nameSound : ¬ "corrupt".toList <:+: lowerAscii name
  persistence : Persistence
  feature : List Char
  featured : IsWord feature
  featureNoNumber : ¬ IsNumber feature
  featureSound : ¬ "corrupt".toList <:+: lowerAscii feature
  layer : Int
  /-- The handles of the shared memory and of the semaphore. -/
  handles : Option (Int × Int)
  handlesFit : ∀ h ∈ handles, FitsInt64 h.1 ∧ FitsInt64 h.2
  ending : RowEnd
  layout : Layout

namespace CacheRow

/-- The columns of the handles. -/
def handleColumns (r : CacheRow) : List (List Char) :=
  match r.handles with
  | some (memory, semaphore) => [decimalInt memory, decimalInt semaphore]
  | none => []

/-- The columns from the feature to the handles. -/
def middle (r : CacheRow) (hasLayers : Bool) : List (List Char) :=
  r.feature :: ((if hasLayers then [decimalInt r.layer] else []) ++ r.handleColumns)

/-- The columns of a row. -/
def columns (r : CacheRow) (hasLayers : Bool) : List (List Char) :=
  r.toRowStart.columns ++ r.persistence.name.toList :: (r.middle hasLayers ++ r.ending.columns)

/-- What all the columns of a row have in common. -/
theorem forall_mem_columns (r : CacheRow) (hasLayers : Bool) {P : List Char → Prop}
    (hname : P r.name) (hlevel : P (levelColumn r.level)) (hmode : P r.mode.text.toList)
    (hkind : P r.persistence.name.toList) (hfeature : P r.feature)
    (hnumber : ∀ n, P (decimalInt n)) (hend : ∀ w ∈ r.ending.columns, P w) :
    ∀ w ∈ r.columns hasLayers, P w := by
  have hhandles : ∀ w ∈ r.handleColumns, P w := by
    unfold handleColumns
    split
    · simp [hnumber]
    · simp
  have hlayer : ∀ w ∈ (if hasLayers then [decimalInt r.layer] else []), P w := by
    cases hasLayers
    · simp
    · simp [hnumber]
  intro w hw
  simp only [columns, RowStart.columns, middle, List.mem_append, List.mem_cons,
    List.not_mem_nil, or_false] at hw
  rcases hw with (rfl | rfl | rfl) | rfl | (rfl | hw | hw) | hw
  · exact hname
  · exact hlevel
  · exact hmode
  · exact hkind
  · exact hfeature
  · exact hlayer w hw
  · exact hhandles w hw
  · exact hend w hw

theorem isWord_of_mem_columns {r : CacheRow} {hasLayers : Bool} {w : List Char}
    (hw : w ∈ r.columns hasLayers) : IsWord w := by
  exact r.forall_mem_columns hasLayers r.named (isWord_levelColumn r.levelled) r.isWord_mode
    (isWord_kind r.persistence) r.featured isWord_decimalInt
    (fun _ => RowEnd.isWord_of_mem_columns) w hw

/-- The cache of a row. -/
def descriptor (r : CacheRow) (compatible : Bool) : Descriptor where
  name := some (String.ofList r.name)
  persistence := r.persistence
  addressMode := r.mode
  sizeBytes := none
  freeBytes := none
  jvmLevel := String.ofList (levelColumn r.level)
  compatible
  corrupt := false
  lastDetach := r.ending.moment?
  semaphoreId := r.handles.map Prod.snd
  sharedMemoryId := r.handles.map Prod.fst

end CacheRow

/-- The row of a snapshot. -/
structure SnapshotRow extends RowStart where
  others : List (List Char)
  words : ∀ w ∈ others, IsWord w
  layout : Layout

namespace SnapshotRow

/-- The columns of the row of a snapshot. -/
def columns (r : SnapshotRow) : List (List Char) :=
  r.toRowStart.columns ++ "snapshot".toList :: r.others

theorem isWord_of_mem_columns {r : SnapshotRow} {w : List Char} (hw : w ∈ r.columns) :
    IsWord w := by
  rcases List.mem_append.1 hw with hw | hw
  · exact RowStart.isWord_of_mem_columns hw
  · rcases List.mem_cons.1 hw with rfl | hw
    · exact isWord_of_all (by decide) (by decide)
    · exact r.words w hw

end SnapshotRow

/-! ### Lines -/

/-- A line that says nothing about caches. -/
inductive Filler where
  | blank (g : Gap)
  | message (indent : Gap) (rest : List Char) (plain : IsLine rest)

namespace Filler

/-- The text of a line that says nothing about caches. -/
def line : Filler → List Char
  | blank g => g.chars
  | message indent rest _ => indent.chars ++ ("JVMSHRC".toList ++ rest)

theorem isLine_line (f : Filler) : IsLine f.line := by
  cases f with
  | blank g => exact g.isLine
  | message indent rest plain =>
    exact IsLine.append indent.newline_not_mem indent.return_not_mem
      (IsLine.append (by decide) (by decide) plain)

end Filler

/-- A line of a section. -/
inductive Entry where
  | cache (r : CacheRow)
  | snapshot (r : SnapshotRow)
  | filler (f : Filler)

namespace Entry

/-- The text of a line. -/
def line (hasLayers : Bool) : Entry → List Char
  | cache r => r.layout.line (r.columns hasLayers)
  | snapshot r => r.layout.line r.columns
  | filler f => f.line

/-- The row of a cache, if the line is one. -/
def cacheRow? : Entry → Option CacheRow
  | cache r => some r
  | _ => none

theorem isLine_line (hasLayers : Bool) (e : Entry) : IsLine (e.line hasLayers) := by
  cases e with
  | cache r => exact Layout.isLine_line (fun _ => CacheRow.isWord_of_mem_columns) r.layout
  | snapshot r => exact Layout.isLine_line (fun _ => SnapshotRow.isWord_of_mem_columns) r.layout
  | filler f => exact f.isLine_line

end Entry

/-- The title of the section of caches that are compatible, or that are not. -/
def titleText (compatible : Bool) : List Char :=
  if compatible then "Compatible shared caches".toList else "Incompatible shared caches".toList

/-- A section with its title. -/
structure PrintedSection where
  compatible : Bool
  indent : Gap
  trail : Gap
  entries : List Entry

namespace PrintedSection

/-- The line with the title. -/
def title (s : PrintedSection) : List Char :=
  s.indent.chars ++ (titleText s.compatible ++ s.trail.chars)

/-- The lines of a section. -/
def lines (s : PrintedSection) (hasLayers : Bool) : List (List Char) :=
  s.title :: s.entries.map (Entry.line hasLayers)

theorem isLine_title (s : PrintedSection) : IsLine s.title := by
  have hplain : '\n' ∉ titleText s.compatible ∧ '\r' ∉ titleText s.compatible := by
    cases s.compatible <;> decide
  exact IsLine.append s.indent.newline_not_mem s.indent.return_not_mem
    (IsLine.append hplain.1 hplain.2 s.trail.isLine)

theorem isLine_of_mem_lines {s : PrintedSection} {hasLayers : Bool} {l : List Char}
    (hl : l ∈ s.lines hasLayers) : IsLine l := by
  rcases List.mem_cons.1 hl with rfl | hl
  · exact s.isLine_title
  · obtain ⟨e, -, rfl⟩ := List.mem_map.1 hl
    exact e.isLine_line hasLayers

end PrintedSection

/-- The line with the names of the columns, of which `heading` gives those behind the first one. -/
def headerLine (indent : Gap) (heading : List Char) : List Char :=
  indent.chars ++ ("Cache name".toList ++ heading)

theorem isLine_headerLine (indent : Gap) {heading : List Char} (h : IsLine heading) :
    IsLine (headerLine indent heading) :=
  IsLine.append indent.newline_not_mem indent.return_not_mem
    (IsLine.append (by decide) (by decide) h)

/-- The text of some lines, of which the given ones end with a carriage return as well. -/
def printed (crlf : Nat → Bool) (ls : List (List Char)) : String := String.ofList (endLines crlf ls)

theorem lines_printed (crlf : Nat → Bool) {ls : List (List Char)} (h : ∀ l ∈ ls, IsLine l) :
    lines (printed crlf ls).toList = ls := by
  rw [printed, String.toList_ofList, lines_endLines crlf h]

/-- A listing. -/
structure PrintedListing where
  /-- What is printed before the names of the columns. -/
  preface : List (List Char)
  prefaced : ∀ l ∈ preface, IsLine l ∧ ∀ compatible, ¬ titleText compatible <+: trim l
  indent : Gap
  /-- The names of the columns behind that of the name. -/
  heading : List Char
  headed : IsLine heading
  lead : List Filler
  sections : List PrintedSection
  /-- Which lines end with a carriage return as well. -/
  crlf : Nat → Bool

namespace PrintedListing

/-- The line with the names of the columns. -/
def header (p : PrintedListing) : List Char := headerLine p.indent p.heading

/-- Whether there is a column for the layer. -/
def hasLayers (p : PrintedListing) : Bool := decide ("layer".toList <:+: p.header)

/-- The lines of a listing. -/
def lines (p : PrintedListing) : List (List Char) :=
  p.preface ++ (p.header :: (p.lead.map Filler.line ++
    p.sections.flatMap fun s => s.lines p.hasLayers))

theorem isLine_of_mem_lines {p : PrintedListing} {l : List Char} (hl : l ∈ p.lines) :
    IsLine l := by
  simp only [lines, List.mem_append, List.mem_cons, List.mem_map, List.mem_flatMap] at hl
  rcases hl with hl | rfl | ⟨f, -, rfl⟩ | ⟨s, -, hl⟩
  · exact (p.prefaced l hl).1
  · exact isLine_headerLine p.indent p.headed
  · exact f.isLine_line
  · exact PrintedSection.isLine_of_mem_lines hl

/-- The text of a listing. -/
def text (p : PrintedListing) : String := printed p.crlf p.lines

theorem lines_text (p : PrintedListing) : Text.lines p.text.toList = p.lines :=
  lines_printed p.crlf fun _ => isLine_of_mem_lines

/-- The rows of caches, each with the compatibility of its section. -/
def rows (p : PrintedListing) : List (Bool × CacheRow) :=
  p.sections.flatMap fun s => (s.entries.filterMap Entry.cacheRow?).map fun r => (s.compatible, r)

/-- The caches of a listing. -/
def caches (p : PrintedListing) : List Descriptor :=
  p.rows.map fun (compatible, r) => r.descriptor compatible

end PrintedListing

end Listing

end CacheWarden
