import CacheWarden.CommandLine.Answer
import CacheWarden.Proofs.Cache.Accepted
import CacheWarden.Proofs.Cache.RoundTrip
import CacheWarden.Proofs.Command.LevelTag
import Mathlib

/-!
# The number of caches in a list

The caches of a list are counted by the lines that have the tag of a level, wherever these stand,
while the list is read by its rows. Each row that is read has a tag, so no cache is missed; but a
tag in the name of the directory, or in a row that is taken for a message, is counted as a cache.
Main statement: `listedCount_page`, how many lines are counted too much, and when it is none.
-/

namespace CacheWarden

open Text

namespace Listing

/-! ### Pages -/

/-- The row of a cache with the number of its level, as far as it is read; what stands behind the
    kind may be anything. -/
structure LevelRow where
  name : List Char
  named : IsWord name
  /-- The digits behind `Java`. -/
  level : List Char
  numbered : level ≠ []
  levelled : ∀ c ∈ level, isDigit c = true
  mode : List Char
  moded : IsWord mode
  kind : Persistence
  others : List (List Char)
  wordy : ∀ w ∈ others, IsWord w
  layout : Layout

namespace LevelRow

/-- The columns of a row. -/
def columns (r : LevelRow) : List (List Char) :=
  r.name :: levelColumn r.level :: r.mode :: r.kind.name.toList :: r.others

/-- The text of a row. -/
def line (r : LevelRow) : List Char := r.layout.line r.columns

/-- Whether a row is taken for a message. -/
def looksLikeMessage (r : LevelRow) : Bool := "JVMSHRC".toList.isPrefixOf r.name

end LevelRow

/-- A line of a section. -/
inductive PageLine where
  | blank (g : Gap)
  | row (r : LevelRow)

namespace PageLine

/-- The text of a line. -/
def line : PageLine → List Char
  | blank g => g.chars
  | row r => r.line

/-- The row of a line, if it has one. -/
def row? : PageLine → Option LevelRow
  | blank _ => none
  | row r => some r

end PageLine

/-- A section with its title. -/
structure PageSection where
  compatible : Bool
  indent : Gap
  trail : Gap
  body : List PageLine

namespace PageSection

/-- The line with the title. -/
def title (p : PageSection) : List Char :=
  PrintedSection.title ⟨p.compatible, p.indent, p.trail, []⟩

/-- The lines of a section. -/
def lines (p : PageSection) : List (List Char) := p.title :: p.body.map PageLine.line

end PageSection

/-- A list of the caches in a directory. -/
structure Page where
  dir : List Char
  dirPlain : IsLine dir
  indent : Gap
  /-- The names of the columns behind that of the name. -/
  heading : List Char
  headed : IsLine heading
  lead : List Gap
  sections : List PageSection
  /-- Which lines end with a carriage return as well. -/
  crlf : Nat → Bool

namespace Page

/-- The line that names the directory. -/
def dirLine (p : Page) : List Char := "Listing all caches in cacheDir".toList ++ ' ' :: p.dir

/-- The line with the names of the columns. -/
def header (p : Page) : List Char := headerLine p.indent p.heading

/-- The lines of a list. -/
def lines (p : Page) : List (List Char) :=
  p.dirLine :: p.header :: (p.lead.map Gap.chars ++ p.sections.flatMap PageSection.lines)

/-- The text of a list. -/
def text (p : Page) : String := printed p.crlf p.lines

/-- The rows of caches. -/
def rows (p : Page) : List LevelRow := p.sections.flatMap fun s => s.body.filterMap PageLine.row?

end Page

/-! ### Lines are lines -/

theorem LevelRow.isWord_of_mem_columns {r : LevelRow} {w : List Char} (hw : w ∈ r.columns) :
    IsWord w := by
  simp only [columns, List.mem_cons] at hw
  rcases hw with rfl | rfl | rfl | rfl | hw
  · exact r.named
  · exact isWord_levelColumn r.levelled
  · exact r.moded
  · exact isWord_kind r.kind
  · exact r.wordy w hw

theorem PageLine.isLine_line (l : PageLine) : IsLine l.line := by
  cases l with
  | blank g => exact g.isLine
  | row r => exact Layout.isLine_line (fun _ => LevelRow.isWord_of_mem_columns) r.layout

theorem PageSection.isLine_of_mem_lines {p : PageSection} {l : List Char} (hl : l ∈ p.lines) :
    IsLine l := by
  rcases List.mem_cons.1 hl with rfl | hl
  · exact PrintedSection.isLine_title _
  · obtain ⟨line, -, rfl⟩ := List.mem_map.1 hl
    exact line.isLine_line

namespace Page

variable {p : Page}

theorem isLine_of_mem_lines {l : List Char} (hl : l ∈ p.lines) : IsLine l := by
  simp only [lines, List.mem_cons, List.mem_append, List.mem_map, List.mem_flatMap] at hl
  rcases hl with rfl | rfl | ⟨g, -, rfl⟩ | ⟨s, -, hl⟩
  · have hdir : IsLine (' ' :: p.dir) := p.dirPlain.append (a := [' ']) (by decide) (by decide)
    exact IsLine.append (by decide) (by decide) hdir
  · exact isLine_headerLine p.indent p.headed
  · exact g.isLine
  · exact PageSection.isLine_of_mem_lines hl

theorem lines_text (p : Page) : Text.lines p.text.toList = p.lines :=
  lines_printed p.crlf fun _ => isLine_of_mem_lines

end Page

/-! ### Tags in lines -/

theorem not_word_of_mem_gap {g : Gap} {c : Char} (hc : c ∈ g.chars) :
    CharProperty.word.has c.toNat = false := by
  rcases g.plain c hc with rfl | rfl
  · exact CharProperty.word_space
  · exact CharProperty.word_tab

theorem not_hasLevelTag_gap (g : Gap) : ¬ HasLevelTag g.chars :=
  not_hasLevelTag_of_not_mem (Gap.not_mem (by decide) (by decide))

theorem not_hasLevelTag_title (p : PrintedSection) : ¬ HasLevelTag p.title := by
  have htitle : 'J' ∉ titleText p.compatible := by
    cases p.compatible <;> decide
  have hgap : ∀ g : Gap, 'J' ∉ g.chars := fun g => Gap.not_mem (by decide) (by decide)
  apply not_hasLevelTag_of_not_mem
  simp only [PrintedSection.title, List.mem_append, not_or]
  exact ⟨hgap _, htitle, hgap _⟩

/-- The column of the level stands between blanks. -/
theorem LevelRow.hasLevelTag_line (r : LevelRow) : HasLevelTag r.line := by
  set front := r.layout.separators 0 with hfront
  set back := r.layout.separators 1 with hback
  have hline : ∃ rest, r.line =
      (r.layout.indent.chars ++ r.name ++ front.chars) ++ levelColumn r.level ++
        (back.chars ++ rest) := by
    refine ⟨spaced (fun i => r.layout.separators (i + 1 + 1))
      (r.mode :: r.kind.name.toList :: r.others) ++ r.layout.trail.chars, ?_⟩
    rw [line, Layout.line, columns, spaced_cons_cons, spaced_cons_cons]
    simp [hfront, hback]
  obtain ⟨rest, hline⟩ := hline
  refine ⟨_, r.level, _, hline, r.numbered, ?_, ?_, ?_⟩
  · exact fun c hc => CharProperty.digit_of_isDigit (r.levelled c hc)
  · intro c hc
    rw [List.getLast?_append, List.getLast?_eq_some_getLast front.wide, Option.some_or] at hc
    obtain rfl := Option.some.inj hc
    exact not_word_of_mem_gap (List.getLast_mem front.wide)
  · intro c hc
    rw [List.head?_append_of_ne_nil _ back.wide] at hc
    exact not_word_of_mem_gap (List.mem_of_mem_head? hc)

theorem Page.hasLevelTag_dirLine_iff (p : Page) : HasLevelTag p.dirLine ↔ HasLevelTag p.dir := by
  have hfront : ¬ HasLevelTag "Listing all caches in cacheDir".toList :=
    not_hasLevelTag_of_not_mem (by decide)
  have hcut := hasLevelTag_append_cons_iff CharProperty.word_space
    (a := "Listing all caches in cacheDir".toList) (b := p.dir)
  exact hcut.trans (or_iff_right hfront)

/-! ### Rows in lines -/

theorem LevelRow.words_line (r : LevelRow) : words r.line = r.columns := by
  have hword : ∀ w ∈ r.columns, IsWord w := fun _ => isWord_of_mem_columns
  rw [← words_trim, line, r.layout.trim_line hword, words_spaced _ hword]

theorem LevelRow.exists_read_eq_cache {s : Section} (hs : s.compatible ≠ none) {r : LevelRow}
    (h : r.looksLikeMessage = false) : ∃ d, Line.read s r.line = .cache d := by
  have hjava : "Java".toList <+: levelColumn r.level := List.prefix_append _ _
  have hwords := r.words_line
  have hname : (words r.line)[0]? = some r.name := by rw [hwords]; rfl
  have hlevel : (words r.line)[1]? = some (levelColumn r.level) := by rw [hwords]; rfl
  have hstart := startsLikeRow_of_columns hname (isPrefixOf_eq_false_iff.1 h) hlevel hjava
  exact exists_read_eq_cache_iff.2 ⟨hs, isCacheRow_of_columns hstart hwords hjava⟩

theorem LevelRow.read_message (s : Section) {r : LevelRow} (h : r.looksLikeMessage = true) :
    Line.read s r.line = .passed := by
  have hword : ∀ w ∈ r.columns, IsWord w := fun _ => isWord_of_mem_columns
  apply read_of_passed s
  right
  rw [line, r.layout.trim_line hword, columns, spaced_cons_cons]
  exact (List.isPrefixOf_iff_prefix.1 h).trans (List.prefix_append _ _)

/-! ### Counting -/

/-- How many lines have a tag. -/
def tagged (ls : List (List Char)) : Nat := ls.countP levelTag.isMatch

theorem tagged_append (a b : List (List Char)) : tagged (a ++ b) = tagged a + tagged b :=
  List.countP_append

theorem tagged_pair (a b : List Char) : tagged [a, b] = tagged [a] + tagged [b] :=
  tagged_append [a] [b]

theorem tagged_of_tag {line : List Char} (h : HasLevelTag line) : tagged [line] = 1 := by
  rw [tagged, List.countP_singleton, if_pos ((isMatch_levelTag_iff line).2 h)]

theorem tagged_of_no_tag {line : List Char} (h : ¬ HasLevelTag line) : tagged [line] = 0 := by
  rw [tagged, List.countP_singleton, if_neg (mt (isMatch_levelTag_iff line).1 h)]

/-- Whether lines lead from one place of a list to another, and so many of them have a tag beyond
    the number of caches on the way. -/
def Tallies (s : Section) (ls : List (List Char)) (strays : Nat) (t : Section) : Prop :=
  ∃ caches, Leads s ls caches t ∧ tagged ls = caches.length + strays

namespace Tallies

variable {s t u : Section} {a b : List (List Char)} {m n : Nat}

theorem nil (s : Section) : Tallies s [] 0 s := ⟨[], Leads.nil s, rfl⟩

theorem append (ha : Tallies s a m t) (hb : Tallies t b n u) : Tallies s (a ++ b) (m + n) u := by
  obtain ⟨f, hf, hm⟩ := ha
  obtain ⟨g, hg, hn⟩ := hb
  refine ⟨f ++ g, hf.append hg, ?_⟩
  rw [tagged_append, List.length_append, hm, hn]
  omega

/-- Lines without caches. -/
theorem of_leads (h : Leads s a [] t) : Tallies s a (tagged a) t :=
  ⟨[], h, (Nat.zero_add _).symm⟩

theorem blank (s : Section) (g : Gap) : Tallies s [g.chars] 0 s := by
  have hpassed := read_of_passed s (Or.inl (trim_eq_nil fun _ => Gap.isBlank_of_mem (g := g)))
  rw [← tagged_of_no_tag (not_hasLevelTag_gap g)]
  exact of_leads (Leads.step hpassed)

/-- A row counts as one cache, and too much if it is taken for a message. -/
theorem row (hs : s.compatible ≠ none) (r : LevelRow) :
    Tallies s [r.line] ([r].countP LevelRow.looksLikeMessage) s := by
  have htag := tagged_of_tag r.hasLevelTag_line
  rw [List.countP_singleton]
  by_cases h : r.looksLikeMessage = true
  · rw [if_pos h, ← htag]
    exact of_leads (Leads.step (r.read_message s h))
  · obtain ⟨d, hd⟩ := r.exists_read_eq_cache hs (Bool.eq_false_of_not_eq_true h)
    rw [if_neg h]
    exact ⟨[d], Leads.step hd, htag⟩

theorem body (hs : s.compatible ≠ none) (ls : List PageLine) :
    Tallies s (ls.map PageLine.line)
      ((ls.filterMap PageLine.row?).countP LevelRow.looksLikeMessage) s := by
  induction ls with
  | nil => exact nil s
  | cons l ls ih =>
    cases l with
    | blank g =>
      have h := (blank s g).append ih
      rwa [Nat.zero_add] at h
    | row r =>
      have h := (row hs r).append ih
      rwa [← List.countP_append] at h

theorem ofSection (s : Section) (p : PageSection) :
    Tallies s p.lines ((p.body.filterMap PageLine.row?).countP LevelRow.looksLikeMessage)
      { s with compatible := some p.compatible } := by
  have htitle : Tallies s [p.title] 0 { s with compatible := some p.compatible } := by
    rw [← tagged_of_no_tag (not_hasLevelTag_title ⟨p.compatible, p.indent, p.trail, []⟩)]
    exact of_leads (Leads.step (read_title s ⟨p.compatible, p.indent, p.trail, []⟩))
  have hbody := body (s := { s with compatible := some p.compatible })
    (Option.some_ne_none p.compatible) p.body
  have h := htitle.append hbody
  rwa [Nat.zero_add] at h

theorem sections (s : Section) (ps : List PageSection) :
    ∃ t, Tallies s (ps.flatMap PageSection.lines)
      ((ps.flatMap fun p => p.body.filterMap PageLine.row?).countP LevelRow.looksLikeMessage)
      t := by
  induction ps generalizing s with
  | nil => exact ⟨s, nil s⟩
  | cons p ps ih =>
    obtain ⟨t, ht⟩ := ih { s with compatible := some p.compatible }
    refine ⟨t, ?_⟩
    rw [List.flatMap_cons, List.flatMap_cons, List.countP_append]
    exact (ofSection s p).append ht

theorem blanks (s : Section) (gs : List Gap) : Tallies s (gs.map Gap.chars) 0 s := by
  induction gs with
  | nil => exact nil s
  | cons g gs ih => exact (blank s g).append ih

end Tallies

/-- How many lines of a page have a tag and give no cache. -/
def Page.strays (p : Page) : Nat :=
  tagged [p.dirLine, p.header] + p.rows.countP LevelRow.looksLikeMessage

theorem Page.not_title_dirLine (p : Page) (compatible : Bool) :
    ¬ titleText compatible <+: trim p.dirLine := by
  have htrim : trim p.dirLine = "Listing all caches in cacheDir".toList ++ trimEnd (' ' :: p.dir) :=
    trim_front (a := []) (s := "Listing all caches in cacheDir".toList) (List.forall_mem_nil _)
      (by decide) (by rintro c ⟨⟩; decide) (by rintro c ⟨⟩; decide) (' ' :: p.dir)
  refine not_isPrefix_of_isPrefix (htrim ▸ List.prefix_append _ _) ?_ ?_
  · cases compatible <;> decide
  · cases compatible <;> decide

theorem Page.tallies (p : Page) : ∃ t, Tallies {} p.lines p.strays t := by
  have hdir : ∀ l ∈ [p.dirLine], ∀ compatible, ¬ titleText compatible <+: trim l := by
    intro l hl
    rw [List.mem_singleton.1 hl]
    exact p.not_title_dirLine
  obtain ⟨s, -, hpreface⟩ := Leads.preface {} rfl hdir
  have hheader := Leads.step (read_of_header s (isHeader_append p.indent p.heading))
  have hfront := Tallies.of_leads (hpreface.append hheader)
  obtain ⟨t, hsections⟩ := Tallies.sections _ p.sections
  have hrows := (Tallies.blanks _ p.lead).append hsections
  rw [Nat.zero_add] at hrows
  exact ⟨t, hfront.append hrows⟩

theorem Page.tagged_lines (p : Page) : tagged p.lines = (caches p.text).length + p.strays := by
  obtain ⟨t, found, hleads, htagged⟩ := p.tallies
  rw [htagged, Leads.caches_eq (p.lines_text ▸ hleads)]

theorem Page.strays_eq_zero_iff (p : Page) : p.strays = 0 ↔
    ¬ HasLevelTag p.dir ∧ ¬ HasLevelTag p.header ∧
      ∀ r ∈ p.rows, ¬ "JVMSHRC".toList <+: r.name := by
  have hmessage : ∀ r : LevelRow, ¬ r.looksLikeMessage = true ↔ ¬ "JVMSHRC".toList <+: r.name :=
    fun r => not_congr List.isPrefixOf_iff_prefix
  have htag : ∀ line, ¬ levelTag.isMatch line = true ↔ ¬ HasLevelTag line :=
    fun line => not_congr (isMatch_levelTag_iff line)
  rw [strays, Nat.add_eq_zero_iff, tagged, List.countP_eq_zero, List.countP_eq_zero,
    List.forall_mem_cons, List.forall_mem_singleton, htag, htag, p.hasLevelTag_dirLine_iff,
    and_assoc]
  simp only [hmessage]

end Listing

namespace CommandLine

open Listing

theorem listedCount_eq (o : CommandOutput) :
    listedCount o = .ok (tagged (lines o.combined.toList)) := by
  rw [listedCount, parse_listedCachePattern]
  simp [Except.map, MessagePattern.countMatches, tagged, MessagePattern.isMatch]

theorem combined_of_stdout (exit : Option Int) (text : String) :
    CommandOutput.combined ⟨exit, text, ""⟩ = text := String.ofList_toList

theorem listedCount_of_page (p : Page) {o : CommandOutput} (ho : o.combined = p.text) :
    listedCount o = .ok ((caches o.combined).length + p.strays) := by
  rw [listedCount_eq, ho, p.lines_text, p.tagged_lines]

/-- The lines of a list that are counted are the caches that are read from it, and some strays: each
    cache that is read is counted. There are no strays exactly if neither the directory nor the
    names of the columns have a tag of a level, and no row has a name that makes it a message. -/
theorem listedCount_page (p : Page) (o : CommandOutput) (ho : o.combined = p.text) :
    listedCount o = .ok ((caches o.combined).length + p.strays) ∧
      (listedCount o = .ok (caches o.combined).length ↔
        ¬ HasLevelTag p.dir ∧ ¬ HasLevelTag p.header ∧
          ∀ r ∈ p.rows, ¬ "JVMSHRC".toList <+: r.name) := by
  refine ⟨listedCount_of_page p ho, ?_⟩
  rw [listedCount_of_page p ho, Except.ok.injEq, Nat.add_eq_left, p.strays_eq_zero_iff]

/-- A list of one cache, which has the name of a level, in a directory. -/
def pageOf (dir : List Char) (dirPlain : IsLine dir) : Page where
  dir
  dirPlain
  indent := .none
  heading := " level cache-type".toList
  headed := isLine_of_not_mem (by decide) (by decide)
  lead := []
  sections :=
    [{ compatible := true, indent := .none, trail := .none
       body := [.row
        { name := "Java8".toList, named := isWord_of_all (by decide) (by decide)
          level := decimal 11, numbered := decimal_ne_nil 11
          levelled := fun _ => isDigit_of_mem_decimal
          mode := "64-bit".toList, moded := isWord_of_all (by decide) (by decide)
          kind := .persistent, others := [], wordy := List.forall_mem_nil _
          layout := ⟨.none, fun _ => .space, .none⟩ }] }]
  crlf := fun _ => false

section

variable {dir : List Char} (h : IsLine dir)

theorem not_hasLevelTag_header_pageOf : ¬ HasLevelTag (pageOf dir h).header := by
  apply not_hasLevelTag_of_not_mem
  change 'J' ∉ [] ++ ("Cache name".toList ++ " level cache-type".toList)
  decide

theorem not_message_pageOf : ∀ r ∈ (pageOf dir h).rows, ¬ "JVMSHRC".toList <+: r.name := by
  intro r hr
  obtain rfl := List.mem_singleton.1 hr
  decide

end

/-- The name of a cache may itself look like a tag: its row is counted once. -/
theorem listedCount_page_in_plain_dir :
    let p := pageOf "/opt/java17/caches".toList (isLine_of_not_mem (by decide) (by decide))
    let o : CommandOutput := ⟨some 1, p.text, ""⟩
    o.combined = p.text ∧ listedCount o = .ok 1 ∧
      (caches o.combined).map Descriptor.name = [some "Java8"] := by
  intro p o
  have ho : o.combined = p.text := combined_of_stdout _ _
  have hnames : (caches o.combined).map Descriptor.name = [some "Java8"] := by
    rw [ho, caches_eq_listed, p.lines_text]
    decide +kernel
  have hlength : (caches o.combined).length = 1 := by
    simpa using congrArg List.length hnames
  have hdir : ¬ HasLevelTag p.dir := not_hasLevelTag_of_not_mem (by decide)
  have hcount := (listedCount_page p o ho).2.2
    ⟨hdir, not_hasLevelTag_header_pageOf _, not_message_pageOf _⟩
  rw [hlength] at hcount
  exact ⟨ho, hcount, hnames⟩

/-- A directory with a tag in its name is counted as a cache. -/
theorem listedCount_counts_dir :
    let p := pageOf "/opt/Java17/caches".toList (isLine_of_not_mem (by decide) (by decide))
    let o : CommandOutput := ⟨some 1, p.text, ""⟩
    listedCount o = .ok 2 ∧ (caches o.combined).map Descriptor.name = [some "Java8"] := by
  intro p o
  have ho : o.combined = p.text := combined_of_stdout _ _
  have hnames : (caches o.combined).map Descriptor.name = [some "Java8"] := by
    rw [ho, caches_eq_listed, p.lines_text]
    decide +kernel
  have hlength : (caches o.combined).length = 1 := by
    simpa using congrArg List.length hnames
  have hdir : HasLevelTag p.dir := by
    refine ⟨['/', 'o', 'p', 't', '/'], decimal 17, '/' :: "caches".toList, by decide,
      decimal_ne_nil 17, ?_, ?_, ?_⟩
    · exact fun c hc => CharProperty.digit_of_isDigit (isDigit_of_mem_decimal hc)
    · intro c hc
      obtain rfl : '/' = c := Option.some.inj hc
      exact CharProperty.word_slash
    · intro c hc
      obtain rfl : '/' = c := Option.some.inj hc
      exact CharProperty.word_slash
  have hstrays : p.strays = 1 := by
    have hrows : p.rows.countP LevelRow.looksLikeMessage = 0 := by decide
    rw [Page.strays, hrows, tagged_pair, tagged_of_tag (p.hasLevelTag_dirLine_iff.2 hdir),
      tagged_of_no_tag (not_hasLevelTag_header_pageOf _)]
  refine ⟨?_, hnames⟩
  rw [listedCount_of_page p ho, hlength, hstrays]

end CommandLine

end CacheWarden
