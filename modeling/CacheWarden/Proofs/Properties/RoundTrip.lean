import CacheWarden.Proofs.Properties.Entry
import Mathlib

/-!
# Settings that are written and read back

Settings are written one to a line, with keys and values escaped, and otherwise with all the freedom
that the format gives: blanks in front of the line, around the sign and at the end, and no sign at
all where the key is not empty. Read back they are the same settings, made in the same order. Main
statements: `assignments_unlines` and, for the set of settings, `parse_unlines`.
-/

namespace CacheWarden

open Text

/-- What stands between a key and its value. -/
inductive Joint where
  /-- An equals sign or a colon, with blanks around it. -/
  | sign (before : Gap) (colon : Bool) (after : Gap)
  /-- Blanks alone. -/
  | gap (g : Gap) (wide : g.chars ≠ [])

namespace Joint

/-- The characters of a joint. -/
def chars : Joint → List Char
  | sign before colon after => before.chars ++ (if colon then ':' else '=') :: after.chars
  | gap g _ => g.chars

/-- Whether a joint has a sign. -/
def isSign : Joint → Bool
  | sign .. => true
  | gap .. => false

end Joint

/-- A setting that is written as one line. Without a sign a key has to show where it is. -/
structure PropertyLine where
  key : String
  value : String
  indent : Gap
  joint : Joint
  trail : Gap
  keyed : joint.isSign = true ∨ key ≠ ""

namespace PropertyLine

/-- The line of a setting, without its line end. -/
def text (p : PropertyLine) : List Char :=
  p.indent.chars ++ (Properties.escape p.key.toList ++ (p.joint.chars ++
    (Properties.escape p.value.toList ++ p.trail.chars)))

/-- The setting that a line makes. -/
def setting (p : PropertyLine) : String × String := (p.key, p.value)

end PropertyLine

namespace Properties

/-! ### A line -/

/-- A line that is written gives its setting back. -/
theorem split_decode_text (p : PropertyLine) : split (decode p.text) = some p.setting := by
  obtain ⟨key, value, indent, joint, trail, keyed⟩ := p
  rw [PropertyLine.text, decode_gap_append, split_blanks_append fun _ => isBlank_of_mem_blankUnits,
    decode_escape_append]
  cases joint with
  | sign before colon after =>
    have hplain : (if colon then ':' else '=') ≠ '\\' := by cases colon <;> decide
    simp only [Joint.chars, List.append_assoc, List.cons_append]
    rw [decode_gap_append, decode_plain hplain, decode_gap_append, decode_escape_append,
      decode_gap, split_of_sign]
    · simp [PropertyLine.setting]
    · cases colon <;> decide
    · cases colon <;> decide
  | gap g wide =>
    have hkey : key.toList ≠ [] := by
      have hne : key ≠ "" := keyed.resolve_left (by simp [Joint.isSign])
      simpa using hne
    simp only [Joint.chars]
    rw [decode_gap_append, decode_escape_append, decode_gap, split_of_gap _ _ hkey wide]
    simp [PropertyLine.setting]

/-! ### A whole text -/

theorem text_has_no_lineEnd {p : PropertyLine} {c : Char} (h : c ∈ p.text) :
    c ≠ '\n' ∧ c ≠ '\r' := by
  have hgap : ∀ g : Gap, c ∈ g.chars → c ≠ '\n' ∧ c ≠ '\r' := by
    intro g hg
    rcases g.plain c hg with rfl | rfl <;> decide
  have hjoint : c ∈ p.joint.chars → c ≠ '\n' ∧ c ≠ '\r' := by
    intro hc
    cases hj : p.joint with
    | gap g _ =>
      rw [hj] at hc
      exact hgap g hc
    | sign before colon after =>
      rw [hj, Joint.chars, List.mem_append, List.mem_cons] at hc
      rcases hc with hc | rfl | hc
      · exact hgap before hc
      · cases colon <;> decide
      · exact hgap after hc
  simp only [PropertyLine.text, List.mem_append] at h
  rcases h with h | h | h | h | h
  · exact hgap _ h
  · exact not_lineEnd_of_mem_escape h
  · exact hjoint h
  · exact not_lineEnd_of_mem_escape h
  · exact hgap _ h

theorem lines_unlines_text (ps : List PropertyLine) :
    lines (unlines (ps.map PropertyLine.text)) = ps.map PropertyLine.text := by
  apply lines_unlines
  intro line hline
  obtain ⟨p, -, rfl⟩ := List.mem_map.1 hline
  constructor
  · intro h
    exact (text_has_no_lineEnd h).1 rfl
  · intro h
    exact (text_has_no_lineEnd (List.mem_of_getLast? h)).2 rfl

theorem not_mem_gap (g : Gap) : '\\' ∉ g.chars := Gap.not_mem (by decide) (by decide)

theorem not_mem_joint (j : Joint) : '\\' ∉ j.chars := by
  cases j with
  | sign before colon after => cases colon <;> simp [Joint.chars, not_mem_gap]
  | gap g _ => exact not_mem_gap g

theorem continues_text (p : PropertyLine) : continues p.text = false := by
  have hkey : continues (escape p.key.toList) = false :=
    continues_append_escape (s := []) rfl p.key.toList
  have hjoint := continues_append_plain hkey (not_mem_joint p.joint)
  have hvalue := continues_append_escape hjoint p.value.toList
  have htrail := continues_append_plain hvalue (not_mem_gap p.trail)
  rw [PropertyLine.text, continues_append_of_not_mem (not_mem_gap p.indent)]
  rwa [List.append_assoc, List.append_assoc] at htrail

theorem isSkipped_trimStart {c : Char} (hb : isBlank c = false) (hhash : c ≠ '#') (hbang : c ≠ '!')
    (s : List Char) : isSkipped (trimStart (c :: s)) = false := by
  rw [trimStart_of_head hb]
  show (c == '#' || c == '!') = false
  rw [beq_eq_false_iff_ne.2 hhash, beq_eq_false_iff_ne.2 hbang]
  rfl

/-- A line with an escaped key is no comment, even if the key starts like one. -/
theorem isSkipped_escapeChar_append (c : Char) (s : List Char) :
    isSkipped (trimStart (escapeChar c ++ s)) = false := by
  unfold escapeChar
  split
  · exact isSkipped_trimStart (by decide) (by decide) (by decide) _
  · rename_i h
    rw [Bool.not_eq_true] at h
    simp only [isSpecial, Bool.or_eq_false_iff, beq_eq_false_iff_ne] at h
    obtain ⟨⟨⟨⟨⟨-, -⟩, -⟩, hhash⟩, hbang⟩, hb⟩ := h
    exact isSkipped_trimStart hb hhash hbang s

theorem isSkipped_text (p : PropertyLine) : isSkipped (trimStart p.text) = false := by
  obtain ⟨key, value, indent, joint, trail, keyed⟩ := p
  rw [PropertyLine.text, trimStart_append fun _ => Gap.isBlank_of_mem]
  cases hkey : key.toList with
  | cons c cs =>
    simp only [escape_cons, List.append_assoc]
    exact isSkipped_escapeChar_append c _
  | nil =>
    have hne : key = "" := by simpa using hkey
    cases joint with
    | gap g wide => exact absurd hne (keyed.resolve_left (by simp [Joint.isSign]))
    | sign before colon after =>
      simp only [escape, List.flatMap_nil, List.nil_append, Joint.chars, List.append_assoc,
        List.cons_append]
      rw [trimStart_append fun _ => Gap.isBlank_of_mem]
      cases colon <;> exact isSkipped_trimStart (by decide) (by decide) (by decide) _

/-- The settings of a text that was written are read back, in the order of the lines. -/
theorem assignments_unlines (ps : List PropertyLine) :
    assignments (unlines (ps.map PropertyLine.text)) = ps.map PropertyLine.setting := by
  have hwhole : ∀ line ∈ ps.map PropertyLine.text,
      isSkipped (trimStart line) = false ∧ continues line = false := by
    intro line hline
    obtain ⟨p, -, rfl⟩ := List.mem_map.1 hline
    exact ⟨isSkipped_text p, continues_text p⟩
  rw [assignments, entries, lines_unlines_text, joinLines_of_whole hwhole, List.map_map,
    List.filterMap_map]
  have hread :
      (split ∘ decode) ∘ (trimStart ∘ PropertyLine.text) = some ∘ PropertyLine.setting := by
    funext p
    exact (split_decode_trimStart p.text).trans (split_decode_text p)
  rw [hread, ← List.filterMap_map, List.filterMap_some]

/-- For all settings, however they are laid out: the text that writes them gives the same set of
    settings, in which the last value of a key counts. -/
theorem parse_unlines (ps : List PropertyLine) :
    let props := parse (String.ofList (unlines (ps.map PropertyLine.text)))
    props = Table.ofList (ps.map PropertyLine.setting) ∧
      ∀ key, props.get? key = (ps.map PropertyLine.setting).reverse.lookup key := by
  intro props
  have hprops : props = Table.ofList (ps.map PropertyLine.setting) := by
    show parse _ = _
    rw [parse, String.toList_ofList, assignments_unlines]
  refine ⟨hprops, fun key => ?_⟩
  rw [hprops, Table.get?_ofList]

end Properties

end CacheWarden
