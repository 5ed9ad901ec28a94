import CacheWarden.CommandLine.Answer
import CacheWarden.Proofs.Cache.Accepted
import CacheWarden.Proofs.Command.Run
import CacheWarden.Proofs.Text.Occurrence
import Mathlib

/-!
# Looking for a cache in a list

A list is asked for with a name that has to be in it, and passes if the name stands anywhere in the
output. The caches of the same output are those of its rows. So a listed cache is always found, but
a name is also found in the middle of another name, in a directory or in the row of a snapshot. Main
statement: `listAll_isSuccess_iff_listed_iff`, when both agree.
-/

namespace CacheWarden

open Text

namespace Listing

/-- Whether a text lists a cache of a name. -/
def Lists (text name : String) : Prop := ∃ d ∈ caches text, d.name = some name

/-- Whether some row of a text, behind a title, has a name for its first word. -/
def HasRow (text name : String) : Prop :=
  ∃ i line, (lines text.toList)[i]? = some line ∧ IsRowAt (lines text.toList) i ∧
    (words line)[0]? = some name.toList

variable {text name : String}

theorem name_eq_some_iff {line : List Char} {d : Descriptor} (h : Shows line d) :
    d.name = some name ↔ (words line)[0]? = some name.toList := by
  rw [← h.name]
  cases d.name with
  | none => simp
  | some n => simp [String.toList_inj]

theorem lists_iff_hasRow : Lists text name ↔ HasRow text name := by
  obtain ⟨hrow, hcache⟩ := @mem_listed_places (lines text.toList)
  constructor
  · rintro ⟨d, hd, hname⟩
    obtain ⟨i, hi, line, hline, hshows, -⟩ := hrow d hd
    exact ⟨i, line, hline, hi, (name_eq_some_iff hshows).1 hname⟩
  · rintro ⟨i, line, hline, hi, hname⟩
    obtain ⟨d, hd, line', hline', hshows, -⟩ := hcache i hi
    rw [hline, Option.some_inj] at hline'
    subst hline'
    exact ⟨d, hd, (name_eq_some_iff hshows).2 hname⟩

/-- A name is part of the line whose row it starts. -/
theorem HasRow.exists_infix_line (h : HasRow text name) :
    ∃ line ∈ lines text.toList, name.toList <:+: line := by
  obtain ⟨i, line, hline, -, hname⟩ := h
  exact ⟨line, List.mem_of_getElem? hline, infix_of_mem_words (List.mem_of_getElem? hname)⟩

end Listing

/-! ### The verdict on a list -/

namespace CacheOperation

variable {o : CommandOutput} {name : String}

/-- The verdict on a list that has to hold a name. -/
def listVerdict (name : String) (o : CommandOutput) : Verdict :=
  interpret o (listAll (some name)).allowedExits [.literal name] .both

theorem printed_infix_iff (hname : IsWord name.toList) :
    (o.Printed fun line => name.toList <:+: line) ↔ name.toList <:+: o.combined.toList := by
  have hblank : ∀ c, isBlank c = true → c ∉ name.toList := by
    intro c hc hmem
    rw [hname.unbroken c hmem] at hc
    cases hc
  have hreturn : name.toList.getLast? ≠ some '\r' :=
    fun h => hblank '\r' (by decide) (List.mem_of_getLast? h)
  exact exists_infix_line_iff hname.ne_nil (hblank '\n' (by decide)) hreturn

theorem isSuccess_listVerdict_iff (hexit : o.EndedWell) (hname : IsWord name.toList) :
    (listVerdict name o).isSuccess = true ↔ name.toList <:+: o.combined.toList := by
  have hparsed : (listAll (some name)).expectedMessages = .ok [.literal name] := rfl
  rw [listVerdict, interpret_eq_interpretBy,
    isSuccess_iff_worked hparsed Pattern.Regex.isMatch o, ← printed_infix_iff hname]
  exact and_iff_right hexit

theorem isSuccess_listVerdict_of_lists (hexit : o.EndedWell) (hname : IsWord name.toList)
    (h : Listing.Lists o.combined name) : (listVerdict name o).isSuccess = true := by
  rw [isSuccess_listVerdict_iff hexit hname, ← printed_infix_iff hname]
  exact (Listing.lists_iff_hasRow.1 h).exists_infix_line

end CacheOperation

/-! ### What is said about a list -/

namespace Screen

theorem head?_started (task : String) : (started task).toList.head? = some '.' := by
  simp only [started, String.toList_append]
  rfl

theorem head?_ended (mark : Mark) (message : String) :
    (ended mark message).toList.head? = some '[' := by
  simp only [ended, String.toList_append, List.append_assoc]
  cases mark <;> rfl

/-- Only the steps of a task are indented. -/
theorem step_ne {mark : Mark} {message line : String} (h : line.toList.head? ≠ some ' ') :
    step mark message ≠ line := by
  rintro rfl
  apply h
  simp only [step, String.toList_append, List.append_assoc]
  rfl

end Screen

namespace CommandLine

open CacheOperation

variable {m : Machine} {config : Config} {o : CommandOutput} {name : String}

/-- That a cache is listed is said exactly if the verdict on the list is a success. -/
theorem mem_lines_verifyListed_iff
    (hanswer : ((listAll (some name)).command config.launcher.java config.effectiveLocation
      none).answer m.launcher (Checker.limit config) = some (.ok o))
    (count : Option Nat) (world : World Calls) :
    Screen.step .ok s!"{name} is listed" ∈
        (Session.result (verifyListed m config (some name) count) world).1.lines ↔
      (listVerdict name o).isSuccess = true := by
  have hrun : (Session.result (runOperation m config none (listAll (some name))) world).1 =
      .ok ⟨o, listVerdict name o⟩ := by
    rw [runOperation, Session.result_onStore, result_run_of_ok _ _ _ _ _ _ rfl]
    simp only [hanswer]
    rfl
  -- how the caches are counted does not matter, and must not be computed
  obtain ⟨counted, hcounted⟩ : ∃ counted, counted = listedCount := ⟨_, rfl⟩
  rw [verifyListed, ← hcounted, judged]
  simp only [Session.result_bind, hrun]
  cases hverdict : (listVerdict name o).isSuccess with
  | true =>
    simp only [if_true, Session.result_pure, Option.toList_some, List.map_cons, List.map_nil]
    cases counted o with
    | error e => simp
    | ok listed => simp
  | false =>
    simp only [Bool.false_eq_true, if_false, Session.result_bind, Session.result_debug,
      Session.result_pure, iff_false]
    rw [List.mem_pair, not_or]
    exact ⟨Screen.step_ne (by rw [Screen.head?_started]; decide),
      Screen.step_ne (by rw [Screen.head?_ended]; decide)⟩

/-- For every output of a list that ended with an allowed code and every name that is a word: the
    verdict is a success exactly if the name stands anywhere in the output, and that the cache is
    listed is said exactly then. The caches of the output have the names that their rows start with.
    A listed cache is always found, and both agree exactly if the name stands in the output only
    where some row starts with it. -/
theorem listAll_isSuccess_iff_listed_iff (hexit : o.EndedWell) (hname : IsWord name.toList) :
    let passes := (listVerdict name o).isSuccess = true
    let listed := Listing.Lists o.combined name
    (listAll (some name)).expectedMessages = .ok [.literal name] ∧
      (∀ (m : Machine) (config : Config) (count : Option Nat) (world : World Calls),
        ((listAll (some name)).command config.launcher.java config.effectiveLocation none).answer
            m.launcher (Checker.limit config) = some (.ok o) →
          (Screen.step .ok s!"{name} is listed" ∈
            (Session.result (verifyListed m config (some name) count) world).1.lines ↔ passes)) ∧
      (passes ↔ name.toList <:+: o.combined.toList) ∧
      (listed ↔ Listing.HasRow o.combined name) ∧
      (listed → passes) ∧
      ((passes ↔ listed) ↔
        (name.toList <:+: o.combined.toList → Listing.HasRow o.combined name)) := by
  intro passes listed
  have hpasses : passes ↔ name.toList <:+: o.combined.toList :=
    isSuccess_listVerdict_iff hexit hname
  have hlisted : listed ↔ Listing.HasRow o.combined name := Listing.lists_iff_hasRow
  have hfound : listed → passes := isSuccess_listVerdict_of_lists hexit hname
  refine ⟨rfl, ?_, hpasses, hlisted, hfound, ?_⟩
  · exact fun m config count world hanswer => mem_lines_verifyListed_iff hanswer count world
  · rw [← hpasses, ← hlisted]
    exact ⟨Iff.mp, fun h => ⟨h, hfound⟩⟩

/-- A list on which both agree: the name stands in front of a row, and in a message besides. -/
theorem listAll_agrees_on_listed_cache :
    let o : CommandOutput :=
      ⟨some 1, "Incompatible shared caches\nT1 Java8 32-bit non-persistent cr 7 12 In use\n",
        "JVMSHRC005I T1 is there\n"⟩
    o.EndedWell ∧ IsWord "T1".toList ∧ Listing.Lists o.combined "T1" ∧
      (listVerdict "T1" o).isSuccess = true := by
  intro o
  have hexit : o.EndedWell := Or.inr rfl
  have hname : IsWord "T1".toList := isWord_of_all (by decide) (by decide)
  have hlisted : Listing.Lists o.combined "T1" := by
    have hany : (Listing.caches o.combined).any (fun d => d.name == some "T1") = true := by
      decide +kernel
    obtain ⟨d, hd, hown⟩ := List.any_eq_true.1 hany
    exact ⟨d, hd, beq_iff_eq.1 hown⟩
  obtain ⟨-, -, -, -, hfound, -⟩ := listAll_isSuccess_iff_listed_iff hexit hname
  exact ⟨hexit, hname, hlisted, hfound hlisted⟩

/-- The list of a cache with a longer name passes for the shorter one, which is not listed. -/
theorem listAll_passes_for_part_of_name :
    let o : CommandOutput :=
      ⟨some 1, "", "Compatible shared caches\nT10 Java17 64-bit persistent cr\n"⟩
    o.EndedWell ∧ (listVerdict "T1" o).isSuccess = true ∧ ¬ Listing.Lists o.combined "T1" := by
  intro o
  have hnames : (Listing.caches o.combined).map Descriptor.name = [some "T10"] := by
    decide +kernel
  refine ⟨Or.inr rfl, by decide +kernel, ?_⟩
  rintro ⟨d, hd, hown⟩
  have hmem : some "T1" ∈ [some "T10"] := by
    rw [← hnames, ← hown]
    exact List.mem_map_of_mem hd
  revert hmem
  decide

end CommandLine

end CacheWarden
