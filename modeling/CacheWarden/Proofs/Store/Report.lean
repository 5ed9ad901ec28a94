import CacheWarden.Proofs.Store.Outcome
import Mathlib

/-!
# Reports about other caches

A destroy is judged by a piece of text in a line, but the name stands between quotes there. So a
line with one quoted name is a report about that cache only, whatever else stands in it, and no name
is confirmed by a longer or a shorter one. Main statements: `TellsGone.reportsEnd_iff`, which
report a line with one quoted name is; `destroy_confirmed_iff`.
-/

namespace CacheWarden

open Text

/-- Whether a line tells with one of the two messages that a cache is gone, and has no other quotes
    than those of the message. -/
inductive TellsGone (name : String) : List Char → Prop where
  | shared (front back : List Char) (hfront : '"' ∉ front) (hname : '"' ∉ name.toList)
      (hback : '"' ∉ back) :
      TellsGone name
        (front ++ ("shared cache \"" ++ name ++ "\" has been destroyed").toList ++ back)
  | plain (front back : List Char) (hfront : '"' ∉ front) (hname : '"' ∉ name.toList)
      (hback : '"' ∉ back) :
      TellsGone name (front ++ ("cache \"" ++ name ++ "\" is destroyed").toList ++ back)

variable {name other : String} {line : List Char}

theorem toList_sharedMessage (name : String) :
    ("shared cache \"" ++ name ++ "\" has been destroyed").toList =
      "shared cache ".toList ++ '"' :: (name.toList ++ '"' :: " has been destroyed".toList) := by
  rw [String.toList_append, String.toList_append, List.append_assoc]
  rfl

theorem toList_plainMessage (name : String) :
    ("cache \"" ++ name ++ "\" is destroyed").toList =
      "cache ".toList ++ '"' :: (name.toList ++ '"' :: " is destroyed".toList) := by
  rw [String.toList_append, String.toList_append, List.append_assoc]
  rfl

theorem ReportsEnd.exists_quoted (h : ReportsEnd name line) :
    ∃ a b, line = a ++ '"' :: (name.toList ++ '"' :: b) := by
  rcases h with ⟨front, back, rfl⟩ | ⟨front, back, rfl⟩
  · rw [toList_sharedMessage]
    exact ⟨front ++ "shared cache ".toList, " has been destroyed".toList ++ back, by simp⟩
  · rw [toList_plainMessage]
    exact ⟨front ++ "cache ".toList, " is destroyed".toList ++ back, by simp⟩

namespace TellsGone

theorem exists_quoted (h : TellsGone name line) :
    ∃ a b, '"' ∉ a ∧ '"' ∉ name.toList ∧ '"' ∉ b ∧
      line = a ++ '"' :: (name.toList ++ '"' :: b) := by
  have hplain : ∀ {s t : List Char}, '"' ∉ s → '"' ∉ t → '"' ∉ s ++ t := by
    intro s t hs ht
    rw [List.mem_append, not_or]
    exact ⟨hs, ht⟩
  cases h with
  | shared front back hfront hname hback =>
    rw [toList_sharedMessage]
    exact ⟨front ++ "shared cache ".toList, " has been destroyed".toList ++ back,
      hplain hfront (by decide), hname, hplain (by decide) hback, by simp⟩
  | plain front back hfront hname hback =>
    rw [toList_plainMessage]
    exact ⟨front ++ "cache ".toList, " is destroyed".toList ++ back,
      hplain hfront (by decide), hname, hplain (by decide) hback, by simp⟩

theorem reportsEnd (h : TellsGone name line) : ReportsEnd name line := by
  cases h with
  | shared front back => exact Or.inl (List.infix_append front _ back)
  | plain front back => exact Or.inr (List.infix_append front _ back)

/-- The quotes tell where a name starts and ends. -/
theorem reportsEnd_iff (h : TellsGone other line) : ReportsEnd name line ↔ name = other := by
  constructor
  · intro hreport
    obtain ⟨a, b, ha, hother, hb, rfl⟩ := h.exists_quoted
    obtain ⟨a', b', hcut⟩ := hreport.exists_quoted
    exact (String.toList_inj.1 (eq_of_quoted ha hother hb hcut)).symm
  · rintro rfl
    exact h.reportsEnd

theorem unique (h : TellsGone name line) (h' : TellsGone other line) : name = other :=
  h'.reportsEnd_iff.1 h.reportsEnd

end TellsGone

/-- Where every quote belongs to a message with one name, a cache is reported by those lines that
    name it. -/
theorem exists_reportsEnd_iff_tellsGone {ls : List (List Char)}
    (hlines : ∀ line ∈ ls, '"' ∈ line → ∃ other, TellsGone other line) :
    (∃ line ∈ ls, ReportsEnd name line) ↔ ∃ line ∈ ls, TellsGone name line := by
  constructor
  · rintro ⟨line, hline, hreport⟩
    obtain ⟨a, b, hcut⟩ := hreport.exists_quoted
    obtain ⟨other, hother⟩ := hlines line hline (by rw [hcut]; simp)
    exact ⟨line, hline, hother.reportsEnd_iff.1 hreport ▸ hother⟩
  · rintro ⟨line, hline, htells⟩
    exact ⟨line, hline, htells.reportsEnd⟩

namespace RuntimeStore

variable {launcher : Launcher} {settings : LauncherSettings} {limit : Limit} {r : DestroyRequest}
  {o : CommandOutput}

theorem result_destroy_eq_destroyedAll_iff
    (hanswer : (destroyCommand settings r).answer launcher limit = some (.ok o)) (calls : Calls) :
    (Session.result (destroy launcher settings limit r) calls).1 = some .destroyedAll ↔
      r.Proven o := by
  rw [result_destroy_eq_iff, ending_iff, hanswer]
  constructor
  · rintro ⟨outcome, hdecided, heq⟩
    cases heq
    cases hdecided with
    | destroyed hproven => exact hproven
  · exact fun hproven => ⟨_, .destroyed hproven, rfl⟩

/-- For every launcher whose command ended with an allowed code, and left an output in which quotes
    stand in messages with one name only: a cache is destroyed exactly if some line names it, and a
    line names only one cache. -/
theorem destroy_confirmed_iff (hreset : r.reset = false)
    (hanswer : (destroyCommand settings r).answer launcher limit = some (.ok o))
    (hexit : o.EndedWell)
    (hlines : ∀ line ∈ o.streamLines, '"' ∈ line → ∃ other, TellsGone other line) (calls : Calls) :
    ((Session.result (destroy launcher settings limit r) calls).1 = some .destroyedAll ↔
      ∃ line ∈ o.streamLines, TellsGone r.name line) ∧
    ∀ line name other, TellsGone name line → TellsGone other line → name = other := by
  refine ⟨?_, fun _ _ _ => TellsGone.unique⟩
  rw [result_destroy_eq_destroyedAll_iff hanswer, proven_of_kept_iff hreset, and_iff_right hexit,
    exists_reportsEnd_iff_tellsGone hlines]

/-- Reports about a longer name, and about one that goes on in front, do not confirm a name. -/
theorem destroy_not_confirmed_by_other_names :
    let stderr := "shared cache \"T10\" has been destroyed\n"
    let stdout := "JVMSHRC010I: the cache \"oldT1\" is destroyed!\r\n"
    let launcher : Launcher := fun _ => .ended (some 1) (Utf8.encode stdout) (Utf8.encode stderr) 5
    let r : DestroyRequest := ⟨some "/tmp/sc", .persistent, "T1", false⟩
    (∀ line ∈ (CommandOutput.mk (some 1) stdout stderr).streamLines,
      '"' ∈ line → ∃ other, TellsGone other line) ∧
      (Session.result (destroy launcher ⟨"java", none, 300⟩ none r) []).1 ≠ some .destroyedAll := by
  intro stderr stdout launcher r
  have hnames : ∀ line ∈ (CommandOutput.mk (some 1) stdout stderr).streamLines,
      ∃ other, other ≠ "T1" ∧ TellsGone other line := by
    have hsplit : (CommandOutput.mk (some 1) stdout stderr).streamLines =
        [[] ++ ("shared cache \"" ++ "T10" ++ "\" has been destroyed").toList ++ [],
          "JVMSHRC010I: the ".toList ++ ("cache \"" ++ "oldT1" ++ "\" is destroyed").toList ++
            "!".toList] := by
      decide +kernel
    rw [hsplit, List.forall_mem_cons, List.forall_mem_singleton]
    constructor
    · exact ⟨"T10", by decide, .shared _ _ (by decide) (by decide) (by decide)⟩
    · exact ⟨"oldT1", by decide, .plain _ _ (by decide) (by decide) (by decide)⟩
  have hlines : ∀ line ∈ (CommandOutput.mk (some 1) stdout stderr).streamLines,
      '"' ∈ line → ∃ other, TellsGone other line :=
    fun line hline _ => (hnames line hline).imp fun _ => And.right
  have hanswer : (destroyCommand ⟨"java", none, 300⟩ r).answer launcher none =
      some (.ok ⟨some 1, stdout, stderr⟩) := by
    refine Command.answer_eq_ok_iff.2 ⟨by decide +kernel, _, _, _, _, rfl, rfl, ?_⟩
    simp only [Command.outputOf, Utf8.decodeLossy_encode]
  obtain ⟨hiff, hunique⟩ := destroy_confirmed_iff rfl hanswer (Or.inr rfl) hlines []
  refine ⟨hlines, fun hdestroyed => ?_⟩
  obtain ⟨line, hline, hown⟩ := hiff.1 hdestroyed
  obtain ⟨other, hother, hnamed⟩ := hnames line hline
  exact hother (hunique line other "T1" hnamed hown)

end RuntimeStore

end CacheWarden
