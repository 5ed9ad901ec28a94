import CacheWarden.Proofs.Text.Numeral
import CacheWarden.Proofs.Text.Split
import CacheWarden.Proofs.Text.Trim
import Mathlib

/-!
# Words in columns

Words that are set apart by runs of blanks, however long these are, are the words that are read.
Everything follows from one equation, `words_append_blank`. Main statements: `words_spaced`;
`isWord_of_mem_words`, what is read as a word is one; `words_intercalate` and
`flatMap_words_eq_self_iff`, joined texts come back exactly if each is a word; and
`secondInitial_spaced`, by which a text does not start with two words if its own second word starts
differently.
-/

namespace CacheWarden.Text

/-- Whether a text is a single word. -/
structure IsWord (w : List Char) : Prop where
  ne_nil : w ≠ []
  unbroken : ∀ c ∈ w, isBlank c = false

theorem IsWord.isBlank_of_head? {w : List Char} (h : IsWord w) (rest : List Char) (c : Char)
    (hc : (w ++ rest).head? = some c) : isBlank c = false := by
  rw [List.head?_append_of_ne_nil _ h.ne_nil] at hc
  exact h.unbroken c (List.mem_of_mem_head? hc)

/-- There is nothing to trim from a word. -/
theorem IsWord.trim_eq {w : List Char} (h : IsWord w) : trim w = w :=
  trim_eq_self (fun c hc => h.unbroken c (List.mem_of_mem_head? hc))
    (fun c hc => h.unbroken c (List.mem_of_mem_getLast? hc))

theorem isWord_of_all {w : List Char} (hne : w ≠ []) (h : w.all (!isBlank ·) = true) :
    IsWord w := by
  refine ⟨hne, fun c hc => ?_⟩
  simpa using List.all_eq_true.1 h c hc

theorem eq_false_of_mem_splitOnP {α : Type} {p : α → Bool} {s w : List α} {c : α}
    (h : w ∈ s.splitOnP p) (hc : c ∈ w) : p c = false := by
  induction s generalizing w with
  | nil =>
    rw [List.splitOnP_nil, List.mem_singleton] at h
    simp [h] at hc
  | cons d s ih =>
    rw [List.splitOnP_cons_eq_if_modifyHead] at h
    split at h
    · rcases List.mem_cons.1 h with rfl | h
      · cases hc
      · exact ih h hc
    · rename_i hd
      obtain ⟨v, vs, hs⟩ := List.exists_cons_of_ne_nil (List.splitOnP_ne_nil p s)
      rw [hs, List.modifyHead_cons] at h
      rcases List.mem_cons.1 h with rfl | h
      · rcases List.mem_cons.1 hc with rfl | hc
        · exact Bool.not_eq_true _ ▸ hd
        · exact ih (hs ▸ List.mem_cons_self) hc
      · exact ih (hs ▸ List.mem_cons_of_mem v h) hc

/-- A piece takes in everything at which a text is not cut. -/
theorem exists_mem_splitOnP_iff {α : Type} {p : α → Bool} {s : List α} {c : α} (hc : p c = false) :
    (∃ w ∈ s.splitOnP p, c ∈ w) ↔ c ∈ s := by
  induction s with
  | nil => simp
  | cons d s ih =>
    rw [List.splitOnP_cons_eq_if_modifyHead]
    by_cases hd : p d = true
    · have hne : c ≠ d := by
        rintro rfl
        rw [hc] at hd
        cases hd
      rw [if_pos hd, List.exists_mem_cons_iff, ih]
      simp [hne]
    · obtain ⟨v, vs, hs⟩ := List.exists_cons_of_ne_nil (List.splitOnP_ne_nil p s)
      rw [hs, List.exists_mem_cons_iff] at ih
      rw [if_neg hd, hs, List.modifyHead_cons, List.exists_mem_cons_iff, List.mem_cons,
        List.mem_cons, or_assoc, ih]

theorem isBlank_of_mem_word {s w : List Char} {c : Char} (h : w ∈ words s) (hc : c ∈ w) :
    isBlank c = false :=
  eq_false_of_mem_splitOnP (List.mem_filter.1 h).1 hc

theorem isWord_of_mem_words {s w : List Char} (h : w ∈ words s) : IsWord w :=
  ⟨ne_nil_of_mem_words h, fun _ => isBlank_of_mem_word h⟩

/-! ### Numbers are words -/

theorem not_isBlank_of_isDigit {c : Char} (h : isDigit c = true) : isBlank c = false := by
  obtain ⟨hlow, hhigh⟩ := bounds_of_isDigit h
  rw [← Bool.not_eq_true]
  simp only [isBlank, Bool.or_eq_true, Bool.and_eq_true, decide_eq_true_eq, beq_iff_eq]
  omega

theorem isWord_decimal (n : Nat) : IsWord (decimal n) :=
  ⟨decimal_ne_nil n, fun _ hc => not_isBlank_of_isDigit (isDigit_of_mem_decimal hc)⟩

theorem isWord_padded (width n : Nat) : IsWord (padded width n) :=
  ⟨List.append_ne_nil_of_right_ne_nil _ (decimal_ne_nil n),
    fun _ hc => not_isBlank_of_isDigit (isDigit_of_mem_padded hc)⟩

theorem isWord_decimalInt (n : Int) : IsWord (decimalInt n) := by
  refine ⟨decimalInt_ne_nil n, fun c hc => ?_⟩
  rcases isDigit_of_mem_decimalInt hc with rfl | hc
  · decide
  · exact not_isBlank_of_isDigit hc

/-! ### Words that are set apart -/

/-- A run of spaces and tabs that sets two words apart. -/
structure Separator extends Gap where
  wide : chars ≠ []

/-- A single space. -/
def Separator.space : Separator := ⟨Gap.space, List.cons_ne_nil _ _⟩

/-- Words with separators between them. -/
def spaced (separators : Nat → Separator) : List (List Char) → List Char
  | [] => []
  | [w] => w
  | w :: rest => w ++ ((separators 0).chars ++ spaced (fun i => separators (i + 1)) rest)

@[simp] theorem words_nil : words [] = [] := by
  simp [words]

theorem words_append_blank {b : Char} (hb : isBlank b = true) (s t : List Char) :
    words (s ++ b :: t) = words s ++ words t := by
  rw [words, List.splitOnP_append_cons s t hb, List.filter_append]
  rfl

theorem words_blanks_append {g : List Char} (hg : ∀ c ∈ g, isBlank c = true) (s : List Char) :
    words (g ++ s) = words s := by
  induction g with
  | nil => rfl
  | cons b g ih =>
    have hb := words_append_blank (hg b List.mem_cons_self) [] (g ++ s)
    rw [words_nil, List.nil_append, List.nil_append] at hb
    rw [List.cons_append, hb, ih fun c hc => hg c (List.mem_cons_of_mem b hc)]

theorem words_of_isWord {w : List Char} (h : IsWord w) : words w = [w] := by
  rw [words, List.splitOnP_eq_singleton h.unbroken]
  simp [h.ne_nil]

theorem words_eq_nil {b : List Char} (hb : ∀ c ∈ b, isBlank c = true) : words b = [] := by
  have h := words_blanks_append hb []
  rwa [List.append_nil, words_nil] at h

theorem words_append_blanks {b : List Char} (hb : ∀ c ∈ b, isBlank c = true) (s : List Char) :
    words (s ++ b) = words s := by
  cases b with
  | nil => rw [List.append_nil]
  | cons c b =>
    rw [words_append_blank (hb c List.mem_cons_self),
      words_eq_nil fun d hd => hb d (List.mem_cons_of_mem c hd), List.append_nil]

/-- Trimming takes no word away. -/
theorem words_trim (s : List Char) : words (trim s) = words s := by
  obtain ⟨a, b, ha, hb, hs⟩ := eq_around_trim s
  conv_rhs => rw [hs]
  rw [words_blanks_append ha, words_append_blanks hb]

/-- A word ends where a blank stands. -/
theorem words_append_of_head {w r : List Char} (hw : IsWord w)
    (hr : ∀ c ∈ r.head?, isBlank c = true) : words (w ++ r) = w :: words r := by
  cases r with
  | nil => rw [List.append_nil, words_of_isWord hw, words_nil]
  | cons b r =>
    have hb := hr b rfl
    have hrest : words (b :: r) = words r := words_append_blank hb [] r
    rw [words_append_blank hb, words_of_isWord hw, hrest]
    rfl

/-- What a text starts with is the start of its first word, if it has no blanks. -/
theorem exists_words_append {w : List Char} (hw : IsWord w) (s : List Char) :
    ∃ v ws, words (w ++ s) = (w ++ v) :: ws := by
  have hcut : w ++ s = (w ++ s.takeWhile (!isBlank ·)) ++ s.dropWhile (!isBlank ·) := by
    rw [List.append_assoc, List.takeWhile_append_dropWhile]
  have hword : IsWord (w ++ s.takeWhile (!isBlank ·)) := by
    refine ⟨List.append_ne_nil_of_left_ne_nil hw.ne_nil _, fun c hc => ?_⟩
    rcases List.mem_append.1 hc with hc | hc
    · exact hw.unbroken c hc
    · simpa using List.mem_takeWhile_imp hc
  have hrest : ∀ c ∈ (s.dropWhile (!isBlank ·)).head?, isBlank c = true := by
    intro c hc
    have hnot := List.head?_dropWhile_not (!isBlank ·) s
    rw [Option.mem_def.1 hc] at hnot
    simpa using hnot
  refine ⟨s.takeWhile (!isBlank ·), words (s.dropWhile (!isBlank ·)), ?_⟩
  conv_lhs => rw [hcut]
  exact words_append_of_head hword hrest

/-- The second word of a text starts behind the first blank. -/
theorem exists_second_word {w v : List Char} (hw : IsWord w) (hv : IsWord v) {b : Char}
    (hb : isBlank b = true) (s : List Char) :
    ∃ u, (words (w ++ b :: (v ++ s)))[1]? = some (v ++ u) := by
  obtain ⟨u, us, hu⟩ := exists_words_append hv s
  exact ⟨u, by rw [words_append_blank hb, words_of_isWord hw, hu]; rfl⟩

theorem words_append_separator (sep : Separator) (w s : List Char) :
    words (w ++ (sep.chars ++ s)) = words w ++ words s := by
  obtain ⟨b, g, hg⟩ := List.exists_cons_of_ne_nil sep.wide
  have hb : isBlank b = true := Gap.isBlank_of_mem (hg ▸ List.mem_cons_self)
  have hrest : ∀ c ∈ g, isBlank c = true := fun c hc =>
    Gap.isBlank_of_mem (hg ▸ List.mem_cons_of_mem b hc)
  rw [hg, List.cons_append, words_append_blank hb, words_blanks_append hrest]

theorem spaced_cons_cons (separators : Nat → Separator) (w v : List Char)
    (rest : List (List Char)) :
    spaced separators (w :: v :: rest) =
      w ++ ((separators 0).chars ++ spaced (fun i => separators (i + 1)) (v :: rest)) := rfl

/-- What is set apart is read back word by word. -/
theorem words_spaced (separators : Nat → Separator) {ws : List (List Char)}
    (h : ∀ w ∈ ws, IsWord w) : words (spaced separators ws) = ws := by
  induction ws generalizing separators with
  | nil => exact words_nil
  | cons w rest ih =>
    have hw : words w = [w] := words_of_isWord (h w List.mem_cons_self)
    cases rest with
    | nil => exact hw
    | cons v rest =>
      rw [spaced_cons_cons, words_append_separator, hw,
        ih _ fun u hu => h u (List.mem_cons_of_mem w hu)]
      rfl

/-- Texts with spaces between them are read back as the words of each. -/
theorem words_intercalate (ws : List (List Char)) :
    words ([' '].intercalate ws) = ws.flatMap words := by
  induction ws with
  | nil => exact words_nil
  | cons w rest ih =>
    cases rest with
    | nil => simp
    | cons v rest =>
      rw [List.intercalate_cons_cons, List.append_assoc, List.singleton_append,
        words_append_blank (by decide), ih]
      rfl

/-- Texts are read back as they are exactly if each of them is a word. -/
theorem flatMap_words_eq_self_iff {ws : List (List Char)} :
    ws.flatMap words = ws ↔ ∀ w ∈ ws, IsWord w := by
  constructor
  · intro h w hw
    rw [← h, List.mem_flatMap] at hw
    obtain ⟨s, -, hs⟩ := hw
    exact isWord_of_mem_words hs
  · intro h
    induction ws with
    | nil => rfl
    | cons w ws ih =>
      rw [List.flatMap_cons, words_of_isWord (h w List.mem_cons_self),
        ih fun v hv => h v (List.mem_cons_of_mem w hv)]
      rfl

/-! ### Both ends of a line of words -/

theorem head?_spaced (separators : Nat → Separator) {w : List Char} (hw : w ≠ [])
    (rest : List (List Char)) : (spaced separators (w :: rest)).head? = w.head? := by
  obtain ⟨c, cs, rfl⟩ := List.exists_cons_of_ne_nil hw
  cases rest <;> rfl

theorem isBlank_of_head?_spaced {separators : Nat → Separator} {ws : List (List Char)}
    (h : ∀ w ∈ ws, IsWord w) : ∀ c ∈ (spaced separators ws).head?, isBlank c = false := by
  cases ws with
  | nil => rintro c ⟨⟩
  | cons w rest =>
    have hw := h w List.mem_cons_self
    intro c hc
    rw [head?_spaced separators hw.ne_nil] at hc
    exact hw.unbroken c (List.mem_of_mem_head? hc)

theorem spaced_ne_nil {separators : Nat → Separator} {w : List Char} (hw : w ≠ [])
    (rest : List (List Char)) : spaced separators (w :: rest) ≠ [] := by
  cases rest with
  | nil => exact hw
  | cons v rest =>
    rw [spaced_cons_cons]
    exact List.append_ne_nil_of_left_ne_nil hw _

theorem isBlank_of_getLast?_spaced {separators : Nat → Separator} {ws : List (List Char)}
    (h : ∀ w ∈ ws, IsWord w) : ∀ c ∈ (spaced separators ws).getLast?, isBlank c = false := by
  induction ws generalizing separators with
  | nil => rintro c ⟨⟩
  | cons w rest ih =>
    cases rest with
    | nil =>
      intro c hc
      exact (h w List.mem_cons_self).unbroken c (List.mem_of_getLast? hc)
    | cons v rest =>
      have hv : v ≠ [] := (h v (by simp)).ne_nil
      intro c hc
      rw [spaced_cons_cons, List.getLast?_append_of_ne_nil _
        (List.append_ne_nil_of_right_ne_nil _ (spaced_ne_nil hv rest)),
        List.getLast?_append_of_ne_nil _ (spaced_ne_nil hv rest)] at hc
      exact ih (fun u hu => h u (List.mem_cons_of_mem w hu)) c hc

/-- A line of words without its indentation and what follows it. -/
theorem trim_spaced (indent trail : Gap) (separators : Nat → Separator) {ws : List (List Char)}
    (h : ∀ w ∈ ws, IsWord w) :
    trim (indent.chars ++ (spaced separators ws ++ trail.chars)) = spaced separators ws :=
  trim_around (fun _ => Gap.isBlank_of_mem) (fun _ => Gap.isBlank_of_mem)
    (isBlank_of_head?_spaced h) (isBlank_of_getLast?_spaced h)

/-- A line of words has no line ends. -/
theorem ne_of_mem_spaced {d : Char} (hd : isBlank d = true) (hs : d ≠ ' ') (ht : d ≠ '\t')
    {separators : Nat → Separator} {ws : List (List Char)} (h : ∀ w ∈ ws, IsWord w) :
    d ∉ spaced separators ws := by
  have hword : ∀ w ∈ ws, d ∉ w := by
    intro w hw hmem
    rw [(h w hw).unbroken d hmem] at hd
    cases hd
  clear h hd
  induction ws generalizing separators with
  | nil => exact List.not_mem_nil
  | cons w rest ih =>
    cases rest with
    | nil => exact hword w List.mem_cons_self
    | cons v rest =>
      rw [spaced_cons_cons, List.mem_append, List.mem_append, not_or, not_or]
      exact ⟨hword w List.mem_cons_self, Gap.not_mem hs ht,
        ih fun u hu => hword u (List.mem_cons_of_mem w hu)⟩

/-! ### The first two words -/

/-- The first character of the second word. -/
def secondInitial (s : List Char) : Option Char :=
  ((s.dropWhile (!isBlank ·)).dropWhile isBlank).head?

theorem secondInitial_append {w g : List Char} {c : Char} (hw : ∀ c ∈ w, isBlank c = false)
    (hg : ∀ c ∈ g, isBlank c = true) (hne : g ≠ []) (hc : isBlank c = false) (r : List Char) :
    secondInitial (w ++ (g ++ c :: r)) = some c := by
  have hword : ∀ c ∈ w, (!isBlank c) = true := fun c hc => by rw [hw c hc]; rfl
  have hstop : ∀ b ∈ (g ++ c :: r).head?, (!isBlank b) = false := by
    obtain ⟨b, g, rfl⟩ := List.exists_cons_of_ne_nil hne
    rintro b ⟨⟩
    rw [hg b List.mem_cons_self]
    rfl
  rw [secondInitial, List.dropWhile_append_of_pos hword, dropWhile_of_head hstop,
    List.dropWhile_append_of_pos hg, List.dropWhile_cons_of_neg (by simp [hc])]
  rfl

theorem secondInitial_spaced (separators : Nat → Separator) {w : List Char} {c : Char}
    {cs : List Char} {rest : List (List Char)} (hw : IsWord w) (hc : IsWord (c :: cs)) :
    secondInitial (spaced separators (w :: (c :: cs) :: rest)) = some c := by
  have hhead : ∃ r, spaced (fun i => separators (i + 1)) ((c :: cs) :: rest) = c :: r := by
    cases rest with
    | nil => exact ⟨cs, rfl⟩
    | cons v rest => exact ⟨_, rfl⟩
  obtain ⟨r, hr⟩ := hhead
  rw [spaced_cons_cons, hr]
  exact secondInitial_append hw.unbroken (fun _ => Gap.isBlank_of_mem) (separators 0).wide
    (hc.unbroken c List.mem_cons_self) r

end CacheWarden.Text
