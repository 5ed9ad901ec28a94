import CacheWarden.Proofs.Properties.Escape
import CacheWarden.Proofs.Text.Trim
import Mathlib

/-!
# Entries

When a physical line is an entry of its own, and how an entry is cut. Main statements:
`joinLines_of_whole`, lines that do not go on and are no comments are the entries;
`split_of_sign` and `split_of_gap`, a key ends at its sign or at the first blank, and a value loses
no more than the blanks around it.
-/

namespace CacheWarden

open Text

namespace Properties

variable {a s : List Char}

/-! ### Lines that are entries of their own -/

theorem continues_concat (s : List Char) (c : Char) :
    continues (s ++ [c]) = (c == '\\' && !continues s) := by
  unfold continues
  rw [List.reverse_concat, List.takeWhile_cons]
  cases hc : c == '\\' with
  | false => rfl
  | true =>
    simp only [if_true, List.length_cons, Bool.true_and]
    rw [Bool.eq_iff_iff, Bool.not_eq_true', beq_iff_eq, beq_eq_false_iff_ne]
    omega

theorem continues_concat_of_ne {c : Char} (h : c ≠ '\\') (s : List Char) :
    continues (s ++ [c]) = false := by
  rw [continues_concat, beq_eq_false_iff_ne.2 h, Bool.false_and]

theorem continues_append_of_not_mem (h : '\\' ∉ a) (s : List Char) :
    continues (a ++ s) = continues s := by
  induction s using List.reverseRecOn with
  | nil =>
    rw [List.append_nil]
    cases a using List.reverseRecOn with
    | nil => rfl
    | append_singleton a c =>
      have hc : c ≠ '\\' := by
        rintro rfl
        exact h (by simp)
      rw [continues_concat_of_ne hc]
      rfl
  | append_singleton s c ih => rw [← List.append_assoc, continues_concat, continues_concat, ih]

theorem continues_append_plain (hs : continues s = false) (h : '\\' ∉ a) :
    continues (s ++ a) = false := by
  cases a using List.reverseRecOn with
  | nil => rwa [List.append_nil]
  | append_singleton a c =>
    have hc : c ≠ '\\' := by
      rintro rfl
      exact h (by simp)
    rw [← List.append_assoc]
    exact continues_concat_of_ne hc _

theorem continues_append_escapeChar (hs : continues s = false) (c : Char) :
    continues (s ++ escapeChar c) = false := by
  unfold escapeChar
  split
  · -- the mark may be a backslash itself, which the one in front of it protects
    have hcut : s ++ ['\\', escapeMark c] = s ++ ['\\'] ++ [escapeMark c] := by simp
    rw [hcut, continues_concat, continues_concat, hs]
    simp
  · rename_i h
    apply continues_concat_of_ne
    rintro rfl
    exact h (by decide)

theorem continues_append_escape (hs : continues s = false) (t : List Char) :
    continues (s ++ escape t) = false := by
  induction t generalizing s with
  | nil => rwa [escape, List.flatMap_nil, List.append_nil]
  | cons c t ih =>
    rw [escape_cons, ← List.append_assoc]
    exact ih (continues_append_escapeChar hs c)

theorem continues_trimStart (s : List Char) : continues (trimStart s) = continues s := by
  have hcut : s.takeWhile isBlank ++ trimStart s = s := List.takeWhile_append_dropWhile
  have hplain : '\\' ∉ s.takeWhile isBlank := by
    intro h
    have hb : isBlank '\\' = true := List.mem_takeWhile_imp h
    exact absurd hb (by decide)
  rw [← continues_append_of_not_mem hplain, hcut]

theorem joinLines_of_whole {ls : List (List Char)} (h : ∀ line ∈ ls,
    isSkipped (trimStart line) = false ∧ continues line = false) :
    joinLines none ls = ls.map trimStart := by
  induction ls with
  | nil => rfl
  | cons line ls ih =>
    obtain ⟨hskip, hcont⟩ := h line List.mem_cons_self
    rw [← continues_trimStart] at hcont
    rw [joinLines]
    simp only [hskip, Bool.and_false, Bool.false_eq_true, if_false, Option.getD_none,
      List.nil_append, hcont]
    rw [ih fun l hl => h l (List.mem_cons_of_mem _ hl), List.map_cons]

/-! ### Cutting an entry -/

/-- The units of a value among those behind its key. -/
def valueUnits (rest : List PropertyUnit) : List PropertyUnit :=
  let rest := match rest.dropWhile PropertyUnit.isBlank with
    | u :: r => if u.isAssignment then r else u :: r
    | [] => []
  ((rest.dropWhile PropertyUnit.isBlank).reverse.dropWhile PropertyUnit.isBlank).reverse

theorem split_blanks_append {blanks : List PropertyUnit} (h : ∀ u ∈ blanks, u.isBlank = true)
    (units : List PropertyUnit) : split (blanks ++ units) = split units := by
  unfold split
  rw [List.dropWhile_append_of_pos h]

theorem split_decode_trimStart (s : List Char) :
    split (decode (trimStart s)) = split (decode s) := by
  induction s with
  | nil => rfl
  | cons c s ih =>
    cases hc : isBlank c with
    | false => rw [trimStart_of_head hc]
    | true =>
      have hplain : c ≠ '\\' := by
        rintro rfl
        cases hc
      have htrim : trimStart (c :: s) = trimStart s := List.dropWhile_cons_of_pos hc
      have hunit : ∀ u ∈ [PropertyUnit.plain c], u.isBlank = true := by
        intro u hu
        rw [List.mem_singleton.1 hu]
        exact hc
      rw [htrim, ih, decode_plain hplain]
      exact (split_blanks_append hunit _).symm

theorem map_char_unitOf (s : List Char) : (s.map unitOf).map PropertyUnit.char = s := by
  simp [Function.comp_def]

/-- A key ends at the first separator behind it. -/
theorem split_key_append {rest : List PropertyUnit} (key : List Char)
    (hrest : ∀ u ∈ rest.head?, u.isSeparator = true)
    (hstart : key ≠ [] ∨ ∃ u ∈ rest.head?, u.isBlank = false) :
    split (key.map unitOf ++ rest) =
      some (String.ofList key, String.ofList ((valueUnits rest).map PropertyUnit.char)) := by
  have hkey : ∀ u ∈ key.map unitOf, (!u.isSeparator) = true := by
    intro u hu
    obtain ⟨c, -, rfl⟩ := List.mem_map.1 hu
    rw [isSeparator_unitOf]
    rfl
  have hstop : ∀ u ∈ rest.head?, (!u.isSeparator) = false := fun u hu => by
    rw [hrest u hu]
    rfl
  have hhead : ∃ u us, key.map unitOf ++ rest = u :: us ∧ u.isBlank = false := by
    cases key with
    | nil =>
      obtain ⟨u, hu, hb⟩ := hstart.resolve_left (by simp)
      obtain ⟨us, rfl⟩ := List.head?_eq_some_iff.1 hu
      exact ⟨u, us, rfl, hb⟩
    | cons c key => exact ⟨unitOf c, _, rfl, isBlank_unitOf c⟩
  have htake : (key.map unitOf ++ rest).takeWhile (!·.isSeparator) = key.map unitOf := by
    rw [List.takeWhile_append_of_pos hkey]
    cases rest with
    | nil => simp
    | cons u us => rw [List.takeWhile_cons_of_neg (by simp [hstop u rfl]), List.append_nil]
  have hdrop : (key.map unitOf ++ rest).dropWhile (!·.isSeparator) = rest := by
    rw [List.dropWhile_append_of_pos hkey, dropWhile_of_head hstop]
  have hchars : (key.map unitOf).map PropertyUnit.char = key := map_char_unitOf key
  obtain ⟨u, us, hcons, hb⟩ := hhead
  rw [hcons] at htake hdrop ⊢
  unfold split
  rw [List.dropWhile_cons_of_neg (by simp [hb])]
  simp only [htake, hdrop, hchars]
  rfl

theorem isBlank_of_mem_value {u : PropertyUnit} {value : List Char}
    (h : u ∈ value.map unitOf) : u.isBlank = false := by
  obtain ⟨c, -, rfl⟩ := List.mem_map.1 h
  exact isBlank_unitOf c

/-- Nothing of a value is lost with the blanks around it. -/
theorem trim_value {before after : List PropertyUnit} (value : List Char)
    (hbefore : ∀ u ∈ before, u.isBlank = true) (hafter : ∀ u ∈ after, u.isBlank = true) :
    (((before ++ (value.map unitOf ++ after)).dropWhile PropertyUnit.isBlank).reverse.dropWhile
      PropertyUnit.isBlank).reverse = value.map unitOf :=
  dropWhile_around hbefore hafter
    (fun _ hu => isBlank_of_mem_value (List.mem_of_mem_head? hu))
    (fun _ hu => isBlank_of_mem_value (List.mem_of_getLast? hu))

theorem valueUnits_sign {before after trail : List PropertyUnit} {sign : PropertyUnit}
    (value : List Char) (hbefore : ∀ u ∈ before, u.isBlank = true)
    (hsign : sign.isAssignment = true) (hplain : sign.isBlank = false)
    (hafter : ∀ u ∈ after, u.isBlank = true) (htrail : ∀ u ∈ trail, u.isBlank = true) :
    valueUnits (before ++ sign :: (after ++ (value.map unitOf ++ trail))) = value.map unitOf := by
  unfold valueUnits
  rw [List.dropWhile_append_of_pos hbefore, List.dropWhile_cons_of_neg (by simp [hplain])]
  simp only [hsign, if_true]
  exact trim_value value hafter htrail

theorem valueUnits_gap {before trail : List PropertyUnit} (value : List Char)
    (hbefore : ∀ u ∈ before, u.isBlank = true) (htrail : ∀ u ∈ trail, u.isBlank = true) :
    valueUnits (before ++ (value.map unitOf ++ trail)) = value.map unitOf := by
  unfold valueUnits
  rw [List.dropWhile_append_of_pos hbefore]
  cases value with
  | nil =>
    rw [List.map_nil, List.nil_append, List.dropWhile_eq_nil_iff.2 htrail]
    rfl
  | cons c value =>
    have hhead : ∀ u ∈ ((c :: value).map unitOf ++ trail).head?, u.isBlank = false := by
      rintro u ⟨⟩
      exact isBlank_unitOf c
    rw [dropWhile_of_head hhead]
    simp only [List.map_cons, List.cons_append, isAssignment_unitOf, Bool.false_eq_true, if_false]
    have hnone : ∀ u ∈ ([] : List PropertyUnit), u.isBlank = true := by simp
    exact trim_value (c :: value) hnone htrail

/-! ### Blanks and signs -/

/-- The units of a run of blanks. -/
def blankUnits (g : Gap) : List PropertyUnit := g.chars.map .plain

theorem isBlank_of_mem_blankUnits {g : Gap} {u : PropertyUnit} (h : u ∈ blankUnits g) :
    u.isBlank = true := by
  obtain ⟨c, hc, rfl⟩ := List.mem_map.1 h
  exact Gap.isBlank_of_mem hc

/-- A run of blanks, or a separator behind it, starts with a separator. -/
theorem isSeparator_of_head_blankUnits {g : Gap} {rest : List PropertyUnit} {u : PropertyUnit}
    (hrest : ∀ u ∈ rest.head?, u.isSeparator = true) (h : u ∈ (blankUnits g ++ rest).head?) :
    u.isSeparator = true := by
  cases hg : blankUnits g with
  | nil =>
    rw [hg, List.nil_append] at h
    exact hrest u h
  | cons v vs =>
    rw [hg] at h
    cases h
    have hv : u.isBlank = true := isBlank_of_mem_blankUnits (hg ▸ List.mem_cons_self)
    rw [PropertyUnit.isSeparator, hv, Bool.or_true]

/-- A key that is not empty ends at a blank. -/
theorem split_of_gap {key : List Char} {g : Gap} (value : List Char) (trail : Gap)
    (hkey : key ≠ []) (wide : g.chars ≠ []) :
    split (key.map unitOf ++ (blankUnits g ++ (value.map unitOf ++ blankUnits trail))) =
      some (String.ofList key, String.ofList value) := by
  have hrest : ∀ u ∈ (blankUnits g ++ (value.map unitOf ++ blankUnits trail)).head?,
      u.isSeparator = true := by
    obtain ⟨c, cs, hg⟩ := List.exists_cons_of_ne_nil wide
    have hc : isBlank c = true := Gap.isBlank_of_mem (hg ▸ List.mem_cons_self)
    rw [blankUnits, hg]
    rintro u ⟨⟩
    show (_ || isBlank c) = true
    rw [hc, Bool.or_true]
  rw [split_key_append key hrest (Or.inl hkey),
    valueUnits_gap value (fun _ => isBlank_of_mem_blankUnits) (fun _ => isBlank_of_mem_blankUnits),
    map_char_unitOf]

/-- Any key ends at a sign, with blanks in front of it or without. -/
theorem split_of_sign (key : List Char) (before : Gap) {sign : PropertyUnit} (after : Gap)
    (value : List Char) (trail : Gap) (hsign : sign.isAssignment = true)
    (hplain : sign.isBlank = false) :
    split (key.map unitOf ++ (blankUnits before ++
        sign :: (blankUnits after ++ (value.map unitOf ++ blankUnits trail)))) =
      some (String.ofList key, String.ofList value) := by
  have hsep : sign.isSeparator = true := by
    rw [PropertyUnit.isSeparator, hsign, Bool.true_or]
  have hvalue : ∀ blanks : List PropertyUnit, (∀ u ∈ blanks, u.isBlank = true) →
      valueUnits (blanks ++ sign :: (blankUnits after ++ (value.map unitOf ++ blankUnits trail))) =
        value.map unitOf := fun blanks hblanks =>
    valueUnits_sign value hblanks hsign hplain (fun _ => isBlank_of_mem_blankUnits)
      (fun _ => isBlank_of_mem_blankUnits)
  cases key with
  | nil =>
    -- the blanks in front of the sign go with the indentation
    have hhead : ∀ r : List PropertyUnit, ∀ u ∈ (sign :: r).head?, u.isSeparator = true := by
      rintro r u ⟨⟩
      exact hsep
    have hcut := split_key_append []
      (hhead (blankUnits after ++ (value.map unitOf ++ blankUnits trail)))
      (Or.inr ⟨sign, rfl, hplain⟩)
    have hv := hvalue [] (by simp)
    rw [List.nil_append] at hv
    rw [hv, map_char_unitOf, List.map_nil, List.nil_append] at hcut
    rw [List.map_nil, List.nil_append, split_blanks_append fun _ => isBlank_of_mem_blankUnits, hcut]
  | cons c key =>
    rw [split_key_append (c :: key) _ (Or.inl (List.cons_ne_nil c key)),
      hvalue (blankUnits before) fun _ => isBlank_of_mem_blankUnits, map_char_unitOf]
    intro u hu
    refine isSeparator_of_head_blankUnits ?_ hu
    rintro v ⟨⟩
    exact hsep

theorem decode_append_of_plain (h : '\\' ∉ a) (r : List Char) :
    decode (a ++ r) = a.map .plain ++ decode r := by
  induction a with
  | nil => rfl
  | cons c a ih =>
    rw [List.mem_cons, not_or] at h
    rw [List.cons_append, decode_plain (Ne.symm h.1), ih h.2]
    rfl

theorem decode_gap_append (g : Gap) (r : List Char) :
    decode (g.chars ++ r) = blankUnits g ++ decode r :=
  decode_append_of_plain (Gap.not_mem (by decide) (by decide)) r

theorem decode_gap (g : Gap) : decode g.chars = blankUnits g := by
  have h := decode_gap_append g []
  rwa [List.append_nil, decode, List.append_nil] at h

end Properties

end CacheWarden
