import CacheWarden.Text.CharSet

/-!
# Runs of code points

A value for every code point, as a list of runs from zero upwards. A run is written as a letter for
its value, and behind it the number of its code points where that is not one; the letters are `A`
to `Z`, then `a` to `z`. Main statements: `consecutive_decode` says that the runs of a text follow
each other without a gap, so that no code point has two values; `has_toSet` says which code points
are in the set of the runs with some values.
-/

namespace CacheWarden.Text

/-- Code points from `first` to `last` with the value that they share. -/
structure Run (α : Type) where
  first : Nat
  last : Nat
  value : α

namespace Run

variable {α : Type}

/-- The place of a letter among those that stand for values. -/
def letterIndex? (c : Char) : Option Nat :=
  let n := c.toNat
  if 0x41 ≤ n && n ≤ 0x5A then some (n - 0x41)
  else if 0x61 ≤ n && n ≤ 0x7A then some (n - 0x61 + 26)
  else none

/-- The run of `length` code points from `start`; a length that is not written is one. -/
def ofLength (start : Nat) (value : α) (length : Nat) : Run α :=
  ⟨start, start + max length 1 - 1, value⟩

/-- The runs written by a text, the next of which starts at `start`; `open?` is the value of the run
    whose length is being read, and what has been read of the length. -/
def decode (values : List α) (start : Nat) (open? : Option (α × Nat)) : List Char → List (Run α)
  | [] =>
      match open? with
      | some (value, length) => [ofLength start value length]
      | none => []
  | c :: r =>
      let next? := ((letterIndex? c).bind fun i => values[i]?).map fun value => (value, 0)
      match digitValue? 10 c, open? with
      | some d, some (value, length) => decode values start (some (value, length * 10 + d)) r
      | none, some (value, length) =>
          ofLength start value length :: decode values (start + max length 1) next? r
      | _, none => decode values start next? r

/-- The runs written by several texts, one behind the other. -/
def ofTexts (values : List α) (texts : List String) : List (Run α) :=
  decode values 0 none (texts.flatMap String.toList)

/-- The code points whose value satisfies `p`. -/
def toSet (p : α → Bool) (runs : List (Run α)) : CharSet :=
  CharSet.merge ((runs.filter fun r => p r.value).map fun r => (r.first, r.last))

/-- Whether runs follow each other without a gap, the first of them at `start`. -/
def Consecutive (start : Nat) : List (Run α) → Prop
  | [] => True
  | r :: rest => r.first = start ∧ start ≤ r.last ∧ Consecutive (r.last + 1) rest

theorem consecutive_decode (values : List α) (s : List Char) (start : Nat)
    (open? : Option (α × Nat)) : Consecutive start (decode values start open? s) := by
  have last_succ (a n : Nat) : a + max n 1 - 1 + 1 = a + max n 1 := by omega
  induction s generalizing start open? with
  | nil =>
    cases open? with
    | none => simp [decode, Consecutive]
    | some p => exact ⟨rfl, by simp only [ofLength]; omega, trivial⟩
  | cons c r ih =>
    unfold decode
    split
    · exact ih _ _
    · refine ⟨rfl, by simp only [ofLength]; omega, ?_⟩
      simp only [ofLength]
      rw [last_succ]
      exact ih _ _
    · exact ih _ _

theorem consecutive_ofTexts (values : List α) (texts : List String) :
    Consecutive 0 (ofTexts values texts) := consecutive_decode values _ 0 none

theorem Consecutive.le_first {start : Nat} {runs : List (Run α)} (h : Consecutive start runs) :
    ∀ r ∈ runs, start ≤ r.first := by
  induction runs generalizing start with
  | nil => simp
  | cons r rest ih =>
    obtain ⟨h1, h2, h3⟩ := h
    intro q hq
    rcases List.mem_cons.1 hq with rfl | hq
    · omega
    · have := ih h3 q hq
      omega

theorem Consecutive.pairwise {start : Nat} {runs : List (Run α)} (h : Consecutive start runs) :
    runs.Pairwise fun a b => a.first ≤ b.first := by
  induction runs generalizing start with
  | nil => exact .nil
  | cons r rest ih =>
    obtain ⟨h1, h2, h3⟩ := h
    refine List.pairwise_cons.2 ⟨fun q hq => ?_, ih h3⟩
    have := h3.le_first q hq
    omega

theorem has_toSet (p : α → Bool) {start : Nat} {runs : List (Run α)} (h : Consecutive start runs)
    (n : Nat) : (toSet p runs).has n =
      runs.any fun r => p r.value && (decide (r.first ≤ n) && decide (n ≤ r.last)) := by
  rw [toSet, CharSet.mem_merge (List.pairwise_map.2 (h.pairwise.filter _))]
  simp [CharSet.has, List.any_map, List.any_filter, Function.comp_def]

end Run

end CacheWarden.Text
