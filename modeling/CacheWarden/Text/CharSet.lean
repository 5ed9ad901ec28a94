import CacheWarden.Text.Numeral

/-!
# Sets of characters

A set of characters as a list of ranges of code points, ascending and with a gap between any two of
them. The operations keep that form. `complement` is taken within a universe, which is all code
points or only those below a bound. Main statements: `mem_merge` and `mem_ofRanges` say that
bringing ranges into order keeps their members, and `mem_union` what two sets contain together.
-/

namespace CacheWarden.Text

/-- Ranges of code points, both ends included. -/
abbrev CharSet := List (Nat × Nat)

namespace CharSet

/-- Whether a code point is in a set. -/
def has (s : CharSet) (n : Nat) : Bool := s.any fun (lo, hi) => lo ≤ n && n ≤ hi

/-- The highest code point. -/
def top : Nat := 0x10FFFF

/-- Joins ranges that touch or overlap; they have to ascend by their lower ends. -/
def merge : CharSet → CharSet
  | [] => []
  | [r] => [r]
  | (a, b) :: (c, d) :: rest =>
      if c ≤ b + 1 then merge ((a, max b d) :: rest) else (a, b) :: merge ((c, d) :: rest)
termination_by s => s.length

/-- The set of the code points in some ranges, whatever their order. -/
def ofRanges (ranges : List (Nat × Nat)) : CharSet :=
  merge ((ranges.filter fun r => r.1 ≤ r.2).mergeSort fun a b => decide (a.1 ≤ b.1))

/-- A range written in hexadecimal: one code point, or two with a hyphen between them. -/
def range? (s : List Char) : Option (Nat × Nat) :=
  match s.splitOnP (· == '-') with
  | [a] => (readNat? 16 a).map fun n => (n, n)
  | [a, b] => (readNat? 16 a).bind fun lo => (readNat? 16 b).map fun hi => (lo, hi)
  | _ => none

/-- The set written as ranges in hexadecimal with blanks between them. -/
def ofText (s : String) : CharSet :=
  ofRanges ((s.toList.splitOnP (· == ' ')).filterMap range?)

/-- What is in one set or the other. -/
def union (s t : CharSet) : CharSet := ofRanges (s ++ t)

/-- What is in one of several sets. -/
def unionAll (sets : List CharSet) : CharSet := ofRanges sets.flatten

/-- What lies between `next` and `last` and in no range of a set. -/
def gaps (next last : Nat) : CharSet → CharSet
  | [] => if next ≤ last then [(next, last)] else []
  | (lo, hi) :: rest =>
      if next < lo then (next, lo - 1) :: gaps (hi + 1) last rest else gaps (hi + 1) last rest

/-- What is not in a set. -/
def complement (last : Nat) (s : CharSet) : CharSet := gaps 0 last s

/-- What two ranges have in common, if they have anything. -/
def overlap? (r q : Nat × Nat) : Option (Nat × Nat) :=
  if q.1 ≤ r.2 && r.1 ≤ q.2 then some (max r.1 q.1, min r.2 q.2) else none

/-- What is in both sets. -/
def inter (s t : CharSet) : CharSet := ofRanges (s.flatMap fun r => t.filterMap (overlap? r))

/-- What is in the first set and not in the second. -/
def diff (s t : CharSet) : CharSet := inter s (complement top t)

/-- What is in exactly one of two sets. -/
def symmDiff (s t : CharSet) : CharSet := union (diff s t) (diff t s)

/-- The set of one character. -/
def single (c : Char) : CharSet := [(c.toNat, c.toNat)]

theorem has_cons (r : Nat × Nat) (s : CharSet) (n : Nat) :
    has (r :: s) n = (decide (r.1 ≤ n) && decide (n ≤ r.2) || has s n) := by
  simp [has]

theorem mem_merge {s : CharSet} (ordered : s.Pairwise fun a b => a.1 ≤ b.1) (n : Nat) :
    has (merge s) n = has s n := by
  fun_induction merge s with
  | case1 => rfl
  | case2 => rfl
  | case3 a b c d rest hc ih =>
    have ord : ((a, max b d) :: rest).Pairwise fun x y => x.1 ≤ y.1 := by
      rw [List.pairwise_cons] at ordered ⊢
      refine ⟨fun y hy => ordered.1 y (List.mem_cons_of_mem _ hy), ?_⟩
      exact (List.pairwise_cons.1 ordered.2).2
    have hac : a ≤ c := (List.pairwise_cons.1 ordered).1 (c, d) (by simp)
    rw [ih ord]
    simp only [has_cons]
    cases has rest n
    · rw [Bool.eq_iff_iff]
      simp
      omega
    · simp
  | case4 a b c d rest hc ih =>
    rw [has_cons, ih (List.pairwise_cons.1 ordered).2, ← has_cons]

theorem mem_ofRanges (ranges : List (Nat × Nat)) (n : Nat) :
    has (ofRanges ranges) n = has ranges n := by
  let before (a b : Nat × Nat) : Bool := decide (a.1 ≤ b.1)
  have hs : ((ranges.filter fun r => r.1 ≤ r.2).mergeSort before).Pairwise
      fun a b => before a b = true :=
    List.pairwise_mergeSort (fun a b c h1 h2 => by simp [before] at *; omega)
      (fun a b => by simp [before]; omega) _
  rw [ofRanges, mem_merge (by simpa [before] using hs)]
  rw [Bool.eq_iff_iff]
  simp only [has, List.any_eq_true, List.mem_mergeSort, List.mem_filter, Bool.and_eq_true,
    decide_eq_true_eq, Prod.exists]
  constructor
  · rintro ⟨a, b, ⟨hm, _⟩, h⟩
    exact ⟨a, b, hm, h⟩
  · rintro ⟨a, b, hm, h⟩
    exact ⟨a, b, ⟨hm, by omega⟩, h⟩

theorem mem_union (s t : CharSet) (n : Nat) : has (union s t) n = (has s n || has t n) := by
  rw [union, mem_ofRanges]
  simp [has]

end CharSet

end CacheWarden.Text
