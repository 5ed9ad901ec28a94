import CacheWarden.Text.Scan
import Mathlib

/-!
# What a scan takes

One lemma for each way to put scans together, each about a scan that stands in front of a text.
`Rounds` says what the rounds of a repeated scan take, and `Gives` what holds of every value of a
scan, whatever it stands in front of. Main statements: `run_repeated` and `Gives.repeated`.
-/

namespace CacheWarden.Text.Scan

variable {α β : Type}

theorem run_bind {x : Scan α} {s r : List Char} {a : α} (h : x s = some (a, r))
    (f : α → Scan β) : (x >>= f) s = f a r := by
  show (x s).bind (fun p => f p.1 p.2) = f a r
  rw [h]
  rfl

theorem run_bind_of_none {x : Scan α} {s : List Char} (h : x s = none) (f : α → Scan β) :
    (x >>= f) s = none := by
  show (x s).bind (fun p => f p.1 p.2) = none
  rw [h]
  rfl

theorem run_bind_eq_some {x : Scan α} {f : α → Scan β} {s r : List Char} {b : β}
    (h : (x >>= f) s = some (b, r)) : ∃ p, x s = some p ∧ f p.1 p.2 = some (b, r) :=
  Option.bind_eq_some_iff.1 h

theorem run_bind_eq_none {x : Scan α} {f : α → Scan β} {s : List Char}
    (h : ∀ a r, x s = some (a, r) → f a r = none) : (x >>= f) s = none :=
  Option.bind_eq_none_iff.2 fun p hp => h p.1 p.2 hp

theorem run_orElse {x : Scan α} {s : List Char} {p : α × List Char} (h : x s = some p)
    (y : Scan α) : (x <|> y) s = some p := by
  show ((x s).orElse fun _ => y s) = some p
  rw [h]
  rfl

theorem run_orElse_of_none {x : Scan α} {s : List Char} (h : x s = none) (y : Scan α) :
    (x <|> y) s = y s := by
  show ((x s).orElse fun _ => y s) = y s
  rw [h]
  rfl

theorem run_maybe {x : Scan α} {s r : List Char} {a : α} (h : x s = some (a, r)) :
    maybe x s = some (some a, r) := by
  apply run_orElse
  show (x s).bind (fun p => some (some p.1, p.2)) = _
  rw [h]
  rfl

theorem run_maybe_of_none {x : Scan α} {s : List Char} (h : x s = none) :
    maybe x s = some (none, s) := by
  refine (run_orElse_of_none ?_ _).trans rfl
  show (x s).bind (fun p => some (some p.1, p.2)) = none
  rw [h]
  rfl

theorem run_peek? (s : List Char) : peek? s = some (s.head?, s) := rfl

theorem run_satisfy {p : Char → Bool} {c : Char} (h : p c = true) (r : List Char) :
    satisfy p (c :: r) = some (c, r) := if_pos h

theorem run_satisfy_of_not {p : Char → Bool} {s : List Char}
    (h : ∀ c, s.head? = some c → p c = false) : satisfy p s = none := by
  cases s with
  | nil => rfl
  | cons c r => exact if_neg (by simp [h c rfl])

theorem eq_of_run_exactly {piece s r : List Char} (h : exactly piece s = some ((), r)) :
    s = piece ++ r := by
  obtain ⟨r', hr, heq⟩ := Option.map_eq_some_iff.1 h
  obtain ⟨-, rfl⟩ := Prod.mk.inj heq
  exact (List.append_eq_of_isPrefixOf?_eq_some hr).symm

theorem run_exactly_of_not_isPrefix {piece s : List Char} (h : ¬ piece <+: s) :
    exactly piece s = none := by
  cases hs : exactly piece s with
  | none => rfl
  | some p => exact absurd ⟨p.2, (eq_of_run_exactly hs).symm⟩ h

theorem run_char (c : Char) (r : List Char) : char c (c :: r) = some ((), r) := run_exactly [c] r

theorem run_char_of_ne {c : Char} {s : List Char} (h : s.head? ≠ some c) : char c s = none := by
  apply run_exactly_of_not_isPrefix
  rintro ⟨r, rfl⟩
  exact h rfl

/-- A scan that takes a whole text leaves nothing. -/
theorem run_of_whole?_eq_some {x : Scan α} {s : List Char} {a : α} (h : whole? x s = some a) :
    x s = some (a, []) := by
  rw [whole?] at h
  split at h
  · rename_i hrun
    cases h
    exact hrun
  · cases h

theorem run_ahead_of_none {x : Scan α} {s : List Char} (h : x s = none) : ahead x s = none := by
  rw [ahead, h, Option.map_none]

theorem run_takeWhile_of_head {p : Char → Bool} {s : List Char}
    (h : ∀ c, s.head? = some c → p c = false) : takeWhile p s = some ([], s) := by
  have hnone : ∀ c ∈ ([] : List Char), p c = true := by simp
  exact run_takeWhile hnone h

theorem run_takeSome {p : Char → Bool} {taken rest : List Char} (hne : taken ≠ [])
    (h : ∀ c ∈ taken, p c = true) (hr : ∀ c, rest.head? = some c → p c = false) :
    takeSome p (taken ++ rest) = some (taken, rest) := by
  obtain ⟨c, cs, rfl⟩ := List.exists_cons_of_ne_nil hne
  rw [takeSome, List.cons_append, run_bind (run_satisfy (h c List.mem_cons_self) _),
    run_bind (run_takeWhile (fun d hd => h d (List.mem_cons_of_mem c hd)) hr)]
  rfl

theorem run_takeSome_of_not {p : Char → Bool} {s : List Char}
    (h : ∀ c, s.head? = some c → p c = false) : takeSome p s = none :=
  run_bind_of_none (run_satisfy_of_not h) _

theorem run_takeExactly {p : Char → Bool} {taken : List Char} (h : ∀ c ∈ taken, p c = true)
    (rest : List Char) : takeExactly p taken.length (taken ++ rest) = some (taken, rest) := by
  induction taken with
  | nil => rfl
  | cons c taken ih =>
    rw [List.length_cons, takeExactly, List.cons_append,
      run_bind (run_satisfy (h c List.mem_cons_self) _),
      run_bind (ih fun d hd => h d (List.mem_cons_of_mem c hd))]
    rfl

/-! ### Rounds -/

/-- The rounds of a repeated scan: what they give, and what is left after the last of them. -/
inductive Rounds (x : Scan (Option α)) : List Char → List α → List Char → Prop
  | done {s rest : List Char} (h : x s = some (none, rest)) : Rounds x s [] rest
  | next {s s' rest : List Char} {a : α} {as : List α} (h : x s = some (some a, s'))
      (shorter : s'.length < s.length) (later : Rounds x s' as rest) : Rounds x s (a :: as) rest

/-- A round that takes the characters in front of the others. -/
theorem Rounds.cons {x : Scan (Option α)} {piece s rest : List Char} {a : α} {as : List α}
    (hne : piece ≠ []) (h : x (piece ++ s) = some (some a, s)) (later : Rounds x s as rest) :
    Rounds x (piece ++ s) (a :: as) rest := by
  have hpos : 0 < piece.length := List.length_pos_iff.2 hne
  refine .next h ?_ later
  rw [List.length_append]
  omega

theorem run_repeatUpTo {x : Scan (Option α)} {s rest : List Char} {as : List α}
    (h : Rounds x s as rest) {count : Nat} (hcount : s.length < count) :
    repeatUpTo x count s = some (as, rest) := by
  induction h generalizing count with
  | done h =>
    cases count with
    | zero => cases hcount
    | succ count => exact run_bind h _
  | next h shorter later ih =>
    cases count with
    | zero => cases hcount
    | succ count =>
      rw [repeatUpTo, run_bind h]
      exact run_bind (ih (by omega)) _

theorem run_repeated {x : Scan (Option α)} {s rest : List Char} {as : List α}
    (h : Rounds x s as rest) : repeated x s = some (as, rest) :=
  run_repeatUpTo h (Nat.lt_succ_self _)

/-! ### The values of a scan -/

/-- Whether every value that a scan gives has a property. -/
def Gives (P : α → Prop) (x : Scan α) : Prop := ∀ s a r, x s = some (a, r) → P a

namespace Gives

variable {P : α → Prop} {Q : β → Prop} {x : Scan α}

theorem pure {a : α} (h : P a) : Gives P (Pure.pure a) := by
  intro s b r hrun
  cases hrun
  exact h

theorem failure : Gives P (Alternative.failure : Scan α) := by
  intro s a r hrun
  cases hrun

theorem bind {f : α → Scan β} (hx : Gives P x) (hf : ∀ a, P a → Gives Q (f a)) :
    Gives Q (x >>= f) := by
  intro s b r hrun
  obtain ⟨⟨a, t⟩, hfirst, hrest⟩ := run_bind_eq_some hrun
  exact hf a (hx s a t hfirst) t b r hrest

/-- What comes first does not matter if all that can follow gives such values. -/
theorem bind_of_forall {f : α → Scan β} (hf : ∀ a, Gives Q (f a)) : Gives Q (x >>= f) :=
  bind (P := fun _ => True) (fun _ _ _ _ => trivial) fun a _ => hf a

theorem orElse {y : Scan α} (hx : Gives P x) (hy : Gives P y) : Gives P (x <|> y) := by
  intro s a r hrun
  cases hfirst : x s with
  | none =>
    rw [run_orElse_of_none hfirst] at hrun
    exact hy s a r hrun
  | some p =>
    rw [run_orElse hfirst] at hrun
    exact hx s a r (hfirst.trans hrun)

theorem ite {c : Prop} [Decidable c] {y : Scan α} (hx : Gives P x) (hy : Gives P y) :
    Gives P (if c then x else y) := by
  split
  · exact hx
  · exact hy

theorem maybe (hx : Gives P x) : Gives (fun o => ∀ a ∈ o, P a) (Scan.maybe x) := by
  refine orElse ?_ (pure (by simp))
  intro s o r hrun
  obtain ⟨⟨a, t⟩, hfirst, heq⟩ := Option.bind_eq_some_iff.1 hrun
  cases heq
  rintro b ⟨⟩
  exact hx s a r hfirst

theorem repeated {x : Scan (Option α)} (hx : Gives (fun o => ∀ a ∈ o, P a) x) :
    Gives (fun as => ∀ a ∈ as, P a) (Scan.repeated x) := by
  intro s as r hrun
  have hcount : ∀ count, Gives (fun as => ∀ a ∈ as, P a) (repeatUpTo x count) := by
    intro count
    induction count with
    | zero =>
      intro s as r hrun
      cases hrun
    | succ count ih =>
      refine bind hx fun o ho => ?_
      cases o with
      | none => exact pure (by simp)
      | some a =>
        exact bind ih fun as has => pure (List.forall_mem_cons.2 ⟨ho a rfl, has⟩)
  exact hcount _ s as r hrun

end Gives

end CacheWarden.Text.Scan
