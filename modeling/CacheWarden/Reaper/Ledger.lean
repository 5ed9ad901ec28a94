/-!
# Ledgers

The names for which a destroy was attempted. A name that is in the ledger is never attempted again.
A name stands in a ledger once, which is part of the type. Main statement: `mem_record` says which
names a ledger holds after one was recorded.
-/

namespace CacheWarden

/-- The names attempted so far, in their order. -/
structure Ledger where
  names : List String
  distinct : names.Nodup

namespace Ledger

/-- The ledger without names. -/
def empty : Ledger := ⟨[], by simp⟩

/-- Whether a name was attempted. -/
def contains (l : Ledger) (name : String) : Bool := l.names.contains name

/-- How many names were attempted. -/
def size (l : Ledger) : Nat := l.names.length

/-- Whether no name was attempted. -/
def isEmpty (l : Ledger) : Bool := l.names.isEmpty

/-- The ledger with one more name, unless it is there already. -/
def record (l : Ledger) (name : String) : Ledger :=
  if h : name ∈ l.names then l
  else
    { names := l.names ++ [name]
      distinct := by
        rw [List.nodup_append]
        refine ⟨l.distinct, by simp, fun a ha b hb => ?_⟩
        rw [List.mem_singleton.1 hb]
        exact fun e => h (e ▸ ha) }

@[simp] theorem mem_record {l : Ledger} {name n : String} :
    n ∈ (l.record name).names ↔ n ∈ l.names ∨ n = name := by
  unfold record
  split
  · rename_i h
    constructor
    · exact Or.inl
    · rintro (hn | rfl)
      · exact hn
      · exact h
  · simp

end Ledger

end CacheWarden
