import CacheWarden.Failure
import CacheWarden.Text.Blank
import CacheWarden.Text.Search

/-!
# Workloads

The names of the caches that belong to a run. Nothing else may be checked or destroyed: other
caches in the same directory may belong to somebody else. A name stands in a workload once, in the
order of the texts, and is never empty. Main statement: `mem_ofNames` says which names a list
gives.
-/

namespace CacheWarden

open Text

/-- Puts a name where it belongs in an ascending list, unless it is there already. -/
def insertName (name : String) : List String → List String
  | [] => [name]
  | n :: rest =>
      if name = n then n :: rest
      else if name < n then name :: n :: rest
      else n :: insertName name rest

@[simp] theorem mem_insertName {name n : String} {names : List String} :
    n ∈ insertName name names ↔ n = name ∨ n ∈ names := by
  induction names with
  | nil => simp [insertName]
  | cons m rest ih =>
    unfold insertName
    split
    · rename_i h
      subst h
      simp
    · split
      · simp
      · simp only [List.mem_cons, ih]
        grind

/-- The names of a run's caches, ascending. -/
structure Workload where
  names : List String
  deriving DecidableEq, Repr

namespace Workload

/-- What separates the names of a list. -/
def delimiter : String := "--"

/-- The names of some texts, without blanks at their ends; what is empty then is no name. -/
def usableNames (texts : List String) : List String :=
  (texts.map fun s => String.ofList (trim s.toList)).filter (· ≠ "")

/-- The workload of some texts. -/
def ofNames (texts : List String) : Workload := ⟨(usableNames texts).foldr insertName []⟩

/-- The workload of a list in which names are separated by `--`. -/
def parse (list : String) : Workload :=
  ofNames ((splitAt delimiter.toList list.toList).map String.ofList)

/-- The workload of a list, or else that of the environment. -/
def resolve (list environment : Option String) : Except Failure Workload :=
  match list <|> environment with
  | some l => .ok (parse l)
  | none => .error .workloadListMissing

/-- Whether a name belongs to the run. -/
def contains (w : Workload) (name : String) : Bool := w.names.contains name

/-- Whether a cache that may have no name belongs to the run. -/
def owns (w : Workload) (name : Option String) : Bool := name.any w.contains

/-- How many names there are. -/
def size (w : Workload) : Nat := w.names.length

/-- Whether there is no name. -/
def isEmpty (w : Workload) : Bool := w.names.isEmpty

theorem mem_ofNames {texts : List String} {n : String} :
    n ∈ (ofNames texts).names ↔ n ∈ usableNames texts := by
  unfold ofNames
  induction usableNames texts with
  | nil => simp
  | cons m rest ih => simpa using or_congr_right ih

end Workload

end CacheWarden
