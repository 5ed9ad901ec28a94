import CacheWarden.Calendar.Moment

/-!
# Cache descriptors

What a store tells about one shared class cache at one point of time. Nothing is checked when a
descriptor is made: an address mode may be unknown and a name may be missing. Main statement: a
usable name is never empty.
-/

namespace CacheWarden

open Text

/-- Whether a cache outlives the session that made it. -/
inductive Persistence where
  /-- A file that is there after a restart as well. -/
  | persistent
  /-- Shared memory that goes with the session. -/
  | nonPersistent
  deriving DecidableEq, Repr

namespace Persistence

/-- The kind that a flag asks for. -/
def ofFlag (persistent : Bool) : Persistence :=
  if persistent then .persistent else .nonPersistent

/-- The name of a kind. -/
def name : Persistence → String
  | persistent => "persistent"
  | nonPersistent => "non-persistent"

/-- The kind of a name. -/
def ofName? (s : String) : Option Persistence :=
  [persistent, nonPersistent].find? fun p => p.name == s

@[simp] theorem ofName?_name (p : Persistence) : ofName? p.name = some p := by
  cases p <;> decide

end Persistence

/-- The width of the addresses a cache was made for. -/
inductive AddressMode where
  | bits32
  | bits64
  /-- Something else that a store reported. -/
  | unknown (reported : String)
  deriving DecidableEq, Repr

namespace AddressMode

/-- The mode of a number of bits. -/
def ofBits (bits : Int) : AddressMode :=
  if bits = 32 then .bits32
  else if bits = 64 then .bits64
  else .unknown (toString bits)

/-- Drops `-bit` at the end, as often as it stands there. -/
def dropUnits (reversed : List Char) : List Char :=
  match reversed with
  | 't' :: 'i' :: 'b' :: '-' :: r => dropUnits r
  | s => s.reverse

/-- The mode that a column of a listing names: `32-bit`, `64-bit` or the number alone. -/
def ofText (s : List Char) : AddressMode :=
  match readInt64? (dropUnits (trim s).reverse) with
  | some bits => ofBits bits
  | none => .unknown (String.ofList (trim s))

/-- Whether a mode is one of the two widths. -/
def isKnown : AddressMode → Bool
  | bits32 | bits64 => true
  | unknown _ => false

/-- The text of a mode. -/
def text : AddressMode → String
  | bits32 => "32-bit"
  | bits64 => "64-bit"
  | unknown reported => s!"unknown ({reported})"

end AddressMode

/-- One cache as a store reports it. -/
structure Descriptor where
  /-- Missing for an entry that the store could not make out. -/
  name : Option String
  persistence : Persistence
  addressMode : AddressMode
  sizeBytes : Option Nat := none
  freeBytes : Option Nat := none
  /-- The tag of the runtime's level, such as `Java17`. -/
  jvmLevel : String := ""
  compatible : Bool := true
  corrupt : Bool := false
  /-- Missing for a cache that is in use or was never detached. -/
  lastDetach : Option Calendar.Moment := none
  semaphoreId : Option Int := none
  sharedMemoryId : Option Int := none
  deriving DecidableEq, Repr

namespace Descriptor

/-- The name, unless it is empty. -/
def usableName (d : Descriptor) : Option String := d.name.filter (· ≠ "")

theorem ne_empty_of_usableName {d : Descriptor} {n : String} (h : d.usableName = some n) :
    n ≠ "" := by
  simp only [usableName, Option.filter_eq_some_iff, decide_eq_true_eq] at h
  exact h.2

end Descriptor

end CacheWarden
