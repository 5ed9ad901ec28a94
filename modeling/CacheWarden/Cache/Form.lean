import CacheWarden.Cache.Descriptor
import CacheWarden.Json.Value

/-!
# The JSON form of descriptors

A descriptor is an object with eleven fields. Reading accepts a missing field where the descriptor
may lack the value, passes over fields that it does not know, and also takes the eleven values as a
list.
-/

namespace CacheWarden

open Json (Value)

namespace AddressMode

/-- The form of a mode. -/
def toJson : AddressMode → Value
  | bits32 => .text "bits32"
  | bits64 => .text "bits64"
  | unknown reported => .object [("unknown", .text reported)]

/-- The mode of a form. -/
def ofJson? : Value → Option AddressMode
  | .text "bits32" | .object [("bits32", .null)] => some bits32
  | .text "bits64" | .object [("bits64", .null)] => some bits64
  | .object [("unknown", .text reported)] => some (unknown reported)
  | _ => none

end AddressMode

namespace Persistence

/-- The form of a kind. -/
def toJson (p : Persistence) : Value := .text p.name

/-- The kind of a form. -/
def ofJson? : Value → Option Persistence
  | .text s => ofName? s
  | .object [(s, .null)] => ofName? s
  | _ => none

end Persistence

namespace Descriptor

/-- The names of the fields. -/
def fieldNames : List String :=
  ["name", "persistence", "address_mode", "size_bytes", "free_bytes", "jvm_level", "compatible",
    "corrupt", "last_detach_time", "os_semid", "os_shmid"]

/-- The form of a descriptor. -/
def toJson (d : Descriptor) : Value :=
  .object
    [("name", .ofOption .text d.name),
      ("persistence", d.persistence.toJson),
      ("address_mode", d.addressMode.toJson),
      ("size_bytes", .ofOption (fun n => .int n) d.sizeBytes),
      ("free_bytes", .ofOption (fun n => .int n) d.freeBytes),
      ("jvm_level", .text d.jvmLevel),
      ("compatible", .bool d.compatible),
      ("corrupt", .bool d.corrupt),
      ("last_detach_time", .ofOption (fun m => .text m.text) d.lastDetach),
      ("os_semid", .ofOption .int d.semaphoreId),
      ("os_shmid", .ofOption .int d.sharedMemoryId)]

/-- A value that may be missing or null. -/
def optional? {α : Type} (read : Value → Option α) : Option Value → Option (Option α)
  | none | some .null => some none
  | some v => (read v).map some

/-- A text. -/
def text? : Value → Option String
  | .text s => some s
  | _ => none

/-- A truth value. -/
def bool? : Value → Option Bool
  | .bool b => some b
  | _ => none

/-- A number of bytes, which fits into 64 bits. -/
def bytes? : Value → Option Nat
  | .int n => if 0 ≤ n ∧ n.toNat < Text.bound64 then some n.toNat else none
  | _ => none

/-- A handle, which fits into 64 bits with its sign. -/
def handle? : Value → Option Int
  | .int n => if Text.FitsInt64 n then some n else none
  | _ => none

/-- A moment. -/
def moment? : Value → Option Calendar.Moment
  | .text s => Calendar.Moment.ofText? s.toList
  | _ => none

/-- The descriptor whose fields a look-up gives. -/
def ofFields? (get? : String → Option Value) : Option Descriptor := do
  let name ← optional? text? (get? "name")
  let persistence ← (get? "persistence").bind Persistence.ofJson?
  let addressMode ← (get? "address_mode").bind AddressMode.ofJson?
  let sizeBytes ← optional? bytes? (get? "size_bytes")
  let freeBytes ← optional? bytes? (get? "free_bytes")
  let jvmLevel ← (get? "jvm_level").bind text?
  let compatible ← (get? "compatible").bind bool?
  let corrupt ← (get? "corrupt").bind bool?
  let lastDetach ← optional? moment? (get? "last_detach_time")
  let semaphoreId ← optional? handle? (get? "os_semid")
  let sharedMemoryId ← optional? handle? (get? "os_shmid")
  return { name, persistence, addressMode, sizeBytes, freeBytes, jvmLevel, compatible, corrupt,
           lastDetach, semaphoreId, sharedMemoryId }

/-- The descriptor of a form. -/
def ofJson? : Value → Option Descriptor
  | .object fields => ofFields? fun key => List.lookup key fields
  | .list items =>
      if items.length = fieldNames.length then
        ofFields? fun key => List.lookup key (fieldNames.zip items)
      else none
  | _ => none

end Descriptor

end CacheWarden
