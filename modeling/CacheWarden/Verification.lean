import CacheWarden.Registry
import CacheWarden.Workload

/-!
# Verification

Compares the caches that are there with those that a run expects. Only caches of the workload are
looked at, each on its own: what is wrong with one never hides what is wrong with another. The
number of caches is compared first, where one is expected. Main statements: `verify_findings` and
`verify_parts` say what a report holds.
-/

namespace CacheWarden

/-- Something that is not as it should be. -/
inductive Finding where
  | persistenceMismatch (cache : String) (expected actual : Persistence) (declaredIn : String)
  | unknownAddressMode (cache reported : String)
  | countMismatch (expected found : Nat)
  deriving DecidableEq, Repr

namespace Finding

/-- The cache that a finding is about, if it is about a single one. -/
def cache? : Finding → Option String
  | persistenceMismatch cache .. | unknownAddressMode cache _ => some cache
  | countMismatch .. => none

/-- The sentence that reports a finding. -/
def text : Finding → String
  | persistenceMismatch cache expected actual declaredIn =>
      s!"Cache {cache} is {actual.name} but {declaredIn} declares it {expected.name}"
  | unknownAddressMode cache reported =>
      s!"Cache {cache} has unknown address mode '{reported}'"
  | countMismatch expected found =>
      s!"Expected {expected} workload cache(s) but found {found}"

end Finding

/-- The comparison of the number of caches. -/
structure CountCheck where
  expected : Nat
  found : Nat
  /-- Whether a difference fails the run. -/
  enforced : Bool
  deriving DecidableEq, Repr

/-- Whether the numbers are the same. -/
def CountCheck.matches (c : CountCheck) : Bool := c.expected == c.found

/-- What a verification found out. -/
structure VerificationReport where
  findings : List Finding := []
  count : Option CountCheck := none
  /-- How many caches of the workload there are. -/
  checked : Nat := 0
  /-- How many caches have no usable name. -/
  unnamed : Nat := 0
  /-- How many caches are not of the workload. -/
  foreign : Nat := 0
  deriving DecidableEq, Repr

/-- Whether nothing was found. -/
def VerificationReport.isPass (r : VerificationReport) : Bool := r.findings.isEmpty

/-- What is expected of the number of caches. -/
structure CountExpectation where
  expected : Option Nat := none
  enforced : Bool := false
  deriving DecidableEq, Repr

namespace Verification

/-- Whose a cache is. -/
inductive Owner where
  | nobody
  | other (name : String)
  | workload (name : String)
  deriving DecidableEq, Repr

/-- Whose a cache is. -/
def Owner.of (w : Workload) (d : Descriptor) : Owner :=
  match d.usableName with
  | none => .nobody
  | some name => if w.contains name then .workload name else .other name

/-- The caches of the workload with their names. -/
def owned (w : Workload) (live : List Descriptor) : List (String × Descriptor) :=
  live.filterMap fun d =>
    match Owner.of w d with
    | .workload name => some (name, d)
    | _ => none

/-- The caches without a usable name. -/
def unnamed (w : Workload) (live : List Descriptor) : List Descriptor :=
  live.filter fun d => Owner.of w d == .nobody

/-- The names of the caches that are not of the workload. -/
def foreign (w : Workload) (live : List Descriptor) : List String :=
  live.filterMap fun d =>
    match Owner.of w d with
    | .other name => some name
    | _ => none

/-- The comparison of the number of caches, where one is expected. -/
def countCheck (e : CountExpectation) (found : Nat) : Option CountCheck :=
  e.expected.map fun expected => { expected, found, enforced := e.enforced }

/-- What the number of caches gives cause to. -/
def countFindings : Option CountCheck → List Finding
  | some c => if !c.matches && c.enforced then [.countMismatch c.expected c.found] else []
  | none => []

/-- What the kind of a cache gives cause to. -/
def kindFindings (r : Registry) (name : String) (d : Descriptor) : List Finding :=
  match r.get? name with
  | some entry =>
      if entry.persistence ≠ d.persistence then
        [.persistenceMismatch name entry.persistence d.persistence entry.source]
      else []
  | none => []

/-- What the address mode of a cache gives cause to. -/
def modeFindings (name : String) (d : Descriptor) : List Finding :=
  if d.addressMode.isKnown then [] else [.unknownAddressMode name d.addressMode.text]

/-- What a cache gives cause to. -/
def cacheFindings (r : Registry) (name : String) (d : Descriptor) : List Finding :=
  kindFindings r name d ++ modeFindings name d

/-- The report on some caches. -/
def report (live : List Descriptor) (r : Registry) (w : Workload) (e : CountExpectation) :
    VerificationReport :=
  let caches := owned w live
  let count := countCheck e caches.length
  { findings := countFindings count ++ caches.flatMap fun (name, d) => cacheFindings r name d
    count
    checked := caches.length
    unnamed := (unnamed w live).length
    foreign := (foreign w live).length }

/-! ### Log lines -/

/-- A line for people who look for a fault. -/
def debugLine (message : String) : LogLine := { level := .debug, message }

/-- What is logged about the number of caches. -/
def countLines : Option CountCheck → List LogLine
  | none => []
  | some c =>
      if c.matches then
        [{ level := .info, message := s!"Found the expected {c.expected} workload cache(s)" }]
      else if c.enforced then []
      else
        let message := s!"Expected {c.expected} workload cache(s) but found {c.found}; " ++
          "count check is not enforced"
        [{ level := .warn, message }]

/-- What is logged about the sizes of a cache. -/
def sizeLines (name : String) (d : Descriptor) : List LogLine :=
  match d.sizeBytes, d.freeBytes with
  | some size, some free =>
      let excess : LogLine :=
        { level := .warn
          message := s!"Cache {name} reports {free} free bytes, more than its size of {size}" }
      debugLine s!"Cache {name} size {size} bytes, {free} free" ::
        (if size < free then [excess] else [])
  | _, _ => []

/-- What is logged about a cache. -/
def describe (name : String) (d : Descriptor) : List LogLine :=
  let summary := s!"Cache {name}: {d.jvmLevel} {d.addressMode.text} {d.persistence.name} " ++
    s!"compatible={d.compatible} corrupt={d.corrupt}"
  let detach := match d.lastDetach with
    | some m => s!"Cache {name} last detached " ++ m.written ' '
    | none => s!"Cache {name} has no last detach time"
  let handles := match d.sharedMemoryId, d.semaphoreId with
    | some memory, some semaphore =>
        [debugLine s!"Cache {name} OS shmid {memory} semid {semaphore}"]
    | _, _ => []
  { level := .info, message := summary } :: sizeLines name d ++ debugLine detach :: handles

/-- What is logged about a cache and its declaration. -/
def cacheLines (r : Registry) (name : String) (d : Descriptor) : List LogLine :=
  let missing := if (r.get? name).isSome then []
    else [debugLine s!"No declaration for cache {name}"]
  describe name d ++ missing

/-- What is logged about some caches. -/
def logLines (live : List Descriptor) (r : Registry) (w : Workload) (e : CountExpectation) :
    List LogLine :=
  let caches := owned w live
  let ignored := (foreign w live).map fun name =>
    debugLine s!"Ignoring cache {name} that is not part of this workload"
  ignored ++ countLines (countCheck e caches.length) ++
    caches.flatMap fun (name, d) => cacheLines r name d

end Verification

/-- Verifies some caches. -/
def verify (live : List Descriptor) (r : Registry) (w : Workload) (e : CountExpectation) :
    Logged VerificationReport :=
  ⟨Verification.report live r w e, Verification.logLines live r w e⟩

namespace Verification

theorem verify_findings (live : List Descriptor) (r : Registry) (w : Workload)
    (e : CountExpectation) :
    (verify live r w e).value.findings =
      countFindings (countCheck e (owned w live).length) ++
        (owned w live).flatMap fun p => cacheFindings r p.1 p.2 := rfl

theorem verify_parts (live : List Descriptor) (r : Registry) (w : Workload)
    (e : CountExpectation) :
    let report := (verify live r w e).value
    report.checked + report.unnamed + report.foreign = live.length := by
  show (owned w live).length + (unnamed w live).length + (foreign w live).length = live.length
  induction live with
  | nil => rfl
  | cons d live ih =>
    simp only [owned, unnamed, foreign, List.filterMap_cons, List.filter_cons] at ih ⊢
    cases h : Owner.of w d <;> simp <;> omega

end Verification

end CacheWarden
