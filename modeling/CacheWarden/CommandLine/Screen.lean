import CacheWarden.Checker

/-!
# What a run shows

The lines that a run prints for its user, without any decoration. Lines about the parts of a task
are indented under those about the task as a whole.
-/

namespace CacheWarden.Screen

/-- How a step went. -/
inductive Mark where
  | ok
  | warn
  | fail
  | info
  deriving DecidableEq, Repr

/-- The sign of a mark. -/
def Mark.sign : Mark → String
  | ok => "[OK]"
  | warn => "[WARN]"
  | fail => "[FAIL]"
  | info => "[INFO]"

/-- A property of the run. -/
def property (key value : String) : String := s!"  {key}: {value}"

/-- A task that starts. -/
def started (task : String) : String := s!"... {task}"

/-- A task that has ended. -/
def ended (mark : Mark) (message : String) : String := s!"{mark.sign} {message}"

/-- A step of a task. -/
def step (mark : Mark) (message : String) : String := s!"  {mark.sign} {message}"

/-- The end of a run that failed, with the reasons. -/
def failed (title : String) (details : List String) : List String :=
  ["", ended .fail title] ++ details.map fun d => s!"    {d}"

/-- The end of a run that went well. -/
def passed (title : String) : List String := ["", ended .ok title]

/-! ### Full runs -/

/-- A count that differs without consequences. -/
def countLines : Option CountCheck → List String
  | some c =>
      if !c.matches && !c.enforced then
        [step .warn
          s!"Expected {c.expected} workload cache(s), found {c.found} (not enforced)"]
      else []
  | none => []

/-- An attempt that failed. -/
def failureText (a : DestroyAttempt) : String := s!"{a.cache}: {a.outcome.text}"

/-- What the reaper did. -/
def reapLines (s : ReapSummary) : List String :=
  let gone := (s.attempts.filter fun a => a.outcome.isSuccess).map fun a =>
    step .ok s!"Destroyed {a.cache}"
  let later := if 0 < s.deferred then
      [step .info s!"{s.deferred} cache(s) left for the next pass"]
    else []
  gone ++ later

/-- The end of a run: its last lines, and the failure it ends in. -/
def runEnd (r : RunReport) : List String × Option Failure :=
  let counted := countLines r.verification.count
  let findings := r.verification.findings.map Finding.text
  if !r.verification.isPass then
    (counted ++ failed "VERIFICATION FAILED" findings,
      some (.verificationFailed findings.length))
  else
    let verified := step .ok s!"{r.verification.checked} workload cache(s) verified"
    let reaped := (r.reap.map reapLines).getD []
    let failures := (r.reap.map ReapSummary.failures).getD []
    if failures.isEmpty then
      (counted ++ verified :: reaped ++ passed "CacheAPIChecker COMPLETED SUCCESSFULLY", none)
    else
      (counted ++ verified :: reaped ++ failed "DELETION FAILED" (failures.map failureText),
        some .deletionFailed)

/-! ### Tables of caches -/

/-- A text followed by blanks up to a number of characters. -/
def padded (width : Nat) (s : String) : String :=
  String.ofList (s.toList ++ List.replicate (width - s.length) ' ')

/-- The widths of the columns. -/
def widths : List Nat := [24, 8, 8, 15, 12, 24]

/-- A row of a table. -/
def row (cells : List String) : String :=
  " ".intercalate ((widths.zip cells).map fun (width, cell) => padded width cell)

/-- The state of a cache in one word. -/
def state (d : Descriptor) : String :=
  if d.corrupt then "corrupt" else if d.compatible then "compatible" else "incompatible"

/-- The cells of a cache. -/
def cells (d : Descriptor) : List String :=
  [d.usableName.getD "<unnamed>", d.jvmLevel, d.addressMode.text, d.persistence.name, state d,
    (d.lastDetach.map Calendar.Moment.tableText).getD "in use"]

/-- A table of caches. -/
def table (caches : List Descriptor) : List String :=
  [row ["NAME", "LEVEL", "MODE", "TYPE", "STATE", "LAST DETACH"],
    String.ofList (List.replicate 94 '-')] ++
    caches.map (fun d => row (cells d)) ++ ["", s!"Total: {caches.length} cache(s)"]

end CacheWarden.Screen
