import CacheWarden.Cache.Listing
import CacheWarden.Command.Operation
import CacheWarden.Config.Basic
import CacheWarden.Store.Basic

/-!
# The store behind the runtime launcher

Lists and destroys caches by running the launcher. A list is what the launcher prints; a destroy is
judged by the messages that it prints, and where they do not prove success, by what they complain
about. The state of this store is the list of commands given to the launcher.
-/

namespace CacheWarden

open Text

/-- What a destroy that did not prove its success complains about; letters are compared without
    their case. -/
def DestroyOutcome.ofComplaint (output : CommandOutput) : DestroyOutcome :=
  let text := lowerAscii output.combined.toList
  let mentions (phrase : String) : Bool := contains (lowerAscii phrase.toList) text
  if mentions "does not exist" || mentions noCachesMessage then .destroyedNone
  else if mentions "older generation" then .olderGenerationKept
  else if mentions "in use" then .currentGenerationKept
  else .unknown

/-- The outcome of a destroy that ended. -/
def DestroyOutcome.ofOutput (output : CommandOutput) : Verdict → DestroyOutcome
  | .success .. => .destroyedAll
  | .failure _ => ofComplaint output

/-- The operation that a request asks for. -/
def DestroyRequest.operation (r : DestroyRequest) : CacheOperation :=
  if r.reset then .reset r.name else .destroy r.name r.persistence

namespace RuntimeStore

/-- The directory that a query is about. -/
def location (settings : LauncherSettings) (q : Query) : Option String :=
  if q.fromLaunchOption then
    settings.sharedClassesOption.bind fun o =>
      (LaunchOption.cacheDir? o.toList).map String.ofList
  else q.location

/-- The lines that are logged before a list. -/
def announce (settings : LauncherSettings) (q : Query) : Session Calls Unit := do
  match q.fromLaunchOption, q.location with
  | true, some hint =>
      Session.info s!"cacheDir '{hint}' is ignored, using the launch options instead"
  | _, _ => pure ()
  match location settings q with
  | some dir => Session.info s!"Querying all caches in directory {dir}"
  | none => Session.info "Querying all caches in the default directory"

/-- The caches in the output of a list. -/
def readList (command : Command) (output : CommandOutput) :
    Session Calls (Except Failure (List Descriptor)) := do
  if allowsExit [0, 1] output.exitCode then
    for note in Listing.notes output.combined do
      Session.debug note
    let caches := Listing.caches output.combined
    Session.debug s!"Listing returned {caches.length} cache(s)"
    return .ok caches
  else
    return .error (.storeQuery
      s!"'{command.text}' exited with {CommandOutput.exitText output.exitCode}")

/-- Lists caches. -/
def enumerate (launcher : Launcher) (settings : LauncherSettings) (limit : Limit) (q : Query) :
    Session Calls (Option (Except Failure (List Descriptor))) := do
  if q.flags ≠ 0 then return some (.error (.invalidQueryFlags q.flags))
  announce settings q
  let command := (CacheOperation.listAll none).command settings.java (location settings q) none
  match ← command.run launcher limit with
  | none => return none
  | some (.error e) => return some (.error e)
  | some (.ok output) => return some (← readList command output)

/-- Destroys a cache. -/
def destroy (launcher : Launcher) (settings : LauncherSettings) (limit : Limit)
    (r : DestroyRequest) : Session Calls (Option DestroyOutcome) := do
  let op := r.operation
  match op.expectedMessages with
  | .error e =>
      Session.warn s!"Cannot build destroy messages for {r.name}: {e.message}"
      return some .unknown
  | .ok patterns =>
      match ← (op.command settings.java r.location none).run launcher limit with
      | none => return none
      | some (.error e) =>
          Session.warn s!"Destroy of {r.name} could not run: {e.message}"
          return some .unknown
      | some (.ok output) =>
          let verdict := interpret output op.allowedExits patterns .both
          Session.debug s!"Destroy verdict for {r.name}: {verdict.text}"
          return some (.ofOutput output verdict)

end RuntimeStore

/-- The store behind a launcher. -/
def Store.runtime (launcher : Launcher) (settings : LauncherSettings) : Store Calls where
  name := "java -Xshareclasses"
  enumerate := RuntimeStore.enumerate launcher settings
  destroy := RuntimeStore.destroy launcher settings

end CacheWarden
