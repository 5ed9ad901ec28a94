import CacheWarden.Files.Tree
import CacheWarden.Text.Numeral

/-!
# Failures

The causes for which a command gives up, the sentence that reports each of them, and the advice
that goes with some. Bad data (a malformed declaration, a count that is no number) is no cause: it
is logged and a default is taken.
-/

namespace CacheWarden

/-- Why a command gives up. -/
inductive Failure where
  /-- No run configuration was named. -/
  | configMissing
  /-- The run configuration is not there. -/
  | configNotFound (path : String)
  /-- The run configuration cannot be understood. -/
  | configInvalid (path reason : String)
  /-- No list of workload caches was given. -/
  | workloadListMissing
  /-- A declaration file cannot be read. -/
  | declarationRead (path : String) (cause : IoFailure)
  /-- A call did not end before its deadline. -/
  | storeTimeout (operation : String) (seconds : Nat)
  /-- The store refused to answer a query. -/
  | storeQuery (reason : String)
  /-- A query asked for flags that no store knows. -/
  | invalidQueryFlags (flags : Nat)
  /-- A command could not be started. -/
  | commandFailed (command : String) (cause : IoFailure)
  /-- A message pattern is no regular expression. -/
  | invalidPattern (pattern reason : String)
  /-- Caches are not as they were declared. -/
  | verificationFailed (findings : Nat)
  /-- A cache could not be destroyed. -/
  | deletionFailed
  /-- A cache utility did not do what it was asked to. -/
  | cacheCommandFailed (operation : String)
  /-- A file operation failed. -/
  | io (context : String) (cause : IoFailure)
  /-- A value cannot be written as JSON. -/
  | unwritableJson (reason : String)
  /-- A value cannot be written as TOML. -/
  | unwritableToml (reason : String)
  /-- Something to be told to the user as it is. -/
  | user (text : String)
  deriving DecidableEq, Repr

namespace Failure

/-- Hexadecimal digits after `0x`. -/
def hexadecimal (n : Nat) : String := "0x" ++ String.ofList (Nat.toDigits 16 n)

/-- The sentence that reports a failure. -/
def message : Failure → String
  | configMissing => "No config file supplied. Pass --config or set SCC_CONFIG_FILE"
  | configNotFound path => s!"Configuration file not found: {path}"
  | configInvalid path reason => s!"Invalid configuration at {path}: {reason}"
  | workloadListMissing =>
      "No workload cache list supplied. Pass --workload-caches or set SCC_WL_CACHE_LIST"
  | declarationRead path cause =>
      s!"Couldn't load expected cache data from {path}: {cause.message}"
  | storeTimeout operation seconds =>
      s!"Cache store did not answer {operation} within {seconds}s"
  | storeQuery reason => s!"Cache store query failed: {reason}"
  | invalidQueryFlags flags => s!"Unsupported cache query flags: {hexadecimal flags}"
  | commandFailed command _ => s!"Command failed: {command}"
  | invalidPattern pattern reason => s!"Invalid message pattern '{pattern}': {reason}"
  | verificationFailed findings => s!"Verification failed with {findings} finding(s)"
  | deletionFailed => "Deletion of workload caches failed"
  | cacheCommandFailed operation =>
      s!"Cache command '{operation}' did not produce the expected outcome"
  | io context _ => s!"IO error: {context}"
  | unwritableJson reason => s!"JSON error: {reason}"
  | unwritableToml reason => s!"TOML serialize error: {reason}"
  | user text => text

/-- What to do about a failure. -/
def hint? : Failure → Option String
  | configMissing => some "Example: scc-checker --config run.props check"
  | workloadListMissing => some "Cache names are joined with '--', e.g. WL1--WL2--WL3"
  | storeTimeout .. => some "Raise storeTimeoutSecs in the config file"
  | commandFailed .. => some "Check the 'java' setting or JAVA_HOME"
  | _ => none

/-- Whether a failure lies in the setup of a run and not in what the run found. -/
def isSetup : Failure → Bool
  | configMissing | configNotFound _ | configInvalid .. | workloadListMissing
  | declarationRead .. => true
  | _ => false

end Failure

end CacheWarden
