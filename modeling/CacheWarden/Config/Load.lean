import CacheWarden.Config.Document
import CacheWarden.Config.Read
import CacheWarden.Failure
import CacheWarden.Toml.Reader

/-!
# Loading a configuration

The configuration file is named by its path. A file with the extension `toml` is read as a TOML
document, any other as a property file.
-/

namespace CacheWarden.Config

/-- Whether a file is read as a TOML document. -/
def isDocument (path : String) : Bool := FilePath.fileExtension? path == some "toml"

/-- The settings of a configuration file. -/
def loadSettings (files : FileTree) (path : String) : Logged (Except Failure Properties) :=
  match files.readText path with
  | .error .notFound => pure (.error (.configNotFound path))
  | .error cause => pure (.error (.io s!"reading config from {path}" cause))
  | .ok text =>
      if isDocument path then
        match Toml.read? text with
        | some fields => pure (.ok (settingsOfDocument fields))
        | none => pure (.error (.configInvalid path "not a TOML document"))
      else .ok <$> Properties.read text

/-- The configuration of a file, or the defaults where no file is named. -/
def load (files : FileTree) (javaHome path : Option String) : Logged (Except Failure Config) := do
  match path with
  | none =>
      Logged.debug "No config file given, using defaults"
      .ok <$> ofProperties javaHome Table.empty
  | some path =>
      match ← loadSettings files path with
      | .error e => pure (.error e)
      | .ok props =>
          Logged.debug s!"Loaded {props.size} setting(s) from {path}"
          .ok <$> ofProperties javaHome props

/-- The configuration of a file, which has to be named. -/
def loadRequired (files : FileTree) (javaHome path : Option String) :
    Logged (Except Failure Config) :=
  match path with
  | none => pure (.error .configMissing)
  | some _ => load files javaHome path

end CacheWarden.Config
