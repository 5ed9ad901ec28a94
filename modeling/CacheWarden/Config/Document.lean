import CacheWarden.Config.Basic
import CacheWarden.Properties
import CacheWarden.Toml.Printer

/-!
# Configurations and TOML documents

A TOML document can take the place of a property file: its fields, and those of its tables, become
settings. The names of tables do not count, and of two fields of one key the one that is met last
does, in the ascending order of keys at each level. In the other direction, a configuration is shown
as a document with the launcher's settings in a table of their own.
-/

namespace CacheWarden.Config

open Toml

mutual

/-- The text of a value as a setting: texts as they are, and the items of an array with spaces
    between them. -/
def settingText : Value → List Char
  | .text s => s.toList
  | .array items => [' '].intercalate (settingTexts items)
  | v => standaloneText v

/-- The texts of several values. -/
def settingTexts : List Value → List (List Char)
  | [] => []
  | v :: rest => settingText v :: settingTexts rest

end

/-- The settings that the fields of a document make. -/
def flatten : List (String × Value) → List (String × String)
  | [] => []
  | (_, .table fields) :: rest => flatten fields ++ flatten rest
  | (key, v) :: rest => (key, String.ofList (settingText v)) :: flatten rest

/-- The set of settings that a document makes. -/
def settingsOfDocument (fields : Fields) : Properties := Table.ofList (flatten fields)

/-- A field that is left out where there is no value. -/
def optional (key : String) (v : Option Value) : Fields :=
  match v with
  | none => []
  | some v => [(key, v)]

/-- The fields of a configuration outside the launcher's table. -/
def mainFields (c : Config) : Fields :=
  optional "cacheDir" (c.cacheDir.map .text) ++
  [("commandLineValues", .boolean c.commandLineValues), ("delete", .boolean c.delete)] ++
  optional "expectedCacheCount" (c.expectedCacheCount.map fun n => .integer n) ++
  [("cacheFiles", .array (c.cacheFiles.map .text)),
    ("strictCountCheck", .boolean c.strictCountCheck),
    ("reapMode", .text c.reapMode.name)] ++
  optional "recordsFile" (c.recordsFile.map .text)

/-- The fields of the launcher's table. -/
def launcherFields (c : Config) : Fields :=
  [("java", .text c.launcher.java)] ++
  optional "sharedClassesOption" (c.launcher.sharedClassesOption.map .text) ++
  [("timeoutSecs", .integer c.launcher.timeoutSecs)]

/-- A configuration as a document. -/
def document (c : Config) : String :=
  String.ofList (Toml.document c.mainFields "store" c.launcherFields)

end CacheWarden.Config
