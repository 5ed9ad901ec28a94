import CacheWarden.Text.Search

/-!
# File paths

A path is read as the steps between its slashes; empty steps are left out, but a path that ends in a
slash must lead to a directory. A step `.` leads nowhere. A step `..` leads upwards, and where to
depends on the directories before it.
-/

namespace CacheWarden

open Text

/-- A path as a file system reads it. -/
structure FilePath where
  /-- Whether the path starts at the root. -/
  absolute : Bool
  /-- The steps, none of them empty. -/
  steps : List String
  /-- Whether the path ends in a slash. -/
  wantsDirectory : Bool
  deriving DecidableEq, Repr

namespace FilePath

/-- The path that a text writes. -/
def ofString (text : String) : FilePath :=
  { absolute := text.toList.head? == some '/'
    steps := ((text.toList.splitOnP (· == '/')).filter (!·.isEmpty)).map String.ofList
    wantsDirectory := text.toList.getLast? == some '/' }

/-- The steps that lead somewhere. -/
def names (path : FilePath) : List String := path.steps.filter (· != ".")

/-- What stands after the last dot of the last step, if something stands before that dot. -/
def fileExtension? (text : String) : Option String :=
  match (ofString text).names.getLast? with
  | none => none
  | some name =>
      if name == ".." then none
      else
        (splitOnce '.' name.toList.reverse).bind fun (after, before) =>
          if before.isEmpty then none else some (String.ofList after.reverse)

/-- A path and a step below it. -/
def below (text step : String) : String :=
  if text == "" || text.toList.getLast? == some '/' then text ++ step else text ++ "/" ++ step

end FilePath

end CacheWarden
