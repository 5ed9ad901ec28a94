import CacheWarden.Text.Search

/-!
# Options of the launcher

The `-Xshareclasses` option names a cache, its directory and what to do with it as sub-options that
are separated by commas: `-Xshareclasses:name=T1,cacheDir=/tmp/sc,destroy`. An option template may
hold the variables `${cacheName}`, `${cacheDir}` and `${cacheOperation}`; what it resolves to is cut
at spaces into separate launcher arguments.
-/

namespace CacheWarden.LaunchOption

open Text

/-- The variable for the cache's name. -/
def nameVariable : List Char := "$\x7bcacheName\x7d".toList

/-- The variable for the cache's directory. -/
def dirVariable : List Char := "$\x7bcacheDir\x7d".toList

/-- The variable for what is to be done with the cache. -/
def operationVariable : List Char := "$\x7bcacheOperation\x7d".toList

/-- The option that every shared class cache is reached through. -/
def optionName : List Char := "-Xshareclasses".toList

/-- How the sub-option with the directory starts. -/
def dirSuboption : List Char := "cacheDir=".toList

/-- A template with its variables replaced: first the name, then the directory, then the operation,
    so a value may bring in a variable that a later step replaces. -/
def substitute (template name dir operation : List Char) : List Char :=
  replace operationVariable operation (replace dirVariable dir (replace nameVariable name template))

/-- The non-empty pieces between spaces. -/
def arguments (s : List Char) : List (List Char) :=
  (s.splitOnP (· == ' ')).filter (!·.isEmpty)

/-- The launcher arguments that a template stands for. -/
def resolve (template name dir operation : List Char) : List (List Char) :=
  arguments (substitute template name dir operation)

/-- The template for a named cache, with or without a directory of its own. -/
def defaultTemplate (dir : Option (List Char)) : List Char :=
  let dirPart := if dir.isSome then ",cacheDir=$\x7bcacheDir\x7d".toList else []
  "-Xshareclasses:name=$\x7bcacheName\x7d".toList ++ dirPart ++ operationVariable

/-- The template with the operation at the end of each `-Xshareclasses` argument, unless it says
    itself where the operation goes. -/
def withOperation (template : List Char) : List Char :=
  if contains operationVariable template then template
  else
    [' '].intercalate ((template.splitOnP (· == ' ')).map fun part =>
      if optionName.isPrefixOf part then part ++ operationVariable else part)

/-- The directory that an option gives: the value of its first `cacheDir` sub-option, unless that
    is empty. -/
def cacheDir? (option : List Char) : Option (List Char) :=
  (splitOnce ':' option).bind fun (_, suboptions) =>
    ((suboptions.splitOnP (· == ',')).findSome? (dropFront? dirSuboption)).filter (!·.isEmpty)

end CacheWarden.LaunchOption
