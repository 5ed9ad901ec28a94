/-!
# Commands

A program with its arguments, and what it printed when it had ended. The streams of an output can be
read as one text, in which the error stream comes first and no line of it runs into the other
stream's first line.
-/

namespace CacheWarden

/-- A program and its arguments. -/
structure Command where
  program : String
  args : List String
  deriving DecidableEq, Repr

/-- The command in one line. -/
def Command.text (c : Command) : String :=
  c.args.foldl (fun line arg => line ++ " " ++ arg) c.program

/-- What a command left behind. -/
structure CommandOutput where
  /-- Missing if a signal ended the program. -/
  exitCode : Option Int
  stdout : String
  stderr : String
  deriving DecidableEq, Repr

namespace CommandOutput

/-- A line feed, where a text ends in the middle of a line. -/
def lineEnd (s : List Char) : List Char :=
  match s.getLast? with
  | none | some '\n' => []
  | some _ => ['\n']

/-- Both streams, the error stream first. -/
def combined (o : CommandOutput) : String :=
  String.ofList (o.stderr.toList ++ lineEnd o.stderr.toList ++ o.stdout.toList)

/-- An exit code as log lines write it. -/
def exitText : Option Int → String
  | none => "None"
  | some code => s!"Some({code})"

end CommandOutput

end CacheWarden
