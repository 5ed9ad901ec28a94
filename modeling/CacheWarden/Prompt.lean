/-!
# Questions

A question with yes or no for an answer is put to somebody at a terminal. Where nobody is there the
default is taken, and a run may be told to take every answer for yes.
-/

namespace CacheWarden

/-- How questions are answered. -/
structure Prompt where
  /-- Whether somebody can be asked. -/
  interactive : Bool := false
  /-- Whether every answer is yes. -/
  autoYes : Bool := false
  deriving DecidableEq, Repr

namespace Prompt

/-- Whether output is decorated for a terminal. -/
def usesFancyOutput (p : Prompt) : Bool := p.interactive

/-- The answer to a question with the given default; none if somebody has to be asked. -/
def answer? (p : Prompt) (default : Bool) : Option Bool :=
  if p.autoYes then some true
  else if p.interactive then none
  else some default

end Prompt

end CacheWarden
