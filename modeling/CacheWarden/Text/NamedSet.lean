import CacheWarden.Text.CharSet
import CacheWarden.Text.Search

/-!
# Named sets of characters

Sets of characters under the names by which they are asked for. Names are compared without regard to
case, blanks, hyphens and underscores, and to `is` in front of them.
-/

namespace CacheWarden.Text

/-- A name without what does not count in a comparison. The name `isc` keeps its front, because what
    would be left of it is the name of something else. -/
def looseName (name : List Char) : List Char :=
  let simple (s : List Char) : List Char :=
    lowerAscii (s.filter fun c => c != ' ' && c != '_' && c != '-' && c.toNat ≤ 0x7F)
  match name with
  | a :: b :: rest =>
      if sameIgnoringCase [a, b] "is".toList then
        let kept := simple rest
        if kept == ['c'] then "isc".toList else kept
      else simple name
  | _ => simple name

/-- Whether a loose name stands for one of the given names. -/
def isNamed (loose : List Char) (names : List String) : Bool :=
  names.any fun n => looseName n.toList == loose

/-- A set of characters and its names. -/
structure NamedSet where
  names : List String
  members : CharSet
  deriving Repr

namespace NamedSet

/-- The first of some sets that a loose name stands for. -/
def find? (sets : List NamedSet) (loose : List Char) : Option NamedSet :=
  sets.find? fun s => isNamed loose s.names

end NamedSet

end CacheWarden.Text
