/-!
# Searching, cutting and replacing

Operations on texts that look for a fixed piece of text. An occurrence is taken from the left and
occurrences do not overlap. Letters are compared by ASCII case where a function says so; no other
letter has a case here.
-/

namespace CacheWarden.Text

/-- Whether `piece` stands somewhere in the text. -/
def contains (piece : List Char) : List Char → Bool
  | [] => piece.isEmpty
  | c :: r => piece.isPrefixOf (c :: r) || contains piece r

/-- The text with every occurrence of `piece` replaced by `new`; a text is left alone if `piece`
    is empty. The count says how many characters of an occurrence are still to be skipped. -/
def replaceSkipping (piece new : List Char) : Nat → List Char → List Char
  | _, [] => []
  | n + 1, _ :: r => replaceSkipping piece new n r
  | 0, c :: r =>
      if !piece.isEmpty && piece.isPrefixOf (c :: r) then
        new ++ replaceSkipping piece new (piece.length - 1) r
      else c :: replaceSkipping piece new 0 r

/-- The text with every occurrence of `piece` replaced by `new`. -/
def replace (piece new s : List Char) : List Char := replaceSkipping piece new 0 s

/-- Puts a character in front of the first piece. -/
def consHead (c : Char) : List (List Char) → List (List Char)
  | [] => [[c]]
  | p :: ps => (c :: p) :: ps

/-- The pieces between the occurrences of `delimiter`. The count says how many characters of an
    occurrence are still to be skipped. -/
def splitSkipping (delimiter : List Char) : Nat → List Char → List (List Char)
  | _, [] => [[]]
  | n + 1, _ :: r => splitSkipping delimiter n r
  | 0, c :: r =>
      if !delimiter.isEmpty && delimiter.isPrefixOf (c :: r) then
        [] :: splitSkipping delimiter (delimiter.length - 1) r
      else consHead c (splitSkipping delimiter 0 r)

/-- The pieces between the occurrences of `delimiter`; never an empty list. -/
def splitAt (delimiter s : List Char) : List (List Char) := splitSkipping delimiter 0 s

/-- What stands before and after the first `c`, if there is one. -/
def splitOnce (c : Char) : List Char → Option (List Char × List Char)
  | [] => none
  | d :: r => if d = c then some ([], r) else (splitOnce c r).map fun (a, b) => (d :: a, b)

/-- The rest of a text that starts with `front`. -/
def dropFront? (front s : List Char) : Option (List Char) := front.isPrefixOf? s

/-- The text with ASCII capitals made small. -/
def lowerAscii (s : List Char) : List Char := s.map Char.toLower

/-- Equality up to the case of ASCII letters. -/
def sameIgnoringCase (s t : List Char) : Bool := lowerAscii s == lowerAscii t

end CacheWarden.Text
