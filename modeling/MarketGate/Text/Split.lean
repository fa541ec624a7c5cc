/-!
# Splitting a text

Taking a text apart at the occurrences of one character: at all of them, or at the first or the last
one.
-/

namespace MarketGate.Text

/-- The parts of a text between the occurrences of a character: always one more than there are
occurrences. -/
def splitOn (separator : Char) : List Char → List (List Char)
  | [] => [[]]
  | c :: rest =>
    if c = separator then [] :: splitOn separator rest
    else
      match splitOn separator rest with
      | part :: parts => (c :: part) :: parts
      | [] => [[c]]

/-- The text before and the text behind the first occurrence of a character. -/
def splitFirst (separator : Char) : List Char → Option (List Char × List Char)
  | [] => none
  | c :: rest =>
    if c = separator then some ([], rest)
    else (splitFirst separator rest).map fun parts => (c :: parts.1, parts.2)

/-- The text before and the text behind the last occurrence of a character. -/
def splitLast (separator : Char) (cs : List Char) : Option (List Char × List Char) :=
  (splitFirst separator cs.reverse).map fun parts => (parts.2.reverse, parts.1.reverse)

end MarketGate.Text
