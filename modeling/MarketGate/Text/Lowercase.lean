import MarketGate.Text.CaseTable
import MarketGate.Text.ClassTable

/-!
# Lower case

The full, language-independent lower-case mapping of Unicode text.  Two rules go beyond a table
of pairs: the capital I with a dot above becomes two characters, and the Greek capital sigma has
two small forms, of which the final one is written at the end of a word.
-/

namespace MarketGate.Text

/-- Whether a character is passed over when the letters next to a sigma are looked for. -/
def isCaseIgnorable (c : Char) : Bool := inRanges c.toNat caseIgnorableRanges

/-- Whether a character has case and makes a word. -/
def isCased (c : Char) : Bool := inRanges c.toNat casedRanges

/-- The lower-case partner of a code point by the table, itself if it has none. -/
def lowerCode (n : Nat) : Nat :=
  match lowerRuns.find? fun r => r.first ≤ n && n ≤ r.last && (n - r.first) % r.step == 0 with
  | some r => r.target + (n - r.first)
  | none => n

/-- Whether the nearest character that is not passed over has case. -/
def meetsLetter (cs : List Char) : Bool :=
  match cs.dropWhile isCaseIgnorable with
  | c :: _ => isCased c
  | [] => false

/-- The lower-case form of one character between the text before it, nearest character first, and
the text after it. -/
def lowerChar (before : List Char) (c : Char) (after : List Char) : List Char :=
  if c.toNat = 0x3a3 then
    if meetsLetter before && !meetsLetter after then [Char.ofNat 0x3c2] else [Char.ofNat 0x3c3]
  else if c.toNat = 0x130 then [Char.ofNat 0x69, Char.ofNat 0x307]
  else [Char.ofNat (lowerCode c.toNat)]

/-- Lower-case forms of the characters of `cs`, which come after the reversed text `before`. -/
def lowercaseAfter (before : List Char) : List Char → List Char
  | [] => []
  | c :: rest => lowerChar before c rest ++ lowercaseAfter (c :: before) rest

/-- A text in lower case. -/
def lowercase (cs : List Char) : List Char := lowercaseAfter [] cs

end MarketGate.Text
