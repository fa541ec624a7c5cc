import MarketGate.Text.Numeral
import MarketGate.Text.Split

/-!
# Names of hosts

Which texts a name service can be asked about.  A name is made of labels with points in between, and
may end in a point.  A label has up to 63 letters, digits, hyphens and underscores, and the whole
name fits into 255 bytes with one byte for the length of each label and one for the end.  The first
label does not start with a hyphen.

A character may be written behind a backslash, as itself or as three decimal digits.
-/

namespace MarketGate.HostName

/-- The characters of labels. -/
def isLabelChar (c : Char) : Bool :=
  let n := c.toNat
  (0x30 ≤ n && n ≤ 0x39) || (0x41 ≤ n && n ≤ 0x5a) || (0x61 ≤ n && n ≤ 0x7a) || n == 0x2d
    || n == 0x5f

/-- The text without backslashes; nothing if a character behind one is none of a label. -/
def unescape? : List Char → Option (List Char)
  | [] => some []
  | '\\' :: c :: rest =>
    if (Text.digitValue? c).isSome then
      match rest with
      | d :: e :: rest => do
        let c := Char.ofNat (← Text.readRadix? 10 [c, d, e])
        if isLabelChar c then return c :: (← unescape? rest) else none
      | _ => none
    else if isLabelChar c then (unescape? rest).map fun rest => c :: rest
    else none
  | c :: rest => (unescape? rest).map fun rest => c :: rest

/-- The labels of a name. -/
def labels (cs : List Char) : List (List Char) :=
  let parts := Text.splitOn '.' cs
  if parts.getLast? = some [] then parts.dropLast else parts

/-- Whether a text can be a label. -/
def isLabel (cs : List Char) : Bool := !cs.isEmpty && cs.length ≤ 63 && cs.all isLabelChar

/-- Whether a text without backslashes can be a name.  The point alone is the name that all names
end in. -/
def isPlainName (cs : List Char) : Bool :=
  cs == ['.'] || ((labels cs).all isLabel && cs.head? != some '-'
    && (labels cs).foldl (fun n label => n + label.length + 1) 0 < 255)

/-- Whether a text can be the name of a host. -/
def isName (cs : List Char) : Bool :=
  !cs.isEmpty && ((unescape? cs).map isPlainName).getD false

end MarketGate.HostName
