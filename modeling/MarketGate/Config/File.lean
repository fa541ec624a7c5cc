import MarketGate.Config.Environment
import MarketGate.Io.Error
import MarketGate.Text.Quoted

/-!
# The settings file

A settings file assigns values to variables, one assignment a line.  Lines may be empty or comments,
may start with `export`, and may quote their values; a quoted value may go on over several lines.
Inside values `$NAME` and `$\{NAME\}` stand for other variables.

Reading happens in two stages.  `SettingsFile.logicalLines` puts lines together as long as a quote
is open, with a machine that goes over the characters once.  `SettingsFile.readLine` then takes a
logical line apart.  The first line that is wrong ends the file; what came before it stays.
-/

namespace MarketGate.SettingsFile

/-! ## Logical lines -/

/-- Where a scan over a line stands. -/
inductive Scan where
  /-- The line may end here. -/
  | complete
  /-- Behind a backslash outside quotes. -/
  | escape
  /-- Inside single quotes. -/
  | strong
  /-- Behind a backslash inside single quotes. -/
  | strongEscape
  /-- Inside double quotes. -/
  | weak
  /-- Behind a backslash inside double quotes. -/
  | weakEscape
  /-- Behind a blank. -/
  | blank
  deriving DecidableEq, Repr

/-- What a character outside quotes leads to. -/
def Scan.outside (c : Char) : Scan :=
  match c.toNat with
  | 0x5c => .escape
  | 0x22 => .weak
  | 0x27 => .strong
  | _ => .complete

/-- The scan behind one more character. -/
def Scan.next (scan : Scan) (c : Char) : Scan :=
  match scan with
  | .blank => .outside c
  | .complete =>
    if Text.isBlank c && c.toNat != 0xa && c.toNat != 0xd then .blank else .outside c
  | .escape => .complete
  | .strong =>
    if c.toNat = 0x5c then .strongEscape else if c.toNat = 0x27 then .complete else .strong
  | .strongEscape => .strong
  | .weak =>
    if c.toNat = 0x5c then .weakEscape else if c.toNat = 0x22 then .complete else .weak
  | .weakEscape => .weak

/-- Scans a line.  `read` holds what was scanned, last character first; the line is cut off at a
`#` behind a blank, which the second result says. -/
def scanLine (scan : Scan) (read : List Char) : List Char → List Char × Option Scan
  | [] => (read, some scan)
  | c :: rest =>
    if scan = .blank ∧ c.toNat = 0x23 then (read, none)
    else scanLine (scan.next c) (c :: read) rest

/-- Splits bytes behind every line feed. -/
def physicalLines (line : Bytes) : Bytes → List Bytes
  | [] => if line.isEmpty then [] else [line.reverse]
  | b :: rest =>
    if b = 10 then (b :: line).reverse :: physicalLines [] rest else physicalLines (b :: line) rest

/-- A reversed line without the line end it starts with. -/
def dropLineEnd : List Char → List Char
  | c :: rest =>
    if c.toNat = 0xa then
      match rest with
      | d :: rest => if d.toNat = 0xd then rest else d :: rest
      | [] => []
    else c :: rest
  | [] => []

/-- Whether the first character that is no blank makes a line a comment. -/
def isComment (cs : List Char) : Bool :=
  match Text.trimStart cs with
  | c :: _ => c.toNat == 0x23
  | [] => false

/-- The logical lines of a file, up to the first line that is no text or stays open at the end of
the file.  `open?` holds what was read of an open line, last character first, and where its scan
stands. -/
def logicalLines (openScan : Scan) (openLine : List Char) : List Bytes → List (Option (List Char))
  | [] => if openScan = .complete then [] else [none]
  | line :: rest =>
    match Utf8.decode? line with
    | none => [none]
    | some cs =>
      if isComment (openLine.reverse ++ cs) then some [] :: logicalLines .complete [] rest
      else
        match scanLine openScan openLine cs with
        | (read, none) => some read.reverse :: logicalLines .complete [] rest
        | (read, some .complete) =>
          some (dropLineEnd read).reverse :: logicalLines .complete [] rest
        | (read, some scan) => logicalLines scan read rest

/-! ## Values -/

/-- Where the reading of a value stands. -/
inductive Place where
  | plain
  /-- Inside single quotes. -/
  | strong
  /-- Behind the value: only blanks and a comment may follow. -/
  | done
  deriving DecidableEq, Repr

/-- How the name of another variable is being read. -/
inductive Naming where
  | none
  /-- Behind `$`. -/
  | bare
  /-- Behind `$` and an opening brace. -/
  | braced
  deriving DecidableEq, Repr

/-- The reading of a value: what it says so far, last character first, and the name of a variable
that is being read, last character first. -/
structure Reading where
  place : Place := .plain
  weak : Bool := false
  escaped : Bool := false
  naming : Naming := .none
  name : List Char := []
  output : List Char := []

/-- Characters that names of variables inside values are made of. -/
def isNameChar (c : Char) : Bool := Text.isAlphanumeric c

/-- The reading with the named variable put into the value. -/
def Reading.insert (lookup : String → String) (r : Reading) : Reading :=
  let value := lookup (String.ofList r.name.reverse)
  { r with name := [], naming := .none, output := value.toList.reverse ++ r.output }

/-- One more character of a value; nothing if it may not stand there. -/
def Reading.step (lookup : String → String) (r : Reading) (c : Char) : Option Reading :=
  let n := c.toNat
  let push (r : Reading) : Reading := { r with output := c :: r.output }
  if r.escaped then
    if n = 0x6e then some { r with escaped := false, output := Char.ofNat 10 :: r.output }
    else if n = 0x5c ∨ n = 0x27 ∨ n = 0x22 ∨ n = 0x24 ∨ n = 0x20 then
      some (push { r with escaped := false })
    else none
  else if r.place = .strong then
    some (if n = 0x27 then { r with place := .plain } else push r)
  else if r.naming = .bare then
    if isNameChar c then some { r with name := c :: r.name }
    else if n = 0x7b ∧ r.name = [] then some { r with naming := .braced }
    else
      let r := r.insert lookup
      some (if n = 0x24 then { r with naming := .bare } else push r)
  else if r.naming = .braced then
    if isNameChar c then some { r with name := c :: r.name }
    else if n = 0x7d then some (r.insert lookup)
    else some { r with name := c :: r.name }
  else if n = 0x24 then some { r with naming := .bare }
  else if r.weak then
    some (if n = 0x22 then { r with weak := false }
      else if n = 0x5c then { r with escaped := true } else push r)
  else if n = 0x27 then some { r with place := .strong }
  else if n = 0x22 then some { r with weak := true }
  else if n = 0x5c then some { r with escaped := true }
  else if n = 0x20 ∨ n = 0x9 then some { r with place := .done }
  else some (push r)

/-- What a value says that is read to its end; nothing if a quote or a brace is still open. -/
def Reading.value? (lookup : String → String) (r : Reading) : Option String :=
  if r.naming = .braced ∨ r.place = .strong ∨ r.weak then none
  else some (String.ofList (r.insert lookup).output.reverse)

/-- Reads the rest of a value. -/
def readValue (lookup : String → String) (r : Reading) : List Char → Option String
  | [] => r.value? lookup
  | c :: rest =>
    if r.place = .done then
      if c.toNat = 0x20 ∨ c.toNat = 0x9 then readValue lookup r rest
      else if c.toNat = 0x23 then r.value? lookup
      else none
    else
      match r.step lookup c with
      | some r => readValue lookup r rest
      | none => none

/-! ## Assignments -/

/-- Splits off the name at the front of a line. -/
def readName? : List Char → Option (String × List Char)
  | [] => none
  | c :: rest =>
    if c.isAlpha || c.toNat == 0x5f then
      let (name, rest) := (c :: rest).span fun c =>
        c.isAlphanum || c.toNat == 0x5f || c.toNat == 0x2e
      some (String.ofList name, rest)
    else none

/-- The text behind the equals sign at the front. -/
def skipEquals? : List Char → Option (List Char)
  | '=' :: rest => some rest
  | _ => none

/-- The name that a line assigns to, and the text behind the equals sign. -/
def readTarget? (cs : List Char) : Option (String × List Char) := do
  let (name, rest) ← readName? cs
  let rest := Text.trimStart rest
  if name = "export" then
    match skipEquals? rest with
    | some rest => return (name, rest)
    | none =>
      let (name, rest) ← readName? rest
      return (name, ← skipEquals? (Text.trimStart rest))
  else return (name, ← skipEquals? rest)

/-- Reads a logical line: nothing if it is wrong, and otherwise its assignment, if it has one. -/
def readLine (lookup : String → String) (line : List Char) :
    Option (Option (String × String)) :=
  match Text.trimStart (Text.trimEnd line) with
  | [] => some none
  | c :: cs =>
    if c.toNat = 0x23 then some none
    else
      match readTarget? (c :: cs) with
      | none => none
      | some (name, rest) =>
        match Text.trimStart rest with
        | [] => some (some (name, ""))
        | v :: value =>
          if v.toNat = 0x23 then some (some (name, ""))
          else (readValue lookup {} (v :: value)).map fun value => some (name, value)

/-- What a name inside a value stands for: the variable of the process as far as it is set by now,
else the last assignment to it in the file, else nothing. -/
def meaning (env : Environment) (assigned : List (String × String)) (name : String) : String :=
  match env.text? name with
  | some text => text
  | none => (assigned.lookup name).getD ""

/-- The assignments of logical lines, in order, up to the first line that is wrong.  `assigned`
holds the ones before, last one first. -/
def readLines (env : Environment) (assigned : List (String × String)) :
    List (Option (List Char)) → List (String × String)
  | [] => assigned.reverse
  | none :: _ => assigned.reverse
  | some line :: rest =>
    match readLine (meaning env assigned) line with
    | none => assigned.reverse
    | some none => readLines env assigned rest
    | some (some (name, value)) =>
      readLines (env.assign name value) ((name, value) :: assigned) rest

/-- The bytes of a file without the mark of its byte order. -/
def dropMark : Bytes → Bytes
  | 0xef :: 0xbb :: 0xbf :: rest => rest
  | bytes => bytes

/-- The assignments of a settings file. -/
def assignments (env : Environment) (file : Bytes) : List (String × String) :=
  readLines env [] (logicalLines .complete [] (physicalLines [] (dropMark file)))

/-- The first assignment that a process cannot carry out: the variable has no value that can be
read, and the new value has a zero byte in it.  A name cannot be the reason, since `readName?` gives
only names that a variable can have. -/
def unsettable? (env : Environment) : List (String × String) → Option (String × String)
  | [] => none
  | (name, value) :: rest =>
    if env.text? name = none ∧ value.toList.any (fun c => c.toNat == 0) then some (name, value)
    else unsettable? (env.assign name value) rest

/-- The words for an assignment that a process cannot carry out. -/
def unsettableMessage (name value : String) : String :=
  "failed to set environment variable " ++ "\x60" ++ Text.quotedValue name ++ "\x60 to \x60"
    ++ Text.quotedValue value ++ "\x60: " ++ Io.zeroByteMessage

end MarketGate.SettingsFile
