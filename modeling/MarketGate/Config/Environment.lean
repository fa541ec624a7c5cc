import MarketGate.Duration
import MarketGate.Text.Blank
import MarketGate.Text.Utf8

/-!
# Environments

The variables of a process, and what settings read from them.  A variable that is missing, is not
UTF-8, or does not spell a value leaves a default in place.  Numbers may have blanks around them,
texts are taken as they are.

A process may also be given assignments: they fill in variables that cannot be read, and never
replace one that can.
-/

namespace MarketGate

/-- The variables of a process, each with the bytes of its value; the first of two counts. -/
structure Environment where
  entries : List (String × Bytes) := []

namespace Environment

/-- The value of a variable, if it is set and is UTF-8. -/
def text? (env : Environment) (name : String) : Option String :=
  match env.entries.lookup name with
  | some bytes => (Utf8.decode? bytes).map String.ofList
  | none => none

/-- Gives a variable a value if it has none that can be read. -/
def assign (env : Environment) (name : String) (value : String) : Environment :=
  match env.text? name with
  | some _ => env
  | none => ⟨(name, Utf8.ofString value) :: env.entries⟩

/-- Gives variables values, in order; so of two values for one variable the first counts. -/
def assignAll (env : Environment) (assignments : List (String × String)) : Environment :=
  assignments.foldl (fun env a => env.assign a.1 a.2) env

/-- A number below `bound` in a variable. -/
def nat? (env : Environment) (name : String) (bound : Nat) : Option Nat :=
  (env.text? name).bind fun text => Text.readNat? bound (Text.trim text.toList)

/-- A 32-bit number in a variable, or the default. -/
def word32 (env : Environment) (name : String) (default : UInt32) : UInt32 :=
  ((env.nat? name UInt32.size).map UInt32.ofNat).getD default

/-- A 64-bit number in a variable, or the default. -/
def word64 (env : Environment) (name : String) (default : UInt64) : UInt64 :=
  ((env.nat? name UInt64.size).map UInt64.ofNat).getD default

/-- A number of milliseconds in a variable, or the default. -/
def millis (env : Environment) (name : String) (default : Duration) : Duration :=
  ((env.nat? name UInt64.size).map fun n => Duration.ofMillis (UInt64.ofNat n)).getD default

/-- A text in a variable, or the default. -/
def text (env : Environment) (name : String) (default : String) : String :=
  (env.text? name).getD default

end Environment

end MarketGate
