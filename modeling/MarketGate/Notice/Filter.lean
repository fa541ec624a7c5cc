import MarketGate.Notice
import MarketGate.Text.ClassTable

/-!
# Choosing notices

Operators choose by directives which notices reach them.  Directives stand between commas.  Most
name a part of the program, by the start of its name, and how much is heard of it; the one with the
longest name that fits a part decides.  Parts that no directive names are heard at level info and
above, which a directive without a name cannot change.
-/

namespace MarketGate

/-- How much has to be heard for a notice of a level to pass, from nothing, which is zero. -/
def Level.rank : Level → Nat
  | error => 1
  | warn => 2
  | info => 3

/-- How much is heard of the parts whose names start with a text. -/
structure Directive where
  part : List Char
  rank : Nat
  deriving DecidableEq, Repr

namespace Directive

/-- The words for how much is heard, in order. -/
def rankNames : List String := ["off", "error", "warn", "info", "debug", "trace"]

/-- All there is to hear. -/
def everything : Nat := rankNames.length - 1

/-- Reads how much is heard, as a number or a word. -/
def readRank? (cs : List Char) : Option Nat :=
  match Text.readNat? rankNames.length cs with
  | some rank => some rank
  | none => rankNames.idxOf? (String.ofList (cs.map Char.toLower))

/-- Whether the name of a part may start with a character. -/
def isPartStart (c : Char) : Bool :=
  Text.isAlphanumeric c || c.toNat == 0x2d || c.toNat == 0x3a || c.toNat == 0x5f

/-- Reads a directive; without a level it lets everything be heard.  There is none in a text that
only says how much is heard, that is wrong, or that speaks of more than parts, which takes a square
bracket. -/
def read? (cs : List Char) : Option Directive :=
  if (cs.head?.map isPartStart).getD false && !cs.contains '[' then
    match Text.splitFirst '=' cs with
    | none => if (readRank? cs).isSome then none else some ⟨cs, everything⟩
    | some (part, []) => some ⟨part, everything⟩
    | some (part, rank) => (readRank? rank).map fun rank => ⟨part, rank⟩
  else none

end Directive

/-- The directives of an operator. -/
structure Filter where
  directives : List Directive := []

namespace Filter

/-- Reads the directives between commas. -/
def ofText (text : String) : Filter :=
  ⟨(Text.splitOn ',' text.toList).filterMap Directive.read?⟩

/-- How much is heard of a part.  Of two directives with names of one length the later counts. -/
def rankOf (filter : Filter) (part : String) : Nat :=
  let fitting := filter.directives.filter fun d => d.part.isPrefixOf part.toList
  let best := fitting.foldl (fun best d =>
    match best with
    | some b => if b.part.length ≤ d.part.length then some d else some b
    | none => some d) none
  (best.map Directive.rank).getD Level.info.rank

/-- Whether a notice of a part of the program reaches the operator. -/
def passes (filter : Filter) (part : String) (notice : Notice) : Bool :=
  notice.level.rank ≤ filter.rankOf part

end Filter

end MarketGate
