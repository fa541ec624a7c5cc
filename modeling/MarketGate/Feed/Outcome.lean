import MarketGate.Text.Numeral

/-!
# Outcomes of an offer

A feed answers an offered buffer with one number: the position in the outgoing stream behind the
buffer, or a negative code that says why the buffer was not taken.

* `PublishOutcome.ofCode` gives the number its meaning, and `PublishOutcome.code` is the number with
  a meaning: **`PublishOutcome.code_ofCode`** says that nothing of the number is lost.
-/

namespace MarketGate

/-- The code of an offer that nobody is there to take. -/
def notConnectedCode : Int := -1

/-- The code of an offer that there is no room for. -/
def backPressuredCode : Int := -2

/-- What became of an offer. -/
inductive PublishOutcome where
  /-- It was taken; the stream now ends at the position. -/
  | accepted (position : Int)
  | notConnected
  | backPressured
  /-- It was refused with a code that has no meaning here. -/
  | unrecognized (code : Int)
  deriving DecidableEq, Repr

namespace PublishOutcome

/-- The meaning of the number that an offer was answered with. -/
def ofCode (code : Int) : PublishOutcome :=
  if code = notConnectedCode then notConnected
  else if code = backPressuredCode then backPressured
  else if code < 0 then unrecognized code
  else accepted code

/-- The number with a meaning. -/
def code : PublishOutcome → Int
  | accepted position => position
  | notConnected => notConnectedCode
  | backPressured => backPressuredCode
  | unrecognized code => code

/-- The meaning of a number tells the number. -/
@[simp] theorem code_ofCode (c : Int) : (ofCode c).code = c := by
  unfold ofCode
  split
  · next h => exact h.symm
  · split
    · next h => exact h.symm
    · split <;> rfl

/-- Whether the buffer was taken. -/
def isAccepted : PublishOutcome → Bool
  | accepted _ => true
  | _ => false

/-- The name of an outcome in counters and reports. -/
def name : PublishOutcome → String
  | accepted _ => "accepted"
  | notConnected => "not_connected"
  | backPressured => "back_pressured"
  | unrecognized _ => "unrecognized"

/-- The position or code that an outcome comes with. -/
def value? : PublishOutcome → Option Int
  | accepted position => some position
  | unrecognized code => some code
  | notConnected | backPressured => none

end PublishOutcome

end MarketGate
