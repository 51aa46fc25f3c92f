import InfixCalc.Calculator

/-!
# `InfixCalc.Calculator.Use`: a calculator in use

A calculator is kept from one line to the next, and its number of places and its rate may be
assigned to in between. Here it is a state, and `Calculator.use` says what each use does to the
state and what it shows. Only assignments change it; a calculation that is refused leaves it as it
was, as any other does.
-/

set_option autoImplicit false

namespace InfixCalc.Calculator

/-- What is done with a calculator. -/
inductive Use where
  | calculate (line : String)
  | preview (line : String)
  | setPrecision (precision : Option Int)
  | setRate (rate : Option Float)

/-- What a use of a calculator shows. -/
inductive Shown where
  | reading (r : Reading CalcError)
  | amount (a : Option Amount)
  | nothing

/-- The calculator after a use, and what the use shows, or why it is refused. -/
def use (c : Calculator) : Use → Calculator × Except RoundError Shown
  | .calculate line => (c, (c.calculate line).map .reading)
  | .preview line => (c, (c.preview line).map .amount)
  | .setPrecision precision => ({ c with precision := precision }, .ok .nothing)
  | .setRate rate => ({ c with rate := rate }, .ok .nothing)

/-- The calculator after the uses, one after the other. -/
def after (c : Calculator) (uses : List Use) : Calculator :=
  uses.foldl (fun c u => (c.use u).1) c

end InfixCalc.Calculator
