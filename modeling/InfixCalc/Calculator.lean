import InfixCalc.Evaluation
import InfixCalc.Rounding

/-!
# `InfixCalc.Calculator`: results as people see them

A calculator rounds results to its precision and, if it has a rate, converts them. Each calculation
gives a `Reading`: a value to display, or an error, which is displayed as such and converted to
zero. A number of places that decimal arithmetic refuses is no user's fault and fails the
calculation itself.
-/

set_option autoImplicit false

namespace InfixCalc

/-- The outcome of one calculation, ready for display. -/
structure Reading (ε : Type) where
  value : Option Float
  error : Option ε
  converted : Option Amount

namespace Reading

variable {ε : Type}

/-- The calculation succeeded. -/
def ok (r : Reading ε) : Bool :=
  r.error.isNone

/-- The text on display. A reading without an error must have a value. -/
def display (r : Reading ε) : Except Misuse String :=
  match r.error, r.value with
  | some _, _ => .ok "Error"
  | none, some v => .ok (Double.displayText v)
  | none, none => .error .noValue

end Reading

/-- How results are shown. -/
structure Calculator where
  /-- The number of places that results are rounded to, if they are rounded. -/
  precision : Option Int := some 6
  /-- The rate that results are converted by, if they are converted. -/
  rate : Option Float := none

namespace Calculator

/-- The reading of an evaluation. -/
def reading (c : Calculator) : Except CalcError Float → Except RoundError (Reading CalcError)
  | .error e => .ok ⟨none, some e, c.rate.map fun _ => .whole 0⟩
  | .ok v => (roundResult c.precision v).map fun rounded =>
    ⟨some rounded, none, c.rate.map (convert rounded)⟩

/-- The reading of an expression. -/
def calculate (c : Calculator) (line : String) : Except RoundError (Reading CalcError) :=
  c.reading (evaluate line)

/-- The converted amount of an expression that may be unfinished, or its rounded value without a
rate, or nothing. -/
def preview (c : Calculator) (line : String) : Except RoundError (Option Amount) :=
  match InfixCalc.preview line with
  | none => .ok none
  | some v => (roundResult c.precision v).map fun rounded =>
    match c.rate with
    | none => some (.double rounded)
    | some rate => some (convert rounded rate)

end Calculator

end InfixCalc
