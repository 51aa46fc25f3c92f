import InfixCalc.Calculator
import InfixCalc.Proofs.Evaluation.Preview
import InfixCalc.Proofs.Rounding

/-!
# `InfixCalc.Proofs.Calculator.Partial`: calculations out of operations that can fail

A calculator is written with operations that cannot fail: every double has a decimal and a whole
part, rounding to whole amounts is never refused, and a reading has what it displays. This module
spells the same calculator out of operations that fail where they have no answer:

- the decimal and the whole part of a double are asked for, and an infinite double has neither, and
  what is no number has neither;
- rounding is refused by the limits of decimal arithmetic, also when a converted amount is rounded;
- the fault of a line is one of the ways to fail, told apart from all others only where it becomes a
  reading or the lack of a preview.

`calculatePartially_eq`, `Calculator.previewPartially_eq` and `displayPartially_eq` say that this is
the same calculator. So the guards in front of these operations are enough, and a number of places
that is refused is the only thing that can go wrong.
-/

set_option autoImplicit false

namespace InfixCalc

open Double

/-- How a calculation can fail. -/
inductive CalculationError where
  /-- In the evaluation of the line. -/
  | evaluation (failure : Failure)
  /-- Through a number of places that is refused. -/
  | rounding (e : RoundError)
  /-- Through a double that has no decimal and no whole part, where one is needed. -/
  | notFinite (v : Float)
  /-- Through a reading that has nothing to display. -/
  | display (e : Misuse)

/-! ### Numbers -/

/-- The decimal of a double. -/
def decimalPartially (v : Float) : Except CalculationError Decimal :=
  if isFinite v then .ok (toDecimal v) else .error (.notFinite v)

/-- The whole part of a double. -/
def wholePartPartially (v : Float) : Except CalculationError Int :=
  if isFinite v then .ok (wholePart v) else .error (.notFinite v)

/-- A result rounded to a number of places, or as it is if no number is given. -/
def roundPartially (places? : Option Int) (v : Float) : Except CalculationError Float :=
  match places? with
  | none => .ok v
  | some places =>
    if isFinite v then do
      let d ← decimalPartially v
      (Rounding.check places d).mapError .rounding
      .ok (ofDecimal (d.roundHalfUp places))
    else .ok v

/-- A value converted by a rate. -/
def convertPartially (v rate : Float) : Except CalculationError Amount := do
  let rounded ← roundPartially (some 0) (v * rate)
  if isFinite rounded then (wholePartPartially rounded).map .whole else .ok (.double rounded)

/-- The text of a double on display. -/
def displayTextPartially (v : Float) : Except CalculationError String :=
  if isFinite v && isWhole v then (wholePartPartially v).map integerText else .ok (text v)

/-- Rounding asks for the decimal of a finite double only, so it fails through the number of places
or not at all. -/
theorem roundPartially_eq (places? : Option Int) (v : Float) :
    roundPartially places? v = (roundResult places? v).mapError .rounding := by
  cases places? with
  | none => rfl
  | some places =>
      by_cases finite : isFinite v = true
      · simp only [roundPartially, roundResult, decimalPartially, if_pos finite, except_ok_bind,
          Rounding.toPlaces_of_isFinite finite]
        cases Rounding.check places (toDecimal v) <;> rfl
      · simp only [roundPartially, roundResult, if_neg finite]
        rfl

/-- A conversion rounds to no places, which is never refused, and has a whole part where it needs
one. -/
theorem convertPartially_eq (v rate : Float) :
    convertPartially v rate = .ok (convert v rate) := by
  have rounded : roundPartially (some 0) (v * rate) = .ok (Rounding.toPlaces 0 (v * rate)) := by
    rw [roundPartially_eq, roundResult_eq_ok _ (by decide) (by decide)]
    rfl
  rw [convertPartially, rounded, except_ok_bind, convert, wholePartPartially]
  split <;> rfl

/-- A whole part is asked for only where there is one, so every double has a text on display. -/
theorem displayTextPartially_eq (v : Float) : displayTextPartially v = .ok (displayText v) := by
  rw [displayTextPartially, displayText, wholePartPartially]
  cases isFinite v <;> cases isWhole v <;> rfl

/-! ### Readings and previews -/

/-- The text of a reading on display. -/
def displayPartially (r : Reading CalcError) : Except CalculationError String :=
  match r.error, r.value with
  | some _, _ => .ok "Error"
  | none, some v => displayTextPartially v
  | none, none => .error (.display .noValue)

/-- A reading is displayed as it is, and fails to be only if there is nothing in it. -/
theorem displayPartially_eq (r : Reading CalcError) :
    displayPartially r = r.display.mapError .display := by
  rcases r with ⟨value, error, converted⟩
  cases error with
  | some e => rfl
  | none =>
      cases value with
      | none => rfl
      | some v => exact displayTextPartially_eq v

namespace Calculator

/-- The value of a line, evaluated and rounded. -/
def attempt (c : Calculator) (line : String) : Except CalculationError Float := do
  let v ← (evaluatePartially line).mapError .evaluation
  roundPartially c.precision v

/-- The amount that a value is converted to, if there is a rate. -/
def convertedPartially (c : Calculator) (v : Float) : Except CalculationError (Option Amount) :=
  match c.rate with
  | none => .ok none
  | some rate => (convertPartially v rate).map some

/-- The reading of a line. A fault of the line ends up in the reading, and any other failure is
passed on. -/
def calculatePartially (c : Calculator) (line : String) :
    Except CalculationError (Reading CalcError) :=
  match c.attempt line with
  | .ok v => do
    let converted ← c.convertedPartially v
    .ok ⟨some v, none, converted⟩
  | .error (.evaluation (.user e)) => .ok ⟨none, some e, c.rate.map fun _ => .whole 0⟩
  | .error failure => .error failure

/-- The preview of a line: without one of its value there is none, and otherwise the value is
rounded, and converted if there is a rate. -/
def previewPartially (c : Calculator) (line : String) :
    Except CalculationError (Option Amount) := do
  match ← (InfixCalc.previewPartially line).mapError .evaluation with
  | none => .ok none
  | some v =>
    let rounded ← roundPartially c.precision v
    match c.rate with
    | none => .ok (some (.double rounded))
    | some rate => (convertPartially rounded rate).map some

/-- A value is converted without a failure, if there is a rate. -/
theorem convertedPartially_eq (c : Calculator) (v : Float) :
    c.convertedPartially v = .ok (c.rate.map (convert v)) := by
  unfold convertedPartially
  cases c.rate with
  | none => rfl
  | some rate =>
      simp only [convertPartially_eq]
      rfl

/-- Only a number of places that is refused is passed on. -/
theorem calculatePartially_eq (c : Calculator) (line : String) :
    c.calculatePartially line = (c.calculate line).mapError .rounding := by
  rw [calculatePartially, attempt, evaluatePartially_eq, calculate]
  cases evaluate line with
  -- A fault of the line and a refused rounding are told apart by where they come from.
  | error e => rfl
  | ok v =>
      show (match roundPartially c.precision v with
        | .ok v => _
        | .error (.evaluation (.user e)) => _
        | .error failure => _) = _
      rw [roundPartially_eq, reading]
      cases roundResult c.precision v with
      | error e => rfl
      | ok rounded =>
          show (c.convertedPartially rounded >>= _) = _
          rw [convertedPartially_eq]
          rfl

/-- Only a number of places that is refused keeps a preview away. -/
theorem previewPartially_eq (c : Calculator) (line : String) :
    c.previewPartially line = (c.preview line).mapError .rounding := by
  rw [previewPartially, InfixCalc.previewPartially_eq, preview]
  -- A preview has caught the faults of the line, so none is left to be passed on.
  show (match InfixCalc.preview line with
    | none => _
    | some v => roundPartially c.precision v >>= _) = _
  cases InfixCalc.preview line with
  | none => rfl
  | some v =>
      simp only [roundPartially_eq]
      cases roundResult c.precision v with
      | error e => rfl
      | ok rounded =>
          cases c.rate with
          | none => rfl
          | some rate =>
              show (convertPartially rounded rate).map some = _
              rw [convertPartially_eq]
              rfl

end Calculator

end InfixCalc
