import InfixCalc.Calculator.Use
import InfixCalc.Proofs.Calculator.Partial
import Mathlib.Data.List.Induction

/-!
# `InfixCalc.Proofs.Calculator`: what a calculator shows

A line can be calculated or previewed, and a calculator does the two in ways of their own: the
reading of a line is made where the evaluation may fail, and the preview where it is known whether
there is a value. `preview_agrees_calculate` says that they show the same in every state that a
calculator can get into: the amount of the reading, or nothing where the reading is an error, or the
same refusal. Which states these are is `after_eq`: only assignments change a calculator, and the
latest of each setting counts.

`calculate_shows` is about single readings. From `-999999` places up to far beyond the length of any
double a calculation is never refused, whatever the line, the rate and the values on the way are:
the reading shows the value of the line (`ShowsValue`) or its fault (`ShowsFault`).
-/

set_option autoImplicit false

namespace InfixCalc

open Double

namespace Calculator

/-! ### A calculator in use -/

/-- The number of places that a use assigns, if it assigns one. -/
def Use.precision? : Use → Option (Option Int)
  | .setPrecision precision => some precision
  | _ => none

/-- The rate that a use assigns, if it assigns one. -/
def Use.rate? : Use → Option (Option Float)
  | .setRate rate => some rate
  | _ => none

/-- A use leaves the settings as they are, but for the one that it assigns. -/
theorem use_fst (c : Calculator) (u : Use) :
    (c.use u).1 = ⟨u.precision?.getD c.precision, u.rate?.getD c.rate⟩ := by
  cases u <;> rfl

/-- One more use is made of the calculator that the uses before it left. -/
theorem after_concat (c : Calculator) (uses : List Use) (u : Use) :
    c.after (uses ++ [u]) = ((c.after uses).use u).1 := by
  simp [after]

/-- After any uses a calculator has the settings that were assigned last. -/
theorem after_eq (c : Calculator) (uses : List Use) :
    c.after uses = ⟨(uses.filterMap Use.precision?).getLast?.getD c.precision,
      (uses.filterMap Use.rate?).getLast?.getD c.rate⟩ := by
  -- From the end: the last use assigns a setting or leaves it as the uses before did.
  induction uses using List.reverseRecOn with
  | nil => rfl
  | append_singleton uses u ih =>
      rw [after_concat, use_fst, ih]
      cases u <;> simp [Use.precision?, Use.rate?]

/-! ### Readings and previews -/

section
variable {c : Calculator} {line : String} {v rounded : Float}

/-- A line with a fault has a reading that shows it, and converts to zero if there is a rate. -/
theorem calculate_of_fault {fault : CalcError} (failed : evaluate line = .error fault) :
    c.calculate line = .ok ⟨none, some fault, c.rate.map fun _ => .whole 0⟩ := by
  rw [calculate, failed]
  rfl

/-- A line with a value has a reading that shows it rounded, and converted if there is a rate. -/
theorem calculate_of_value (value : evaluate line = .ok v)
    (rounds : roundResult c.precision v = .ok rounded) :
    c.calculate line = .ok ⟨some rounded, none, c.rate.map (convert rounded)⟩ := by
  rw [calculate, value, reading, rounds]
  rfl

/-- A number of places that is refused is no fault of the line, and fails the calculation. -/
theorem calculate_of_refused {e : RoundError} (value : evaluate line = .ok v)
    (refused : roundResult c.precision v = .error e) : c.calculate line = .error e := by
  rw [calculate, value, reading, refused]
  rfl

end

/-- A line has a fault, or a value that is rounded, or one for which the number of places is
refused. -/
theorem rounding_cases (c : Calculator) (line : String) :
    (∃ fault, evaluate line = .error fault) ∨
    (∃ v rounded, evaluate line = .ok v ∧ roundResult c.precision v = .ok rounded) ∨
    ∃ v e, evaluate line = .ok v ∧ roundResult c.precision v = .error e := by
  cases evaluate line with
  | error fault => exact .inl ⟨fault, rfl⟩
  | ok v =>
      cases rounds : roundResult c.precision v with
      | ok rounded => exact .inr (.inl ⟨v, rounded, rfl, rounds⟩)
      | error e => exact .inr (.inr ⟨v, e, rfl, rounds⟩)

/-- The amount that a reading comes to: the converted one if there is a rate, and otherwise the
value; none for an error. -/
def shownAmount (c : Calculator) (r : Reading CalcError) : Option Amount :=
  if r.ok then
    match c.rate with
    | none => r.value.map .double
    | some _ => r.converted
  else none

/-- A preview shows the amount of the reading, and is refused for the same reason. -/
theorem preview_eq_map_calculate (c : Calculator) (line : String) :
    c.preview line = (c.calculate line).map c.shownAmount := by
  rcases c.rounding_cases line with ⟨fault, failed⟩ | ⟨v, rounded, value, rounds⟩ |
    ⟨v, e, value, refused⟩
  · rw [preview, preview_eq_none_iff.mpr ⟨fault, failed⟩, calculate_of_fault failed]
    rfl
  · rw [preview, preview_eq_some_iff.mpr value, calculate_of_value value rounds]
    simp only [rounds]
    -- Which amount is shown depends on whether there is a rate, and on nothing else of the state.
    rcases c with ⟨places, rate⟩
    cases rate <;> rfl
  · rw [preview, preview_eq_some_iff.mpr value, calculate_of_refused value refused]
    simp only [refused]
    rfl

/-- A reading has an amount unless it is an error. -/
theorem isSome_shownAmount {c : Calculator} {line : String} {r : Reading CalcError}
    (calculated : c.calculate line = .ok r) : (c.shownAmount r).isSome = r.ok := by
  rcases c.rounding_cases line with ⟨fault, failed⟩ | ⟨v, rounded, value, rounds⟩ |
    ⟨v, e, value, refused⟩
  · cases (calculate_of_fault failed).symm.trans calculated
    rfl
  · cases (calculate_of_value value rounds).symm.trans calculated
    rcases c with ⟨places, rate⟩
    cases rate <;> rfl
  · cases (calculate_of_refused value refused).symm.trans calculated

/-- Evaluation and previews agree on every line, and so do the readings and the previews of a
calculator in every state. A line has a preview exactly if it has a value, and then the same one. A
calculator that has been used in any way shows as its preview what the reading of the line comes
to: the converted amount if there is a rate, the value if there is none, and nothing for an error;
and if its number of places is refused for the reading, it is refused for the preview in the same
way. Which of the two is done first makes no difference, and nothing else can go wrong with
either. -/
theorem preview_agrees_calculate (c : Calculator) (uses : List Use) (line : String) :
    (∀ v, InfixCalc.preview line = some v ↔ evaluate line = .ok v) ∧
    (InfixCalc.preview line = none ↔ ∃ fault, evaluate line = .error fault) ∧
    (c.after uses).preview line
      = ((c.after uses).calculate line).map (c.after uses).shownAmount ∧
    (∀ r, (c.after uses).calculate line = .ok r →
      ((c.after uses).shownAmount r).isSome = r.ok) ∧
    c.after (uses ++ [.calculate line]) = c.after uses ∧
    c.after (uses ++ [.preview line]) = c.after uses ∧
    (c.after uses).calculatePartially line
      = ((c.after uses).calculate line).mapError .rounding ∧
    (c.after uses).previewPartially line
      = ((c.after uses).preview line).mapError .rounding := by
  refine ⟨fun v => preview_eq_some_iff, preview_eq_none_iff, preview_eq_map_calculate _ _,
    fun r => isSome_shownAmount, ?_, ?_, calculatePartially_eq _ _, previewPartially_eq _ _⟩
  · -- A calculation hands back the calculator that it was made with.
    show c.after (uses ++ [.calculate line]) = c.after uses
    rw [after_concat]
    rfl
  · show c.after (uses ++ [.preview line]) = c.after uses
    rw [after_concat]
    rfl

/-- The value of a single numeral. -/
theorem evaluate_three : evaluate "3" = .ok 3.0 := by
  have scanned : tokenize "3" = .ok [.number "3"] := by
    with_unfolding_all rfl
  exact evaluate_eq_ok_iff_arranges.mpr
    ⟨_, .number "3", scanned, toPostfix_eq_ok_iff.mp rfl, .number (by decide +kernel)⟩

/-- A calculator that has a rate, and one whose number of places is refused. A line that fails comes
between. -/
theorem preview_agrees_calculate_three :
    ((after {} [.setRate (some 0.5), .calculate "5/0"]).calculate "3"
        = .ok ⟨some 3.0, none, some (.whole 2)⟩ ∧
      (after {} [.setRate (some 0.5), .calculate "5/0"]).preview "3" = .ok (some (.whole 2))) ∧
    (after {} [.calculate "5/0", .setPrecision (some (-1000000))]).calculate "3"
      = .error .exponentOverflow ∧
    (after {} [.calculate "5/0", .setPrecision (some (-1000000))]).preview "3"
      = .error .exponentOverflow := by
  have rounded : roundResult (some 6) 3.0 = .ok 3.0 := by
    rw [roundResult_eq_ok _ (by decide) (by decide)]
    exact congrArg _ (by decide +kernel)
  have converted : convert 3.0 0.5 = .whole 2 := by
    have two : Rounding.toPlaces 0 (3.0 * 0.5) = 2.0 := by decide +kernel
    have finite : isFinite 2.0 = true := by decide +kernel
    have whole : wholePart 2.0 = 2 := by decide +kernel
    simp [convert, two, finite, whole]
  have refused : roundResult (some (-1000000)) 3.0 = .error .exponentOverflow := by
    have finite : isFinite 3.0 = true := by decide +kernel
    have digits : Rounding.workingDigits (-1000000) (toDecimal 3.0) = 28 := by decide +kernel
    simp only [roundResult, finite, Rounding.check, digits]
    rfl
  have first : (after {} [.setRate (some 0.5), .calculate "5/0"]).calculate "3"
      = .ok ⟨some 3.0, none, some (.whole 2)⟩ := by
    rw [calculate_of_value evaluate_three rounded]
    show Except.ok (⟨some 3.0, none, some (convert 3.0 0.5)⟩ : Reading CalcError) = _
    rw [converted]
  have second : (after {} [.calculate "5/0", .setPrecision (some (-1000000))]).calculate "3"
      = .error .exponentOverflow := calculate_of_refused evaluate_three refused
  refine ⟨⟨first, ?_⟩, second, ?_⟩
  · rw [(preview_agrees_calculate _ _ _).2.2.1, first]
    rfl
  · rw [(preview_agrees_calculate _ _ _).2.2.1, second]
    rfl

/-! ### The two shapes of a reading -/

/-- The reading shows the value of the line: rounded, without an error, on display as a number, and
converted if there is a rate. -/
def ShowsValue (c : Calculator) (line : String) (r : Reading CalcError) : Prop :=
  ∃ v rounded, evaluate line = .ok v ∧ roundResult c.precision v = .ok rounded ∧
    r = ⟨some rounded, none, c.rate.map (convert rounded)⟩ ∧
    displayPartially r = .ok (displayText rounded)

/-- The reading shows the fault of the line: without a value, on display as an error, and converted
to zero if there is a rate. -/
def ShowsFault (c : Calculator) (line : String) (r : Reading CalcError) : Prop :=
  ∃ fault, evaluate line = .error fault ∧
    r = ⟨none, some fault, c.rate.map fun _ => .whole 0⟩ ∧
    displayPartially r = .ok "Error"

/-- From `-999999` places up to far beyond the length of any double no rounding is refused. -/
theorem exists_roundResult_eq_ok {places? : Option Int}
    (inRange : ∀ places ∈ places?, -999999 ≤ places ∧ places < 10 ^ 17) (v : Float) :
    ∃ rounded, roundResult places? v = .ok rounded := by
  cases places? with
  | none => exact ⟨v, rfl⟩
  | some places =>
      obtain ⟨low, high⟩ := inRange places rfl
      exact ⟨_, roundResult_eq_ok v low high⟩

/-- Every calculation within the limits has a reading, whatever the line and the rate are, and
nothing goes wrong on the way to it or on display. The reading has one of two shapes: it shows the
value of the line, or its fault. -/
theorem calculate_shows (c : Calculator) (line : String)
    (inRange : ∀ places ∈ c.precision, -999999 ≤ places ∧ places < 10 ^ 17) :
    ∃ r, c.calculate line = .ok r ∧ c.calculatePartially line = .ok r ∧
      Xor (c.ShowsValue line r) (c.ShowsFault line r) := by
  have same (r : Reading CalcError) (read : c.calculate line = .ok r) :
      c.calculatePartially line = .ok r := by
    rw [calculatePartially_eq, read]
    rfl
  cases value : evaluate line with
  | error fault =>
      have read := calculate_of_fault (c := c) value
      refine ⟨_, read, same _ read, .inr ⟨⟨fault, value, rfl, displayPartially_eq _⟩, ?_⟩⟩
      -- The other shape would need a value, and the line has a fault.
      rintro ⟨v, -, value', -⟩
      cases value.symm.trans value'
  | ok v =>
      obtain ⟨rounded, rounds⟩ := exists_roundResult_eq_ok inRange v
      have read := calculate_of_value value rounds
      refine ⟨_, read, same _ read,
        .inl ⟨⟨v, rounded, value, rounds, rfl, displayPartially_eq _⟩, ?_⟩⟩
      rintro ⟨fault, failed, -⟩
      cases value.symm.trans failed

/-- Rounded to tens, `3` is zero, and zero times infinity is no number. The empty line has no value,
and what it is converted to is zero for any rate. -/
theorem calculate_shows_tens :
    (∀ places ∈ some (-1 : Int), -999999 ≤ places ∧ places < 10 ^ 17) ∧
    (∃ r, (⟨some (-1), some (ofIndex false infinityIndex)⟩ : Calculator).calculatePartially "3"
        = .ok r ∧ displayPartially r = .ok "0" ∧ r.converted = some (.double notANumber)) ∧
    ∃ r, (⟨some (-1), some (ofIndex false infinityIndex)⟩ : Calculator).calculatePartially ""
        = .ok r ∧ displayPartially r = .ok "Error" ∧ r.converted = some (.whole 0) := by
  have inRange : ∀ places ∈ some (-1 : Int), -999999 ≤ places ∧ places < 10 ^ 17 := by simp
  -- The rounding and the conversion are found by computation, with the same double each time.
  have zero : roundResult (some (-1)) 3.0 = .ok 0.0 := by
    rw [roundResult_eq_ok _ (by decide) (by decide)]
    exact congrArg _ (by decide +kernel)
  have text : displayText 0.0 = "0" := by decide +kernel
  have converted : convert 0.0 (ofIndex false infinityIndex) = .double notANumber := by
    have product : Rounding.toPlaces 0 (0.0 * ofIndex false infinityIndex) = notANumber := by
      decide +kernel
    have infinite : isFinite notANumber = false := by decide +kernel
    simp [convert, product, infinite]
  have empty : evaluate "" = .error (.leftOver 0) :=
    evaluate_of_tokenize_eq_nil (by with_unfolding_all rfl)
  refine ⟨inRange, ?_, ?_⟩
  · obtain ⟨r, -, calculated, ⟨shown, -⟩ | ⟨shown, -⟩⟩ := calculate_shows
      ⟨some (-1), some (ofIndex false infinityIndex)⟩ "3" inRange
    · obtain ⟨v, rounded, value, rounds, rfl, display⟩ := shown
      cases evaluate_three.symm.trans value
      cases zero.symm.trans rounds
      exact ⟨_, calculated, text ▸ display, congrArg some converted⟩
    · obtain ⟨fault, failed, -⟩ := shown
      cases evaluate_three.symm.trans failed
  · obtain ⟨r, -, calculated, ⟨shown, -⟩ | ⟨shown, -⟩⟩ := calculate_shows
      ⟨some (-1), some (ofIndex false infinityIndex)⟩ "" inRange
    · obtain ⟨v, rounded, value, -⟩ := shown
      cases empty.symm.trans value
    · obtain ⟨fault, -, rfl, display⟩ := shown
      exact ⟨_, calculated, display, rfl⟩

end Calculator

end InfixCalc
