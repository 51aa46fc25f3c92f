import InfixCalc.Proofs.Double.Read
import InfixCalc.Proofs.Numeral.Pointed

/-!
# `InfixCalc.Proofs.Numeral.Number`: the number that a typed numeral denotes

`typedNumber` gives the digits of a numeral their places: those in front of the point count ones,
tens and so on, those behind it tenths, hundredths and so on. The reader collects all of them into
one coefficient and counts places in the exponent. The two agree (`magnitude_of_parse?`), whatever
the length of the numeral and wherever its point is, so a typed numeral is read as the double
nearest to its number (`isReading_of_readDouble?`).
-/

set_option autoImplicit false

namespace InfixCalc.Numeral

open Text

/-- The number that digits with a point among them denote. The point may be missing. -/
def typedNumber (chars : List Char) : Rat :=
  let whole := chars.takeWhile (· ≠ '.')
  let fraction := (chars.dropWhile (· ≠ '.')).tail
  digitsValue whole + digitsValue fraction / 10 ^ fraction.length

/-- The digits in front count for as many places more as there are digits behind them. -/
theorem digitsValue_append (front back : List Char) :
    digitsValue (front ++ back) = digitsValue front * 10 ^ back.length + digitsValue back := by
  -- Digits are added at the back, so the induction takes them off there.
  induction back using List.reverseRecOn with
  | nil => simp [digitsValue, ofDigits]
  | append_singleton back c ih =>
      rw [← List.append_assoc, digitsValue_concat, digitsValue_concat, ih, List.length_append,
        List.length_singleton, Nat.pow_succ]
      ring

section
variable {whole fraction : List Char}

/-- The point is no digit, and so a row of digits is not cut by one. -/
theorem ne_point_of_isAsciiDigit {c : Char} (digit : isAsciiDigit c = true) :
    decide (c ≠ '.') = true := by
  refine decide_eq_true ?_
  rintro rfl
  cases digit

/-- Without a point all digits are in front of it. -/
theorem typedNumber_whole (all : ∀ c ∈ whole, isAsciiDigit c = true) :
    typedNumber whole = digitsValue whole := by
  have digits : ∀ c ∈ whole, decide (c ≠ '.') = true :=
    fun c mem => ne_point_of_isAsciiDigit (all c mem)
  have none : digitsValue [] = 0 := rfl
  simp only [typedNumber, List.takeWhile_eq_self_iff.mpr digits,
    List.dropWhile_eq_nil_iff.mpr digits, List.tail_nil, none]
  simp

/-- The point parts the digits. -/
theorem typedNumber_point (all : ∀ c ∈ whole, isAsciiDigit c = true) :
    typedNumber (whole ++ '.' :: fraction)
      = digitsValue whole + digitsValue fraction / 10 ^ fraction.length := by
  have digits : ∀ c ∈ whole, decide (c ≠ '.') = true :=
    fun c mem => ne_point_of_isAsciiDigit (all c mem)
  have front : (whole ++ '.' :: fraction).takeWhile (· ≠ '.') = whole := by
    rw [List.takeWhile_append_of_pos digits, List.takeWhile_cons_of_neg (by simp),
      List.append_nil]
  have back : ((whole ++ '.' :: fraction).dropWhile (· ≠ '.')).tail = fraction := by
    rw [List.dropWhile_append_of_pos digits, List.dropWhile_cons_of_neg (by simp), List.tail_cons]
  simp only [typedNumber, front, back]

/-- All digits together, shifted by the places behind the point, are the same number. -/
theorem magnitude_point (negative : Bool) (whole fraction : List Char) :
    Decimal.magnitude ⟨negative, digitsValue (whole ++ fraction), -fraction.length⟩
      = digitsValue whole + digitsValue fraction / 10 ^ fraction.length := by
  have places : (10 : Rat) ^ fraction.length ≠ 0 := pow_ne_zero _ (by norm_num)
  rw [Decimal.magnitude_mk, digitsValue_append, zpow_neg, zpow_natCast]
  push_cast
  field_simp

end

/-- A typed numeral is read as a decimal without a sign, and this is its number. -/
theorem magnitude_of_parse? {text : String} {n : Numeral} (typed : IsTyped text.toList)
    (reads : parse? text = some n) :
    ∃ d : Decimal, n = .finite d ∧ d.negative = false ∧
      d.magnitude = typedNumber text.toList := by
  have chars : text = String.ofList text.toList := (String.ofList_toList).symm
  -- With or without a point, what the reader collects has a value that `typedNumber` gives too.
  rcases typed.whole_or_point with digits | ⟨whole, fraction, split, allWhole, allFraction⟩
  · have denotes := parse?_whole typed.nonempty digits
    rw [← chars, reads] at denotes
    cases denotes
    refine ⟨_, rfl, rfl, ?_⟩
    rw [typedNumber_whole digits, Decimal.magnitude_mk, zpow_zero, mul_one]
    rfl
  · have denotes := parse?_point allWhole allFraction
    rw [← split, ← chars, reads] at denotes
    split at denotes
    · cases denotes
    · cases denotes
      refine ⟨_, rfl, rfl, ?_⟩
      rw [split, typedNumber_point allWhole]
      exact magnitude_point false whole fraction

/-- A typed numeral is read as the double nearest to its number. -/
theorem isReading_of_readDouble? {text : String} {v : Float} (typed : IsTyped text.toList)
    (reads : readDouble? text = some v) : Double.IsReading v (typedNumber text.toList) := by
  obtain ⟨n, parsed, rfl⟩ := Option.map_eq_some_iff.mp reads
  obtain ⟨d, rfl, positive, number⟩ := magnitude_of_parse? typed parsed
  rw [← number]
  exact Double.isReading_ofDecimal positive

end InfixCalc.Numeral
