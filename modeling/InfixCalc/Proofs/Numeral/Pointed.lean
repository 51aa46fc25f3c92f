import InfixCalc.Proofs.Numeral
import Mathlib.Tactic.Ring

/-!
# `InfixCalc.Proofs.Numeral.Pointed`: numerals with a sign, a point and an exponent

Numbers are written as digits with a point among them, a minus sign in front and an exponent behind,
none of which has to be there. `Denotes chars coefficient exponent` says that the characters, the
sign left aside, are of this form and what they denote. The reader of numerals agrees with it
(`parse?_of_denotes`).

The number that a row of digits denotes, `digitsValue`, goes with the digits that the standard
library writes a number with (`digitsValue_toDigits`).
-/

set_option autoImplicit false

namespace InfixCalc.Numeral

open Text

/-! ### The values of digits -/

/-- The number that a row of ASCII digits denotes. -/
def digitsValue (digits : List Char) : Nat :=
  ofDigits (digits.map asciiDigitValue)

/-- The value of digits is the one that the standard library gives them. -/
theorem digitsValue_eq_ofDigitChars (digits : List Char) :
    digitsValue digits = Nat.ofDigitChars 10 digits 0 := by
  rw [digitsValue, ofDigits, List.foldl_map]
  rfl

/-- A number has the value of the digits that it is written with. -/
@[simp]
theorem digitsValue_toDigits (n : Nat) : digitsValue (Nat.toDigits 10 n) = n := by
  rw [digitsValue_eq_ofDigitChars, Nat.ofDigitChars_ten_toDigits]

/-- One more digit shifts the others by a place. -/
theorem digitsValue_concat (digits : List Char) (c : Char) :
    digitsValue (digits ++ [c]) = 10 * digitsValue digits + asciiDigitValue c := by
  simp [digitsValue, ofDigits]

/-- Each zero behind the digits is a factor of ten. -/
theorem digitsValue_append_zeros (digits : List Char) (n : Nat) :
    digitsValue (digits ++ List.replicate n '0') = digitsValue digits * 10 ^ n := by
  induction n with
  | zero => simp
  | succ n ih =>
      have zero : asciiDigitValue '0' = 0 := rfl
      rw [List.replicate_succ', ← List.append_assoc, digitsValue_concat, ih, zero, Nat.pow_succ]
      ring

/-- A zero in front of the digits changes nothing. -/
theorem digitsValue_zero_cons (digits : List Char) :
    digitsValue ('0' :: digits) = digitsValue digits :=
  rfl

/-- Any number of zeros in front changes nothing. -/
theorem digitsValue_zeros_append (n : Nat) (digits : List Char) :
    digitsValue (List.replicate n '0' ++ digits) = digitsValue digits := by
  induction n with
  | zero => rfl
  | succ n ih => rwa [List.replicate_succ, List.cons_append, digitsValue_zero_cons]

/-- Numbers are written with digits. -/
theorem isAsciiDigit_of_mem_toDigits {n : Nat} {c : Char} (mem : c ∈ Nat.toDigits 10 n) :
    isAsciiDigit c = true :=
  Nat.isDigit_of_mem_toDigits (by decide) (by decide) mem

/-- The zeros that fill up a layout are digits. -/
theorem isAsciiDigit_of_mem_zeros {n : Nat} {c : Char} (mem : c ∈ List.replicate n '0') :
    isAsciiDigit c = true := by
  rw [List.eq_of_mem_replicate mem]
  rfl

/-- The single zero next to a point is a digit. -/
theorem isAsciiDigit_of_mem_zero : ∀ c ∈ ['0'], isAsciiDigit c = true :=
  List.forall_mem_singleton.mpr rfl

/-! ### What numbers are written as -/

/-- The point and the digits behind it; no point if there are none. -/
def fractionChars (fraction : List Char) : List Char :=
  if fraction.isEmpty then [] else '.' :: fraction

/-- Digits of a fraction have the point in front of them. -/
theorem fractionChars_of_ne_nil {fraction : List Char} (nonempty : fraction ≠ []) :
    fractionChars fraction = '.' :: fraction := by
  simp [fractionChars, nonempty]

/-- There is nothing but the point and these digits. -/
theorem mem_fractionChars {fraction : List Char} {c : Char} (mem : c ∈ fractionChars fraction) :
    c = '.' ∨ c ∈ fraction := by
  unfold fractionChars at mem
  split at mem
  · cases mem
  · exact List.mem_cons.mp mem

/-- The characters are an exponent with a sign, or none, and its value. -/
inductive IsExponent : List Char → Int → Prop
  | absent : IsExponent [] 0
  | signed (negative : Bool) {digits : List Char} (nonempty : digits ≠ [])
      (all : ∀ c ∈ digits, isAsciiDigit c = true) :
      IsExponent ('e' :: (if negative then '-' else '+') :: digits)
        (if negative then -(digitsValue digits) else digitsValue digits)

/-- The characters are digits, at least one, with a point among them or none and with an exponent or
none. They denote the number of all the digits times a power of ten. -/
inductive Denotes : List Char → Nat → Int → Prop
  | pointed {whole fraction tail : List Char} {exponent : Int} (nonempty : whole ≠ [])
      (allWhole : ∀ c ∈ whole, isAsciiDigit c = true)
      (allFraction : ∀ c ∈ fraction, isAsciiDigit c = true)
      (isExponent : IsExponent tail exponent) :
      Denotes (whole ++ fractionChars fraction ++ tail) (digitsValue (whole ++ fraction))
        (exponent - fraction.length)

/-- No digit is white space. -/
theorem isSpace_of_isAsciiDigit {c : Char} (digit : isAsciiDigit c = true) : isSpace c = false :=
  isSpace_of_isNumeralChar (isNumeralChar_of_isAsciiDigit digit)

section Exponent

variable {tail : List Char} {exponent : Int}

/-- An exponent is read as its value. -/
theorem IsExponent.exponent?_eq (isExponent : IsExponent tail exponent) :
    exponent? tail = some exponent := by
  cases isExponent with
  | absent => rfl
  | @signed negative digits nonempty all =>
      have taken := takeDigits_eq all
      have sign : takeSign ((if negative then '-' else '+') :: digits) = (negative, digits) := by
        cases negative <;> rfl
      cases digits with
      | nil => exact absurd rfl nonempty
      | cons c digits => simp [exponent?, sign, taken, digitsValue]

/-- No exponent goes on with the digits in front of it. -/
theorem IsExponent.stops (isExponent : IsExponent tail exponent) :
    ∀ c ∈ tail.head?, digitValue? c = none ∧ c ≠ '_' := by
  have letter : digitValue? 'e' = none ∧ 'e' ≠ '_' := ⟨by decide +kernel, by decide⟩
  cases isExponent with
  | absent => simp
  | signed => simpa using letter

/-- An exponent does not begin with a point, so there is no fraction to be taken from it. -/
theorem IsExponent.takeFraction_eq (isExponent : IsExponent tail exponent) :
    takeFraction tail = ([], tail) := by
  cases isExponent <;> rfl

/-- There is no white space in an exponent. -/
theorem IsExponent.isSpace_eq_false (isExponent : IsExponent tail exponent) :
    ∀ c ∈ tail, isSpace c = false := by
  cases isExponent with
  | absent => simp
  | @signed negative digits nonempty all =>
      have letter : isSpace 'e' = false := by decide
      have sign : isSpace (if negative then '-' else '+') = false := by
        cases negative <;> decide
      intro c mem
      rcases List.mem_cons.mp mem with rfl | mem
      · exact letter
      · rcases List.mem_cons.mp mem with rfl | mem
        · exact sign
        · exact isSpace_of_isAsciiDigit (all c mem)

end Exponent

/-! ### Reading them -/

section Denotes

variable {chars : List Char} {coefficient : Nat} {exponent : Int}

/-- The characters of a number, its sign left aside, are read as what they denote. -/
theorem decimal?_of_denotes (denotes : Denotes chars coefficient exponent) (negative : Bool) :
    decimal? negative chars = some ⟨negative, coefficient, exponent⟩ := by
  cases denotes with
  | @pointed whole fraction tail power nonempty allWhole allFraction isExponent =>
      have read := isExponent.exponent?_eq
      cases fraction with
      | nil =>
          -- There is no point, and the digits are taken up to the exponent.
          have taken : takeDigits (whole ++ tail) = (whole.map asciiDigitValue, tail) :=
            takeDigits_append allWhole isExponent.stops
          simp [decimal?, fractionChars, taken, isExponent.takeFraction_eq, read, nonempty,
            digitsValue]
      | cons c fraction =>
          -- The digits are taken up to the point, and then up to the exponent.
          have taken : takeDigits (c :: fraction ++ tail)
              = ((c :: fraction).map asciiDigitValue, tail) :=
            takeDigits_append allFraction isExponent.stops
          simp only [decimal?, fractionChars, List.isEmpty_cons, Bool.false_eq_true, if_false,
            List.append_assoc, List.cons_append, takeDigits_point allWhole, takeFraction]
          rw [← List.cons_append, taken]
          simp [read, digitsValue]

/-- A number, written with its sign, is read as what it denotes. -/
theorem parse?_of_denotes (denotes : Denotes chars coefficient exponent) (negative : Bool) :
    parse? (String.ofList (if negative then '-' :: chars else chars))
      = some (.finite ⟨negative, coefficient, exponent⟩) := by
  have decimal := decimal?_of_denotes denotes negative
  cases denotes with
  | @pointed whole fraction tail power nonempty allWhole allFraction isExponent =>
      cases whole with
      | nil => exact absurd rfl nonempty
      | cons c whole =>
          have first := isNumeralChar_of_isAsciiDigit (allWhole c List.mem_cons_self)
          have point : isSpace '.' = false := by decide
          have noSpace : ∀ d ∈ c :: whole ++ fractionChars fraction ++ tail, isSpace d = false := by
            intro d mem
            rcases List.mem_append.mp mem with mem | mem
            · rcases List.mem_append.mp mem with mem | mem
              · exact isSpace_of_isAsciiDigit (allWhole d mem)
              · rcases mem_fractionChars mem with rfl | mem
                · exact point
                · exact isSpace_of_isAsciiDigit (allFraction d mem)
            · exact isExponent.isSpace_eq_false d mem
          -- It begins with a digit, so it is not one of the names that are read before decimals.
          simp only [List.cons_append] at noSpace decimal ⊢
          rw [parse?_signed first noSpace, decimal]
          rfl

end Denotes

end InfixCalc.Numeral
