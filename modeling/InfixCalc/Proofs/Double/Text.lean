import InfixCalc.Double.Text
import InfixCalc.Proofs.Double.Shortest
import InfixCalc.Proofs.Numeral.Pointed

/-!
# `InfixCalc.Proofs.Double.Text`: what the text of a double denotes

Doubles are written by the significant digits of their shortest decimals, in one of two layouts.
Both layouts are numerals (`denotes_positional_of_neg` and its neighbours, `denotes_scientific`),
and so a reader of numerals gets the sign of the double and the number of its shortest decimal back
from the text (`exists_parse?_text`), and so the double itself (`readDouble?_text`).

The text also shows where the decimal ends. Its last digit is not zero, apart from the single digit
behind the point of a whole number. So a decimal with no digit beyond some places is on display with
no digit beyond them either: `exists_parse?_displayText`.
-/

set_option autoImplicit false

namespace InfixCalc.Double

open Numeral Text

/-! ### Significant digits -/

/-- A number is written with as many digits as it is counted to have. -/
theorem length_toDigits (n : Nat) : (Nat.toDigits 10 n).length = digitCount n := by
  fun_induction digitCount n with
  | case1 n small => rw [Nat.toDigits_of_lt_base small, List.length_singleton]
  | case2 n large ih =>
      rw [Nat.toDigits_of_base_le (by decide) (by omega), List.length_append, ih,
        List.length_singleton]

/-- The digits of a number are its significant digits and zeros behind them. -/
theorem exists_toDigits_eq (n : Nat) :
    ∃ zeros, Nat.toDigits 10 n = significantDigits n ++ List.replicate zeros '0' := by
  have parts := List.takeWhile_append_dropWhile (p := (· == '0')) (l := (Nat.toDigits 10 n).reverse)
  have zeros : (Nat.toDigits 10 n).reverse.takeWhile (· == '0')
      = List.replicate ((Nat.toDigits 10 n).reverse.takeWhile (· == '0')).length '0' := by
    rw [List.eq_replicate_iff]
    refine ⟨rfl, fun c mem => ?_⟩
    simpa using List.mem_takeWhile_imp mem
  refine ⟨((Nat.toDigits 10 n).reverse.takeWhile (· == '0')).length, ?_⟩
  rw [significantDigits, ← List.reverse_replicate, ← zeros, ← List.reverse_append, parts,
    List.reverse_reverse]

/-- Significant digits are digits. -/
theorem isAsciiDigit_of_mem_significantDigits {n : Nat} {c : Char}
    (mem : c ∈ significantDigits n) : isAsciiDigit c = true := by
  obtain ⟨zeros, digits⟩ := exists_toDigits_eq n
  have mem' : c ∈ Nat.toDigits 10 n := by
    rw [digits]
    exact List.mem_append_left _ mem
  exact isAsciiDigit_of_mem_toDigits mem'

/-- A number is that of its significant digits, shifted past the zeros behind them. -/
theorem digitsValue_significantDigits_mul (n : Nat) :
    digitsValue (significantDigits n) * 10 ^ (digitCount n - (significantDigits n).length) = n ∧
    (significantDigits n).length ≤ digitCount n := by
  obtain ⟨zeros, digits⟩ := exists_toDigits_eq n
  have length : digitCount n = (significantDigits n).length + zeros := by
    rw [← length_toDigits, digits, List.length_append, List.length_replicate]
  rw [length, Nat.add_sub_cancel_left, ← digitsValue_append_zeros, ← digits, digitsValue_toDigits]
  exact ⟨rfl, Nat.le_add_right _ _⟩

/-- A digit other than `0` has a value other than zero, and digits are below ten. -/
theorem asciiDigitValue_mod {c : Char} (digit : isAsciiDigit c = true) (ne : c ≠ '0') :
    asciiDigitValue c % 10 ≠ 0 := by
  have all : numeralChars.all
      (fun c => c == '.' || c == '0' || asciiDigitValue c % 10 != 0) = true := by
    decide
  have point : c ≠ '.' := by
    rintro rfl
    cases digit
  simpa [ne, point] using of_all_numeralChars all (isNumeralChar_of_isAsciiDigit digit)

/-- The last significant digit is not zero. -/
theorem digitsValue_significantDigits_mod {n : Nat} (nonzero : n ≠ 0) :
    digitsValue (significantDigits n) % 10 ≠ 0 := by
  have value := (digitsValue_significantDigits_mul n).1
  have digits : ∀ c ∈ significantDigits n, isAsciiDigit c = true :=
    fun c => isAsciiDigit_of_mem_significantDigits
  unfold significantDigits at value digits ⊢
  -- What is left when zeros are taken off from behind ends in another digit, or is empty.
  cases stripped : (Nat.toDigits 10 n).reverse.dropWhile (· == '0') with
  | nil =>
      rw [stripped, List.reverse_nil, show digitsValue [] = 0 from rfl, Nat.zero_mul] at value
      exact absurd value.symm nonzero
  | cons c rest =>
      have head := List.head_dropWhile_not (· == '0') (l := (Nat.toDigits 10 n).reverse)
        (by simp [stripped])
      simp only [stripped, List.head_cons] at head
      rw [stripped, List.reverse_cons] at digits
      rw [List.reverse_cons, digitsValue_concat]
      have last := asciiDigitValue_mod (digits c (by simp)) (by simpa using head)
      omega

/-- A number that is not zero has a significant digit. -/
theorem significantDigits_ne_nil {n : Nat} (nonzero : n ≠ 0) : significantDigits n ≠ [] := by
  intro none
  exact digitsValue_significantDigits_mod nonzero (by rw [none]; rfl)

/-! ### The two layouts -/

section Layouts

variable {digits : List Char} {leading : Int}

/-- A number below one has zeros between the point and its digits. -/
theorem denotes_positional_of_neg (nonempty : digits ≠ [])
    (all : ∀ c ∈ digits, isAsciiDigit c = true) (small : leading < 0) :
    Denotes (positional digits leading) (digitsValue digits) (leading + 1 - digits.length) := by
  obtain ⟨zeros, count⟩ : ∃ zeros : Nat, -leading - 1 = zeros :=
    ⟨(-leading - 1).toNat, by omega⟩
  have behind : ∀ c ∈ List.replicate zeros '0' ++ digits, isAsciiDigit c = true :=
    List.forall_mem_append.mpr ⟨fun _ => isAsciiDigit_of_mem_zeros, all⟩
  have denotes := Denotes.pointed (List.cons_ne_nil '0' []) isAsciiDigit_of_mem_zero behind .absent
  rw [fractionChars_of_ne_nil (by simp [nonempty]), List.append_nil, List.singleton_append,
    List.singleton_append, digitsValue_zero_cons, digitsValue_zeros_append, List.length_append,
    List.length_replicate] at denotes
  -- All digits are behind the point, with the zeros in front of them.
  have place : (0 - (zeros + digits.length : Nat) : Int) = leading + 1 - digits.length := by
    omega
  rwa [positional, if_pos small, count, Int.toNat_natCast, ← place]

/-- The point stands among the digits if some of them are behind it. -/
theorem denotes_positional_of_lt {before : Nat} (all : ∀ c ∈ digits, isAsciiDigit c = true)
    (lt : before + 1 < digits.length) :
    Denotes (positional digits before) (digitsValue digits) (before + 1 - digits.length) := by
  have front : ∀ c ∈ digits.take (before + 1), isAsciiDigit c = true :=
    fun c mem => all c (List.mem_of_mem_take mem)
  have behind : ∀ c ∈ digits.drop (before + 1), isAsciiDigit c = true :=
    fun c mem => all c (List.mem_of_mem_drop mem)
  have nonempty : digits.take (before + 1) ≠ [] := by
    intro none
    have length := congrArg List.length none
    rw [List.length_take, List.length_nil] at length
    omega
  have denotes := Denotes.pointed nonempty front behind .absent
  rw [fractionChars_of_ne_nil (by simpa using lt), List.append_nil, List.take_append_drop,
    List.length_drop] at denotes
  -- Neither side of the point is filled up.
  have full : before + 1 - (digits.take (before + 1)).length = 0 := by
    rw [List.length_take]
    omega
  have full' : 1 - (digits.drop (before + 1)).length = 0 := by
    rw [List.length_drop]
    omega
  have place : (0 - (digits.length - (before + 1) : Nat) : Int) = before + 1 - digits.length := by
    omega
  rw [positional, if_neg (by omega), Int.toNat_natCast]
  simp only [padRight, full, full', List.replicate_zero, List.append_nil]
  rwa [← place]

/-- If all digits stand before the point, zeros fill the gap up to it and one more follows it. -/
theorem denotes_positional_of_le {before : Nat} (nonempty : digits ≠ [])
    (all : ∀ c ∈ digits, isAsciiDigit c = true) (le : digits.length ≤ before + 1) :
    Denotes (positional digits before) (digitsValue digits * 10 ^ (before + 2 - digits.length))
      (-1) := by
  have front : ∀ c ∈ digits ++ List.replicate (before + 1 - digits.length) '0',
      isAsciiDigit c = true :=
    List.forall_mem_append.mpr ⟨all, fun _ => isAsciiDigit_of_mem_zeros⟩
  have denotes := Denotes.pointed (by simp [nonempty]) front isAsciiDigit_of_mem_zero .absent
  have zeros : before + 1 - digits.length + 1 = before + 2 - digits.length := by omega
  have value : digitsValue (digits ++ List.replicate (before + 1 - digits.length) '0' ++ ['0'])
      = digitsValue digits * 10 ^ (before + 2 - digits.length) := by
    rw [show ['0'] = List.replicate 1 '0' from rfl, digitsValue_append_zeros,
      digitsValue_append_zeros, Nat.mul_assoc, ← Nat.pow_add, zeros]
  rw [fractionChars_of_ne_nil (by simp), List.append_nil, value] at denotes
  rw [positional, if_neg (by omega), Int.toNat_natCast]
  simp only [padRight, List.take_of_length_le le, List.drop_of_length_le le]
  exact denotes

/-- The exponent of the scientific layout is a sign and digits. -/
theorem isExponent_scientific (width : Nat) (leading : Int) :
    IsExponent ('e' :: (if leading < 0 then '-' else '+')
      :: padLeft width (Nat.toDigits 10 leading.natAbs)) leading := by
  have nonempty : padLeft width (Nat.toDigits 10 leading.natAbs) ≠ [] := by
    simp [padLeft, Nat.toDigits_ne_nil]
  have all : ∀ c ∈ padLeft width (Nat.toDigits 10 leading.natAbs), isAsciiDigit c = true :=
    List.forall_mem_append.mpr
      ⟨fun _ => isAsciiDigit_of_mem_zeros, fun _ => isAsciiDigit_of_mem_toDigits⟩
  have value : digitsValue (padLeft width (Nat.toDigits 10 leading.natAbs)) = leading.natAbs := by
    rw [padLeft, digitsValue_zeros_append, digitsValue_toDigits]
  -- The sign is written in any case, and the digits without it.
  split
  · next negative =>
      have isExponent := IsExponent.signed true nonempty all
      rw [value, if_pos rfl, if_pos rfl] at isExponent
      have same : -(leading.natAbs : Int) = leading := by omega
      rwa [same] at isExponent
  · next nonneg =>
      have isExponent := IsExponent.signed false nonempty all
      rw [value, if_neg Bool.false_ne_true, if_neg Bool.false_ne_true] at isExponent
      have same : (leading.natAbs : Int) = leading := by omega
      rwa [same] at isExponent

/-- In the scientific layout one digit stands before the point, and the exponent says where the
point belongs. -/
theorem denotes_scientific {width : Nat} (nonempty : digits ≠ [])
    (all : ∀ c ∈ digits, isAsciiDigit c = true) :
    Denotes (scientific width digits leading) (digitsValue digits)
      (leading + 1 - digits.length) := by
  cases digits with
  | nil => exact absurd rfl nonempty
  | cons c fraction =>
      have front : ∀ d ∈ [c], isAsciiDigit d = true := by simpa using all c (by simp)
      have behind : ∀ d ∈ fraction, isAsciiDigit d = true := fun d mem => all d (by simp [mem])
      have denotes := Denotes.pointed (List.cons_ne_nil c []) front behind
        (isExponent_scientific width leading)
      -- One digit is before the point, and all others count for the exponent.
      have place : leading - fraction.length = leading + 1 - (c :: fraction).length := by
        simp only [List.length_cons]
        omega
      rw [List.singleton_append, place] at denotes
      have chars : scientific width (c :: fraction) leading
          = [c] ++ fractionChars fraction ++ 'e' :: (if leading < 0 then '-' else '+')
            :: padLeft width (Nat.toDigits 10 leading.natAbs) := by
        cases fraction <;> simp [scientific, fractionChars]
      rwa [chars]

end Layouts

/-! ### The text of a decimal -/

/-- The number of a decimal, by its significant digits and the place of the last one. -/
theorem digitsValue_mul_zpow (d : Decimal) :
    (digitsValue (significantDigits d.coefficient)
      * 10 ^ (d.leadingExponent + 1 - (significantDigits d.coefficient).length) : Rat)
      = d.magnitude := by
  obtain ⟨shifted, le⟩ := digitsValue_significantDigits_mul d.coefficient
  rw [Decimal.leadingExponent, Decimal.magnitude]
  generalize digitCount d.coefficient = count at shifted le ⊢
  generalize significantDigits d.coefficient = digits at shifted le ⊢
  have place : (count + d.exponent - 1 + 1 - digits.length : Int)
      = (count - digits.length : Nat) + d.exponent := by
    omega
  rw [← shifted, place, zpow_add₀ (by norm_num), zpow_natCast, ← mul_assoc]
  push_cast
  rfl

/-- The text of a decimal denotes its number. It ends in a digit that is not zero, or there is one
digit behind its point. -/
theorem exists_denotes_magnitudeText (l : Layout) (d : Decimal) :
    ∃ coefficient exponent, Denotes (magnitudeText l d) coefficient exponent ∧
      (coefficient * 10 ^ exponent : Rat) = d.magnitude ∧
      (coefficient % 10 ≠ 0 ∨ exponent = -1) := by
  unfold magnitudeText
  split
  · next zero =>
      have denotes := Denotes.pointed (List.cons_ne_nil '0' []) isAsciiDigit_of_mem_zero
        isAsciiDigit_of_mem_zero .absent
      refine ⟨_, _, denotes, ?_, .inr rfl⟩
      rw [Decimal.magnitude, zero, show digitsValue (['0'] ++ ['0']) = 0 from rfl, Nat.cast_zero,
        zero_mul, zero_mul]
  · next nonzero =>
      have nonempty := significantDigits_ne_nil nonzero
      have all : ∀ c ∈ significantDigits d.coefficient, isAsciiDigit c = true :=
        fun _ => isAsciiDigit_of_mem_significantDigits
      have value := digitsValue_mul_zpow d
      have last := digitsValue_significantDigits_mod nonzero
      -- From here on the digits may be any, and the first one may be at any place.
      dsimp only
      generalize significantDigits d.coefficient = digits at nonempty all value last ⊢
      generalize d.leadingExponent = leading at value ⊢
      split
      · rcases Int.lt_or_le leading 0 with small | large
        · exact ⟨_, _, denotes_positional_of_neg nonempty all small, value, .inl last⟩
        · obtain ⟨before, rfl⟩ := Int.eq_ofNat_of_zero_le large
          rcases Nat.lt_or_ge (before + 1) digits.length with lt | le
          · exact ⟨_, _, denotes_positional_of_lt all lt, value, .inl last⟩
          · -- The zeros up to the point and behind it have become part of the coefficient.
            refine ⟨_, _, denotes_positional_of_le nonempty all le, ?_, .inr rfl⟩
            have place : (before + 1 - digits.length : Int)
                = (before + 2 - digits.length : Nat) + -1 := by
              omega
            rw [← value, place, zpow_add₀ (by norm_num), zpow_natCast, ← mul_assoc]
            push_cast
            rfl
      · exact ⟨_, _, denotes_scientific nonempty all, value, .inl last⟩

/-! ### The text of a double -/

/-- The text of a finite double denotes its sign and the number of its shortest decimal. -/
theorem exists_parse?_text {v : Float} (finite : isFinite v = true) :
    ∃ d, parse? (text v) = some (.finite d) ∧ d.negative = isNegative v ∧
      d.magnitude = (toDecimal v).magnitude ∧ (d.coefficient % 10 ≠ 0 ∨ d.exponent = -1) := by
  obtain ⟨coefficient, exponent, denotes, magnitude, last⟩ :=
    exists_denotes_magnitudeText layout (toDecimal v)
  refine ⟨⟨isNegative v, coefficient, exponent⟩, ?_, rfl, magnitude, last⟩
  rw [text, isNotANumber_of_isFinite finite, if_neg Bool.false_ne_true, unsignedText, if_pos finite]
  exact parse?_of_denotes denotes (isNegative v)

/-- The text of a finite double is read as this double. -/
theorem readDouble?_text {v : Float} (finite : isFinite v = true) :
    readDouble? (text v) = some v := by
  obtain ⟨d, read, sign, number, -⟩ := exists_parse?_text finite
  have same : ofDecimal d = ofDecimal (toDecimal v) :=
    ofDecimal_congr (sign.trans (negative_toDecimal v).symm) number
  rw [readDouble?, read, Option.map_some, toDouble, same, ofDecimal_toDecimal finite]

/-- The text of a whole number denotes it. -/
theorem parse?_integerText (n : Int) :
    parse? (integerText n) = some (.finite ⟨n < 0, n.natAbs, 0⟩) := by
  have digits : ∀ c ∈ Nat.toDigits 10 n.natAbs, isAsciiDigit c = true :=
    fun _ => isAsciiDigit_of_mem_toDigits
  have denotes := Denotes.pointed Nat.toDigits_ne_nil digits (List.forall_mem_nil _) .absent
  simp only [fractionChars, List.isEmpty_nil, if_pos, List.append_nil, digitsValue_toDigits,
    List.length_nil, Nat.cast_zero, sub_zero] at denotes
  have read := parse?_of_denotes denotes (n < 0)
  simpa [integerText] using read

/-! ### The text on display -/

/-- If the decimal of a double has no digit beyond the places, then the text on display has none
either. -/
theorem exists_parse?_displayText {v : Float} {places : Int} (finite : isFinite v = true)
    (nonneg : 0 ≤ places) (grid : (toDecimal v).OnGrid places) :
    ∃ d, parse? (displayText v) = some (.finite d) ∧ -places ≤ d.exponent := by
  unfold displayText
  split
  · exact ⟨_, parse?_integerText _, by simpa using nonneg⟩
  · next notWhole =>
      obtain ⟨d, read, -, magnitude, last⟩ := exists_parse?_text finite
      refine ⟨d, read, ?_⟩
      rcases last with last | tenth
      · exact Decimal.neg_le_exponent_of_onGrid (grid.congr magnitude) last
      · -- With no places at all the double is whole, and has been written without a point.
        have some : places ≠ 0 := by
          rintro rfl
          obtain ⟨n, value⟩ := grid
          have approximate := isRead_toDecimal v
          rw [value, neg_zero, zpow_zero, mul_one] at approximate
          rw [finite, isWhole_of_isRead approximate] at notWhole
          exact notWhole rfl
        omega

end InfixCalc.Double
