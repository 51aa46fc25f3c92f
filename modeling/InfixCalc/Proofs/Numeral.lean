import InfixCalc.Numeral
import InfixCalc.Token.Scan
import Mathlib.Data.List.TakeWhile
import Mathlib.Tactic.IntervalCases

/-!
# `InfixCalc.Proofs.Numeral`: the numerals that can be typed

A number token of a typed line has a text of ASCII digits with at most one point among them
(`Numeral.IsTyped`). The reader of numerals knows far more: signs, exponents, names, digits of other
scripts, underscores, white space at the ends. None of that can stand in a typed numeral, so on
these texts reading comes down to the digits in front of the point and those behind it:

* `Numeral.parse?_whole` and `Numeral.parse?_point` give the decimal that is read.
* `Numeral.readDouble?_eq_none_iff`: the only typed numeral that denotes no number is the point by
  itself.
-/

set_option autoImplicit false

namespace InfixCalc

open Text

/-! ### The characters of typed numerals -/

/-- The point and the ten ASCII digits. -/
def numeralChars : List Char :=
  ['.', '0', '1', '2', '3', '4', '5', '6', '7', '8', '9']

/-- An ASCII digit is one of the ten listed. -/
theorem mem_numeralChars_of_isAsciiDigit {c : Char} (h : isAsciiDigit c = true) :
    c ∈ numeralChars := by
  have bounds : 48 ≤ c.toNat ∧ c.toNat ≤ 57 := by
    simpa [isAsciiDigit, Char.le_def, UInt32.le_iff_toNat_le] using h
  obtain ⟨low, high⟩ := bounds
  have code : c = Char.ofNat c.toNat := (Char.ofNat_toNat c).symm
  -- Ten codes are left, and each is that of a character of the list.
  generalize c.toNat = n at low high code
  subst code
  interval_cases n <;> decide

/-- A character of numerals is one of the eleven listed. So a fact about all of them can be decided
by going through the list. -/
theorem mem_numeralChars {c : Char} (h : isNumeralChar c = true) : c ∈ numeralChars := by
  rcases Bool.or_eq_true_iff.mp h with digit | point
  · exact mem_numeralChars_of_isAsciiDigit digit
  · cases eq_of_beq point
    decide

/-- What holds of all eleven characters holds of any character of a numeral. The test is a `Bool`:
deciding it looks at the eleven characters and not at all characters there are. -/
theorem of_all_numeralChars {p : Char → Bool} (all : numeralChars.all p = true) {c : Char}
    (h : isNumeralChar c = true) : p c = true :=
  List.all_eq_true.mp all c (mem_numeralChars h)

/-- Digits are characters of numerals. -/
theorem isNumeralChar_of_isAsciiDigit {c : Char} (h : isAsciiDigit c = true) :
    isNumeralChar c = true := by
  simp [isNumeralChar, h]

/-- No character of numerals is white space. -/
theorem isSpace_of_isNumeralChar {c : Char} (h : isNumeralChar c = true) :
    isSpace c = false := by
  have all : numeralChars.all (fun c => !isSpace c) = true := by decide
  simpa using of_all_numeralChars all h

/-- No character of numerals is a sign. -/
theorem ne_sign_of_isNumeralChar {c : Char} (h : isNumeralChar c = true) :
    c ≠ '-' ∧ c ≠ '+' := by
  have all : numeralChars.all (fun c => c != '-' && c != '+') = true := by decide
  simpa using of_all_numeralChars all h

/-- No character of a numeral begins the name of infinity or of the value that is no number. -/
theorem toLower_ne_of_isNumeralChar {c : Char} (h : isNumeralChar c = true) :
    c.toLower ≠ 'i' ∧ c.toLower ≠ 'n' := by
  have all : numeralChars.all (fun c => c.toLower != 'i' && c.toLower != 'n') = true := by decide
  simpa using of_all_numeralChars all h

/-- No digit is an underscore. -/
theorem ne_underscore_of_isAsciiDigit {c : Char} (h : isAsciiDigit c = true) : c ≠ '_' := by
  have all : numeralChars.all (fun c => c != '_') = true := by decide
  simpa using of_all_numeralChars all (isNumeralChar_of_isAsciiDigit h)

def asciiDigitValue (c : Char) : Nat :=
  c.toNat - '0'.toNat

/-- The digits of all scripts are known by their values, and the ASCII digits are among them. -/
theorem digitValue?_of_isAsciiDigit {c : Char} (h : isAsciiDigit c = true) :
    digitValue? c = some (asciiDigitValue c) := by
  have all : numeralChars.all
      (fun c => c == '.' || digitValue? c == some (asciiDigitValue c)) = true := by
    decide +kernel
  have ne : c ≠ '.' := by
    rintro rfl
    cases h
  simpa [ne] using of_all_numeralChars all (isNumeralChar_of_isAsciiDigit h)

/-! ### The parts of the reader on them -/

namespace Numeral

/-- Without white space there is nothing to trim. -/
theorem trim_eq_self {chars : List Char} (h : ∀ c ∈ chars, isSpace c = false) :
    trim chars = chars := by
  have front : ∀ list : List Char, (∀ c ∈ list, isSpace c = false) →
      list.dropWhile isSpace = list := by
    intro list all
    rw [List.dropWhile_eq_self_iff]
    intro hl
    rw [all _ (List.getElem_mem hl)]
    exact Bool.false_ne_true
  rw [trim, front chars h, front chars.reverse fun c mem => h c (List.mem_reverse.mp mem),
    List.reverse_reverse]

/-- A text that begins with no sign has none. -/
theorem takeSign_cons {c : Char} {rest : List Char} (h : c ≠ '-' ∧ c ≠ '+') :
    takeSign (c :: rest) = (false, c :: rest) := by
  unfold takeSign
  split
  · simp_all
  · simp_all
  · rfl

/-- A text that begins with no underscore stays as it is. -/
theorem skipUnderscore_eq_self {chars : List Char} (h : ∀ rest, chars ≠ '_' :: rest) :
    skipUnderscore chars = chars := by
  fun_cases skipUnderscore chars with
  | case1 next rest => exact absurd rfl (h _)
  | case2 next rest => exact absurd rfl (h _)
  | case3 => rfl

/-- Digits are taken up to a character that is none, and no underscore. -/
theorem takeDigits_append {digits rest : List Char} (all : ∀ c ∈ digits, isAsciiDigit c = true)
    (stop : ∀ c ∈ rest.head?, digitValue? c = none ∧ c ≠ '_') :
    takeDigits (digits ++ rest) = (digits.map asciiDigitValue, rest) := by
  induction digits with
  | nil =>
      cases rest with
      | nil =>
          rw [List.nil_append, takeDigits]
          rfl
      | cons c rest =>
          rw [List.nil_append, takeDigits, (stop c rfl).1]
          rfl
  | cons c digits ih =>
      -- An underscore may stand between two digits, but none does here.
      have kept : skipUnderscore (digits ++ rest) = digits ++ rest := by
        refine skipUnderscore_eq_self fun tail same => ?_
        cases digits with
        | nil =>
            rw [List.nil_append] at same
            subst same
            exact (stop '_' rfl).2 rfl
        | cons d digits =>
            cases same
            exact ne_underscore_of_isAsciiDigit (all '_' (by simp)) rfl
      rw [List.cons_append, takeDigits, digitValue?_of_isAsciiDigit (all c List.mem_cons_self)]
      simp only [kept, ih fun d mem => all d (List.mem_cons_of_mem _ mem), List.map_cons]

/-- A row of digits is taken whole. -/
theorem takeDigits_eq {digits : List Char} (all : ∀ c ∈ digits, isAsciiDigit c = true) :
    takeDigits digits = (digits.map asciiDigitValue, []) := by
  have taken : takeDigits (digits ++ []) = (digits.map asciiDigitValue, []) :=
    takeDigits_append all (by simp)
  rwa [List.append_nil] at taken

/-- The point is no digit, in no script. -/
theorem digitValue?_point : digitValue? '.' = none := by
  decide +kernel

/-- A row of digits is taken up to a point. -/
theorem takeDigits_point {digits rest : List Char} (all : ∀ c ∈ digits, isAsciiDigit c = true) :
    takeDigits (digits ++ '.' :: rest) = (digits.map asciiDigitValue, '.' :: rest) := by
  refine takeDigits_append all fun c mem => ?_
  cases mem
  exact ⟨digitValue?_point, by decide⟩

/-- A text without white space that begins with a character of a numeral, or has one behind its
minus sign, is no name: it is read as a decimal. -/
theorem parse?_signed {negative : Bool} {c : Char} {rest : List Char}
    (first : isNumeralChar c = true) (noSpace : ∀ d ∈ c :: rest, isSpace d = false) :
    parse? (String.ofList (if negative then '-' :: c :: rest else c :: rest))
      = (decimal? negative (c :: rest)).map .finite := by
  have minus : isSpace '-' = false := by decide
  have whole : trim (if negative then '-' :: c :: rest else c :: rest)
      = if negative then '-' :: c :: rest else c :: rest := by
    refine trim_eq_self fun d mem => ?_
    split at mem
    · rcases List.mem_cons.mp mem with rfl | mem
      · exact minus
      · exact noSpace d mem
    · exact noSpace d mem
  have sign :
      takeSign (if negative then '-' :: c :: rest else c :: rest) = (negative, c :: rest) := by
    cases negative with
    | false => exact takeSign_cons (ne_sign_of_isNumeralChar first)
    | true => rfl
  obtain ⟨noInfinity, noNotANumber⟩ := toLower_ne_of_isNumeralChar first
  simp only [parse?, String.toList_ofList, whole, sign]
  -- Both names are ruled out by their first letters.
  rw [if_neg, if_neg]
  · simp [notANumberName, noNotANumber]
  · simp [infinityNames, noInfinity]

/-! ### What typed numerals denote -/

/-- The characters are those of a numeral that can be typed: at least one, digits and points only,
and not more than one point. -/
structure IsTyped (chars : List Char) : Prop where
  nonempty : chars ≠ []
  isNumeral : ∀ c ∈ chars, isNumeralChar c = true
  onePoint : chars.count '.' ≤ 1

/-- A character of numerals other than the point is a digit. -/
theorem isAsciiDigit_of_ne_point {c : Char} (h : isNumeralChar c = true) (ne : c ≠ '.') :
    isAsciiDigit c = true := by
  simpa [isNumeralChar, ne] using h

/-- A typed numeral is a row of digits, or two rows around a point. -/
theorem IsTyped.whole_or_point {chars : List Char} (h : IsTyped chars) :
    (∀ c ∈ chars, isAsciiDigit c = true) ∨
      ∃ whole fraction, chars = whole ++ '.' :: fraction ∧
        (∀ c ∈ whole, isAsciiDigit c = true) ∧ ∀ c ∈ fraction, isAsciiDigit c = true := by
  by_cases point : '.' ∈ chars
  · obtain ⟨whole, fraction, rfl⟩ := List.append_of_mem point
    have counts := h.onePoint
    rw [List.count_append, List.count_cons_self] at counts
    -- The one point is the one between the rows, so neither row has another.
    have noWhole : '.' ∉ whole := List.count_eq_zero.mp (by omega)
    have noFraction : '.' ∉ fraction := List.count_eq_zero.mp (by omega)
    refine .inr ⟨whole, fraction, rfl, fun c mem => ?_, fun c mem => ?_⟩
    · exact isAsciiDigit_of_ne_point (h.isNumeral c (by simp [mem]))
        fun same => noWhole (same ▸ mem)
    · exact isAsciiDigit_of_ne_point (h.isNumeral c (by simp [mem]))
        fun same => noFraction (same ▸ mem)
  · exact .inl fun c mem =>
      isAsciiDigit_of_ne_point (h.isNumeral c mem) fun same => point (same ▸ mem)

/-- A text of digits and points is no name and has no sign: it is read as an unsigned decimal. -/
theorem parse?_ofList {chars : List Char} (nonempty : chars ≠ [])
    (isNumeral : ∀ c ∈ chars, isNumeralChar c = true) :
    parse? (String.ofList chars) = (decimal? false chars).map .finite := by
  cases chars with
  | nil => exact absurd rfl nonempty
  | cons c rest =>
      exact @parse?_signed false c rest (isNumeral c List.mem_cons_self)
        fun d mem => isSpace_of_isNumeralChar (isNumeral d mem)

/-- The decimal of a row of digits. -/
theorem parse?_whole {digits : List Char} (nonempty : digits ≠ [])
    (all : ∀ c ∈ digits, isAsciiDigit c = true) :
    parse? (String.ofList digits)
      = some (.finite ⟨false, ofDigits (digits.map asciiDigitValue), 0⟩) := by
  rw [parse?_ofList nonempty fun c mem => isNumeralChar_of_isAsciiDigit (all c mem)]
  simp [decimal?, takeDigits_eq all, takeFraction, exponent?, nonempty]

/-- The decimal of two rows of digits around a point, one of which is not empty. The second row sets
the exponent. -/
theorem parse?_point {whole fraction : List Char}
    (allWhole : ∀ c ∈ whole, isAsciiDigit c = true)
    (allFraction : ∀ c ∈ fraction, isAsciiDigit c = true) :
    parse? (String.ofList (whole ++ '.' :: fraction))
      = if whole = [] ∧ fraction = [] then none
        else some (.finite
          ⟨false, ofDigits ((whole ++ fraction).map asciiDigitValue), -fraction.length⟩) := by
  rw [parse?_ofList (by simp) fun c mem => ?_]
  · simp only [decimal?, takeDigits_point allWhole, takeFraction, takeDigits_eq allFraction]
    by_cases empty : whole = [] ∧ fraction = []
    · simp [empty]
    · simp [exponent?, empty]
  · rcases List.mem_append.mp mem with mem | mem
    · exact isNumeralChar_of_isAsciiDigit (allWhole c mem)
    · rcases List.mem_cons.mp mem with rfl | mem
      · rfl
      · exact isNumeralChar_of_isAsciiDigit (allFraction c mem)

/-- Of the typed numerals only the point by itself denotes no number. -/
theorem readDouble?_eq_none_iff {text : String} (typed : IsTyped text.toList) :
    readDouble? text = none ↔ text = "." := by
  have chars : text = String.ofList text.toList := (String.ofList_toList).symm
  rw [readDouble?, Option.map_eq_none_iff]
  rcases typed.whole_or_point with digits | ⟨whole, fraction, split, allWhole, allFraction⟩
  · have denotes := parse?_whole typed.nonempty digits
    rw [← chars] at denotes
    rw [denotes]
    constructor
    · intro h
      cases h
    · rintro rfl
      -- The point is no digit, so it does not make a row of digits.
      have noDigit : isAsciiDigit '.' = false := rfl
      rw [digits '.' (by decide)] at noDigit
      cases noDigit
  · have denotes := parse?_point allWhole allFraction
    rw [← split, ← chars] at denotes
    rw [denotes]
    constructor
    · intro h
      split at h
      · next empty =>
          obtain ⟨rfl, rfl⟩ := empty
          rw [chars, split]
          rfl
      · cases h
    · rintro rfl
      rw [if_pos]
      have one : whole ++ '.' :: fraction = ['.'] := split.symm
      cases whole with
      | nil => simpa using one
      | cons c whole => simp at one

end Numeral

end InfixCalc
