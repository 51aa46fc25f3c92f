import InfixCalc.Proofs.Double.Text
import InfixCalc.Rounding
import InfixCalc.Text.Quoted

/-!
# `InfixCalc.Proofs.Text.Line`: texts that are one line

What is printed in lines must not break a line itself. A line break is not only a line feed: readers
of text also end lines at nine other characters (`lineBreaks`). A text is one line if it has none of
them (`IsOneLine`).

Texts of numbers are one line, finite or not (`isOneLine_text`, `isOneLine_displayText`,
`isOneLine_integerText`), and so is any text between quotes, whatever it holds: its line breaks are
not printable, and what is not printable is escaped (`isOneLine_quoted`).
-/

set_option autoImplicit false

namespace InfixCalc.Text

/-- The characters that end lines: line feed, vertical tab, form feed, carriage return, the file,
group and record separators, next line, line separator and paragraph separator. -/
def lineBreaks : List Char :=
  ['\n', '\x0b', '\x0c', '\r', '\x1c', '\x1d', '\x1e', '\u0085', '\u2028', '\u2029']

/-- The character ends lines. -/
def isLineBreak (c : Char) : Bool :=
  lineBreaks.contains c

/-- The text breaks no line. -/
def IsOneLine (text : String) : Prop :=
  ∀ c ∈ text.toList, isLineBreak c = false

instance (text : String) : Decidable (IsOneLine text) :=
  List.decidableBAll (fun c => isLineBreak c = false) text.toList

/-- Two texts make one line if both are one. -/
@[simp] theorem isOneLine_append {text other : String} :
    IsOneLine (text ++ other) ↔ IsOneLine text ∧ IsOneLine other := by
  rw [IsOneLine, String.toList_append]
  exact List.forall_mem_append

/-- A text is one line if its characters break none. -/
theorem isOneLine_ofList {chars : List Char} :
    IsOneLine (String.ofList chars) ↔ ∀ c ∈ chars, isLineBreak c = false := by
  rw [IsOneLine, String.toList_ofList]

/-- A character with a property that no line break has is no line break. -/
theorem isLineBreak_eq_false {p : Char → Bool} (none : lineBreaks.all (!p ·) = true) {c : Char}
    (h : p c = true) : isLineBreak c = false := by
  rw [isLineBreak, List.contains_eq_mem, decide_eq_false_iff_not]
  intro mem
  have other := List.all_eq_true.mp none c mem
  simp [h] at other

/-! ### Numbers -/

/-- What numerals are typed with breaks no line. -/
theorem isLineBreak_of_isNumeralChar {c : Char} (h : isNumeralChar c = true) :
    isLineBreak c = false :=
  isLineBreak_eq_false (by decide) h

/-- Digits break no line. -/
theorem isLineBreak_of_isAsciiDigit {c : Char} (h : isAsciiDigit c = true) :
    isLineBreak c = false :=
  isLineBreak_of_isNumeralChar (isNumeralChar_of_isAsciiDigit h)

/-- The characters that numbers are written with, besides digits. -/
def numberMarks : List Char :=
  ['.', 'e', '+', '-']

/-- Whatever denotes a number is made of digits, a point and the signs of an exponent. -/
theorem mem_of_denotes {chars : List Char} {coefficient : Nat} {exponent : Int}
    (denotes : Numeral.Denotes chars coefficient exponent) :
    ∀ c ∈ chars, isAsciiDigit c = true ∨ c ∈ numberMarks := by
  cases denotes with
  | @pointed whole fraction tail power nonempty allWhole allFraction isExponent =>
      intro c mem
      rcases List.mem_append.mp mem with mem | mem
      · rcases List.mem_append.mp mem with mem | mem
        · exact .inl (allWhole c mem)
        · rcases Numeral.mem_fractionChars mem with rfl | mem
          · exact .inr (by decide)
          · exact .inl (allFraction c mem)
      · cases isExponent with
        | absent => cases mem
        | @signed negative digits _ all =>
            rcases List.mem_cons.mp mem with rfl | mem
            · exact .inr (by decide)
            · rcases List.mem_cons.mp mem with rfl | mem
              · cases negative <;> exact .inr (by decide)
              · exact .inl (all c mem)

/-- What denotes a number breaks no line. -/
theorem isLineBreak_of_denotes {chars : List Char} {coefficient : Nat} {exponent : Int}
    (denotes : Numeral.Denotes chars coefficient exponent) :
    ∀ c ∈ chars, isLineBreak c = false := by
  have marks : numberMarks.all (!isLineBreak ·) = true := by decide
  intro c mem
  rcases mem_of_denotes denotes c mem with digit | mark
  · exact isLineBreak_of_isAsciiDigit digit
  · simpa using List.all_eq_true.mp marks c mark

/-- A minus sign in front breaks no line. -/
theorem isOneLine_signed {chars : List Char} (all : ∀ c ∈ chars, isLineBreak c = false)
    (negative : Bool) : IsOneLine (String.ofList (if negative then '-' :: chars else chars)) := by
  rw [isOneLine_ofList]
  cases negative with
  | false => exact all
  | true => exact List.forall_mem_cons.mpr ⟨by decide, all⟩

/-- The text of a whole number is one line. -/
theorem isOneLine_integerText (n : Int) : IsOneLine (integerText n) := by
  have all : ∀ c ∈ Nat.toDigits 10 n.natAbs, isLineBreak c = false := fun c mem =>
    isLineBreak_of_isAsciiDigit (Numeral.isAsciiDigit_of_mem_toDigits mem)
  have signed := isOneLine_signed all (n < 0)
  simpa [integerText] using signed

/-- The text of a double is one line, also if it is infinite or no number. -/
theorem isOneLine_text (v : Float) : IsOneLine (Double.text v) := by
  unfold Double.text
  split
  · decide
  · refine isOneLine_signed ?_ (Double.isNegative v)
    unfold Double.unsignedText
    split
    · -- A finite double is written as something that denotes a number.
      obtain ⟨_, _, denotes, -⟩ :=
        Double.exists_denotes_magnitudeText Double.layout (Double.toDecimal v)
      exact isLineBreak_of_denotes denotes
    · rw [← isOneLine_ofList]
      decide

/-- The text that a double has on display is one line. -/
theorem isOneLine_displayText (v : Float) : IsOneLine (Double.displayText v) := by
  unfold Double.displayText
  split
  · exact isOneLine_integerText _
  · exact isOneLine_text v

/-- The text of an amount is one line. -/
theorem isOneLine_amount (amount : Amount) : IsOneLine amount.text := by
  cases amount with
  | whole n => exact isOneLine_integerText n
  | double v => exact isOneLine_text v

/-! ### Quoted texts -/

/-- Numbers to the base sixteen are written with sixteen characters. -/
theorem exists_digitChar_of_mem_toDigits {n : Nat} {c : Char} (mem : c ∈ Nat.toDigits 16 n) :
    ∃ digit < 16, c = Nat.digitChar digit := by
  induction n using Nat.strongRecOn with
  | ind n ih =>
      by_cases small : n < 16
      · rw [Nat.toDigits_of_lt_base small, List.mem_singleton] at mem
        exact ⟨n, small, mem⟩
      · rw [Nat.toDigits_of_base_le (by decide) (by omega), List.mem_append] at mem
        rcases mem with mem | mem
        · exact ih (n / 16) (by omega) mem
        · exact ⟨n % 16, by omega, List.mem_singleton.mp mem⟩

/-- The characters that code points are escaped with. -/
def escapeChars : List Char :=
  ['\\', 'x', 'u', 'U', '0', '1', '2', '3', '4', '5', '6', '7', '8', '9', 'a', 'b', 'c', 'd', 'e',
    'f']

/-- Digits to the base sixteen are among the characters of escapes. -/
theorem mem_escapeChars_of_mem_hexadecimal {width n : Nat} {c : Char}
    (mem : c ∈ hexadecimal width n) : c ∈ escapeChars := by
  rcases List.mem_append.mp mem with mem | mem
  · rw [List.eq_of_mem_replicate mem]
    decide
  · obtain ⟨digit, small, rfl⟩ := exists_digitChar_of_mem_toDigits mem
    have all : (List.range 16).all (fun digit => escapeChars.contains (Nat.digitChar digit))
        = true := by
      decide
    simpa using List.all_eq_true.mp all digit (List.mem_range.mpr small)

/-- So is all of an escape. -/
theorem mem_escapeChars_of_mem_codePointEscape (c : Char) :
    ∀ d ∈ codePointEscape c, d ∈ escapeChars := by
  have digits (width : Nat) : ∀ d ∈ hexadecimal width c.toNat, d ∈ escapeChars :=
    fun _ => mem_escapeChars_of_mem_hexadecimal
  unfold codePointEscape
  -- A backslash, a letter and digits, in each of the three widths.
  split
  · exact List.forall_mem_cons.mpr ⟨by decide, List.forall_mem_cons.mpr ⟨by decide, digits 2⟩⟩
  · split
    · exact List.forall_mem_cons.mpr ⟨by decide, List.forall_mem_cons.mpr ⟨by decide, digits 4⟩⟩
    · exact List.forall_mem_cons.mpr ⟨by decide, List.forall_mem_cons.mpr ⟨by decide, digits 8⟩⟩

/-- An escape breaks no line. -/
theorem isLineBreak_of_mem_codePointEscape (c : Char) :
    ∀ d ∈ codePointEscape c, isLineBreak d = false := by
  have all : escapeChars.all (!isLineBreak ·) = true := by decide
  intro d mem
  simpa using List.all_eq_true.mp all d (mem_escapeChars_of_mem_codePointEscape c d mem)

/-- The line breaks are not printable. -/
theorem isLineBreak_of_isPrintable {c : Char} (printable : isPrintable c = true) :
    isLineBreak c = false :=
  isLineBreak_eq_false (by decide +kernel) printable

/-- What a character becomes between quotes breaks no line, whatever the character is. -/
theorem isLineBreak_of_mem_quotedChar {quote : Char} (quoteFits : isLineBreak quote = false)
    (c : Char) : ∀ d ∈ quotedChar quote c, isLineBreak d = false := by
  have escaped {letter : Char} (fits : isLineBreak letter = false) :
      ∀ d ∈ ['\\', letter], isLineBreak d = false :=
    List.forall_mem_cons.mpr ⟨by decide, List.forall_mem_singleton.mpr fits⟩
  -- Six ways to write a character: escaped itself, by three letters, as it is, or by its code
  -- point.
  unfold quotedChar
  split
  · next special =>
      refine escaped ?_
      rcases Bool.or_eq_true_iff.mp special with same | same
      · rw [of_decide_eq_true same]
        exact quoteFits
      · rw [of_decide_eq_true same]
        decide
  · split
    · exact escaped (by decide)
    · split
      · exact escaped (by decide)
      · split
        · exact escaped (by decide)
        · split
          · next printable =>
              exact List.forall_mem_singleton.mpr (isLineBreak_of_isPrintable printable)
          · exact isLineBreak_of_mem_codePointEscape c

/-- A text between quotes is one line, whatever it holds. -/
theorem isOneLine_quoted (text : String) : IsOneLine (quoted text) := by
  have quoteFits : isLineBreak (quoteFor text.toList) = false := by
    unfold quoteFor
    split <;> decide
  rw [quoted, isOneLine_ofList]
  refine List.forall_mem_append.mpr ⟨List.forall_mem_cons.mpr ⟨quoteFits, fun d mem => ?_⟩,
    List.forall_mem_singleton.mpr quoteFits⟩
  obtain ⟨c, -, inside⟩ := List.mem_flatMap.mp mem
  exact isLineBreak_of_mem_quotedChar quoteFits c d inside

end InfixCalc.Text
