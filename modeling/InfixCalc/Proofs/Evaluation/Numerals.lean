import InfixCalc.Proofs.Evaluation.Messages
import InfixCalc.Proofs.Evaluation.Stages
import InfixCalc.Proofs.Numeral.Number

/-!
# `InfixCalc.Proofs.Evaluation.Numerals`: what becomes of the numerals of a line

The reader of numerals knows a language of its own, with signs, exponents, names and digits of every
script. A line lets through only digits and points of it, so a numeral of a line is read as the
double nearest to the number that its digits denote, or it is the point by itself and is refused.

No other fault can be taken for that refusal. The words that it begins with appear in no other
message (`refusal_not_in_message`): for most messages a single letter tells, and for a refused
character, which may be this letter, the number of times that another letter appears.
-/

set_option autoImplicit false

namespace InfixCalc

open Text

/-! ### The words of the refusal -/

/-- What the message of a numeral that is refused begins with. -/
def refusal : String :=
  "Cannot convert"

/-- The refusal of a numeral begins with a capital, so a message without this capital holds none. -/
theorem refusal_not_in_of_not_mem {message : String} (none : 'C' ∉ message.toList) :
    ¬ refusal.toList <:+: message.toList := by
  intro appears
  exact none (appears.subset (by decide))

/-- Numerals have no capitals. -/
theorem capital_not_mem_of_isNumeralChar {chars : List Char}
    (all : ∀ c ∈ chars, isNumeralChar c = true) : 'C' ∉ chars := by
  intro mem
  cases all 'C' mem

/-- Texts of whole numbers have no capitals. -/
theorem capital_not_mem_integerText (n : Int) : 'C' ∉ (integerText n).toList := by
  have digits : 'C' ∉ Nat.toDigits 10 n.natAbs := by
    intro mem
    cases Numeral.isAsciiDigit_of_mem_toDigits mem
  rw [integerText, String.toList_ofList]
  split
  · simpa using digits
  · exact digits

/-- Texts of doubles have no capitals, the ones that are not finite included. -/
theorem capital_not_mem_text (v : Float) : 'C' ∉ (Double.text v).toList := by
  have unsigned : 'C' ∉ Double.unsignedText v := by
    unfold Double.unsignedText
    split
    · obtain ⟨_, _, denotes, -⟩ :=
        Double.exists_denotes_magnitudeText Double.layout (Double.toDecimal v)
      intro mem
      -- Finite doubles are written with digits and four marks.
      rcases mem_of_denotes denotes 'C' mem with digit | mark
      · cases digit
      · exact absurd mark (by decide)
    · decide
  unfold Double.text
  split
  · decide
  · rw [String.toList_ofList]
    split
    · simpa using unsigned
    · exact unsigned

/-- Between quotes a character is itself or an escape, and no escape has this letter. -/
theorem count_quotedChar_le (quote c : Char) :
    (quotedChar quote c).count 'o' ≤ 1 := by
  have single (d : Char) : [d].count 'o' ≤ 1 := List.count_le_length
  unfold quotedChar
  split
  · next special =>
      show ('\\' :: [c]).count 'o' ≤ 1
      rw [List.count_cons_of_ne (by decide)]
      exact single c
  · split
    · decide
    · split
      · decide
      · split
        · decide
        · split
          · exact single c
          · -- A code point is escaped with hexadecimal digits, and they end before this letter.
            have none : 'o' ∉ codePointEscape c := by
              intro mem
              exact absurd (mem_escapeChars_of_mem_codePointEscape c 'o' mem) (by decide)
            rw [List.count_eq_zero.mpr none]
            decide

/-- A quoted character holds the letter `o` at most once, so it cannot spell the refusal, which
holds it twice. -/
theorem count_quoted_singleton_le (c : Char) :
    (quoted (String.singleton c)).toList.count 'o' ≤ 1 := by
  have quote : quoteFor [c] ≠ 'o' := by
    unfold quoteFor
    split <;> decide
  have inside := count_quotedChar_le (quoteFor [c]) c
  rw [quoted, String.toList_ofList, String.toList_singleton, quotedChars]
  simp only [List.flatMap_cons, List.flatMap_nil, List.append_nil, List.cons_append]
  rw [List.count_cons_of_ne quote, List.count_append, List.count_singleton]
  simpa [quote] using inside

/-- The report of a refused character is never taken for the refusal of a numeral, whichever
character it is. -/
theorem refusal_not_in_quoted (c : Char) :
    ¬ refusal.toList <:+: ("Invalid character " ++ quoted (String.singleton c)).toList := by
  intro appears
  have most := count_quoted_singleton_le c
  have front : "Invalid character ".toList.count 'o' = 0 := by decide
  have twice : refusal.toList.count 'o' = 2 := by decide
  have bound := appears.sublist.count_le 'o'
  rw [String.toList_append, List.count_append, front, twice] at bound
  omega

/-- A character that is in neither part of a text is not in the text. -/
theorem not_mem_append {c : Char} {front back : String} (none : c ∉ front.toList)
    (none' : c ∉ back.toList) : c ∉ (front ++ back).toList := by
  rw [String.toList_append, List.mem_append, not_or]
  exact ⟨none, none'⟩

/-- The words of the refusal appear in no message of another fault that a line can have. -/
theorem refusal_not_in_message {e : CalcError} (known : e.isInternal = false)
    (readable : ∀ text, e ≠ .unreadableNumeral text)
    (numeral : ∀ run, e = .manyPoints run → ∀ c ∈ run.toList, isNumeralChar c = true) :
    ¬ refusal.toList <:+: e.message.toList := by
  cases e with
  | foreignCharacter c => exact refusal_not_in_quoted c
  | unreadable rest => cases known
  | unknownLexeme parts => cases known
  -- What a message quotes has no capital letter, unlike the refusal: a numeral has none, and
  -- neither has any number.
  | manyPoints run =>
      have digits := capital_not_mem_of_isNumeralChar (numeral run rfl)
      exact refusal_not_in_of_not_mem (not_mem_append (by decide) digits)
  | unmatchedLeft => exact refusal_not_in_of_not_mem (by decide)
  | unmatchedRight => exact refusal_not_in_of_not_mem (by decide)
  | unparsable token => cases known
  | unrunnable token => cases known
  | unreadableNumeral text => exact absurd rfl (readable text)
  | tooFewElements needed =>
      have digits := capital_not_mem_integerText needed
      exact refusal_not_in_of_not_mem
        (not_mem_append (not_mem_append (by decide) digits) (by decide))
  | leftOver count =>
      have digits := capital_not_mem_integerText count
      exact refusal_not_in_of_not_mem (not_mem_append digits (by decide))
  | divisionByZero left right =>
      have operands : 'C' ∉ ("Division by zero: " ++ Double.text left ++ " / ").toList :=
        not_mem_append (not_mem_append (by decide) (capital_not_mem_text left)) (by decide)
      exact refusal_not_in_of_not_mem (not_mem_append operands (capital_not_mem_text right))

/-! ### The numerals behind faults -/

/-- What is refused for its points is a numeral, also when it comes out of an evaluation. -/
theorem isNumeralChar_of_evaluate {line run : String}
    (failed : evaluate line = .error (.manyPoints run)) :
    ∀ c ∈ run.toList, isNumeralChar c = true := by
  rcases evaluate_eq_error_cases failed with
    failed | ⟨tokens, scanned, failed⟩ | ⟨tokens, ordered, scanned, arranged, failed⟩
  · rcases tokenize_eq_error_iff.mp failed with
      ⟨-, c, -, -, -, -, same⟩ | ⟨-, before, chars, after, first, same⟩
    · cases same
    · cases same
      rw [String.toList_ofList]
      exact first.isRun.isNumeral
  · -- Later stages have faults of other classes.
    cases kind_of_toPostfix_eq_error (foreign_not_mem_of_tokenize scanned) failed
  · rcases kind_of_evaluatePostfix_eq_error failed with kind | kind <;> cases kind

/-- A numeral that the machine refuses is one of its list, and denotes no number. -/
theorem mem_of_evaluatePostfix {ordered : List Token} {text : String}
    (failed : evaluatePostfix ordered = .error (.unreadableNumeral text)) :
    .number text ∈ ordered ∧ Numeral.readDouble? text = none := by
  rcases evaluatePostfix_eq_error_cases failed with
    ⟨before, token, after, stack, ⟨error, rest⟩, rfl, -, fed, rfl⟩ | ⟨stack, -, -, same⟩
  · -- Of all the ways to be refused, one is about a numeral.
    cases Machine.feed_eq_error_iff.mp fed with
    | unreadable unreadable => exact ⟨by simp, unreadable⟩
  · cases same

/-- The only numeral that an evaluation refuses is the point. -/
theorem eq_point_of_evaluate {line text : String}
    (failed : evaluate line = .error (.unreadableNumeral text)) : text = "." := by
  rcases evaluate_eq_error_cases failed with
    failed | ⟨tokens, scanned, failed⟩ | ⟨tokens, ordered, scanned, arranged, failed⟩
  · rcases kind_of_tokenize_eq_error failed with kind | kind <;> cases kind
  · cases kind_of_toPostfix_eq_error (foreign_not_mem_of_tokenize scanned) failed
  · obtain ⟨mem, unreadable⟩ := mem_of_evaluatePostfix failed
    have typed := isTyped_of_number_mem_ordered scanned arranged mem
    exact (Numeral.readDouble?_eq_none_iff typed).mp unreadable

/-- Where the words of the refusal appear in the message of an evaluation, a point is refused. -/
theorem eq_point_of_appears {line : String} {e : CalcError}
    (failed : evaluate line = .error e) (appears : refusal.toList <:+: e.message.toList) :
    e = .unreadableNumeral "." := by
  by_contra other
  -- Two faults are told apart by what a line can make of them, and the others by their messages.
  refine refusal_not_in_message (isInternal_of_evaluate failed) ?_ ?_ appears
  · rintro text rfl
    exact other (by rw [eq_point_of_evaluate failed])
  · rintro run rfl
    exact isNumeralChar_of_evaluate failed

/-! ### The numerals of a line -/

/-- A numeral that can be typed is put on the machine's stack as the double nearest to its number,
and the point by itself is refused. -/
theorem feed_of_isTyped {text : String} (typed : Numeral.IsTyped text.toList) (stack : Stack) :
    ((∃ halt, Machine.feed stack (.number text) = .error halt) ↔ text = ".") ∧
    ∀ left, Machine.feed stack (.number text) = .ok left →
      ∃ v, left = v :: stack ∧ Double.IsReading v (Numeral.typedNumber text.toList) := by
  rw [← Numeral.readDouble?_eq_none_iff typed]
  refine ⟨⟨?_, ?_⟩, ?_⟩
  · rintro ⟨halt, failed⟩
    cases Machine.feed_eq_error_iff.mp failed with
    | unrunnable noNumber => cases noNumber
    | unreadable unreadable => exact unreadable
  · intro unreadable
    exact ⟨_, Machine.feed_eq_error_iff.mpr (.unreadable unreadable stack)⟩
  · intro left fed
    cases Machine.feed_eq_ok_iff.mp fed with
    | number denotes => exact ⟨_, rfl, Numeral.isReading_of_readDouble? typed denotes⟩

/-- Every numeral of a line has only ASCII digits and at most one point, and the machine, whatever
is on its stack, refuses it exactly if it is the point by itself. Otherwise it puts on the stack the
one double that the number of the digits should be read as: without a sign, and infinite only from
the number on where doubles end. The numerals that an evaluation comes to are those of the line, so
the words of the refusal appear in the message of an evaluation only if the point is refused. -/
theorem numerals_of_line (line : String) :
    (∀ tokens, tokenize line = .ok tokens →
      (∀ text, .number text ∈ tokens → Numeral.IsTyped text.toList ∧ ∀ stack,
        ((∃ halt, Machine.feed stack (.number text) = .error halt) ↔ text = ".") ∧
        ∀ left, Machine.feed stack (.number text) = .ok left →
          ∃ v, left = v :: stack ∧ Double.IsReading v (Numeral.typedNumber text.toList) ∧
            ∀ w, Double.IsReading w (Numeral.typedNumber text.toList) → w = v) ∧
      ∀ ordered, toPostfix tokens = .ok ordered →
        ∀ text, .number text ∈ ordered → .number text ∈ tokens) ∧
    ∀ e, evaluate line = .error e → refusal.toList <:+: e.message.toList →
      e.message = "Cannot convert ." := by
  refine ⟨fun tokens scanned => ⟨fun text mem => ?_, fun ordered arranged text mem => ?_⟩, ?_⟩
  · have typed : Numeral.IsTyped text.toList := isTyped_of_mem_tokenize scanned mem
    refine ⟨typed, fun stack => ?_⟩
    obtain ⟨refused, read⟩ := feed_of_isTyped typed stack
    refine ⟨refused, fun left fed => ?_⟩
    obtain ⟨v, same, reading⟩ := read left fed
    exact ⟨v, same, reading, fun w reading' => reading'.unique reading⟩
  · exact mem_of_number_mem_ordered arranged mem
  · intro e failed appears
    rw [eq_point_of_appears failed appears]
    rfl

/-- White space in a numeral is gone and its zeros do not matter: `1 2.50` is twelve and a half. The
point behind it is refused, and this is what is said of the line. -/
theorem numerals_of_line_spaced :
    tokenize "1 2.50 + ." = .ok [.number "12.50", .operator .add, .number "."] ∧
    Machine.feed [] (.number "12.50") = .ok [12.5] ∧ Double.IsReading 12.5 (25 / 2) ∧
    (∃ halt, Machine.feed [12.5] (.number ".") = .error halt) ∧
    ∃ e, evaluate "1 2.50 + ." = .error e ∧ e.message = "Cannot convert ." := by
  have scanned : tokenize "1 2.50 + ." = .ok [.number "12.50", .operator .add, .number "."] := by
    with_unfolding_all rfl
  have denotes : Numeral.readDouble? "12.50" = some 12.5 := by decide +kernel
  have number : Numeral.typedNumber "12.50".toList = 25 / 2 := by decide +kernel
  have fed : Machine.feed [] (.number "12.50") = .ok [12.5] :=
    Machine.feed_eq_ok_iff.mpr (.number denotes [])
  obtain ⟨numerals, messages⟩ := numerals_of_line "1 2.50 + ."
  obtain ⟨each, -⟩ := numerals _ scanned
  obtain ⟨-, first⟩ := each "12.50" (by simp)
  obtain ⟨-, last⟩ := each "." (by simp)
  obtain ⟨v, same, reading, -⟩ := (first []).2 _ fed
  cases same
  rw [number] at reading
  have unreadable : Numeral.readDouble? "." = none := by decide +kernel
  have stopped : Machine.feed [12.5] (.number ".") = .error ⟨.unreadableNumeral ".", [12.5]⟩ :=
    Machine.feed_eq_error_iff.mpr (.unreadable unreadable _)
  have run : [.number "12.50", .number ".", .operator .add].foldlM Machine.feed []
      = .error ⟨.unreadableNumeral ".", [12.5]⟩ := by
    rw [List.foldlM_cons, fed, except_ok_bind, List.foldlM_cons, stopped, except_error_bind]
  have arranged : toPostfix [.number "12.50", .operator .add, .number "."]
      = .ok [.number "12.50", .number ".", .operator .add] := rfl
  have failed : evaluate "1 2.50 + ." = .error (.unreadableNumeral ".") := by
    rw [evaluate_eq_bind, scanned, except_ok_bind, arranged, except_ok_bind]
    exact evaluatePostfix_of_error run
  exact ⟨scanned, fed, reading, (last [12.5]).1.mpr rfl, _, failed,
    messages _ failed ⟨[], [' ', '.'], rfl⟩⟩

end InfixCalc
