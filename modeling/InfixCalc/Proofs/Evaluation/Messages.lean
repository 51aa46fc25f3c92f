import InfixCalc.Proofs.Evaluation
import InfixCalc.Proofs.Postfix.Parentheses
import InfixCalc.Proofs.Text.Line
import InfixCalc.Proofs.Token.Stop

/-!
# `InfixCalc.Proofs.Evaluation.Messages`: the message of a fault is one line

A line may hold line breaks, and the message of its fault quotes from it. Still no line break gets
into a message (`isOneLine_message_of_evaluate`): a refused character is put between quotes, and
what is quoted without them is a numeral. For the machine this takes a look back. The numeral that
it cannot read comes from the tokens in postfix order, and these have the numbers of the line
(`Arranges.filter_isNumber`).

Foreign objects may be shown in any way, also on several lines. But a line has none, and in postfix
order there are only numbers and operators (`Arranges.all_isNumber_or_isOperator`).
-/

set_option autoImplicit false

namespace InfixCalc

open Text

/-- A line that has no tokens is told in one line. -/
theorem isOneLine_message_of_tokenize {line : String} {e : CalcError}
    (failed : tokenize line = .error e) : IsOneLine e.message := by
  rcases tokenize_eq_error_iff.mp failed with
    ⟨-, c, -, -, -, -, rfl⟩ | ⟨-, before, run, after, first, rfl⟩
  · show IsOneLine ("Invalid character " ++ quoted (String.singleton c))
    exact isOneLine_append.mpr ⟨by decide, isOneLine_quoted _⟩
  · show IsOneLine ("Invalid number " ++ String.ofList run)
    refine isOneLine_append.mpr ⟨by decide, isOneLine_ofList.mpr fun c mem => ?_⟩
    exact isLineBreak_of_isNumeralChar (first.isRun.isNumeral c mem)

/-- What the conversion fails for is told in one line, if there are no foreign objects. -/
theorem isOneLine_message_of_toPostfix {tokens : List Token} {e : CalcError}
    (noForeign : ∀ object, Token.foreign object ∉ tokens) (failed : toPostfix tokens = .error e) :
    IsOneLine e.message := by
  rcases toPostfix_eq_error_iff.mp failed with ⟨k, fault, -⟩ | ⟨-, rfl, -⟩
  · cases fault with
    | parenthesis => decide
    | foreign here => exact absurd (List.mem_of_getElem? here) (noForeign _)
  · decide

/-- What offends in postfix order is told in one line, if it is an operator or a number whose
numeral is one line. -/
theorem Offends.isOneLine_message {before : List Token} {x : Token} {notice : Notice}
    (offends : Offends before x notice) (known : (x.isNumber || x.isOperator) = true)
    (numeral : ∀ text, x = .number text → IsOneLine text) : IsOneLine notice.message := by
  cases offends with
  | unrunnable noNumber noOperator =>
      rw [noNumber, noOperator] at known
      cases known
  | @unreadable text => exact isOneLine_append.mpr ⟨by decide, numeral text rfl⟩
  | tooFew => decide
  | @division front left right l r =>
      show IsOneLine ("Division by zero: " ++ Double.text l ++ " / " ++ Double.text r)
      rw [isOneLine_append, isOneLine_append, isOneLine_append]
      exact ⟨⟨⟨by decide, isOneLine_text l⟩, by decide⟩, isOneLine_text r⟩

/-- What the machine fails for on numbers and operators is told in one line, if the numerals are one
line each. -/
theorem isOneLine_message_of_evaluatePostfix {ordered : List Token} {e : CalcError}
    (known : ordered.all (fun token => token.isNumber || token.isOperator) = true)
    (numerals : ∀ text, .number text ∈ ordered → IsOneLine text)
    (failed : evaluatePostfix ordered = .error e) : IsOneLine e.message := by
  show IsOneLine e.notice.message
  rcases evaluatePostfix_eq_error_iff.mp ⟨e, failed, rfl⟩ with
    ⟨before, x, after, whole, -, offends⟩ | ⟨-, -, notice⟩
  · have mem : x ∈ ordered := by simp [whole]
    exact offends.isOneLine_message (List.all_eq_true.mp known x mem)
      fun text number => numerals text (number ▸ mem)
  · rw [notice]
    exact isOneLine_append.mpr ⟨isOneLine_integerText _, by decide⟩

/-- A numeral in postfix order is one of the tokens. -/
theorem mem_of_number_mem_ordered {tokens ordered : List Token} {text : String}
    (arranged : toPostfix tokens = .ok ordered) (mem : .number text ∈ ordered) :
    .number text ∈ tokens := by
  have numbers := (toPostfix_eq_ok_iff.mp arranged).filter_isNumber
  have number : Token.number text ∈ ordered.filter Token.isNumber :=
    List.mem_filter.mpr ⟨mem, rfl⟩
  rw [numbers] at number
  exact List.mem_of_mem_filter number

/-- The numerals in postfix order are numerals of the line. -/
theorem isTyped_of_number_mem_ordered {line text : String} {tokens ordered : List Token}
    (scanned : tokenize line = .ok tokens) (arranged : toPostfix tokens = .ok ordered)
    (mem : .number text ∈ ordered) : Numeral.IsTyped text.toList :=
  isTyped_of_mem_tokenize scanned (mem_of_number_mem_ordered arranged mem)

/-- So they are one line each. -/
theorem isOneLine_of_mem_ordered {line text : String} {tokens ordered : List Token}
    (scanned : tokenize line = .ok tokens) (arranged : toPostfix tokens = .ok ordered)
    (mem : .number text ∈ ordered) : IsOneLine text := by
  have typed := isTyped_of_number_mem_ordered scanned arranged mem
  exact fun c inside => isLineBreak_of_isNumeralChar (typed.isNumeral c inside)

/-- The message of any fault of a line is one line. -/
theorem isOneLine_message_of_evaluate {line : String} {e : CalcError}
    (failed : evaluate line = .error e) : IsOneLine e.message := by
  rcases evaluate_eq_error_cases failed with
    failed | ⟨tokens, scanned, failed⟩ | ⟨tokens, ordered, scanned, arranged, failed⟩
  · exact isOneLine_message_of_tokenize failed
  · exact isOneLine_message_of_toPostfix (foreign_not_mem_of_tokenize scanned) failed
  · exact isOneLine_message_of_evaluatePostfix
      (toPostfix_eq_ok_iff.mp arranged).all_isNumber_or_isOperator
      (fun _ => isOneLine_of_mem_ordered scanned arranged) failed

end InfixCalc
