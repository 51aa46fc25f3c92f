import InfixCalc.Proofs.Evaluation.Partial

/-!
# `InfixCalc.Proofs.Evaluation.Preview`: a preview is an evaluation without a reason

A preview gives the value of a line, or nothing where the line has none. It looks at the line once
before that: a blank line is not tried. Blank means more than white space there, since four
separators are blank as well, and a scan refuses these. The two notions do not matter to the
outcome, because a line of white space has no value either: `preview_eq` says that a preview is
what evaluation gives, the fault being dropped.

`previewPartially_eq` says the same of a preview that is spelled out of operations that can fail for
other reasons than the line. So the faults of the line are the only ones that a preview has to deal
with.
-/

set_option autoImplicit false

namespace InfixCalc

open Text

/-! ### Blank lines -/

/-- Numerals are not blank. -/
theorem isBlank_of_isNumeralChar {c : Char} (isNumeral : isNumeralChar c = true) :
    isBlank c = false := by
  have all : numeralChars.all (fun c => !isBlank c) = true := by decide
  simpa using of_all_numeralChars all isNumeral

/-- Operators and parentheses are not blank. -/
theorem isBlank_of_ofChar? {c : Char} {token : Token} (made : Token.ofChar? c = some token) :
    isBlank c = false := by
  unfold Token.ofChar? at made
  split at made <;> cases made <;> decide

/-- Among the characters that a line may have, only white space is blank. -/
theorem isSpace_of_isBlank {c : Char} (blank : isBlank c = true) (allowed : isAllowed c = true) :
    isSpace c = true := by
  rw [isAllowed, Bool.or_eq_true, Bool.or_eq_true] at allowed
  rcases allowed with (isNumeral | made) | space
  · rw [isBlank_of_isNumeralChar isNumeral] at blank
    cases blank
  · obtain ⟨token, made⟩ := Option.isSome_iff_exists.mp made
    rw [isBlank_of_ofChar? made] at blank
    cases blank
  · exact space

/-- In a line that has tokens every character is allowed. -/
theorem isAllowed_of_tokenize {line : String} {tokens : List Token}
    (scanned : tokenize line = .ok tokens) {c : Char} (mem : c ∈ line.toList) :
    isAllowed c = true := by
  unfold tokenize at scanned
  split at scanned
  · cases scanned
  · next none => simpa using List.find?_eq_none.mp none c mem

/-- A line that is cut into tokens has none of them exactly if it is blank. -/
theorem allBlank_iff_eq_nil {line : String} {tokens : List Token}
    (scanned : tokenize line = .ok tokens) : allBlank line = true ↔ tokens = [] := by
  have spells := (tokenize_eq_ok_iff.mp scanned).2
  rw [allBlank, List.all_eq_true]
  constructor
  · intro blank
    have none : visible line = [] := by
      rw [visible, List.filter_eq_nil_iff]
      intro c mem
      simp [isSpace_of_isBlank (blank c mem) (isAllowed_of_tokenize scanned mem)]
    -- Spelled without a character, the tokens are those of an empty scan.
    have again := scan_of_tokenize scanned
    rw [← visible, none] at again
    simpa [scan] using (congrArg Scan.tokens again).symm
  · rintro rfl c mem
    have space : isSpace c = true := by
      by_contra other
      have shown : c ∈ visible line := List.mem_filter.mpr ⟨mem, by simp [other]⟩
      rw [← spells] at shown
      simp [Token.spelled] at shown
    exact isBlank_of_isSpace space

/-- Without tokens there is no value. -/
theorem evaluate_of_tokenize_eq_nil {line : String} (scanned : tokenize line = .ok []) :
    evaluate line = .error (.leftOver 0) := by
  rw [evaluate_eq_bind, scanned]
  rfl

/-- A blank line has no value. -/
theorem exists_evaluate_eq_error_of_allBlank {line : String} (blank : allBlank line = true) :
    ∃ fault, evaluate line = .error fault := by
  cases scanned : tokenize line with
  | error e =>
      refine ⟨e, ?_⟩
      rw [evaluate_eq_bind, scanned, except_error_bind]
  | ok tokens =>
      obtain rfl := (allBlank_iff_eq_nil scanned).mp blank
      exact ⟨_, evaluate_of_tokenize_eq_nil scanned⟩

/-! ### Previews -/

/-- A preview gives what evaluation gives, without the fault. -/
theorem preview_eq (line : String) : preview line = (evaluate line).toOption := by
  unfold preview previewTrace
  split
  · next blank =>
      obtain ⟨fault, failed⟩ := exists_evaluate_eq_error_of_allBlank blank
      rw [failed]
      rfl
  · unfold evaluate
    rcases trace line with ⟨log, outcome⟩
    cases outcome <;> rfl

/-- The preview of a line is its value. -/
theorem preview_eq_some_iff {line : String} {v : Float} :
    preview line = some v ↔ evaluate line = .ok v := by
  rw [preview_eq]
  cases evaluate line <;> simp [Except.toOption]

/-- There is no preview exactly if the line has a fault. -/
theorem preview_eq_none_iff {line : String} :
    preview line = none ↔ ∃ fault, evaluate line = .error fault := by
  rw [preview_eq]
  cases evaluate line <;> simp [Except.toOption]

/-- The preview of a line, out of operations that can fail. Only a fault of the line means that
there is no preview, and any other failure is passed on. -/
def previewPartially (line : String) : Except Failure (Option Float) :=
  if allBlank line then .ok none
  else
    match evaluatePartially line with
    | .ok v => .ok (some v)
    | .error (.user _) => .ok none
    | .error failure => .error failure

/-- No failure is passed on. -/
theorem previewPartially_eq (line : String) : previewPartially line = .ok (preview line) := by
  unfold previewPartially
  split
  · next blank =>
      rw [preview_eq_none_iff.mpr (exists_evaluate_eq_error_of_allBlank blank)]
  · rw [evaluatePartially_eq, preview_eq]
    cases evaluate line <;> rfl

end InfixCalc
