import InfixCalc.Proofs.Evaluation.Preview
import InfixCalc.Proofs.Postfix.Unfinished
import InfixCalc.Proofs.Token.Cut

/-!
# `InfixCalc.Proofs.Evaluation.Unfinished`: previews while a sentence is typed

Whoever types a sentence sees a preview after each character. `preview_unfinished` says what the
preview is at each of these moments: if what has been typed is a sentence, the value of its tree,
and if it is none, nothing. So a preview never shows the value of anything else, although the line
is taken to be finished each time.

That is no matter of course. No stage asks whether a line is finished, and lines that are no
sentences can have values; but none of these is the front part of a sentence. In a front part all
neighbours fit (`CutOff.isChain`), and the conversion to postfix order reads all of it
(`CutOff.exists_run`), as it does for the whole sentence. What a front part lacks then shows in the
end, as an open group or as a missing value.
-/

set_option autoImplicit false

namespace InfixCalc

namespace CutOff

variable {cut tokens : List Token}

/-- Neighbours that fit still fit when the list is cut off. -/
theorem isChain (h : CutOff cut tokens) {x : Token} (chain : (x :: tokens).IsChain Token.Fits) :
    (x :: cut).IsChain Token.Fits := by
  induction h generalizing x with
  | stop => exact .singleton x
  | inside text whole tokens =>
      -- Whatever its text is, a numeral begins an operand.
      have fits : Token.Fits x (.number whole) := (List.isChain_cons_cons.mp chain).1
      exact .cons_cons fits (.singleton _)
  | token y _ ih =>
      rw [List.isChain_cons_cons] at chain ⊢
      exact ⟨chain.1, ih chain.2⟩

/-- What is read to its end is also read as far as the place where it is cut off. -/
theorem exists_run (h : CutOff cut tokens) {y later : Yard}
    (run : tokens.foldlM Yard.step y = .ok later) :
    ∃ mid, cut.foldlM Yard.step y = .ok mid := by
  induction h generalizing y with
  | stop => exact ⟨y, rfl⟩
  | inside text => exact ⟨y.send (.number text), rfl⟩
  -- The step that both have in common goes through, since it does so in the whole list.
  | token x _ ih =>
      rw [List.foldlM_cons] at run ⊢
      cases stepped : y.step x with
      | error e =>
          rw [stepped] at run
          cases run
      | ok next =>
          rw [stepped, except_ok_bind] at run
          rw [except_ok_bind]
          exact ih run

end CutOff

/-- A sentence is read without a fault. -/
theorem IsSentence.exists_run {tokens : List Token} (h : IsSentence tokens) :
    ∃ y, tokens.foldlM Yard.step Yard.empty = .ok y := by
  obtain ⟨e, sentence⟩ := h
  obtain ⟨y, run, -⟩ := (except_bind_eq_ok_iff _ _ _).mp (toPostfix_of_arranges sentence.arranges)
  exact ⟨y, run⟩

/-- In a sentence all neighbours fit, and an operand begins it. -/
theorem IsSentence.isChain {tokens : List Token} (h : IsSentence tokens) :
    (Token.leftParen :: tokens).IsChain Token.Fits :=
  (List.isChain_append.mp h.infixPlaced).1

/-- The line of a sentence has the outcome of its tree. -/
theorem evaluate_eq_of_derives {line : String} {tokens : List Token} {e : Expr}
    (scanned : tokenize line = .ok tokens) (sentence : Derives .sum tokens e) :
    evaluate line = e.evaluate := by
  rw [evaluate_of_arranges scanned sentence.arranges, evaluatePostfix_postorder]

section
variable {line : String} {typed tokens : List Token}

/-- What has been typed of a sentence has a value only if it is a sentence, and then the value of
its tree. -/
theorem evaluate_cutOff_eq_ok_iff (scanned : tokenize line = .ok typed)
    (cutOff : CutOff typed tokens) (sentence : IsSentence tokens) {v : Float} :
    evaluate line = .ok v ↔ ∃ e, Derives .sum typed e ∧ e.HasValue v := by
  constructor
  · intro value
    obtain ⟨typed', e, scanned', phrase, hasValue⟩ := evaluate_eq_ok_iff_arranges.mp value
    cases scanned'.symm.trans scanned
    obtain ⟨e', derived⟩ := phrase.isSentence_of_postorder
      (foreign_not_mem_of_tokenize scanned) (cutOff.isChain sentence.isChain)
    -- The tree of the sentence is arranged into the same list, so it is the one at hand.
    have same := (toPostfix_of_arranges phrase).symm.trans (toPostfix_of_arranges derived.arranges)
    cases Expr.postorder_injective (Except.ok.inj same)
    exact ⟨e, derived, hasValue⟩
  · rintro ⟨e, derived, hasValue⟩
    rw [evaluate_eq_of_derives scanned derived, Expr.evaluate_eq_ok_iff]
    exact hasValue

/-- A line that ends with an operator, or with a group open, has no tree. -/
theorem not_derives_of_unfinished
    (h : (∃ op, typed.getLast? = some (.operator op)) ∨
      typed.count .rightParen < typed.count .leftParen) {e : Expr} : ¬ Derives .sum typed e := by
  intro derived
  rcases h with ⟨op, last⟩ | opened
  · obtain ⟨front, rfl⟩ := List.getLast?_eq_some_iff.mp last
    have placed := IsSentence.infixPlaced ⟨e, derived⟩
    -- The closing parenthesis of the place would stand behind the operator.
    have parts : Token.leftParen :: (front ++ [.operator op]) ++ [Token.rightParen]
        = (Token.leftParen :: front) ++ .operator op :: .rightParen :: [] := by
      simp
    rw [InfixPlaced, parts, List.isChain_append_cons_cons] at placed
    cases placed.2.1
  · have closed := derived.arranges.count_eq
    omega

/-- What has been typed of a sentence is a sentence if nothing is missing. -/
theorem CutOff.exists_derives (cutOff : CutOff typed tokens) (sentence : IsSentence tokens)
    (nonempty : typed ≠ []) (noOperator : ¬ ∃ op, typed.getLast? = some (.operator op))
    (closed : ¬ typed.count .rightParen < typed.count .leftParen) : ∃ e, Derives .sum typed e := by
  obtain ⟨later, run⟩ := sentence.exists_run
  obtain ⟨mid, read⟩ := cutOff.exists_run run
  exact isSentence_of_run read (cutOff.isChain sentence.isChain) nonempty
    (fun op last => noOperator ⟨op, last⟩) closed

/-- What has been typed of a sentence has no preview exactly if something is missing or the tree is
at fault. -/
theorem preview_cutOff_eq_none_iff (scanned : tokenize line = .ok typed)
    (cutOff : CutOff typed tokens) (sentence : IsSentence tokens) :
    preview line = none ↔
      Text.allBlank line = true ∨ (∃ op, typed.getLast? = some (.operator op)) ∨
      typed.count .rightParen < typed.count .leftParen ∨
      ∃ e notice, Derives .sum typed e ∧ e.FirstFault notice := by
  have noValue (noTree : ∀ e, ¬ Derives .sum typed e) : preview line = none := by
    rw [Option.eq_none_iff_forall_ne_some]
    intro v shown
    rw [preview_eq_some_iff, evaluate_cutOff_eq_ok_iff scanned cutOff sentence] at shown
    obtain ⟨e, derived, -⟩ := shown
    exact noTree e derived
  constructor
  · intro none
    by_cases blank : Text.allBlank line = true
    · exact .inl blank
    by_cases operator : ∃ op, typed.getLast? = some (.operator op)
    · exact .inr (.inl operator)
    by_cases opened : typed.count .rightParen < typed.count .leftParen
    · exact .inr (.inr (.inl opened))
    -- Nothing is missing, so there is a tree, and the fault is in it.
    have nonempty : typed ≠ [] := fun empty => blank ((allBlank_iff_eq_nil scanned).mpr empty)
    obtain ⟨e, derived⟩ := cutOff.exists_derives sentence nonempty operator opened
    obtain ⟨fault, failed⟩ := preview_eq_none_iff.mp none
    rw [evaluate_eq_of_derives scanned derived] at failed
    exact .inr (.inr (.inr ⟨e, _, derived, Expr.evaluate_eq_error_iff.mp ⟨fault, failed, rfl⟩⟩))
  · rintro (blank | operator | opened | ⟨e, notice, derived, faulty⟩)
    · exact preview_eq_none_iff.mpr (exists_evaluate_eq_error_of_allBlank blank)
    · exact noValue fun e => not_derives_of_unfinished (.inl operator)
    · exact noValue fun e => not_derives_of_unfinished (.inr opened)
    · obtain ⟨fault, failed, -⟩ := Expr.evaluate_eq_error_iff.mpr faulty
      rw [preview_eq_none_iff, evaluate_eq_of_derives scanned derived]
      exact ⟨fault, failed⟩

end

/-- The previews of a sentence that is being typed. At each moment the preview fails for no other
reason than the line. What has been typed has tokens, and there is a preview exactly if these are a
sentence whose tree has a value, which is then the preview. There is none exactly if the line is
blank, ends with an operator or has a group open, or if its tree is at fault, for a division by zero
or for a numeral; and the one numeral that can be at fault is the point by itself. -/
theorem preview_unfinished {line rest : String} {tokens : List Token}
    (scanned : tokenize (line ++ rest) = .ok tokens) (sentence : IsSentence tokens) :
    previewPartially line = .ok (preview line) ∧
    ∃ typed, tokenize line = .ok typed ∧
      (∀ v, preview line = some v ↔ ∃ e, Derives .sum typed e ∧ e.HasValue v) ∧
      (preview line = none ↔
        Text.allBlank line = true ∨ (∃ op, typed.getLast? = some (.operator op)) ∨
        typed.count .rightParen < typed.count .leftParen ∨
        ∃ e notice, Derives .sum typed e ∧ e.FirstFault notice) ∧
      ∀ e, Derives .sum typed e →
        ∀ text ∈ e.numerals, Numeral.readDouble? text = none ↔ text = "." := by
  -- What is typed of a line has tokens, and they are those of the line, cut off.
  obtain ⟨typed, scannedTyped, cutOff⟩ := exists_tokenize_of_append scanned
  refine ⟨previewPartially_eq line, typed, scannedTyped, ?_,
    preview_cutOff_eq_none_iff scannedTyped cutOff sentence, ?_⟩
  · intro v
    rw [preview_eq_some_iff]
    exact evaluate_cutOff_eq_ok_iff scannedTyped cutOff sentence
  · intro e derived text mem
    have numeral : (Token.number text).IsTyped :=
      isTyped_of_mem_tokenize scannedTyped (derived.number_mem mem)
    exact Numeral.readDouble?_eq_none_iff numeral

/-- `12+3*(4-1)`, cut off in three places: in its first numeral and behind `12+3`, which leaves
sentences that have values of their own, and in its group, which leaves none. -/
theorem preview_unfinished_product :
    tokenize ("1" ++ "2+3*(4-1)") = .ok [.number "12", .operator .add, .number "3",
      .operator .multiply, .leftParen, .number "4", .operator .subtract, .number "1",
      .rightParen] ∧
    tokenize ("12+3" ++ "*(4-1)") = .ok [.number "12", .operator .add, .number "3",
      .operator .multiply, .leftParen, .number "4", .operator .subtract, .number "1",
      .rightParen] ∧
    tokenize ("12+3*(4" ++ "-1)") = .ok [.number "12", .operator .add, .number "3",
      .operator .multiply, .leftParen, .number "4", .operator .subtract, .number "1",
      .rightParen] ∧
    IsSentence [.number "12", .operator .add, .number "3", .operator .multiply, .leftParen,
      .number "4", .operator .subtract, .number "1", .rightParen] ∧
    preview "1" = some 1.0 ∧ preview "12+3" = some 15.0 ∧ preview "12+3*(4" = none := by
  have inNumeral : tokenize ("1" ++ "2+3*(4-1)") = .ok [.number "12", .operator .add,
      .number "3", .operator .multiply, .leftParen, .number "4", .operator .subtract,
      .number "1", .rightParen] := by
    with_unfolding_all rfl
  have behindSum : tokenize ("12+3" ++ "*(4-1)") = .ok [.number "12", .operator .add,
      .number "3", .operator .multiply, .leftParen, .number "4", .operator .subtract,
      .number "1", .rightParen] := by
    with_unfolding_all rfl
  have inGroup : tokenize ("12+3*(4" ++ "-1)") = .ok [.number "12", .operator .add,
      .number "3", .operator .multiply, .leftParen, .number "4", .operator .subtract,
      .number "1", .rightParen] := by
    with_unfolding_all rfl
  have group : Derives .factor [.leftParen, .number "4", .operator .subtract, .number "1",
      .rightParen] (.binary .subtract (.number "4") (.number "1")) :=
    .group (.sum (.inr rfl) (.term (.factor (.number "4"))) (.factor (.number "1")))
  have sentence : IsSentence [.number "12", .operator .add, .number "3", .operator .multiply,
      .leftParen, .number "4", .operator .subtract, .number "1", .rightParen] :=
    ⟨_, .sum (.inl rfl) (.term (.factor (.number "12")))
      (.product (.inl rfl) (.factor (.number "3")) group)⟩
  have one : tokenize "1" = .ok [.number "1"] := by
    with_unfolding_all rfl
  have shorter : tokenize "12+3" = .ok [.number "12", .operator .add, .number "3"] := by
    with_unfolding_all rfl
  have unclosed : tokenize "12+3*(4" = .ok [.number "12", .operator .add, .number "3",
      .operator .multiply, .leftParen, .number "4"] := by
    with_unfolding_all rfl
  have fifteen : Expr.HasValue (.binary .add (.number "12") (.number "3")) 15.0 := by
    have sum : (12.0 : Float) + 3.0 = 15.0 := by decide +kernel
    rw [← sum]
    exact .binary (.number (by decide +kernel)) (.number (by decide +kernel)) (.sum 12.0 3.0)
  refine ⟨inNumeral, behindSum, inGroup, sentence, ?_, ?_, ?_⟩
  · obtain ⟨-, typed, scanned, values, -⟩ := preview_unfinished inNumeral sentence
    cases scanned.symm.trans one
    exact (values _).mpr ⟨_, .term (.factor (.number "1")), .number (by decide +kernel)⟩
  · obtain ⟨-, typed, scanned, values, -⟩ := preview_unfinished behindSum sentence
    cases scanned.symm.trans shorter
    exact (values _).mpr
      ⟨_, .sum (.inl rfl) (.term (.factor (.number "12"))) (.factor (.number "3")), fifteen⟩
  · obtain ⟨-, typed, scanned, -, none, -⟩ := preview_unfinished inGroup sentence
    cases scanned.symm.trans unclosed
    exact none.mpr (.inr (.inr (.inl (by decide))))

end InfixCalc
