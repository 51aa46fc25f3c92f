import InfixCalc.Proofs.Evaluation.Joined
import InfixCalc.Proofs.Token.Stop

/-!
# `InfixCalc.Proofs.Evaluation.Grouped`: parentheses around what is whole

What stands in parentheses acts as a unit, whether or not it is a sentence: if the conversion
accepts it by itself, then the group adds exactly its postfix order to what has been sent out, and
nothing of what is held back leaves or is added (`run_grouped`). This holds in the middle of any
list, since nothing is assumed about the yard that the group is read in.

So the conversion sees nothing of a group but its postfix order (`toPostfix_grouped_congr`), and
parentheses around parentheses, or around all there is, are not seen at all.

Lines inherit this (`evaluate_grouped`). A line whose parentheses match can be put in parentheses,
and its outcome stays: the value, or the fault that it has. The fault may be found already where
the line is cut into tokens, and so the two new characters must neither go before it nor change it
(`tokenize_grouped_eq`): the numeral that is refused ends where the line did.
-/

set_option autoImplicit false

namespace InfixCalc

/-- The tokens in parentheses. -/
def grouped (tokens : List Token) : List Token :=
  .leftParen :: tokens ++ [.rightParen]

/-! ### Groups in the conversion -/

section
variable {tokens others ordered : List Token}

/-- A group sends out the postfix order of what it holds and leaves what is held back as it is. -/
theorem run_grouped (whole : toPostfix tokens = .ok ordered) (y : Yard) :
    (grouped tokens).foldlM Yard.step y = .ok ⟨ordered.reverse ++ y.sent, y.held⟩ := by
  have group : Arranges .factor (grouped tokens) ordered :=
    .group .nothing (toPostfix_eq_ok_iff.mp whole)
  exact group.reads.run_factor y

/-- Parentheses around a list leave its postfix order as it is. -/
theorem toPostfix_grouped (whole : toPostfix tokens = .ok ordered) :
    toPostfix (grouped tokens) = .ok ordered :=
  toPostfix_eq_ok_iff.mpr (.term (.factor (.group .nothing (toPostfix_eq_ok_iff.mp whole))))

/-- Two parts of a list that every yard reads in the same way are interchangeable. -/
theorem toPostfix_congr
    (same : ∀ y, tokens.foldlM Yard.step y = others.foldlM Yard.step y)
    (before after : List Token) :
    toPostfix (before ++ tokens ++ after) = toPostfix (before ++ others ++ after) := by
  simp only [toPostfix, List.foldlM_append, same]

/-- Groups of the same postfix order are interchangeable. -/
theorem toPostfix_grouped_congr (whole : toPostfix tokens = .ok ordered)
    (whole' : toPostfix others = .ok ordered) (before after : List Token) :
    toPostfix (before ++ grouped tokens ++ after)
      = toPostfix (before ++ grouped others ++ after) :=
  toPostfix_congr (fun y => by rw [run_grouped whole, run_grouped whole']) before after

end

/-! ### Tokens of a line in parentheses -/

/-- A run of digits and points stays one if what is added at the end begins with neither. -/
theorem IsRunIn.append {chars before run after rest : List Char}
    (isRun : IsRunIn chars before run after)
    (stop : ∀ c ∈ rest.head?, isNumeralChar c = false) :
    IsRunIn (chars ++ rest) before run (after ++ rest) := by
  refine ⟨by simp [isRun.whole], isRun.nonempty, isRun.isNumeral, isRun.begins, ?_⟩
  intro c head
  cases after with
  | nil => exact stop c head
  | cons d after => exact isRun.ends c head

/-- A scan that stops at a numeral stops there with more behind it. -/
theorem stopped_append {chars rest : List Char} {e : CalcError}
    (grammatical : IsGrammatical chars) (stop : ∀ c ∈ rest.head?, isNumeralChar c = false)
    (stopped : (scan chars).stopped = some e) : (scan (chars ++ rest)).stopped = some e := by
  obtain ⟨before, run, after, malformed, rfl⟩ := (stopped_eq_some_iff grammatical).mp stopped
  have finished := malformed.finished grammatical
  -- What stops the scan is a run of digits and points, and it ends before the rest begins.
  have isRun := malformed.isRun.append stop
  rw [isRun.whole, scan_append isRun.apart finished]
  exact stopped_malformed isRun.nonempty isRun.isNumeral isRun.ends malformed.many

/-- Parentheses around a line are around its tokens. If it has none, then for the same reason. -/
theorem tokenize_grouped_eq (line : String) :
    tokenize ("(" ++ line ++ ")") = (tokenize line).map grouped := by
  cases scanned : tokenize line with
  | ok tokens => exact tokenize_grouped scanned
  | error e =>
      show _ = Except.error e
      have shown : visible ("(" ++ line ++ ")") = '(' :: (visible line ++ [')']) := by
        rw [visible_append, visible_append]
        rfl
      -- Parentheses are allowed, so a foreign character is found where it was found without them.
      have sameForeign : (visible ("(" ++ line ++ ")")).find? (!isAllowed ·)
          = (visible line).find? (!isAllowed ·) := by
        have allowed : isAllowed '(' = true ∧ isAllowed ')' = true := by decide
        simp [shown, allowed]
      rw [tokenize_eq] at scanned
      rw [tokenize_eq, sameForeign]
      cases found : (visible line).find? (!isAllowed ·) with
      | some c =>
          rw [found] at scanned
          exact scanned
      | none =>
          rw [found] at scanned
          have grammatical : IsGrammatical (visible line) := isGrammatical_visible fun c mem => by
            rw [isForeign_iff]
            simpa using List.find?_eq_none.mp ((find?_toList line).trans found) c mem
          -- Neither parenthesis is part of a numeral, so the scan stops at the same one.
          have stopped : (scan (visible line ++ [')'])).stopped = some e :=
            stopped_append grammatical (by simp; decide) (Scan.all_eq_error_iff.mp scanned)
          refine Scan.all_eq_error_iff.mpr ?_
          rw [shown, scan_cons_of_ofChar? rfl]
          exact stopped

/-! ### Outcomes -/

/-- A line whose parentheses match has the same outcome in parentheses. -/
theorem evaluate_grouped {line : String}
    (matched : ∀ e, evaluate line = .error e → e.kind ≠ .mismatchedParens) :
    evaluate ("(" ++ line ++ ")") = evaluate line := by
  cases scanned : tokenize line with
  | error e =>
      rw [evaluate_eq_bind, evaluate_eq_bind, tokenize_grouped_eq, scanned]
      rfl
  | ok tokens =>
      cases whole : toPostfix tokens with
      | ok ordered =>
          rw [evaluate_of_arranges scanned (toPostfix_eq_ok_iff.mp whole),
            evaluate_of_arranges (tokenize_grouped scanned)
              (toPostfix_eq_ok_iff.mp (toPostfix_grouped whole))]
      | error e =>
          -- The tokens of a line are refused for their parentheses only.
          have failed : evaluate line = .error e := by
            rw [evaluate_eq_bind, scanned, except_ok_bind, whole, except_error_bind]
          have kind := kind_of_toPostfix_eq_error (foreign_not_mem_of_tokenize scanned) whole
          exact absurd kind (matched e failed)

/-- A group acts as a unit, whatever it holds. If the conversion accepts its tokens by themselves,
then behind any tokens that are read, the group adds exactly their postfix order to what has been
sent out, and what is held back is what was held back before. So a list in parentheses has the
postfix order of the list. Anywhere in a list, the parentheses of a group may be doubled, and it may
be exchanged for a group of the same postfix order: the outcome is the same, also where it is an
error. And a line that does not fail on its parentheses has the same outcome in parentheses. -/
theorem grouped_unit :
    (∀ (before tokens ordered : List Token) (y : Yard), toPostfix tokens = .ok ordered →
      before.foldlM Yard.step Yard.empty = .ok y →
      (before ++ grouped tokens).foldlM Yard.step Yard.empty
        = .ok ⟨ordered.reverse ++ y.sent, y.held⟩) ∧
    (∀ tokens ordered, toPostfix tokens = .ok ordered →
      toPostfix (grouped tokens) = .ok ordered) ∧
    (∀ before tokens ordered after, toPostfix tokens = .ok ordered →
      toPostfix (before ++ grouped (grouped tokens) ++ after)
        = toPostfix (before ++ grouped tokens ++ after)) ∧
    (∀ before tokens others ordered after, toPostfix tokens = .ok ordered →
      toPostfix others = .ok ordered →
      toPostfix (before ++ grouped tokens ++ after)
        = toPostfix (before ++ grouped others ++ after)) ∧
    ∀ line, (∀ e, evaluate line = .error e → e.kind ≠ .mismatchedParens) →
      evaluate ("(" ++ line ++ ")") = evaluate line := by
  refine ⟨fun before tokens ordered y whole read => ?_, fun _ _ => toPostfix_grouped,
    fun before tokens ordered after whole => ?_, fun before _ _ _ after whole whole' => ?_,
    fun line => evaluate_grouped⟩
  · rw [foldlM_append_of_ok read, run_grouped whole]
  · exact toPostfix_grouped_congr (toPostfix_grouped whole) whole before after
  · exact toPostfix_grouped_congr whole whole' before after

/-- The tokens `1 2 +` are no sentence. Behind `7 *` and in parentheses they leave the `*` held back
and are exchanged for `1 + 2`; and the line `(1)2+` has a value that it keeps in parentheses. -/
theorem grouped_unit_juxtaposed :
    ([.number "7", .operator .multiply] ++
        grouped [.number "1", .number "2", .operator .add] : List Token).foldlM
          Yard.step Yard.empty
      = .ok ⟨[.operator .add, .number "2", .number "1", .number "7"],
          [.operator .multiply]⟩ ∧
    toPostfix (grouped [.number "1", .number "2", .operator .add])
      = .ok [.number "1", .number "2", .operator .add] ∧
    toPostfix ([.number "7", .operator .multiply] ++
        grouped (grouped [.number "1", .number "2", .operator .add]) ++ [.rightParen])
      = .error .unmatchedRight ∧
    toPostfix ([.number "7", .operator .multiply] ++
        grouped [.number "1", .number "2", .operator .add] ++ [.number "5"])
      = toPostfix ([.number "7", .operator .multiply] ++
        grouped [.number "1", .operator .add, .number "2"] ++ [.number "5"]) ∧
    evaluate "((1)2+)" = .ok 3.0 := by
  obtain ⟨unit, whole, doubled, exchanged, line⟩ := grouped_unit
  have juxtaposed : toPostfix [.number "1", .number "2", .operator .add]
      = .ok [.number "1", .number "2", .operator .add] := rfl
  have value : evaluate "(1)2+" = .ok 3.0 := evaluate_juxtaposed.2.1
  -- The line has a value, so it has no fault at all.
  have matched : ∀ e, evaluate "(1)2+" = .error e → e.kind ≠ .mismatchedParens := by
    intro e failed
    cases value.symm.trans failed
  exact ⟨unit _ _ _ ⟨[.number "7"], [.operator .multiply]⟩ juxtaposed rfl, whole _ _ juxtaposed,
    doubled _ _ _ [.rightParen] juxtaposed, exchanged _ _ _ _ _ juxtaposed rfl,
    (line "(1)2+" matched).trans value⟩

end InfixCalc
