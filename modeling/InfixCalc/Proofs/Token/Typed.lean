import InfixCalc.Proofs.Numeral

/-!
# `InfixCalc.Proofs.Token.Typed`: the tokens of a typed line

Token lists may hold anything, but a typed line gives only some of the tokens: operators,
parentheses and numbers whose texts are typed numerals (`Token.IsTyped`). Foreign objects never come
out of a line, so the stages behind the tokens have no reason to refuse one.

If a line has no tokens, a character or a numeral is at fault, never its structure
(`kind_of_tokenize_eq_error`).
-/

set_option autoImplicit false

namespace InfixCalc

open Text

/-- The token can come from a typed line. -/
def Token.IsTyped : Token → Prop
  | .number text => Numeral.IsTyped text.toList
  | .foreign _ => False
  | _ => True

/-- The token of a numeral is a number with the same text, which has one point at most. -/
theorem Token.ofNumeral_eq_ok_iff {numeral : String} {token : Token} :
    ofNumeral numeral = .ok token ↔
      numeral.toList.count '.' ≤ 1 ∧ token = .number numeral := by
  unfold ofNumeral
  split
  · next many =>
      simp
      omega
  · next few => simp [Nat.not_lt.mp few, eq_comm]

/-- A numeral is refused if it has two points or more. -/
theorem Token.ofNumeral_eq_error_iff {numeral : String} {e : CalcError} :
    ofNumeral numeral = .error e ↔
      1 < numeral.toList.count '.' ∧ e = .manyPoints numeral := by
  unfold ofNumeral
  split
  · next many => simp [many, eq_comm]
  · next few => simp [few]

/-- A token that one character makes can be typed. -/
theorem Token.isTyped_of_ofChar? {c : Char} {token : Token} (h : ofChar? c = some token) :
    token.IsTyped := by
  unfold ofChar? at h
  split at h <;> cases h <;> trivial

/-- Every token of a scan can come from a typed line. -/
theorem isTyped_of_mem_scan {chars : List Char} {token : Token}
    (mem : token ∈ (scan chars).tokens) : token.IsTyped := by
  fun_induction scan chars with
  | case1 => cases mem
  | case2 c rest isNumeral token' made ih =>
      rcases List.mem_cons.mp mem with rfl | mem
      · -- The text is the longest front part of digits and points.
        obtain ⟨onePoint, rfl⟩ := Token.ofNumeral_eq_ok_iff.mp made
        rw [String.toList_ofList] at onePoint
        show Numeral.IsTyped (String.ofList (c :: rest.takeWhile isNumeralChar)).toList
        rw [String.toList_ofList]
        refine ⟨List.cons_ne_nil _ _, fun d mem => ?_, onePoint⟩
        rcases List.mem_cons.mp mem with rfl | mem
        · exact isNumeral
        · exact List.mem_takeWhile_imp mem
      · exact ih mem
  | case3 => cases mem
  | case4 c rest _ token' made ih =>
      rcases List.mem_cons.mp mem with rfl | mem
      · exact Token.isTyped_of_ofChar? made
      · exact ih mem
  | case5 => cases mem

/-- A scan stops at a malformed numeral or at a character that begins no token. -/
theorem kind_of_stopped {chars : List Char} {e : CalcError} (h : (scan chars).stopped = some e) :
    e.kind = .invalidNumber ∨ e.kind = .invalidCharacter := by
  fun_induction scan chars with
  | case1 => cases h
  | case2 _ _ _ _ _ ih => exact ih h
  | case3 c rest _ e' failed =>
      cases h
      obtain ⟨-, rfl⟩ := Token.ofNumeral_eq_error_iff.mp failed
      exact .inl rfl
  | case4 _ _ _ _ _ ih => exact ih h
  | case5 =>
      cases h
      exact .inr rfl

/-- All that was scanned is given if nothing stopped the scan. -/
theorem Scan.all_eq_ok_iff {s : Scan} {tokens : List Token} :
    s.all = .ok tokens ↔ s = ⟨tokens, none⟩ := by
  cases s with
  | mk read stopped => cases stopped <;> simp [all]

/-- Otherwise what stopped it is the fault. -/
theorem Scan.all_eq_error_iff {s : Scan} {e : CalcError} :
    s.all = .error e ↔ s.stopped = some e := by
  cases s with
  | mk read stopped => cases stopped <;> simp [all]

/-- The tokens of a line are those of a scan that does not stop. -/
theorem scan_of_tokenize {line : String} {tokens : List Token} (h : tokenize line = .ok tokens) :
    scan (line.toList.filter (!isSpace ·)) = ⟨tokens, none⟩ := by
  unfold tokenize at h
  split at h
  · cases h
  · exact Scan.all_eq_ok_iff.mp h

/-- The tokens of a line can be typed. -/
theorem isTyped_of_mem_tokenize {line : String} {tokens : List Token} {token : Token}
    (h : tokenize line = .ok tokens) (mem : token ∈ tokens) : token.IsTyped := by
  have scanned : token ∈ (scan (line.toList.filter (!isSpace ·))).tokens := by
    rw [scan_of_tokenize h]
    exact mem
  exact isTyped_of_mem_scan scanned

/-- No line has a foreign object among its tokens. -/
theorem foreign_not_mem_of_tokenize {line : String} {tokens : List Token}
    (h : tokenize line = .ok tokens) (object : Foreign) : Token.foreign object ∉ tokens :=
  fun mem => isTyped_of_mem_tokenize h mem

/-- A line without tokens has a character or a numeral at fault. -/
theorem kind_of_tokenize_eq_error {line : String} {e : CalcError} (h : tokenize line = .error e) :
    e.kind = .invalidNumber ∨ e.kind = .invalidCharacter := by
  unfold tokenize at h
  split at h
  · cases h
    exact .inr rfl
  · exact kind_of_stopped (Scan.all_eq_error_iff.mp h)

end InfixCalc
