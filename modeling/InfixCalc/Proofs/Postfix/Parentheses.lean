import InfixCalc.Proofs.Postfix.Unfinished
import Mathlib.Order.Bounds.Basic
import Mathlib.Order.Nat

/-!
# `InfixCalc.Proofs.Postfix.Parentheses`: what the conversion to postfix order refuses

The conversion keeps no count of parentheses. It fails where a closing parenthesis finds none to
take away among the operators that are held back, at the end if one is still among them, and at a
foreign object. This module says the same by counting:

* `Yard.step_eq_error_iff`: what a single step refuses.
* `Yard.foldlM_eq_ok_iff` and `Yard.foldlM_eq_error_iff`: reading the list succeeds exactly if no
  place is at fault (`FaultAt`), and otherwise it fails at the first such place.
* `toPostfix_outcome`: how every list ends. Nothing about it depends on where the numbers and the
  operators stand.

What ties the two together is that the parentheses held back are those opened and not yet closed
(`Yard.count_leftParen_held`).
-/

set_option autoImplicit false

namespace InfixCalc

/-- The closing parenthesis at the place closes nothing: up to this place more are closed than
opened. -/
def ClosesNothing (tokens : List Token) (i : Nat) : Prop :=
  tokens[i]? = some .rightParen ∧
    (tokens.take (i + 1)).count .leftParen < (tokens.take (i + 1)).count .rightParen

/-- An object that is no token stands at the place. -/
def HoldsForeign (tokens : List Token) (j : Nat) : Prop :=
  ∃ object, tokens[j]? = some (.foreign object)

/-- What is at fault at a place, as the fault that it makes. -/
inductive FaultAt (tokens : List Token) (k : Nat) : CalcError → Prop where
  | parenthesis (closes : ClosesNothing tokens k) : FaultAt tokens k .unmatchedRight
  | foreign {object : Foreign} (here : tokens[k]? = some (.foreign object)) :
    FaultAt tokens k (.unparsable (.foreign object))

/-- A place is at fault for one reason only. -/
theorem FaultAt.unique {tokens : List Token} {k : Nat} {e e' : CalcError}
    (fault : FaultAt tokens k e) (fault' : FaultAt tokens k e') : e = e' := by
  cases fault with
  | parenthesis closes =>
      cases fault' with
      | parenthesis => rfl
      | foreign here => cases closes.1.symm.trans here
  | foreign here =>
      cases fault' with
      | parenthesis closes => cases closes.1.symm.trans here
      | foreign here' =>
          cases here.symm.trans here'
          rfl

/-- What is at fault at a place does not depend on what follows. -/
theorem FaultAt.of_append {front rest : List Token} {k : Nat} {e : CalcError}
    (fault : FaultAt (front ++ rest) k e) (lt : k < front.length) : FaultAt front k e := by
  cases fault with
  | parenthesis closes =>
      obtain ⟨here, more⟩ := closes
      rw [List.getElem?_append_left lt] at here
      rw [List.take_append_of_le_length lt] at more
      exact .parenthesis ⟨here, more⟩
  | foreign here => exact .foreign (List.getElem?_append_left lt ▸ here)

namespace Yard

/-! ### One step -/

/-- A closing parenthesis is refused if none is open. -/
theorem close_of_count_eq_zero (sent : List Token) {held : List Held}
    (none : held.count .leftParen = 0) : close sent held = .error .unmatchedRight := by
  fun_induction close sent held with
  | case1 sent top rest ih => exact ih (by simpa using none)
  | case2 => simp at none
  | case3 => rfl

/-- A closing parenthesis is not refused if one is open. -/
theorem exists_close_eq_ok (sent : List Token) {held : List Held}
    (opened : 0 < held.count .leftParen) : ∃ y, close sent held = .ok y := by
  fun_induction close sent held with
  | case1 sent top rest ih => exact ih (by simpa using opened)
  | case2 => exact ⟨_, rfl⟩
  | case3 => simp at opened

/-- The end is refused if a parenthesis is open. -/
theorem flush_of_count_pos (sent : List Token) {held : List Held}
    (opened : 0 < held.count .leftParen) : flush sent held = .error .unmatchedLeft := by
  fun_induction flush sent held with
  | case1 sent top rest ih => exact ih (by simpa using opened)
  | case2 => rfl
  | case3 => simp at opened

/-- A step refuses a closing parenthesis if none is open, and every foreign object. -/
theorem step_eq_error_iff {y : Yard} {x : Token} {e : CalcError} :
    y.step x = .error e ↔
      (x = .rightParen ∧ y.held.count .leftParen = 0 ∧ e = .unmatchedRight) ∨
      ∃ object, x = .foreign object ∧ e = .unparsable (.foreign object) := by
  cases x with
  | number text => simp [step]
  | operator op => simp [step]
  | leftParen => simp [step]
  | foreign object => simp [step, eq_comm]
  | rightParen =>
      rcases Nat.eq_zero_or_pos (y.held.count .leftParen) with none | opened
      · simp [step, close_of_count_eq_zero y.sent none, none, eq_comm]
      · obtain ⟨later, closed⟩ := exists_close_eq_ok y.sent opened
        simp [step, closed, Nat.ne_of_gt opened]

/-! ### A run of steps -/

/-- What has been read has no place at fault. -/
theorem not_faultAt_of_run {read : List Token} {y : Yard} (run : read.foldlM step empty = .ok y)
    (k : Nat) (e : CalcError) : ¬ FaultAt read k e := by
  intro fault
  cases fault with
  | parenthesis closes =>
      -- The parentheses held back behind the place would be fewer than none.
      obtain ⟨-, more⟩ := closes
      rw [← List.take_append_drop (k + 1) read, List.foldlM_append, except_bind_eq_ok_iff] at run
      obtain ⟨mid, front, -⟩ := run
      have counts := count_leftParen_held front
      omega
  | foreign here =>
      obtain ⟨lt, same⟩ := List.getElem?_eq_some_iff.mp here
      rw [← List.take_append_drop k read, List.drop_eq_getElem_cons lt, same, List.foldlM_append,
        except_bind_eq_ok_iff] at run
      obtain ⟨mid, -, back⟩ := run
      cases back

/-- Reading fails at a place at fault that has none before it. -/
theorem exists_faultAt_of_run_eq_error {tokens : List Token} {e : CalcError}
    (failed : tokens.foldlM step empty = .error e) :
    ∃ k, FaultAt tokens k e ∧ ∀ i < k, ∀ e', ¬ FaultAt tokens i e' := by
  obtain ⟨before, x, after, mid, rfl, front, refused⟩ := InfixCalc.foldlM_eq_error_iff.mp failed
  refine ⟨before.length, ?_, fun i lt e' fault =>
    not_faultAt_of_run front i e' (fault.of_append lt)⟩
  rcases step_eq_error_iff.mp refused with ⟨rfl, none, rfl⟩ | ⟨text, rfl, rfl⟩
  · -- Held back and read agree in their counts, so with none held back this one closes nothing.
    have counts := count_leftParen_held front
    have read : (before ++ Token.rightParen :: after).take (before.length + 1)
        = before ++ [.rightParen] := by
      rw [List.take_length_add_append]
      rfl
    refine .parenthesis ⟨by simp, ?_⟩
    rw [read, List.count_append, List.count_append]
    simp
    omega
  · exact .foreign (by simp)

/-- Reading succeeds exactly if no place is at fault. -/
theorem foldlM_eq_ok_iff {tokens : List Token} :
    (∃ y, tokens.foldlM step empty = .ok y) ↔ ∀ k e, ¬ FaultAt tokens k e := by
  constructor
  · rintro ⟨y, run⟩
    exact not_faultAt_of_run run
  · intro faultless
    cases run : tokens.foldlM step empty with
    | ok y => exact ⟨y, rfl⟩
    | error e =>
        obtain ⟨k, fault, -⟩ := exists_faultAt_of_run_eq_error run
        exact absurd fault (faultless k e)

/-- Otherwise it fails for what is at fault at the first such place. -/
theorem foldlM_eq_error_iff {tokens : List Token} {e : CalcError} :
    tokens.foldlM step empty = .error e ↔
      ∃ k, FaultAt tokens k e ∧ ∀ i < k, ∀ e', ¬ FaultAt tokens i e' := by
  refine ⟨exists_faultAt_of_run_eq_error, ?_⟩
  rintro ⟨k, fault, first⟩
  cases run : tokens.foldlM step empty with
  | ok y => exact absurd fault (not_faultAt_of_run run k e)
  | error e' =>
      obtain ⟨k', fault', first'⟩ := exists_faultAt_of_run_eq_error run
      -- Both places are the first one at fault.
      obtain rfl : k = k' := by
        rcases Nat.lt_trichotomy k k' with lt | same | lt
        · exact absurd fault (first' k lt e)
        · exact same
        · exact absurd fault' (first k' lt e')
      rw [fault.unique fault']

end Yard

/-! ### The whole conversion -/

/-- The conversion fails where reading does, or at the end if more parentheses have been opened than
closed. -/
theorem toPostfix_eq_error_iff {tokens : List Token} {e : CalcError} :
    toPostfix tokens = .error e ↔
      (∃ k, FaultAt tokens k e ∧ ∀ i < k, ∀ e', ¬ FaultAt tokens i e') ∨
      ((∀ k e', ¬ FaultAt tokens k e') ∧ e = .unmatchedLeft ∧
        tokens.count .rightParen < tokens.count .leftParen) := by
  rw [← Yard.foldlM_eq_error_iff, ← Yard.foldlM_eq_ok_iff]
  unfold toPostfix
  cases run : tokens.foldlM Yard.step Yard.empty with
  | error fault => simp
  | ok y =>
      -- What is held back at the end is what has been opened and not closed.
      have counts := Yard.count_leftParen_held run
      rw [except_ok_bind]
      rcases Nat.eq_zero_or_pos (y.held.count .leftParen) with none | opened
      · obtain ⟨ordered, flushed⟩ := Yard.exists_flush_eq_ok y.sent none
        simp [flushed]
        omega
      · have more : tokens.count .rightParen < tokens.count .leftParen := by omega
        simp [Yard.flush_of_count_pos y.sent opened, more, eq_comm]

/-- The conversion succeeds exactly if no place is at fault and every parenthesis is closed. -/
theorem exists_toPostfix_eq_ok_iff {tokens : List Token} :
    (∃ ordered, toPostfix tokens = .ok ordered) ↔
      (∀ k e, ¬ FaultAt tokens k e) ∧ tokens.count .leftParen = tokens.count .rightParen := by
  rw [← Yard.foldlM_eq_ok_iff]
  unfold toPostfix
  cases run : tokens.foldlM Yard.step Yard.empty with
  | error fault => simp
  | ok y =>
      have counts := Yard.count_leftParen_held run
      rw [except_ok_bind]
      rcases Nat.eq_zero_or_pos (y.held.count .leftParen) with none | opened
      · obtain ⟨ordered, flushed⟩ := Yard.exists_flush_eq_ok y.sent none
        simp [flushed]
        omega
      · simp [Yard.flush_of_count_pos y.sent opened]
        omega

/-- The first place of one kind comes before the first one of another kind exactly if no place of
either kind comes before it. -/
theorem isLeast_and_lt_iff {p q : Nat → Prop} {k : Nat} (apart : p k → ¬ q k) :
    (IsLeast {i | p i} k ∧ ∀ j, IsLeast {j | q j} j → k < j) ↔ p k ∧ ∀ i < k, ¬ p i ∧ ¬ q i := by
  classical
  constructor
  · rintro ⟨⟨here, least⟩, before⟩
    refine ⟨here, fun i lt => ⟨fun earlier => absurd (least earlier) (by omega), fun other => ?_⟩⟩
    -- If the other kind occurs earlier, it has a first place, and this is not behind.
    have first := Nat.isLeast_find ⟨i, other⟩
    have behind := before _ first
    have upTo := first.2 other
    omega
  · rintro ⟨here, none⟩
    refine ⟨⟨here, fun i later => ?_⟩, fun j first => ?_⟩
    · by_contra earlier
      exact (none i (by omega)).1 later
    · rcases Nat.lt_trichotomy k j with lt | rfl | lt
      · exact lt
      · exact absurd first.1 (apart here)
      · exact absurd first.1 (none j lt).2

/-- At one place there is one token, so it is not at fault in both ways. -/
theorem ClosesNothing.not_holdsForeign {tokens : List Token} {k : Nat}
    (closes : ClosesNothing tokens k) : ¬ HoldsForeign tokens k := by
  rintro ⟨text, here⟩
  cases closes.1.symm.trans here

/-- A place is not at fault if no parenthesis closes nothing there and no foreign object stands
there. -/
theorem not_faultAt_iff {tokens : List Token} {k : Nat} :
    (∀ e, ¬ FaultAt tokens k e) ↔ ¬ ClosesNothing tokens k ∧ ¬ HoldsForeign tokens k := by
  constructor
  · intro none
    exact ⟨fun closes => none _ (.parenthesis closes), fun ⟨_, here⟩ => none _ (.foreign here)⟩
  · rintro ⟨noParenthesis, noForeign⟩ e fault
    cases fault with
    | parenthesis closes => exact noParenthesis closes
    | foreign here => exact noForeign ⟨_, here⟩

/-- A list without a place at fault. -/
theorem forall_not_faultAt_iff {tokens : List Token} :
    (∀ k e, ¬ FaultAt tokens k e) ↔
      (∀ i, ¬ ClosesNothing tokens i) ∧ ∀ j, ¬ HoldsForeign tokens j := by
  rw [← forall_and]
  exact forall_congr' fun k => not_faultAt_iff

/-- A closing parenthesis is what the conversion fails for exactly if one closes nothing at a place
that has no place at fault before it. -/
theorem toPostfix_eq_unmatchedRight_iff {tokens : List Token} :
    toPostfix tokens = .error .unmatchedRight ↔
      ∃ i, ClosesNothing tokens i ∧
        ∀ k < i, ¬ ClosesNothing tokens k ∧ ¬ HoldsForeign tokens k := by
  rw [toPostfix_eq_error_iff]
  constructor
  · rintro (⟨k, fault, first⟩ | ⟨-, other, -⟩)
    · cases fault with
      | parenthesis closes => exact ⟨k, closes, fun i lt => not_faultAt_iff.mp (first i lt)⟩
    · cases other
  · rintro ⟨i, closes, first⟩
    exact .inl ⟨i, .parenthesis closes, fun k lt => not_faultAt_iff.mpr (first k lt)⟩

/-- A foreign object is what the conversion fails for exactly if it stands at a place that has no
place at fault before it. -/
theorem toPostfix_eq_unparsable_iff {tokens : List Token} {object : Foreign} :
    toPostfix tokens = .error (.unparsable (.foreign object)) ↔
      ∃ j, tokens[j]? = some (.foreign object) ∧
        ∀ k < j, ¬ ClosesNothing tokens k ∧ ¬ HoldsForeign tokens k := by
  rw [toPostfix_eq_error_iff]
  constructor
  · rintro (⟨k, fault, first⟩ | ⟨-, other, -⟩)
    · cases fault with
      | foreign here => exact ⟨k, here, fun i lt => not_faultAt_iff.mp (first i lt)⟩
    · cases other
  · rintro ⟨j, here, first⟩
    exact .inl ⟨j, .foreign here, fun k lt => not_faultAt_iff.mpr (first k lt)⟩

/-- An opening parenthesis is what the conversion fails for exactly if no place is at fault and more
parentheses are opened than closed. -/
theorem toPostfix_eq_unmatchedLeft_iff {tokens : List Token} :
    toPostfix tokens = .error .unmatchedLeft ↔
      (∀ k e, ¬ FaultAt tokens k e) ∧ tokens.count .rightParen < tokens.count .leftParen := by
  rw [toPostfix_eq_error_iff]
  constructor
  · rintro (⟨k, fault, -⟩ | ⟨none, -, more⟩)
    · cases fault
    · exact ⟨none, more⟩
  · rintro ⟨none, more⟩
    exact .inr ⟨none, rfl, more⟩

/-- How the conversion of any list ends, by the first closing parenthesis that closes nothing and
the first foreign object, if there are any. Whichever comes first is what it fails for, and the
message of a foreign object says how it is shown. Without either the conversion fails if more
parentheses are opened than closed, and otherwise it succeeds, wherever numbers and operators
stand. -/
theorem toPostfix_outcome (tokens : List Token) :
    (toPostfix tokens = .error .unmatchedRight ↔
      ∃ i, IsLeast {i | ClosesNothing tokens i} i ∧
        ∀ j, IsLeast {j | HoldsForeign tokens j} j → i < j) ∧
    (∀ object, toPostfix tokens = .error (.unparsable (.foreign object)) ↔
      ∃ j, tokens[j]? = some (.foreign object) ∧ IsLeast {j | HoldsForeign tokens j} j ∧
        ∀ i, IsLeast {i | ClosesNothing tokens i} i → j < i) ∧
    (toPostfix tokens = .error .unmatchedLeft ↔
      (∀ i, ¬ ClosesNothing tokens i) ∧ (∀ j, ¬ HoldsForeign tokens j) ∧
        tokens.count .rightParen < tokens.count .leftParen) ∧
    ((∃ ordered, toPostfix tokens = .ok ordered) ↔
      (∀ i, ¬ ClosesNothing tokens i) ∧ (∀ j, ¬ HoldsForeign tokens j) ∧
        tokens.count .leftParen = tokens.count .rightParen) ∧
    (CalcError.unmatchedRight.notice = ⟨.mismatchedParens, "Unmatched )", none⟩ ∧
      CalcError.unmatchedLeft.notice = ⟨.mismatchedParens, "Unmatched (", none⟩ ∧
      ∀ object, (CalcError.unparsable (.foreign object)).notice
        = ⟨.invalidExpression, "Cannot parse " ++ object.shown, none⟩) := by
  refine ⟨?_, fun object => ?_, ?_, ?_, rfl, rfl, fun object => rfl⟩
  · rw [toPostfix_eq_unmatchedRight_iff]
    exact exists_congr fun i => (isLeast_and_lt_iff ClosesNothing.not_holdsForeign).symm
  · rw [toPostfix_eq_unparsable_iff]
    refine exists_congr fun j => and_congr_right fun here => ?_
    -- The two kinds of fault are never at one place, so one of them comes first.
    have apart : HoldsForeign tokens j → ¬ ClosesNothing tokens j :=
      fun holds closes => closes.not_holdsForeign holds
    have holds : HoldsForeign tokens j := ⟨object, here⟩
    rw [isLeast_and_lt_iff apart]
    exact ⟨fun first => ⟨holds, fun k lt => (first k lt).symm⟩,
      fun first k lt => (first.2 k lt).symm⟩
  · rw [toPostfix_eq_unmatchedLeft_iff, forall_not_faultAt_iff, and_assoc]
  · rw [exists_toPostfix_eq_ok_iff, forall_not_faultAt_iff, and_assoc]

/-- An integer object among tokens comes before the parenthesis that closes nothing. -/
example : (toPostfix [.number "1", .foreign ⟨"int", "3", "3"⟩, .rightParen]).mapError
    CalcError.message = .error "Cannot parse 3" :=
  rfl

end InfixCalc
