import InfixCalc.Proofs.Postfix.Occurrence
import InfixCalc.Proofs.Postfix.Unfinished
import Mathlib.Data.List.Infix

/-!
# `InfixCalc.Proofs.Postfix.Held`: what is held back on the way into postfix order

At any point of the conversion the opening parentheses that are held back cut the rest into rows of
operators: one above the latest parenthesis, one between each two that follow each other, and one
below the earliest. This module says what the parentheses and the rows are, whatever the shape of
the list that has been read.

* The parentheses are the ones that are still open, each at its own place (`StaysOpen`). Which ones
  these are is said by counting parentheses behind the place, and `Opened` is the invariant:
  behind an open parenthesis, one has been opened and not closed for each later one that is open.
  So a closing parenthesis ends the latest, and only that (`Opened.rightParen`).
* Each row binds looser from its top to its bottom (`Loosening`). The invariant looks at neighbours
  only (`Yard.Layered`): an operator that comes in stops sending out at the first one that is looser
  than itself.

There are two precedences, so a row has two operators at most, and the number of open parentheses
bounds how much is held back (`Yard.Layered.length_lt`). The bound is reached
(`Yard.exists_run_of_length`). `Yard.held_of_run` puts all of it together.
-/

set_option autoImplicit false

namespace InfixCalc

/-- The operators are listed from the tightest to the loosest, and no two bind alike. -/
def Loosening (row : List Operator) : Prop :=
  row.Pairwise fun first second => second.precedence < first.precedence

instance (row : List Operator) : Decidable (Loosening row) :=
  inferInstanceAs (Decidable (row.Pairwise fun first second =>
    second.precedence < first.precedence))

/-- The parenthesis that is opened at the place has not been closed: wherever one stops behind it,
no more have been closed since than opened. -/
def StaysOpen (read : List Token) (i : Nat) : Prop :=
  read[i]? = some .leftParen ∧
    ∀ front, front <+: read.drop (i + 1) → front.count .rightParen ≤ front.count .leftParen

/-- Whether a parenthesis stays open is a question about the finitely many places to stop at. -/
theorem staysOpen_iff_forall_mem_inits {read : List Token} {i : Nat} :
    StaysOpen read i ↔ read[i]? = some .leftParen ∧
      ∀ front ∈ (read.drop (i + 1)).inits, front.count .rightParen ≤ front.count .leftParen := by
  simp only [StaysOpen, List.mem_inits]

instance (read : List Token) (i : Nat) : Decidable (StaysOpen read i) :=
  decidable_of_iff _ staysOpen_iff_forall_mem_inits.symm

/-! ### Rows of operators -/

namespace Yard

/-- What lies directly below an operator binds looser, unless it is an opening parenthesis. -/
def Layered : List Held → Prop
  | .operator op :: rest => LooserOnTop op.precedence rest ∧ Layered rest
  | .leftParen :: rest => Layered rest
  | [] => True

/-- What is held back begins with a row of operators, and the row ends at a parenthesis or at the
bottom. -/
theorem exists_row (held : List Held) :
    ∃ row : List Operator, held = row.map .operator ∨
      ∃ below, held = row.map .operator ++ .leftParen :: below := by
  induction held with
  | nil => exact ⟨[], .inl rfl⟩
  | cons top rest ih =>
      cases top with
      | leftParen => exact ⟨[], .inr ⟨rest, rfl⟩⟩
      | operator op =>
          obtain ⟨row, rfl | ⟨below, rfl⟩⟩ := ih
          · exact ⟨op :: row, .inl rfl⟩
          · exact ⟨op :: row, .inr ⟨below, rfl⟩⟩

/-- What an operator leaves behind is looser than itself and lies below the row that it sent out. -/
theorem exists_row_of_sendTighter (op : Operator) (sent : List Token) (held : List Held) :
    LooserOnTop op.precedence (sendTighter op sent held).held ∧
      ∃ row : List Operator, held = row.map .operator ++ (sendTighter op sent held).held := by
  fun_induction sendTighter op sent held with
  -- What leaves is put in front of the row that leaves behind it.
  | case1 sent top rest tight ih =>
      obtain ⟨loose, row, split⟩ := ih
      exact ⟨loose, top :: row, congrArg (Held.operator top :: ·) split⟩
  | case2 sent top rest loose => exact ⟨Nat.lt_of_not_le loose, [], rfl⟩
  | case3 sent held noOperator =>
      refine ⟨?_, [], rfl⟩
      cases held with
      | nil => trivial
      | cons top rest =>
          cases top with
          | operator op => exact absurd rfl (noOperator op rest)
          | leftParen => trivial

/-- What a closing parenthesis leaves behind lies below the latest opening one. -/
theorem exists_row_of_close {sent : List Token} {held : List Held} {y : Yard}
    (closed : close sent held = .ok y) :
    ∃ row : List Operator, held = row.map .operator ++ .leftParen :: y.held := by
  obtain ⟨row, rfl | ⟨below, rfl⟩⟩ := exists_row held
  · rw [close_map_operator] at closed
    cases closed
  · rw [close_append_leftParen] at closed
    cases closed
    exact ⟨row, rfl⟩

namespace Layered

variable {held front rest : List Held} {row : List Operator} {y y' : Yard}

/-- What lies below some entries is layered if all of it is. -/
theorem of_append (layered : Layered (front ++ rest)) : Layered rest := by
  induction front with
  | nil => exact layered
  | cons top front ih =>
      cases top with
      | operator op => exact ih layered.2
      | leftParen => exact ih layered

/-- The whole row binds looser downwards, since neighbours do. -/
theorem loosening (layered : Layered (row.map .operator ++ rest)) : Loosening row := by
  induction row with
  | nil => exact .nil
  | cons top row ih =>
      obtain ⟨loose, below⟩ := layered
      have tail : Loosening row := ih below
      refine List.pairwise_cons.mpr ⟨fun op mem => ?_, tail⟩
      -- Only the next operator is known to be looser; the others are looser than that one.
      cases row with
      | nil => cases mem
      | cons next row =>
          have lt : next.precedence < top.precedence := loose
          rcases List.mem_cons.mp mem with rfl | mem
          · exact lt
          · exact Nat.lt_trans ((List.pairwise_cons.mp tail).1 op mem) lt

/-- Two operators that bind alike make no row: the second one sends the first one out. -/
example : Loosening [.multiply, .subtract] ∧ ¬ Loosening [.add, .subtract] := by decide

/-- The bound on the top is a bound on the row above the latest parenthesis: each operator of the
row is looser than the one before, and none is looser than 1. Every parenthesis makes room for
itself and for the row of two below it. -/
theorem length_lt {bound : Nat} (layered : Layered held) (loose : LooserOnTop bound held)
    (pos : 0 < bound) : held.length < 3 * held.count .leftParen + bound := by
  induction held generalizing bound with
  | nil => simpa using pos
  | cons top rest ih =>
      cases top with
      | operator op =>
          obtain ⟨below, layered⟩ := layered
          have lt : op.precedence < bound := loose
          have atLeast := op.precedence_eq
          have shorter := ih layered below (by omega)
          simp
          omega
      | leftParen =>
          -- Below the parenthesis a new row begins, and its top is bounded by nothing else.
          have shorter := ih layered (looserOnTop_three rest) (by omega)
          simp
          omega

/-- Whatever comes in, the rows stay as they should be. -/
theorem step {x : Token} (layered : Layered y.held) (stepped : y.step x = .ok y') :
    Layered y'.held := by
  cases x with
  | number text =>
      cases stepped
      exact layered
  | operator op =>
      cases stepped
      -- The operator stands on what is looser than itself, and nothing below has changed.
      obtain ⟨loose, row, split⟩ := exists_row_of_sendTighter op y.sent y.held
      rw [split] at layered
      exact ⟨loose, layered.of_append⟩
  | leftParen =>
      cases stepped
      exact layered
  | rightParen =>
      obtain ⟨row, split⟩ := exists_row_of_close stepped
      rw [split] at layered
      have below : Layered (.leftParen :: y'.held) := layered.of_append
      exact below
  | foreign object => cases stepped

/-- Whatever is read without a fault, what is held back is layered. -/
theorem of_run {read : List Token} (run : read.foldlM Yard.step empty = .ok y) :
    Layered y.held :=
  foldlM_ok_induction (fun _ (y : Yard) => Layered y.held) (show Layered [] from trivial)
    (fun _ _ _ _ layered => layered.step) run

/-- A closing parenthesis sends out the row above the latest opening one. -/
theorem step_rightParen (layered : Layered y.held) (opened : .leftParen ∈ y.held) :
    ∃ (row : List Operator) (below : List Held), Loosening row ∧
      y.held = row.map .operator ++ .leftParen :: below ∧
      y.step .rightParen = .ok ⟨(row.map .operator).reverse ++ y.sent, below⟩ := by
  obtain ⟨row, split | ⟨below, split⟩⟩ := exists_row y.held
  · -- The row would be all there is, without any parenthesis.
    rw [split] at opened
    simp at opened
  · rw [split] at layered
    refine ⟨row, below, layered.loosening, split, ?_⟩
    rw [Yard.step, split, close_append_leftParen]

/-- The end sends out the only row that there is if no group is open. -/
theorem flush_eq (layered : Layered y.held) (closed : .leftParen ∉ y.held) :
    ∃ row : List Operator, Loosening row ∧ y.held = row.map .operator ∧
      flush y.sent y.held = .ok (y.sent.reverse ++ row.map .operator) := by
  obtain ⟨row, split | ⟨below, split⟩⟩ := exists_row y.held
  · rw [split, ← List.append_nil (row.map _)] at layered
    refine ⟨row, layered.loosening, split, ?_⟩
    rw [split, flush_map_operator, List.reverse_append, List.reverse_reverse]
  · rw [split] at closed
    simp at closed

end Layered

/-! ### The bound is reached -/

/-- An operator that is tighter than the top is held back above it. -/
theorem step_operator_of_loose {y : Yard} {op : Operator}
    (loose : LooserOnTop op.precedence y.held) :
    y.step (.operator op) = .ok ⟨y.sent, .operator op :: y.held⟩ := by
  have kept := sendTighter_append op [] y.sent (by simp) loose
  rw [List.map_nil, List.nil_append] at kept
  rw [Yard.step, kept]
  rfl

/-- A row of two operators can be held back wherever no operator is on top. -/
theorem run_row {read : List Token} {y : Yard} (run : read.foldlM step empty = .ok y)
    (loose : LooserOnTop 1 y.held) :
    (read ++ [Token.operator .add, .operator .multiply]).foldlM step empty
      = .ok ⟨y.sent, .operator .multiply :: .operator .add :: y.held⟩ := by
  have loose' : LooserOnTop Operator.add.precedence y.held := loose
  rw [foldlM_append_of_ok run, List.foldlM_cons, step_operator_of_loose loose', except_ok_bind]
  rfl

/-- Any number of groups can be open, with a row of two operators below each parenthesis. -/
theorem exists_run_of_groups (k : Nat) :
    ∃ (read : List Token) (y : Yard), read.foldlM step empty = .ok y ∧ LooserOnTop 1 y.held ∧
      y.held.count .leftParen = k ∧ y.held.length = 3 * k := by
  induction k with
  | zero => exact ⟨[], empty, rfl, trivial, rfl, rfl⟩
  | succ k ih =>
      obtain ⟨read, y, run, loose, opened, length⟩ := ih
      -- One more row of two operators, and a parenthesis above it.
      refine ⟨read ++ [.operator .add, .operator .multiply] ++ [.leftParen],
        ⟨y.sent, .leftParen :: .operator .multiply :: .operator .add :: y.held⟩,
        ?_, trivial, ?_, ?_⟩
      · rw [foldlM_concat_of_ok (run_row run loose)]
        rfl
      · simpa using opened
      · simp [length]
        omega

/-- For every number of open parentheses, as much can be held back as the bound allows. -/
theorem exists_run_of_length (k : Nat) :
    ∃ (read : List Token) (y : Yard), read.foldlM step empty = .ok y ∧
      y.held.count .leftParen = k ∧ y.held.length = 3 * k + 2 := by
  obtain ⟨read, y, run, loose, opened, length⟩ := exists_run_of_groups k
  exact ⟨_, _, run_row run loose, by simpa using opened, by simp [length]⟩

end Yard

/-! ### Open parentheses -/

section
variable {read : List Token} {x : Token} {i : Nat}

/-- An open parenthesis has been read. -/
theorem StaysOpen.lt_length (opened : StaysOpen read i) : i < read.length :=
  (List.getElem?_eq_some_iff.mp opened.1).1

/-- One more token stands behind every place that has been read. -/
theorem drop_concat (x : Token) (lt : i < read.length) :
    (read ++ [x]).drop (i + 1) = read.drop (i + 1) ++ [x] :=
  List.drop_append_of_le_length lt

/-- With one more token a parenthesis is open if the token is this parenthesis, or if it was open
before and the token does not close it. -/
theorem staysOpen_concat_iff :
    StaysOpen (read ++ [x]) i ↔ (i = read.length ∧ x = .leftParen) ∨ (StaysOpen read i ∧
      (read.drop (i + 1) ++ [x]).count .rightParen
        ≤ (read.drop (i + 1) ++ [x]).count .leftParen) := by
  rcases Nat.lt_trichotomy i read.length with lt | rfl | gt
  · -- An earlier place: what is read behind it has one more place to stop at, the end.
    unfold StaysOpen
    rw [drop_concat x lt, List.getElem?_append_left lt]
    simp only [List.prefix_concat_iff, or_imp, forall_and, forall_eq, Nat.ne_of_lt lt, false_and,
      false_or]
    rw [and_assoc, and_comm (b := _ ≤ _)]
  · have before : ¬ StaysOpen read read.length := fun opened => Nat.lt_irrefl _ opened.lt_length
    simp only [before, false_and, or_false, true_and]
    simp [StaysOpen]
  · have before : ¬ StaysOpen read i := fun opened => Nat.lt_asymm gt opened.lt_length
    have after : ¬ StaysOpen (read ++ [x]) i := by
      intro opened
      have := opened.lt_length
      simp at this
      omega
    simp [before, after, Nat.ne_of_gt gt]

end

/-- The places are those of the open parentheses, the latest first:

- `mem_iff`: they are open, and no other place is;
- `surplus`: behind each of them, one parenthesis has been opened and not been closed for each
  later one that is open. -/
structure Opened (read : List Token) (places : List Nat) : Prop where
  mem_iff : ∀ i, i ∈ places ↔ StaysOpen read i
  surplus : ∀ later i earlier, places = later ++ i :: earlier →
    (read.drop (i + 1)).count .leftParen
      = (read.drop (i + 1)).count .rightParen + later.length

namespace Opened

variable {read : List Token} {places later earlier : List Nat} {x : Token} {i : Nat}

/-- The places are those of tokens that have been read. -/
theorem lt_length (opened : Opened read places) (mem : i ∈ places) : i < read.length :=
  ((opened.mem_iff i).mp mem).lt_length

/-- Behind an open parenthesis, all that has been read closes no more than it opens. -/
theorem count_le (opened : Opened read places) (mem : i ∈ places) :
    (read.drop (i + 1)).count .rightParen ≤ (read.drop (i + 1)).count .leftParen :=
  ((opened.mem_iff i).mp mem).2 _ List.prefix_rfl

/-- What is no parenthesis opens and closes nothing. -/
theorem concat (opened : Opened read places) (notLeft : x ≠ .leftParen)
    (notRight : x ≠ .rightParen) : Opened (read ++ [x]) places where
  mem_iff i := by
    rw [staysOpen_concat_iff, ← opened.mem_iff]
    simpa [notLeft, notRight] using opened.count_le
  surplus later i earlier split := by
    have lt : i < read.length := opened.lt_length (by simp [split])
    rw [drop_concat x lt]
    simpa [notLeft, notRight] using opened.surplus later i earlier split

/-- An opening parenthesis is open itself. -/
theorem leftParen (opened : Opened read places) :
    Opened (read ++ [.leftParen]) (read.length :: places) where
  mem_iff i := by
    rw [staysOpen_concat_iff, ← opened.mem_iff]
    have kept : i ∈ places → (read.drop (i + 1)).count .rightParen
        ≤ (read.drop (i + 1)).count .leftParen + 1 :=
      fun mem => Nat.le_succ_of_le (opened.count_le mem)
    simp [and_iff_left_of_imp kept]
  surplus later i earlier split := by
    -- The new one has nothing behind it, and adds one to the surplus of each that was open.
    cases later with
    | nil =>
        cases split
        simp
    | cons latest later =>
        cases split
        have lt : i < read.length := opened.lt_length (by simp)
        have before := opened.surplus later i earlier rfl
        rw [drop_concat _ lt]
        simp
        omega

/-- A closing parenthesis closes the latest one that is open, and no other: behind each earlier one
there is a surplus left. -/
theorem rightParen (opened : Opened read (i :: places)) :
    Opened (read ++ [.rightParen]) places where
  mem_iff j := by
    rw [staysOpen_concat_iff, ← opened.mem_iff]
    -- Behind an earlier one the latest counts as well, so the surplus is not used up.
    constructor
    · intro mem
      obtain ⟨later, earlier, split⟩ := List.append_of_mem mem
      have before := opened.surplus (i :: later) j earlier (by simp [split])
      refine .inr ⟨List.mem_cons_of_mem _ mem, ?_⟩
      simp at before ⊢
      omega
    · rintro (⟨-, same⟩ | ⟨mem, kept⟩)
      · cases same
      · rcases List.mem_cons.mp mem with rfl | mem
        · -- Behind the latest one nothing else is open, so this one is closed now.
          have before := opened.surplus [] j places rfl
          simp at before kept
          omega
        · exact mem
  surplus later j earlier split := by
    have lt : j < read.length := opened.lt_length (by simp [split])
    have before := opened.surplus (i :: later) j earlier (by simp [split])
    rw [drop_concat _ lt]
    simp at before ⊢
    omega

/-- Of two parentheses that are opened, the first stays open when one is closed. -/
example : StaysOpen [.leftParen, .leftParen, .rightParen] 0 ∧
    ¬ StaysOpen [.leftParen, .leftParen, .rightParen] 1 := by decide

end Opened

/-! ### Occurrences that are held back -/

namespace Tracked

variable {t t' : Tracked} {y : Yard} {read : List Token}

/-- The places of the opening parentheses that are held back, the latest first. -/
def openPlaces (t : Tracked) : List Nat :=
  (t.held.filter fun x => x.1 = .leftParen).map Prod.snd

/-- The places are those of the opening parentheses that are held back. -/
theorem mem_openPlaces {i : Nat} : i ∈ t.openPlaces ↔ (.leftParen, i) ∈ t.held := by
  simp [openPlaces]

/-- Operators leave no gap among the parentheses. -/
theorem openPlaces_sendWhile {leaves : Token → Bool}
    (operators : ∀ token, leaves token = true → token.isOperator = true) :
    (t.sendWhile leaves).openPlaces = t.openPlaces := by
  have row : (t.held.takeWhile (leaves ·.1)).filter (fun x => x.1 = .leftParen) = [] := by
    rw [List.filter_eq_nil_iff]
    intro x mem same
    have operator := operators x.1
      (List.mem_takeWhile_imp (p := fun y : Token × Nat => leaves y.1) mem)
    rw [of_decide_eq_true same] at operator
    cases operator
  conv_rhs => rw [openPlaces, ← List.takeWhile_append_dropWhile (p := (leaves ·.1)) (l := t.held),
    List.filter_append, row, List.nil_append]
  rfl

/-- What is held back is an operator or an opening parenthesis. -/
theorem Shows.held_cases (shown : t.Shows y) {x : Token × Nat} (mem : x ∈ t.held) :
    (∃ op, x.1 = .operator op) ∨ x.1 = .leftParen := by
  have member : x.1 ∈ y.held.map Held.token := shown.held ▸ List.mem_map_of_mem mem
  obtain ⟨held, -, same⟩ := List.mem_map.mp member
  cases held with
  | operator op => exact .inl ⟨op, same.symm⟩
  | leftParen => exact .inr same.symm

/-- What stops the operators from leaving is an opening parenthesis. -/
theorem Shows.eq_leftParen (shown : t.Shows y) {top : Token × Nat} {rest : List (Token × Nat)}
    (below : (t.sendWhile Token.isOperator).held = top :: rest) : top.1 = .leftParen := by
  have stays := leaves_eq_false below
  rcases (shown.sendWhile Token.isOperator).held_cases (below ▸ List.mem_cons_self)
    with ⟨op, same⟩ | same
  · rw [same] at stays
    cases stays
  · exact same

/-- What is held back, from the bottom up, are occurrences that have been read, in this order, and
its parentheses are the open ones. -/
structure HoldsOpen (read : List Token) (t : Tracked) : Prop where
  order : t.held.reverse.Sublist read.zipIdx
  opened : Opened read t.openPlaces

/-- The place of one more token is the number of those before it. -/
theorem zipIdx_concat (read : List Token) (x : Token) :
    (read ++ [x]).zipIdx = read.zipIdx ++ [(x, read.length)] := by
  simp [List.zipIdx_append]

namespace HoldsOpen

variable {x : Token}

/-- Operators that leave change neither the order of the others nor the open places. -/
theorem sendWhile (holds : HoldsOpen read t) {leaves : Token → Bool}
    (operators : ∀ token, leaves token = true → token.isOperator = true) :
    HoldsOpen read (t.sendWhile leaves) where
  order := (List.dropWhile_sublist _).reverse.trans holds.order
  opened := by
    rw [openPlaces_sendWhile operators]
    exact holds.opened

/-- The order stays if the token that comes in is held back above the others. -/
theorem order_cons (holds : HoldsOpen read t) (x : Token) :
    ((x, read.length) :: t.held).reverse.Sublist (read ++ [x]).zipIdx := by
  rw [List.reverse_cons, zipIdx_concat]
  exact holds.order.append (.refl _)

/-- The order stays if the token that comes in is not held back. -/
theorem order_concat (holds : HoldsOpen read t) (x : Token) :
    t.held.reverse.Sublist (read ++ [x]).zipIdx := by
  rw [zipIdx_concat]
  exact holds.order.trans (List.sublist_append_left _ _)

/-- Every step keeps the order and the open places, by one case for each token. -/
theorem step (holds : HoldsOpen read t) (shown : t.Shows y)
    (stepped : t.step (x, read.length) = .ok t') : HoldsOpen (read ++ [x]) t' := by
  cases x with
  | number text =>
      cases stepped
      exact ⟨holds.order_concat _, holds.opened.concat (by simp) (by simp)⟩
  | operator op =>
      cases stepped
      have cleared := holds.sendWhile fun token (tight : token.isTighter op = true) =>
        Token.isOperator_of_isTighter tight
      exact ⟨cleared.order_cons _, cleared.opened.concat (by simp) (by simp)⟩
  | leftParen =>
      cases stepped
      exact ⟨holds.order_cons _, holds.opened.leftParen⟩
  | rightParen =>
      have cleared := holds.sendWhile fun token (leaves : token.isOperator = true) => leaves
      simp only [Tracked.step] at stepped
      split at stepped
      · cases stepped
      · next top rest below =>
          cases stepped
          have latest : top.1 = .leftParen := shown.eq_leftParen below
          have order := cleared.order
          have opened := cleared.opened
          rw [below, List.reverse_cons] at order
          -- It is the first of the open places, so it is the one that is closed.
          rw [openPlaces, below, List.filter_cons_of_pos (by simp [latest]), List.map_cons]
            at opened
          refine ⟨?_, opened.rightParen⟩
          rw [zipIdx_concat]
          exact ((List.sublist_append_left _ _).trans order).trans (List.sublist_append_left _ _)
  | foreign object => cases stepped

end HoldsOpen

/-- A list that has been read has been read with its places, and then its open parentheses are
told by their places. -/
theorem exists_run_holdsOpen (run : read.foldlM Yard.step Yard.empty = .ok y) :
    ∃ t, read.zipIdx.foldlM step ⟨[], []⟩ = .ok t ∧ t.Shows y ∧ HoldsOpen read t := by
  refine foldlM_ok_induction (fun read (y : Yard) =>
    ∃ t, read.zipIdx.foldlM step ⟨[], []⟩ = .ok t ∧ t.Shows y ∧ HoldsOpen read t) ?_ ?_ run
  · refine ⟨⟨[], []⟩, rfl, ⟨rfl, rfl⟩, ⟨.refl _, ?_, ?_⟩⟩
    · -- Nothing has been read, so nothing is open.
      intro i
      simp [openPlaces, StaysOpen]
    · intro later i earlier split
      simp [openPlaces] at split
  · rintro read y x y' ⟨t, before, shown, holds⟩ stepped
    have stepped' : y.step (x, read.length).1 = .ok y' := stepped
    obtain ⟨t', last, shown'⟩ := exists_step shown stepped'
    refine ⟨t', ?_, shown', holds.step shown last⟩
    rw [zipIdx_concat, foldlM_concat_of_ok before, last]

end Tracked

/-- All about what is held back once a list of tokens has been read without a fault, whatever its
shape. The occurrences that are held back are operators and opening parentheses, in the order in
which they were read, and the parentheses are those that are still open. Each row of operators
between them binds looser from its top to its bottom. So there are at most two entries more than
three for each open parenthesis, also while operators leave; and what a closing parenthesis or the
end sends out goes from the tightest operator to the loosest. -/
theorem Yard.held_of_run {read : List Token} {y : Yard}
    (run : read.foldlM Yard.step Yard.empty = .ok y) :
    (∃ t, read.zipIdx.foldlM Tracked.step ⟨[], []⟩ = .ok t ∧
      t.held.map Prod.fst = y.held.map Held.token ∧
      t.held.reverse.Sublist read.zipIdx ∧
      (∀ x ∈ t.held, (∃ op, x.1 = .operator op) ∨ x.1 = .leftParen) ∧
      ∀ i, (.leftParen, i) ∈ t.held ↔ StaysOpen read i) ∧
    y.held.count .leftParen + read.count .rightParen = read.count .leftParen ∧
    (∀ row : List Operator, row.map .operator <:+: y.held → Loosening row) ∧
    (∀ rest, rest <:+ y.held → rest.length ≤ 3 * rest.count .leftParen + 2) ∧
    (.leftParen ∈ y.held → ∃ (row : List Operator) (below : List Held), Loosening row ∧
      y.held = row.map .operator ++ .leftParen :: below ∧
      y.step .rightParen = .ok ⟨(row.map .operator).reverse ++ y.sent, below⟩) ∧
    (.leftParen ∉ y.held → ∃ row : List Operator, Loosening row ∧ y.held = row.map .operator ∧
      Yard.flush y.sent y.held = .ok (y.sent.reverse ++ row.map .operator)) := by
  have layered := Yard.Layered.of_run run
  obtain ⟨t, tracked, shown, holds⟩ := Tracked.exists_run_holdsOpen run
  refine ⟨⟨t, tracked, shown.held, holds.order, fun x => shown.held_cases, fun i => ?_⟩,
    Yard.count_leftParen_held run, ?_, ?_, ?_, ?_⟩
  · rw [← holds.opened.mem_iff, Tracked.mem_openPlaces]
  · -- A row is the front of what is layered when the entries above it are left away.
    rintro row ⟨above, below, split⟩
    rw [← split, List.append_assoc] at layered
    exact layered.of_append.loosening
  · rintro rest ⟨above, split⟩
    rw [← split] at layered
    exact Nat.le_of_lt_succ (layered.of_append.length_lt (Yard.looserOnTop_three rest) (by decide))
  · exact layered.step_rightParen
  · exact layered.flush_eq

/-- In `+ * ( ( 1 ) - /` one of two groups is closed. The row above the other parenthesis and the
one below it have two operators each, so as much is held back as one open parenthesis allows. -/
theorem Yard.held_of_run_two_rows :
    [Token.operator .add, .operator .multiply, .leftParen, .leftParen, .number "1", .rightParen,
        .operator .subtract, .operator .divide].foldlM Yard.step Yard.empty
      = .ok ⟨[.number "1"], [.operator .divide, .operator .subtract, .leftParen,
        .operator .multiply, .operator .add]⟩ ∧
    StaysOpen [.operator .add, .operator .multiply, .leftParen, .leftParen, .number "1",
      .rightParen, .operator .subtract, .operator .divide] 2 ∧
    ¬ StaysOpen [.operator .add, .operator .multiply, .leftParen, .leftParen, .number "1",
      .rightParen, .operator .subtract, .operator .divide] 3 ∧
    Loosening [.divide, .subtract] ∧ Loosening [.multiply, .add] ∧
    [Held.operator .divide, .operator .subtract, .leftParen, .operator .multiply,
      .operator .add].length = 3 * 1 + 2 := by
  have run : [Token.operator .add, .operator .multiply, .leftParen, .leftParen, .number "1",
        .rightParen, .operator .subtract, .operator .divide].foldlM Yard.step Yard.empty
      = .ok ⟨[.number "1"], [.operator .divide, .operator .subtract, .leftParen,
        .operator .multiply, .operator .add]⟩ := by
    rfl
  obtain ⟨⟨t, tracked, -, -, -, places⟩, -, rows, -⟩ := Yard.held_of_run run
  cases tracked
  refine ⟨run, (places 2).mp (by decide), fun opened => ?_, rows _ ⟨[], _, rfl⟩,
    rows _ ⟨[.operator .divide, .operator .subtract, .leftParen], [], rfl⟩, rfl⟩
  have mem := (places 3).mpr opened
  revert mem
  decide

end InfixCalc
