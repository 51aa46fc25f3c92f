import InfixCalc.Proofs.Expr
import InfixCalc.Proofs.Postfix.Yard
import Mathlib.Data.List.TakeWhile

/-!
# `InfixCalc.Proofs.Postfix.Occurrence`: nothing is lost on the way into postfix order

Two tokens of a list may be equal, and then the list alone does not tell which of them comes out
where. So this module lets each token carry its place in the list (`Tracked`): what is sent out and
held back are occurrences of tokens, and the conversion looks at the tokens and never at the places.
Without the places it is the conversion itself (`Tracked.exists_run`).

The three loops of the conversion differ only in which tokens leave, so they are one operation
(`Yard.sendWhile`, `Tracked.sendWhile`). `Tracked.Accounts` is what every step keeps, whatever the
shape of the list: what has been read is sent out or held back, but for parentheses; the numbers are
sent out, in order; and if a number is sent out behind an operator, then it has been read behind it.
What makes the last part true is that a number is never held back, so those that stand before an
operator are gone before the operator can leave.

`toPostfix_conserves` says what follows for a list that is converted.
-/

set_option autoImplicit false

namespace InfixCalc

/-- The token that is held back. -/
def Held.token : Held → Token
  | operator op => .operator op
  | leftParen => .leftParen

namespace Token

/-- The token is a number or an operator, and so has a place in postfix order. -/
def isOrdered (token : Token) : Bool :=
  token.isNumber || token.isOperator

/-- The token is an operator that binds at least as tightly as the given one. -/
def isTighter (op : Operator) : Token → Bool
  | operator top => op.precedence ≤ top.precedence
  | _ => false

/-- Only operators leave for an operator. -/
theorem isOperator_of_isTighter {op : Operator} {token : Token}
    (tight : token.isTighter op = true) : token.isOperator = true := by
  cases token with
  | operator top => rfl
  | _ => cases tight

end Token

/-! ### The loops of the conversion -/

namespace Yard

/-- Sends out what is on top as long as it is among the tokens that leave. -/
def sendWhile (leaves : Token → Bool) (y : Yard) : Yard where
  sent := ((y.held.takeWhile (leaves ·.token)).map Held.token).reverse ++ y.sent
  held := y.held.dropWhile (leaves ·.token)

/-- For an operator, those leave that bind at least as tightly. -/
theorem sendTighter_eq_sendWhile (op : Operator) (sent : List Token) (held : List Held) :
    sendTighter op sent held = sendWhile (·.isTighter op) ⟨sent, held⟩ := by
  induction held generalizing sent with
  | nil => rfl
  | cons top rest ih =>
      cases top with
      | leftParen => rfl
      | operator top =>
          rw [sendTighter]
          by_cases tight : op.precedence ≤ top.precedence
          · rw [if_pos tight, ih]
            simp [sendWhile, Held.token, Token.isTighter, tight]
          · rw [if_neg tight]
            simp [sendWhile, Held.token, Token.isTighter, tight]

/-- For a closing parenthesis all operators leave, and what is then on top is taken away. -/
theorem close_eq_sendWhile (sent : List Token) (held : List Held) :
    close sent held = match (sendWhile Token.isOperator ⟨sent, held⟩).held with
      | [] => .error .unmatchedRight
      | _ :: rest => .ok ⟨(sendWhile Token.isOperator ⟨sent, held⟩).sent, rest⟩ := by
  fun_induction close sent held with
  | case1 sent top rest ih => simp [ih, sendWhile, Held.token, Token.isOperator]
  | case2 => rfl
  | case3 => rfl

/-- At the end all operators leave, and nothing may be left. -/
theorem flush_eq_sendWhile (sent : List Token) (held : List Held) :
    flush sent held = match (sendWhile Token.isOperator ⟨sent, held⟩).held with
      | [] => .ok (sendWhile Token.isOperator ⟨sent, held⟩).sent.reverse
      | _ :: _ => .error .unmatchedLeft := by
  fun_induction flush sent held with
  | case1 sent top rest ih => simp [ih, sendWhile, Held.token, Token.isOperator]
  | case2 => rfl
  | case3 => rfl

end Yard

/-! ### Occurrences -/

/-- The state of the conversion with the places of the tokens, the latest ones first. -/
structure Tracked where
  /-- The occurrences sent out. -/
  sent : List (Token × Nat)
  /-- The occurrences held back. -/
  held : List (Token × Nat)

namespace Tracked

/-- Sends out what is on top as long as it is among the tokens that leave. -/
def sendWhile (leaves : Token → Bool) (t : Tracked) : Tracked where
  sent := (t.held.takeWhile (leaves ·.1)).reverse ++ t.sent
  held := t.held.dropWhile (leaves ·.1)

/-- Takes in the occurrence of a token. -/
def step (t : Tracked) (x : Token × Nat) : Except CalcError Tracked :=
  match x.1 with
  | .number _ => .ok { t with sent := x :: t.sent }
  | .operator op =>
    let cleared := t.sendWhile (·.isTighter op)
    .ok { cleared with held := x :: cleared.held }
  | .leftParen => .ok { t with held := x :: t.held }
  | .rightParen =>
    let cleared := t.sendWhile Token.isOperator
    match cleared.held with
    | [] => .error .unmatchedRight
    | _ :: rest => .ok { cleared with held := rest }
  | .foreign object => .error (.unparsable (.foreign object))

/-- Sends out everything that is held back. -/
def flush (t : Tracked) : Except CalcError (List (Token × Nat)) :=
  let cleared := t.sendWhile Token.isOperator
  match cleared.held with
  | [] => .ok cleared.sent.reverse
  | _ :: _ => .error .unmatchedLeft

/-- The occurrences of a list's tokens in postfix order. -/
def run (tokens : List Token) : Except CalcError (List (Token × Nat)) := do
  let t ← tokens.zipIdx.foldlM step ⟨[], []⟩
  t.flush

/-- The occurrences are those of the tokens in the yard. -/
structure Shows (t : Tracked) (y : Yard) : Prop where
  sent : t.sent.map Prod.fst = y.sent
  held : t.held.map Prod.fst = y.held.map Held.token

variable {t : Tracked} {y y' : Yard}

/-- The tokens decide what leaves, so the same occurrences leave on both sides. -/
theorem Shows.sendWhile (shown : t.Shows y) (leaves : Token → Bool) :
    (t.sendWhile leaves).Shows (y.sendWhile leaves) := by
  have same : (t.held.map Prod.fst).takeWhile leaves = (y.held.map Held.token).takeWhile leaves ∧
      (t.held.map Prod.fst).dropWhile leaves = (y.held.map Held.token).dropWhile leaves := by
    rw [shown.held]
    exact ⟨rfl, rfl⟩
  rw [List.takeWhile_map, List.takeWhile_map, List.dropWhile_map, List.dropWhile_map] at same
  refine ⟨?_, same.2⟩
  rw [Tracked.sendWhile, List.map_append, List.map_reverse, shown.sent]
  exact congrArg (fun row => List.reverse row ++ y.sent) same.1

/-- What is on top once the tokens have left is none of them. -/
theorem leaves_eq_false {leaves : Token → Bool} {top : Token × Nat} {rest : List (Token × Nat)}
    (below : (t.sendWhile leaves).held = top :: rest) : leaves top.1 = false := by
  have head := List.head?_dropWhile_not (leaves ·.1) t.held
  rwa [show t.held.dropWhile (leaves ·.1) = top :: rest from below] at head

/-- A step of the yard is a step of the occurrences. -/
theorem exists_step {x : Token × Nat} (shown : t.Shows y) (stepped : y.step x.1 = .ok y') :
    ∃ t', t.step x = .ok t' ∧ t'.Shows y' := by
  obtain ⟨token, place⟩ := x
  cases token with
  | number text =>
      cases stepped
      exact ⟨_, rfl, by simp [Yard.send, shown.sent], shown.held⟩
  | operator op =>
      rw [Yard.step, Yard.sendTighter_eq_sendWhile] at stepped
      cases stepped
      have cleared := shown.sendWhile (·.isTighter op)
      exact ⟨_, rfl, cleared.sent, by simp [cleared.held, Held.token]⟩
  | leftParen =>
      cases stepped
      exact ⟨_, rfl, shown.sent, by simp [shown.held, Held.token]⟩
  | rightParen =>
      rw [Yard.step, Yard.close_eq_sendWhile] at stepped
      obtain ⟨sent, held⟩ := shown.sendWhile Token.isOperator
      -- Whether there is a partner is the same question for the tokens and for their occurrences.
      cases below : (y.sendWhile Token.isOperator).held with
      | nil => simp [below] at stepped
      | cons opened rest =>
          simp only [below] at stepped
          cases stepped
          rw [below] at held
          obtain ⟨x, rest', tracked, -, same⟩ := List.map_eq_cons_iff.mp held
          exact ⟨⟨_, rest'⟩, by simp [step, tracked], sent, same⟩
  | foreign object => cases stepped

/-- So is a run of steps. -/
theorem exists_foldlM {xs : List (Token × Nat)} (shown : t.Shows y)
    (run : (xs.map Prod.fst).foldlM Yard.step y = .ok y') :
    ∃ t', xs.foldlM step t = .ok t' ∧ t'.Shows y' := by
  induction xs generalizing t y with
  | nil =>
      cases run
      exact ⟨t, rfl, shown⟩
  | cons x xs ih =>
      rw [List.map_cons, List.foldlM_cons, except_bind_eq_ok_iff] at run
      obtain ⟨mid, stepped, rest⟩ := run
      obtain ⟨t', stepped', shown'⟩ := exists_step shown stepped
      rw [List.foldlM_cons, stepped', except_ok_bind]
      exact ih shown' rest

/-- What the yard sends out at its end is what the occurrences send out. -/
theorem exists_flush {ordered : List Token} (shown : t.Shows y)
    (flushed : Yard.flush y.sent y.held = .ok ordered) :
    ∃ placed, t.flush = .ok placed ∧ placed.map Prod.fst = ordered := by
  rw [Yard.flush_eq_sendWhile] at flushed
  obtain ⟨sent, held⟩ := shown.sendWhile Token.isOperator
  cases below : (y.sendWhile Token.isOperator).held with
  | nil =>
      simp only [below] at flushed
      cases flushed
      rw [below] at held
      exact ⟨(t.sendWhile Token.isOperator).sent.reverse,
        by simp [flush, List.map_eq_nil_iff.mp held], by rw [List.map_reverse, sent]⟩
  | cons opened rest => simp [below] at flushed

/-- A list that is converted is converted with its places, and without them the outcome is the
same. -/
theorem exists_run {tokens ordered : List Token} (converted : toPostfix tokens = .ok ordered) :
    ∃ placed, run tokens = .ok placed ∧ placed.map Prod.fst = ordered := by
  rw [toPostfix, except_bind_eq_ok_iff] at converted
  obtain ⟨y, read, flushed⟩ := converted
  rw [← List.zipIdx_map_fst 0 tokens] at read
  obtain ⟨t, read', shown⟩ := exists_foldlM (t := ⟨[], []⟩) ⟨rfl, rfl⟩ read
  obtain ⟨placed, flushed', same⟩ := exists_flush shown flushed
  exact ⟨placed, by rw [run, read', except_ok_bind, flushed'], same⟩

/-! ### What the conversion keeps -/

/-- Where the occurrences that have been read are:

- `sent`: what is sent out is a number or an operator;
- `held`: what is held back is no number;
- `all`: together they are the numbers and operators that have been read;
- `numbers`: the numbers have been sent out in the order in which they were read;
- `behind`: a number that is sent out behind an operator was read behind it. -/
structure Accounts (read : List (Token × Nat)) (t : Tracked) : Prop where
  sent : ∀ x ∈ t.sent, x.1.isOrdered = true
  held : ∀ x ∈ t.held, x.1.isNumber = false
  all : ((t.sent ++ t.held).filter (·.1.isOrdered)).Perm (read.filter (·.1.isOrdered))
  numbers : t.sent.reverse.filter (·.1.isNumber) = read.filter (·.1.isNumber)
  behind : t.sent.reverse.Pairwise fun x y =>
    x.1.isOperator = true → y.1.isNumber = true → x.2 < y.2

namespace Accounts

variable {read : List (Token × Nat)}

/-- Operators that leave are accounted for as before. -/
theorem sendWhile (accounts : Accounts read t) (leaves : Token → Bool)
    (operators : ∀ token, leaves token = true → token.isOperator = true) :
    Accounts read (t.sendWhile leaves) := by
  have split := List.takeWhile_append_dropWhile (p := (leaves ·.1)) (l := t.held)
  have row : ∀ x ∈ t.held.takeWhile (leaves ·.1), x.1.isOperator = true := fun x mem =>
    operators _ (List.mem_takeWhile_imp (p := fun y : Token × Nat => leaves y.1) mem)
  have noNumber : ∀ x ∈ t.held.takeWhile (leaves ·.1), x.1.isNumber = false := fun x mem =>
    accounts.held x (List.takeWhile_subset _ mem)
  constructor
  case sent =>
    intro x mem
    rcases List.mem_append.mp mem with mem | mem
    · simp [Token.isOrdered, row x (List.mem_reverse.mp mem)]
    · exact accounts.sent x mem
  case held => exact fun x mem => accounts.held x (List.dropWhile_subset _ mem)
  case all =>
    refine List.Perm.trans (List.Perm.filter _ ?_) accounts.all
    conv_rhs => rw [← split]
    rw [Tracked.sendWhile, ← List.append_assoc]
    -- What leaves goes to the other side, and all together is the same.
    exact ((List.reverse_perm _).append_right _).trans List.perm_append_comm |>.append_right _
  case numbers =>
    have none : (t.held.takeWhile (leaves ·.1)).filter (·.1.isNumber) = [] := by
      rw [List.filter_eq_nil_iff]
      exact fun x mem => by simp [noNumber x mem]
    rw [Tracked.sendWhile, List.reverse_append, List.reverse_reverse, List.filter_append, none,
      List.append_nil, accounts.numbers]
  case behind =>
    -- No number comes in, so there is none that an operator would have to stand behind.
    rw [Tracked.sendWhile, List.reverse_append, List.reverse_reverse, List.pairwise_append]
    refine ⟨accounts.behind, List.pairwise_of_forall_mem_list fun x _ y mem _ number => ?_,
      fun x _ y mem _ number => ?_⟩
    · exact absurd number (by simp [noNumber y mem])
    · exact absurd number (by simp [noNumber y mem])

/-- What is sent out has been read. -/
theorem mem_read (accounts : Accounts read t) {x : Token × Nat} (mem : x ∈ t.sent) : x ∈ read := by
  have kept : x ∈ (t.sent ++ t.held).filter (·.1.isOrdered) :=
    List.mem_filter.mpr ⟨List.mem_append_left _ mem, accounts.sent x mem⟩
  exact (List.mem_filter.mp (accounts.all.subset kept)).1

/-- One more occurrence is as well accounted for as it has been read. -/
theorem perm_concat (accounts : Accounts read t) {x : Token × Nat} {all : List (Token × Nat)}
    (same : all.Perm (x :: (t.sent ++ t.held))) :
    (all.filter (·.1.isOrdered)).Perm ((read ++ [x]).filter (·.1.isOrdered)) := by
  refine ((same.trans (List.perm_append_singleton x _).symm).filter _).trans ?_
  rw [List.filter_append, List.filter_append read]
  exact accounts.all.append_right _

/-- What comes in may be held back if it is no number. -/
theorem hold (accounts : Accounts read t) {x : Token × Nat} (noNumber : x.1.isNumber = false) :
    Accounts (read ++ [x]) { t with held := x :: t.held } where
  sent := accounts.sent
  held := List.forall_mem_cons.mpr ⟨noNumber, accounts.held⟩
  all := accounts.perm_concat List.perm_middle
  numbers := by simp [accounts.numbers, noNumber]
  behind := accounts.behind

/-- What comes in may go, and with it what is on top, if neither is a number or an operator. -/
theorem release (accounts : Accounts read t) {x top : Token × Nat} {rest : List (Token × Nat)}
    (below : t.held = top :: rest) (noPlace : x.1.isOrdered = false)
    (noPlace' : top.1.isOrdered = false) : Accounts (read ++ [x]) { t with held := rest } where
  sent := accounts.sent
  held := fun y mem => accounts.held y (below ▸ List.mem_cons_of_mem _ mem)
  all := by
    have all := accounts.all
    rw [below] at all
    simpa [noPlace, noPlace'] using all
  numbers := by
    have noNumber : x.1.isNumber = false := by simp_all [Token.isOrdered]
    simp [accounts.numbers, noNumber]
  behind := accounts.behind

/-- Whatever comes in is accounted for afterwards, if it stands behind all that has been read. -/
theorem step {x : Token × Nat} {t' : Tracked} (accounts : Accounts read t)
    (last : ∀ y ∈ read, y.2 < x.2) (stepped : t.step x = .ok t') :
    Accounts (read ++ [x]) t' := by
  obtain ⟨token, place⟩ := x
  cases token with
  | number text =>
      cases stepped
      refine ⟨List.forall_mem_cons.mpr ⟨rfl, accounts.sent⟩, accounts.held,
        accounts.perm_concat (.refl _), ?_, ?_⟩
      · rw [List.reverse_cons, List.filter_append, List.filter_append, accounts.numbers]
      · rw [List.reverse_cons, List.pairwise_append]
        refine ⟨accounts.behind, List.pairwise_singleton _ _, fun y mem z single _ _ => ?_⟩
        rw [List.mem_singleton.mp single]
        exact last y (accounts.mem_read (List.mem_reverse.mp mem))
  | operator op =>
      cases stepped
      exact (accounts.sendWhile (·.isTighter op) fun _ => Token.isOperator_of_isTighter).hold rfl
  | leftParen =>
      cases stepped
      exact accounts.hold rfl
  | rightParen =>
      have cleared := accounts.sendWhile Token.isOperator fun _ leave => leave
      simp only [Tracked.step] at stepped
      split at stepped
      · cases stepped
      · next top rest below =>
          cases stepped
          -- What stopped the operators from leaving is no operator, and no number is held back.
          have stays : top.1.isOperator = false := leaves_eq_false below
          have noNumber := cleared.held top (below ▸ List.mem_cons_self)
          exact cleared.release below rfl (by simp [Token.isOrdered, stays, noNumber])
  | foreign object => cases stepped

/-- At the end only operators are held back, and then all that has been read is sent out. -/
theorem flush {placed : List (Token × Nat)} (accounts : Accounts read t)
    (flushed : t.flush = .ok placed) : Accounts read ⟨placed.reverse, []⟩ := by
  have cleared := accounts.sendWhile Token.isOperator fun _ leave => leave
  simp only [Tracked.flush] at flushed
  split at flushed
  · next none =>
      cases flushed
      rw [List.reverse_reverse, ← none]
      exact cleared
  · cases flushed

end Accounts

/-- Places in a list increase. -/
theorem pairwise_zipIdx (tokens : List Token) :
    tokens.zipIdx.Pairwise fun x y => x.2 < y.2 := by
  rw [List.pairwise_iff_getElem]
  intro i j _ _ lt
  simpa using lt

/-- All that is read without a fault is accounted for. -/
theorem accounts_of_foldlM {tokens : List Token} {t : Tracked}
    (run : tokens.zipIdx.foldlM step ⟨[], []⟩ = .ok t) : Accounts tokens.zipIdx t := by
  -- The invariant needs that places increase, so this goes along with it.
  refine foldlM_ok_induction (fun read t => (read.Pairwise fun x y => x.2 < y.2) → Accounts read t)
    ?_ ?_ run (pairwise_zipIdx tokens)
  · intro _
    exact ⟨by simp, by simp, .refl _, rfl, .nil⟩
  · intro read t x t' accounts stepped increasing
    obtain ⟨front, -, last⟩ := List.pairwise_append.mp increasing
    exact (accounts front).step (fun y mem => last y mem x List.mem_cons_self) stepped

/-- In postfix order all that has been read is accounted for. -/
theorem accounts_of_run {tokens : List Token} {placed : List (Token × Nat)}
    (converted : run tokens = .ok placed) : Accounts tokens.zipIdx ⟨placed.reverse, []⟩ := by
  rw [run, except_bind_eq_ok_iff] at converted
  obtain ⟨t, read, flushed⟩ := converted
  exact (accounts_of_foldlM read).flush flushed

end Tracked

/-- The places may be left away before or after a choice among the tokens. -/
theorem filter_map_fst (p : Token → Bool) (xs : List (Token × Nat)) :
    (xs.map Prod.fst).filter p = (xs.filter (p ·.1)).map Prod.fst := by
  rw [List.filter_map]
  rfl

/-- Whatever its shape, a list that is converted comes out whole: its numbers in the same order, its
operators in some order, and nothing else. This is so for the occurrences of the tokens. Where each
of them goes is told by their places, and an occurrence of an operator comes out behind all the
numbers that stand before it. -/
theorem toPostfix_conserves {tokens ordered : List Token}
    (converted : toPostfix tokens = .ok ordered) :
    ordered.filter Token.isNumber = tokens.filter Token.isNumber ∧
    (ordered.filter Token.isOperator).Perm (tokens.filter Token.isOperator) ∧
    (∀ token ∈ ordered, token.isNumber = true ∨ token.isOperator = true) ∧
    ∃ placed, Tracked.run tokens = .ok placed ∧ placed.map Prod.fst = ordered ∧
      placed.filter (·.1.isNumber) = tokens.zipIdx.filter (·.1.isNumber) ∧
      placed.Perm (tokens.zipIdx.filter fun x => x.1.isNumber || x.1.isOperator) ∧
      ∀ op j front rest, placed = front ++ (.operator op, j) :: rest →
        ∀ text i, tokens[i]? = some (.number text) → i < j → (.number text, i) ∈ front := by
  obtain ⟨placed, converted', rfl⟩ := Tracked.exists_run converted
  have accounts := Tracked.accounts_of_run converted'
  -- Nothing but numbers and operators is sent out, so no filter takes anything away.
  have plain : ∀ x ∈ placed, x.1.isOrdered = true := fun x mem =>
    accounts.sent x (List.mem_reverse.mpr mem)
  have numbers := accounts.numbers
  have all : placed.Perm (tokens.zipIdx.filter (·.1.isOrdered)) := by
    have kept := accounts.all
    rw [List.append_nil, List.filter_reverse, List.filter_eq_self.mpr plain] at kept
    exact (List.reverse_perm placed).symm.trans kept
  have behind := accounts.behind
  rw [List.reverse_reverse] at numbers behind
  refine ⟨?_, ?_, ?_, placed, converted', rfl, numbers, all, ?_⟩
  · rw [filter_map_fst, numbers, ← filter_map_fst, List.zipIdx_map_fst]
  · -- Operators are among what is kept, so choosing twice is choosing once.
    have operators : (tokens.filter Token.isOrdered).filter Token.isOperator
        = tokens.filter Token.isOperator := by
      rw [List.filter_filter]
      refine List.filter_congr fun token _ => ?_
      cases token <;> rfl
    have kept := (all.map Prod.fst).filter Token.isOperator
    rwa [← filter_map_fst, List.zipIdx_map_fst, operators] at kept
  · intro token mem
    obtain ⟨x, member, rfl⟩ := List.mem_map.mp mem
    exact Bool.or_eq_true_iff.mp (plain x member)
  · intro op j front rest split text i here lt
    have mem : (Token.number text, i) ∈ placed :=
      all.mem_iff.mpr (List.mem_filter.mpr ⟨List.mk_mem_zipIdx_iff_getElem?.mpr here, rfl⟩)
    rw [split] at mem behind
    rcases List.mem_append.mp mem with before | after
    · exact before
    · -- A number behind the operator would have been read behind it.
      rcases List.mem_cons.mp after with same | after
      · cases same
      · have later : j < i :=
          (List.pairwise_cons.mp (List.pairwise_append.mp behind).2.1).1 _ after rfl rfl
        omega

/-- Neither operator of `+ ( 1 - ) 2` has both operands beside it, and still the list comes out
whole: the `+`, which is read first, is the last to come out. -/
theorem toPostfix_conserves_operator_first :
    toPostfix [.operator .add, .leftParen, .number "1", .operator .subtract, .rightParen,
        .number "2"]
      = .ok [.number "1", .operator .subtract, .number "2", .operator .add] ∧
    Tracked.run [.operator .add, .leftParen, .number "1", .operator .subtract, .rightParen,
        .number "2"]
      = .ok [(.number "1", 2), (.operator .subtract, 3), (.number "2", 5), (.operator .add, 0)] ∧
    [(Token.number "1", 2), (.operator .subtract, 3), (.number "2", 5), (.operator .add, 0)].Perm
      [(.operator .add, 0), (.number "1", 2), (.operator .subtract, 3), (.number "2", 5)] := by
  have converted : toPostfix [.operator .add, .leftParen, .number "1", .operator .subtract,
      .rightParen, .number "2"]
      = .ok [.number "1", .operator .subtract, .number "2", .operator .add] := by
    rfl
  obtain ⟨-, -, -, placed, tracked, -, -, all, -⟩ := toPostfix_conserves converted
  cases tracked
  exact ⟨converted, rfl, all⟩

end InfixCalc
