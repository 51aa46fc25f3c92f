import InfixCalc.Proofs.Evaluation
import InfixCalc.Proofs.Token.Spelling
import InfixCalc.Token.Lexeme

/-!
# `InfixCalc.Proofs.Evaluation.Partial`: evaluation out of operations that can fail

The stages of an evaluation are written so that most operations cannot fail: an operator token holds
an operator, the machine takes its two operands by their place on the stack, and doubles are divided
by a total function. This module spells the same evaluation out of operations that know less and may
fail for it:

- a lexeme is matched as named parts, and a token is made of the parts, if they name one;
- an operator is known by its symbol, and looked up when it is needed;
- operands are taken off the stack as a list, which has to be taken apart into two;
- double arithmetic refuses to divide by zero.

`evaluatePartially_eq` is the main statement: this is the same evaluation. So the guards in front of
these operations are enough, and none of them fails of its own accord.
-/

set_option autoImplicit false

namespace InfixCalc

open Text

/-- How an operation can fail. -/
inductive Failure where
  /-- Through a fault of the expression. -/
  | user (e : CalcError)
  /-- Through a symbol that no operator has. -/
  | misuse (e : Misuse)
  /-- Through a list that is to be taken apart into two values and does not have two. -/
  | notTwo
  /-- Through a division by zero that was not refused. -/
  | zeroDivisor

/-! ### Lexemes by their named parts -/

/-- The named parts of the lexeme in front of the characters, and what follows it. -/
def lexeme? : List Char → Option (List (String × String) × List Char)
  | [] => none
  | c :: rest =>
    if isNumeralChar c then
      some ([("number", String.ofList (c :: rest.takeWhile isNumeralChar))],
        rest.dropWhile isNumeralChar)
    else if c ∈ Operator.all.map Operator.char then
      some ([("operator", String.singleton c)], rest)
    else if c = '(' then some ([("left", "(")], rest)
    else if c = ')' then some ([("right", ")")], rest)
    else none

/-- A lexeme is never empty. -/
theorem length_lt_of_lexeme? {chars rest : List Char} {parts : List (String × String)}
    (matched : lexeme? chars = some (parts, rest)) : rest.length < chars.length := by
  cases chars with
  | nil => cases matched
  | cons c tail =>
      have shorter : (tail.dropWhile isNumeralChar).length ≤ tail.length :=
        (List.dropWhile_sublist _).length_le
      -- What follows is the tail, or the tail without the numeral's other characters.
      grind [lexeme?]

def LexemeError.failure : LexemeError → Failure
  | .user e => .user e
  | .caller e => .misuse e

/-- Reads the characters lexeme by lexeme. -/
def scanLexemes (chars : List Char) : Except Failure (List Token) :=
  if chars.isEmpty then .ok []
  else
    match _matched : lexeme? chars with
    | none => .error (.user (.unreadable (String.ofList chars)))
    | some (parts, rest) => do
      let token ← (Token.ofParts parts).mapError LexemeError.failure
      let tokens ← scanLexemes rest
      .ok (token :: tokens)
termination_by chars.length
decreasing_by exact length_lt_of_lexeme? _matched

/-- The tokens of a typed line, read lexeme by lexeme. -/
def tokenizePartially (line : String) : Except Failure (List Token) :=
  match line.toList.find? (!isAllowed ·) with
  | some c => .error (.user (.foreignCharacter c))
  | none => scanLexemes (visible line)

/-! ### The machine by symbols -/

/-- The value of the operator with the given symbol, as double arithmetic gives it. -/
def valueOfSymbol (symbol : String) (left right : Float) : Except Failure Float :=
  match Operator.ofSymbol? symbol with
  | none => .error (.misuse (.noSuchSymbol symbol))
  | some op =>
    if op = .divide && right == 0 then .error .zeroDivisor else .ok (op.apply left right)

/-- Applies the operator with the given symbol to two values from the stack. -/
def applyPartially (symbol : String) (stack : Stack) : Except Failure Stack := do
  let (values, rest) ← (Machine.pop 2 stack).mapError Failure.user
  match values with
  | [right, left] =>
    if symbol = "/" && right == 0 then .error (.user (.divisionByZero left right))
    else do
      let v ← valueOfSymbol symbol left right
      .ok (v :: rest)
  | _ => .error .notTwo

/-- Takes in one token. -/
def feedPartially (stack : Stack) : Token → Except Failure Stack
  | .number text => ((numeralValue text).map (· :: stack)).mapError Failure.user
  | .operator op => applyPartially op.symbol stack
  | token => .error (.user (.unrunnable token))

/-- The value of tokens in postfix order. -/
def evaluatePostfixPartially (tokens : List Token) : Except Failure Float := do
  let stack ← tokens.foldlM feedPartially []
  (Machine.result stack).mapError Failure.user

/-- The value of a line. -/
def evaluatePartially (line : String) : Except Failure Float := do
  let tokens ← tokenizePartially line
  let ordered ← (toPostfix tokens).mapError Failure.user
  evaluatePostfixPartially ordered

/-! ### Scanning by lexemes is scanning -/

/-- At a character of numerals the lexeme is the longest numeral that begins there. -/
theorem lexeme?_of_isNumeralChar {c : Char} (isNumeral : isNumeralChar c = true)
    (rest : List Char) :
    lexeme? (c :: rest) = some ([("number", String.ofList (c :: rest.takeWhile isNumeralChar))],
      rest.dropWhile isNumeralChar) := by
  rw [lexeme?, if_pos isNumeral]

/-- The parts of a numeral make what the numeral makes. -/
theorem ofParts_number (numeral : String) :
    Token.ofParts [("number", numeral)] = (Token.ofNumeral numeral).mapError .user := by
  simp only [Token.ofParts, List.lookup_cons, List.lookup_nil]
  rfl

/-- A character that makes a token by itself is a lexeme, and its part makes the same token. -/
theorem lexeme?_of_ofChar? {c : Char} {token : Token} (made : Token.ofChar? c = some token)
    (rest : List Char) :
    ∃ parts, lexeme? (c :: rest) = some (parts, rest) ∧ Token.ofParts parts = .ok token := by
  have noNumeral := (Token.of_ofChar? made).2.2.1
  unfold Token.ofChar? at made
  split at made <;> cases made
  · exact ⟨[("operator", "+")], rfl, rfl⟩
  · exact ⟨[("operator", "-")], rfl, rfl⟩
  · exact ⟨[("operator", "*")], rfl, rfl⟩
  · exact ⟨[("operator", "/")], rfl, rfl⟩
  · exact ⟨[("left", "(")], rfl, rfl⟩
  · exact ⟨[("right", ")")], rfl, rfl⟩

/-- A character that makes no token and is no numeral's begins no lexeme. -/
theorem lexeme?_of_ofChar?_eq_none {c : Char} (noNumeral : isNumeralChar c = false)
    (none : Token.ofChar? c = none) (rest : List Char) : lexeme? (c :: rest) = .none := by
  unfold Token.ofChar? at none
  split at none <;> simp_all [lexeme?, Operator.all, Operator.char]

/-- A lexeme is made a token, and the scan goes on behind it. -/
theorem scanLexemes_of_lexeme? {chars rest : List Char} {parts : List (String × String)}
    (matched : lexeme? chars = some (parts, rest)) :
    scanLexemes chars
      = (Token.ofParts parts).mapError LexemeError.failure >>= fun token =>
        scanLexemes rest >>= fun tokens => .ok (token :: tokens) := by
  cases chars with
  | nil => cases matched
  | cons c tail =>
      rw [scanLexemes, if_neg (by simp)]
      -- The scan asks for the lexeme once more, and it is the one at hand.
      split
      · next other => cases other.symm.trans matched
      · next other =>
          cases other.symm.trans matched
          rfl

/-- Where no lexeme begins the scan stops, and tells the rest of the line. -/
theorem scanLexemes_of_lexeme?_eq_none {c : Char} {rest : List Char}
    (none : lexeme? (c :: rest) = none) :
    scanLexemes (c :: rest) = .error (.user (.unreadable (String.ofList (c :: rest)))) := by
  rw [scanLexemes, if_neg (by simp)]
  split
  · rfl
  · next other => cases other.symm.trans none

/-- What a scan with one more token in front comes to. -/
theorem all_cons (token : Token) (s : Scan) :
    (s.cons token).all.mapError Failure.user
      = s.all.mapError Failure.user >>= fun tokens => .ok (token :: tokens) := by
  cases s with
  | mk tokens stopped => cases stopped <;> rfl

/-- Reading lexeme by lexeme is scanning. -/
theorem scanLexemes_eq (chars : List Char) :
    scanLexemes chars = (scan chars).all.mapError Failure.user := by
  -- Both go through the characters in the same steps, so the cases are those of a scan.
  fun_induction scan chars with
  | case1 =>
      rw [scanLexemes]
      rfl
  | case2 c rest isNumeral token made ih =>
      rw [scanLexemes_of_lexeme? (lexeme?_of_isNumeralChar isNumeral rest), ofParts_number, made,
        all_cons, ← ih]
      rfl
  | case3 c rest isNumeral e failed =>
      rw [scanLexemes_of_lexeme? (lexeme?_of_isNumeralChar isNumeral rest), ofParts_number, failed]
      rfl
  | case4 c rest _ token made ih =>
      obtain ⟨parts, matched, same⟩ := lexeme?_of_ofChar? made rest
      rw [scanLexemes_of_lexeme? matched, same, all_cons, ← ih]
      rfl
  | case5 c rest noNumeral none =>
      rw [scanLexemes_of_lexeme?_eq_none
        (lexeme?_of_ofChar?_eq_none (eq_false_of_ne_true noNumeral) none rest)]
      rfl

/-- Cutting a line into tokens by lexemes fails only where the line is at fault: what is scanned is
allowed, so there is always a lexeme, and its parts name a token. -/
theorem tokenizePartially_eq (line : String) :
    tokenizePartially line = (tokenize line).mapError Failure.user := by
  rw [tokenizePartially, tokenize]
  cases line.toList.find? (!isAllowed ·) with
  | some c => rfl
  | none => exact scanLexemes_eq _

/-! ### Running by symbols is running -/

/-- An operator's symbol is found, two values are there once there are enough, and no division by
zero is left to refuse. -/
theorem applyPartially_eq (op : Operator) (stack : Stack) :
    applyPartially op.symbol stack
      = (Machine.apply op stack).mapError fun halt => Failure.user halt.error := by
  match stack with
  | [] => rfl
  | [_] => rfl
  | right :: left :: rest =>
      have popped : Machine.pop 2 (right :: left :: rest) = .ok ([right, left], rest) := by
        rw [Machine.pop, if_neg (by simp only [List.length_cons]; omega)]
        rfl
      have isDivide : decide (op.symbol = "/") = decide (op = .divide) := by
        cases op <;> rfl
      rw [applyPartially, popped, Machine.apply_cons_cons]
      show (if op.symbol = "/" && right == 0 then _ else valueOfSymbol op.symbol left right >>= _)
        = _
      -- The guard of the machine and that of double arithmetic are the same test.
      rw [isDivide, valueOfSymbol, Operator.ofSymbol?_symbol, Operator.value]
      dsimp only
      cases decide (op = .divide) && right == 0 <;> rfl

/-- Taking in a token fails only where the token is at fault. -/
theorem feedPartially_eq (stack : Stack) (token : Token) :
    feedPartially stack token
      = (Machine.feed stack token).mapError fun halt => Failure.user halt.error := by
  cases token with
  | number text =>
      simp only [feedPartially, Machine.feed]
      cases numeralValue text <;> rfl
  | operator op => exact applyPartially_eq op stack
  | leftParen => rfl
  | rightParen => rfl
  | foreign object => rfl

/-- So does a whole run, since the machine asks for its one value only when there is one. -/
theorem evaluatePostfixPartially_eq (tokens : List Token) :
    evaluatePostfixPartially tokens = (evaluatePostfix tokens).mapError Failure.user := by
  rw [evaluatePostfixPartially, evaluatePostfix, Machine.run,
    foldlM_mapError feedPartially_eq]
  cases tokens.foldlM Machine.feed [] with
  | error halt => rfl
  | ok stack =>
      show (Machine.result stack).mapError Failure.user = _
      simp only [except_ok_bind]
      cases Machine.result stack <;> rfl

/-- Evaluation out of operations that can fail is evaluation: all that ever comes out is a value or
a fault of the expression. -/
theorem evaluatePartially_eq (line : String) :
    evaluatePartially line = (evaluate line).mapError Failure.user := by
  rw [evaluate_eq_bind, evaluatePartially, tokenizePartially_eq]
  cases tokenize line with
  | error e => rfl
  | ok tokens =>
      show ((toPostfix tokens).mapError Failure.user >>= evaluatePostfixPartially) = _
      rw [except_ok_bind]
      cases toPostfix tokens with
      | error e => rfl
      | ok ordered => exact evaluatePostfixPartially_eq ordered

end InfixCalc
