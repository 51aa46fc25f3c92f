import InfixCalc.Proofs.Expr
import InfixCalc.Proofs.Token.Typed
import Mathlib.Data.List.Chain

/-!
# `InfixCalc.Proofs.Token.Spelling`: lines and the tokens that spell them

Cutting a line into tokens and writing the texts of tokens one after the other undo each other, but
for white space. The main statements:

* `tokenize_eq_ok_iff`: a line has exactly the tokens that are a row (`IsRow`) and that spell its
  visible characters (`visible`).
* `tokenize_spelled`: a row is what its own texts are cut into.

A row is a list of tokens as lines have them: every token can be typed, and no two numerals are
neighbours. Two neighbouring numerals would be typed as one, so nothing else must be asked of a row.
-/

set_option autoImplicit false

namespace InfixCalc

open Text

/-- The characters of a line that are not white space. -/
def visible (line : String) : List Char :=
  line.toList.filter (!isSpace ·)

/-- The visible characters of two lines, one behind the other. -/
theorem visible_append (line other : String) :
    visible (line ++ other) = visible line ++ visible other := by
  simp [visible]

namespace Token

/-- The texts of the tokens, one after the other. -/
def spelled (tokens : List Token) : String :=
  String.join (tokens.map text)

/-- The characters of tokens that are spelled are those of their texts. -/
@[simp] theorem toList_spelled (tokens : List Token) :
    (spelled tokens).toList = tokens.flatMap (·.text.toList) := by
  rw [spelled, String.toList_join, List.flatMap_map]

end Token

/-- The tokens are a row as lines have them. -/
structure IsRow (tokens : List Token) : Prop where
  typed : ∀ token ∈ tokens, token.IsTyped
  apart : tokens.IsChain fun left right => ¬ (left.isNumber = true ∧ right.isNumber = true)

/-- What follows the first token of a row is a row. -/
theorem IsRow.tail {token : Token} {tokens : List Token} (row : IsRow (token :: tokens)) :
    IsRow tokens :=
  ⟨fun other mem => row.typed other (List.mem_cons_of_mem _ mem),
    (List.isChain_cons.mp row.apart).2⟩

/-! ### Tokens of one character -/

/-- A character that makes a token by itself is the token's whole text, and it is neither a
numeral's nor white space. -/
theorem Token.of_ofChar? {c : Char} {token : Token} (made : ofChar? c = some token) :
    token.text.toList = [c] ∧ token.isNumber = false ∧ isNumeralChar c = false ∧
      isSpace c = false := by
  unfold ofChar? at made
  split at made <;> cases made <;> decide

/-- A token that can be typed and is no numeral has one character, which makes it. -/
theorem Token.exists_ofChar? {token : Token} (typed : token.IsTyped)
    (noNumber : token.isNumber = false) : ∃ c, ofChar? c = some token := by
  cases token with
  | number text => cases noNumber
  | operator op => cases op with
      | add => exact ⟨'+', rfl⟩
      | subtract => exact ⟨'-', rfl⟩
      | multiply => exact ⟨'*', rfl⟩
      | divide => exact ⟨'/', rfl⟩
  | leftParen => exact ⟨'(', rfl⟩
  | rightParen => exact ⟨')', rfl⟩
  | foreign object => exact typed.elim

/-- No character of a token that can be typed is white space, and all are allowed. -/
theorem Token.of_mem_text {token : Token} (typed : token.IsTyped) {c : Char}
    (mem : c ∈ token.text.toList) : isSpace c = false ∧ isAllowed c = true := by
  cases number : token.isNumber with
  | true =>
      cases token with
      | number text =>
          have numeral := Numeral.IsTyped.isNumeral typed c mem
          exact ⟨isSpace_of_isNumeralChar numeral, by simp [isAllowed, numeral]⟩
      | _ => cases number
  | false =>
      obtain ⟨d, made⟩ := exists_ofChar? typed number
      obtain ⟨single, -, -, noSpace⟩ := of_ofChar? made
      rw [single, List.mem_singleton] at mem
      subst mem
      exact ⟨noSpace, by simp [isAllowed, made]⟩

/-! ### What a scan reads -/

/-- A scan that does not stop loses no character and moves none. -/
theorem flatMap_text_of_scan {chars : List Char} (finished : (scan chars).stopped = none) :
    (scan chars).tokens.flatMap (·.text.toList) = chars := by
  fun_induction scan chars with
  | case1 => rfl
  | case2 c rest _ token made ih =>
      obtain ⟨-, rfl⟩ := Token.ofNumeral_eq_ok_iff.mp made
      rw [Scan.cons, List.flatMap_cons, ih finished]
      simp [Token.text]
  | case3 => cases finished
  | case4 c rest _ token made ih =>
      rw [Scan.cons, List.flatMap_cons, ih finished, (Token.of_ofChar? made).1]
      rfl
  | case5 => cases finished

/-- A scan begins with a numeral only where the line does. -/
theorem isNumeralChar_of_head_scan {chars : List Char} {token : Token}
    (first : token ∈ (scan chars).tokens.head?) (number : token.isNumber = true) :
    ∃ c ∈ chars.head?, isNumeralChar c = true := by
  cases chars with
  | nil => simp [scan] at first
  | cons c rest =>
      refine ⟨c, rfl, ?_⟩
      -- A token of one character is no numeral.
      by_contra other
      rw [scan, if_neg other] at first
      split at first
      · next made =>
          cases first
          rw [(Token.of_ofChar? made).2.1] at number
          cases number
      · cases first

/-- No two numerals of a scan are neighbours: a numeral is as long as it can be, so what is read
next begins with another character. -/
theorem apart_scan (chars : List Char) :
    (scan chars).tokens.IsChain
      fun left right => ¬ (left.isNumber = true ∧ right.isNumber = true) := by
  fun_induction scan chars with
  | case1 => exact .nil
  | case2 c rest _ token _ ih =>
      refine List.isChain_cons.mpr ⟨fun next first numbers => ?_, ih⟩
      obtain ⟨d, head, isNumeral⟩ := isNumeralChar_of_head_scan first numbers.2
      -- A numeral takes all digits and points, so what is behind it begins with neither.
      have stop := List.head?_dropWhile_not isNumeralChar rest
      rw [Option.mem_def.mp head] at stop
      exact Bool.noConfusion (isNumeral.symm.trans stop)
  | case3 => exact .nil
  | case4 c rest _ token made ih =>
      refine List.isChain_cons.mpr ⟨fun next _ numbers => ?_, ih⟩
      rw [(Token.of_ofChar? made).2.1] at numbers
      cases numbers.1
  | case5 => exact .nil

/-- A scan reads a row, wherever it stops. -/
theorem isRow_of_scan (chars : List Char) : IsRow (scan chars).tokens :=
  ⟨fun _ mem => isTyped_of_mem_scan mem, apart_scan chars⟩

/-! ### What is read of spelled tokens -/

/-- The characters of a row without a numeral in front do not begin with a numeral's. -/
theorem isNumeralChar_head_flatMap {tokens : List Token} (row : IsRow tokens)
    (noNumber : ∀ token ∈ tokens.head?, token.isNumber = false) :
    ∀ c ∈ (tokens.flatMap (·.text.toList)).head?, isNumeralChar c = false := by
  cases tokens with
  | nil => simp
  | cons token tokens =>
      obtain ⟨c, made⟩ :=
        Token.exists_ofChar? (row.typed token List.mem_cons_self) (noNumber token rfl)
      obtain ⟨single, -, noNumeral, -⟩ := Token.of_ofChar? made
      simp [single, noNumeral]

/-- A run is cut off where its class of characters ends. -/
theorem takeWhile_dropWhile_append {p : Char → Bool} {run rest : List Char}
    (all : ∀ c ∈ run, p c = true) (stop : ∀ c ∈ rest.head?, p c = false) :
    (run ++ rest).takeWhile p = run ∧ (run ++ rest).dropWhile p = rest := by
  rw [List.takeWhile_append_of_pos all, List.dropWhile_append_of_pos all]
  cases rest with
  | nil => simp
  | cons c rest => simp [stop c rfl]

/-- A numeral that can be typed is scanned as one token, if what follows begins with another
character. -/
theorem scan_append_numeral {numeral rest : List Char} (typed : Numeral.IsTyped numeral)
    (stop : ∀ c ∈ rest.head?, isNumeralChar c = false) :
    scan (numeral ++ rest) = (scan rest).cons (.number (String.ofList numeral)) := by
  obtain ⟨nonempty, isNumeral, onePoint⟩ := typed
  have made : Token.ofNumeral (String.ofList numeral) = .ok (.number (String.ofList numeral)) :=
    Token.ofNumeral_eq_ok_iff.mpr ⟨by rwa [String.toList_ofList], rfl⟩
  cases numeral with
  | nil => exact absurd rfl nonempty
  | cons c numeral =>
      obtain ⟨taken, dropped⟩ := takeWhile_dropWhile_append
        (fun d mem => isNumeral d (List.mem_cons_of_mem _ mem)) stop
      rw [List.cons_append, scan, if_pos (isNumeral c List.mem_cons_self), taken, dropped, made]

/-- A character that makes a token by itself is scanned as this token, whatever follows. -/
theorem scan_cons_of_ofChar? {c : Char} {token : Token} (made : Token.ofChar? c = some token)
    (rest : List Char) : scan (c :: rest) = (scan rest).cons token := by
  rw [scan, (Token.of_ofChar? made).2.2.1, made]
  rfl

/-- The characters of a row are scanned into the row. -/
theorem scan_flatMap_text {tokens : List Token} (row : IsRow tokens) :
    scan (tokens.flatMap (·.text.toList)) = ⟨tokens, none⟩ := by
  induction tokens with
  | nil => simp [scan]
  | cons token tokens ih =>
      have typed := row.typed token List.mem_cons_self
      have scanned := ih row.tail
      rw [List.flatMap_cons]
      cases number : token.isNumber with
      | false =>
          obtain ⟨c, made⟩ := Token.exists_ofChar? typed number
          rw [(Token.of_ofChar? made).1, List.singleton_append, scan_cons_of_ofChar? made, scanned]
          rfl
      | true =>
          cases token with
          | number text =>
              -- Behind a numeral comes another token, and its first character is no numeral's.
              have stop := isNumeralChar_head_flatMap row.tail fun next first => by
                simpa [Token.isNumber] using (List.isChain_cons.mp row.apart).1 next first
              rw [Token.text, scan_append_numeral typed stop, scanned, String.ofList_toList]
              rfl
          | _ => cases number

/-! ### Lines -/

/-- The rows that are read are those that are spelled. -/
theorem scan_eq_iff {chars : List Char} {tokens : List Token} :
    scan chars = ⟨tokens, none⟩ ↔ IsRow tokens ∧ tokens.flatMap (·.text.toList) = chars := by
  constructor
  · intro scanned
    have finished : (scan chars).stopped = none := by rw [scanned]
    have row := isRow_of_scan chars
    have spells := flatMap_text_of_scan finished
    rw [scanned] at row spells
    exact ⟨row, spells⟩
  · rintro ⟨row, rfl⟩
    exact scan_flatMap_text row

/-- White space is allowed, so a line is refused for its visible characters only. -/
theorem find?_toList (line : String) :
    line.toList.find? (!isAllowed ·) = (visible line).find? (!isAllowed ·) := by
  rw [visible, List.find?_filter]
  congr
  funext c
  cases space : isSpace c with
  | true => simp [isAllowed, space]
  | false => simp

/-- The tokens of a line are found in its visible characters alone. -/
theorem tokenize_eq (line : String) :
    tokenize line = match (visible line).find? (!isAllowed ·) with
      | some c => .error (.foreignCharacter c)
      | none => (scan (visible line)).all := by
  rw [tokenize, find?_toList]
  rfl

/-- A line has the tokens exactly if they are a row that spells its visible characters. -/
theorem tokenize_eq_ok_iff {line : String} {tokens : List Token} :
    tokenize line = .ok tokens ↔ IsRow tokens ∧ (Token.spelled tokens).toList = visible line := by
  rw [Token.toList_spelled]
  constructor
  · intro scanned
    exact scan_eq_iff.mp (scan_of_tokenize scanned)
  · rintro ⟨row, spells⟩
    -- Tokens of a row have allowed characters only, so none is refused before the scan.
    have allowed : (visible line).find? (!isAllowed ·) = none := by
      rw [List.find?_eq_none, ← spells]
      intro c mem
      obtain ⟨token, member, inText⟩ := List.mem_flatMap.mp mem
      simp [(Token.of_mem_text (row.typed token member) inText).2]
    rw [tokenize_eq, allowed, scan_eq_iff.mpr ⟨row, spells⟩]
    rfl

/-- The texts of a row have no white space among them. -/
theorem IsRow.visible_spelled {tokens : List Token} (row : IsRow tokens) :
    visible (Token.spelled tokens) = (Token.spelled tokens).toList := by
  rw [visible, List.filter_eq_self, Token.toList_spelled]
  intro c mem
  obtain ⟨token, member, inText⟩ := List.mem_flatMap.mp mem
  simp [(Token.of_mem_text (row.typed token member) inText).1]

/-- A row is what its own texts are cut into. -/
theorem tokenize_spelled {tokens : List Token} (row : IsRow tokens) :
    tokenize (Token.spelled tokens) = .ok tokens :=
  tokenize_eq_ok_iff.mpr ⟨row, row.visible_spelled.symm⟩

/-- White space between texts adds no visible character. -/
theorem filter_intercalate {gap : List Char} (blank : ∀ c ∈ gap, isSpace c = true)
    (texts : List (List Char)) :
    (gap.intercalate texts).filter (!isSpace ·) = texts.flatten.filter (!isSpace ·) := by
  have noGap : gap.filter (!isSpace ·) = [] := by
    rw [List.filter_eq_nil_iff]
    intro c mem
    simp [blank c mem]
  induction texts with
  | nil => rfl
  | cons first texts ih =>
      cases texts with
      | nil => simp [List.intercalate]
      | cons second texts =>
          -- The gap stands in front of each text but the first.
          have step : gap.intercalate (first :: second :: texts)
              = first ++ (gap ++ gap.intercalate (second :: texts)) := by
            simp [List.intercalate]
          rw [step, List.filter_append, List.filter_append, noGap, List.nil_append, ih,
            ← List.filter_append, ← List.flatten_cons]

/-- Cutting into tokens and spelling them are inverse to each other. The texts of a line's tokens
are its visible characters, in their order and with nothing between them; and these texts, with
white space between them or spread in any way over a line that holds nothing else, are cut into the
same tokens again. The tokens of lines are the rows, and each row is what its own texts are cut
into. -/
theorem tokenize_inverse_spelled (tokens : List Token) :
    (∀ line, tokenize line = .ok tokens →
      (Token.spelled tokens).toList = visible line ∧
      tokenize (Token.spelled tokens) = .ok tokens ∧
      (∀ gap : String, (∀ c ∈ gap.toList, isSpace c = true) →
        tokenize (gap.intercalate (tokens.map Token.text)) = .ok tokens) ∧
      ∀ spread, visible spread = (Token.spelled tokens).toList → tokenize spread = .ok tokens) ∧
    (IsRow tokens → tokenize (Token.spelled tokens) = .ok tokens) ∧
    ((∃ line, tokenize line = .ok tokens) ↔ IsRow tokens) := by
  refine ⟨fun line scanned => ?_, tokenize_spelled, ?_⟩
  · obtain ⟨row, spells⟩ := tokenize_eq_ok_iff.mp scanned
    have again : ∀ spread, visible spread = (Token.spelled tokens).toList →
        tokenize spread = .ok tokens := fun spread same =>
      tokenize_eq_ok_iff.mpr ⟨row, same.symm⟩
    refine ⟨spells, tokenize_spelled row, fun gap blank => again _ ?_, again⟩
    rw [visible, String.toList_intercalate, filter_intercalate blank, ← row.visible_spelled,
      visible, Token.toList_spelled, List.map_map, List.flatMap_def]
    rfl
  · constructor
    · rintro ⟨line, scanned⟩
      exact (tokenize_eq_ok_iff.mp scanned).1
    · intro row
      exact ⟨_, tokenize_spelled row⟩

/-- The line ` 1 2.*(3`, whose first numeral is typed with a space inside, has the same tokens as
its texts with an ideographic space and a tab between them. -/
theorem tokenize_inverse_spelled_spaces :
    tokenize " 1 2.*(3" = .ok [.number "12.", .operator .multiply, .leftParen, .number "3"] ∧
    tokenize "12.\u3000\t*\u3000\t(\u3000\t3"
      = .ok [.number "12.", .operator .multiply, .leftParen, .number "3"] := by
  have scanned : tokenize " 1 2.*(3"
      = .ok [.number "12.", .operator .multiply, .leftParen, .number "3"] := by
    with_unfolding_all rfl
  have blank : "\u3000\t".toList.all isSpace = true := by decide
  exact ⟨scanned, ((tokenize_inverse_spelled _).1 _ scanned).2.2.1 "\u3000\t"
    (List.all_eq_true.mp blank)⟩

end InfixCalc
