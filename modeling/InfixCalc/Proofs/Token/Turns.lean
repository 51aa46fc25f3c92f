import InfixCalc.Proofs.Token.Stop

/-!
# `InfixCalc.Proofs.Token.Turns`: reading a line turn by turn

A scan goes over a line in turns. In each turn it matches the lexeme in front, makes a token of its
named parts and goes on behind it. `Turns` says what some turns, not necessarily all that can be
made, have read and what they have left.

Two facts about one turn are all there is to know about the loop. A turn leaves less than it found,
so a line of `n` characters is read in `n` turns at most (`Turns.length_add_le`). And what a turn
takes off is the text of its token, behind which the scan of the line is that of what is left
(`spelled_and_scan_of_lexeme?`). By induction the tokens of any turns are the first ones of the scan
(`Turns.scan_eq`), and the scan itself is turns that cannot be continued (`exists_turns`).

`scan_reads` says where and why these stop, for every line: white space and foreign characters are
characters like any other here, and it is only a line without them that `tokenize` hands over as it
is.
-/

set_option autoImplicit false

namespace InfixCalc

open Text

/-! ### Turns -/

/-- Turns that read tokens from the front of some characters and leave the rest. -/
inductive Turns : List Char → List Token → List Char → Prop where
  | none (chars : List Char) : Turns chars [] chars
  | turn {chars next rest : List Char} {parts : List (String × String)} {token : Token}
    {tokens : List Token} (matched : lexeme? chars = some (parts, next))
    (made : Token.ofParts parts = .ok token) (later : Turns next tokens rest) :
    Turns chars (token :: tokens) rest

/-- Each turn takes a character at least, so there are no more turns than characters. -/
theorem Turns.length_add_le {chars rest : List Char} {tokens : List Token}
    (turns : Turns chars tokens rest) : tokens.length + rest.length ≤ chars.length := by
  induction turns with
  | none chars => simp
  | turn matched _ _ ih =>
      have shorter := length_lt_of_lexeme? matched
      simp only [List.length_cons]
      omega

/-- What a turn takes off is the text of its token, and a scan goes on with what is left. -/
theorem spelled_and_scan_of_lexeme? {chars next : List Char} {parts : List (String × String)}
    {token : Token} (matched : lexeme? chars = some (parts, next))
    (made : Token.ofParts parts = .ok token) :
    chars = token.text.toList ++ next ∧ scan chars = (scan next).cons token := by
  cases chars with
  | nil => cases matched
  | cons c rest =>
      by_cases isNumeral : isNumeralChar c = true
      · rw [lexeme?_of_isNumeralChar isNumeral] at matched
        cases matched
        rw [ofParts_number] at made
        cases numeral : Token.ofNumeral (String.ofList (c :: rest.takeWhile isNumeralChar)) with
        | error e =>
            rw [numeral] at made
            cases made
        | ok numeralToken =>
            rw [numeral] at made
            cases made
            rw [scan, if_pos isNumeral, numeral]
            obtain ⟨-, rfl⟩ := Token.ofNumeral_eq_ok_iff.mp numeral
            simp [Token.text]
      · cases single : Token.ofChar? c with
        | none =>
            rw [lexeme?_of_ofChar?_eq_none (eq_false_of_ne_true isNumeral) single] at matched
            cases matched
        | some other =>
            -- The parts of a lexeme of one character make the token of this character.
            obtain ⟨parts', matched', made'⟩ := lexeme?_of_ofChar? single rest
            cases matched'.symm.trans matched
            cases made'.symm.trans made
            rw [scan_cons_of_ofChar? single, (Token.of_ofChar? single).1]
            exact ⟨rfl, rfl⟩

/-- The tokens of some turns are the first ones of the scan, which goes on with what they left. -/
theorem Turns.scan_eq {chars rest : List Char} {tokens : List Token}
    (turns : Turns chars tokens rest) :
    scan chars = ⟨tokens ++ (scan rest).tokens, (scan rest).stopped⟩ := by
  induction turns with
  | none chars => rfl
  | turn matched made _ ih =>
      rw [(spelled_and_scan_of_lexeme? matched made).2, ih]
      rfl

/-- What some turns have read are the texts of their tokens. -/
theorem Turns.spelled {chars rest : List Char} {tokens : List Token}
    (turns : Turns chars tokens rest) : chars = tokens.flatMap (·.text.toList) ++ rest := by
  induction turns with
  | none chars => rfl
  | turn matched made _ ih =>
      rw [(spelled_and_scan_of_lexeme? matched made).1, List.flatMap_cons, List.append_assoc, ← ih]

/-- The tokens of a scan are read in turns. -/
theorem exists_turns (chars : List Char) : ∃ rest, Turns chars (scan chars).tokens rest := by
  -- Where the scan reads a token, the lexeme there makes the same token, and a turn is made of it.
  fun_induction scan chars with
  | case1 => exact ⟨[], .none []⟩
  | case2 c rest isNumeral token made ih =>
      obtain ⟨left, turns⟩ := ih
      have parts : Token.ofParts
          [("number", String.ofList (c :: rest.takeWhile isNumeralChar))] = .ok token := by
        rw [ofParts_number, made]
        rfl
      exact ⟨left, .turn (lexeme?_of_isNumeralChar isNumeral rest) parts turns⟩
  | case3 c rest => exact ⟨c :: rest, .none _⟩
  | case4 c rest _ token made ih =>
      obtain ⟨left, turns⟩ := ih
      obtain ⟨parts, matched, same⟩ := lexeme?_of_ofChar? made rest
      exact ⟨left, .turn matched same turns⟩
  | case5 c rest => exact ⟨c :: rest, .none _⟩

/-! ### Where they stop -/

/-- A scan reads its line in turns up to a place where it stops for a reason, and at this place no
run of digits and points is cut. -/
theorem exists_turns_stopsAt (chars : List Char) :
    ∃ rest, Turns chars (scan chars).tokens rest ∧
      Apart ((scan chars).tokens.flatMap (·.text.toList)) rest ∧
      StopsAt rest (scan chars).stopped := by
  obtain ⟨rest, turns⟩ := exists_turns chars
  obtain ⟨rest', split, apart, stops⟩ := exists_rest_of_scan chars
  -- Both rests are behind the same texts.
  obtain rfl : rest = rest' := List.append_cancel_left (turns.spelled.symm.trans split)
  exact ⟨rest, turns, apart, stops⟩

section Stops

variable {front rest : List Char} {stopped : Option CalcError}

/-- Nothing is at fault exactly if nothing is left. -/
theorem StopsAt.eq_none_iff (stops : StopsAt rest stopped) : stopped = none ↔ rest = [] := by
  cases stops with
  | finished => simp
  | malformed nonempty => simp [nonempty]
  | unreadable => simp

/-- A character that expressions are not typed with cannot be read, whatever follows it. -/
theorem stopped_unreadable {c : Char} (foreign : c ∉ grammarChars) (after : List Char) :
    (scan (c :: after)).stopped = some (.unreadable (String.ofList (c :: after))) := by
  have other : isNumeralChar c = false ∧ Token.ofChar? c = none := by
    simpa [mem_grammarChars_iff] using foreign
  rw [scan, if_neg (by simp [other.1]), other.2]

/-- Where a scan has stopped, another one that begins there stops at once and for the same
reason. -/
theorem StopsAt.stopped_eq (stops : StopsAt rest stopped) : (scan rest).stopped = stopped := by
  cases stops with
  | finished => rw [scan]
  | malformed nonempty isNumeral ends many => exact stopped_malformed nonempty isNumeral ends many
  | @unreadable c after noNumeral noToken =>
      refine stopped_unreadable ?_ after
      rw [mem_grammarChars_iff]
      simp [noNumeral, noToken]

/-- A scan stops at a character that expressions are not typed with, and tells the rest from there
on, or at a run with two points or more that is as long as it can be, and tells this run. -/
theorem StopsAt.eq_some_iff (stops : StopsAt rest stopped) (apart : Apart front rest)
    {e : CalcError} :
    stopped = some e ↔
      ((∃ c ∈ rest.head?, c ∉ grammarChars) ∧ e = .unreadable (String.ofList rest)) ∨
      ∃ run after, IsRunIn (front ++ rest) front run after ∧ 1 < run.count '.' ∧
        e = .manyPoints (String.ofList run) := by
  constructor
  · rintro rfl
    cases stops with
    | @malformed run after nonempty isNumeral ends many =>
        refine .inr ⟨run, after, ⟨rfl, nonempty, isNumeral, fun c last => ?_, ends⟩, many, rfl⟩
        -- The run does not begin earlier, since it is not cut from a digit or point before it.
        obtain ⟨d, run, rfl⟩ := List.exists_cons_of_ne_nil nonempty
        exact eq_false_of_ne_true fun isNumeral' =>
          apart c last d rfl ⟨isNumeral', isNumeral d List.mem_cons_self⟩
    | @unreadable c after noNumeral noToken =>
        refine .inl ⟨⟨c, rfl, ?_⟩, rfl⟩
        rw [mem_grammarChars_iff]
        simp [noNumeral, noToken]
  · rw [← stops.stopped_eq]
    rintro (⟨⟨c, head, foreign⟩, rfl⟩ | ⟨run, after, isRun, many, rfl⟩)
    · obtain ⟨after, rfl⟩ := List.head?_eq_some_iff.mp head
      exact stopped_unreadable foreign after
    · rw [List.append_cancel_left isRun.whole]
      exact stopped_malformed isRun.nonempty isRun.isNumeral isRun.ends many

end Stops

/-- A line without white space and foreign characters is scanned as it is. -/
theorem tokenize_eq_scan {line : String}
    (plain : ∀ c ∈ line.toList, isSpace c = false ∧ ¬ IsForeign c) :
    tokenize line = (scan line.toList).all := by
  have whole : visible line = line.toList :=
    List.filter_eq_self.mpr fun c mem => by simp [(plain c mem).1]
  have allowed : line.toList.find? (!isAllowed ·) = none := by
    rw [List.find?_eq_none]
    intro c mem
    simpa [isForeign_iff] using (plain c mem).2
  rw [tokenize_eq, whole, allowed]

/-- How a scan of any line ends, white space and foreign characters included. It reads the line in
turns, each of which takes a character at least, and however many turns are made, their tokens are
the first ones of the scan. So it comes to an end. The texts of its tokens are the line up to the
place where it stops.

It does not stop before the end of the line without a reason. It refuses a character exactly if the
next one is no digit, point, operator or parenthesis, and tells the unread rest of the line; it
refuses a numeral exactly if a run of digits and points begins there that has two points or more and
is as long as it can be, and tells the whole run. A line without white space and foreign characters
is cut into the same tokens, or refused for the same reason. -/
theorem scan_reads (line : String) :
    ∃ rest, Turns line.toList (scan line.toList).tokens rest ∧
      (∀ tokens left, Turns line.toList tokens left →
        tokens.length + left.length ≤ line.toList.length ∧
        tokens <+: (scan line.toList).tokens) ∧
      line.toList = (Token.spelled (scan line.toList).tokens).toList ++ rest ∧
      ((scan line.toList).stopped = none ↔ rest = []) ∧
      ((∃ e, (scan line.toList).stopped = some e ∧ e.kind = .invalidCharacter) ↔
        ∃ c ∈ rest.head?, c ∉ grammarChars) ∧
      ((∃ e, (scan line.toList).stopped = some e ∧ e.kind = .invalidNumber) ↔
        ∃ run after,
          IsRunIn line.toList (Token.spelled (scan line.toList).tokens).toList run after ∧
            1 < run.count '.') ∧
      (∀ e, (scan line.toList).stopped = some e →
        e.notice = ⟨.invalidCharacter, "Couldn't lex " ++ String.ofList rest, none⟩ ∨
        ∃ run after,
          IsRunIn line.toList (Token.spelled (scan line.toList).tokens).toList run after ∧
            e.notice = ⟨.invalidNumber, "Invalid number " ++ String.ofList run, none⟩) ∧
      ((∀ c ∈ line.toList, isSpace c = false ∧ ¬ IsForeign c) →
        tokenize line = (scan line.toList).all) := by
  obtain ⟨rest, turns, apart, stops⟩ := exists_turns_stopsAt line.toList
  have split := turns.spelled
  have reasons (e : CalcError) := stops.eq_some_iff apart (e := e)
  rw [← split] at reasons
  rw [Token.toList_spelled]
  refine ⟨rest, turns, fun tokens left turns' => ⟨turns'.length_add_le, ?_⟩, split,
    stops.eq_none_iff, ?_, ?_, ?_, tokenize_eq_scan⟩
  · rw [turns'.scan_eq]
    exact List.prefix_append _ _
  · constructor
    · rintro ⟨e, stopped, kind⟩
      rcases (reasons e).mp stopped with ⟨foreign, -⟩ | ⟨run, after, isRun, many, rfl⟩
      · exact foreign
      · cases kind
    · intro foreign
      exact ⟨_, (reasons _).mpr (.inl ⟨foreign, rfl⟩), rfl⟩
  · constructor
    · rintro ⟨e, stopped, kind⟩
      rcases (reasons e).mp stopped with ⟨-, rfl⟩ | ⟨run, after, isRun, many, -⟩
      · cases kind
      · exact ⟨run, after, isRun, many⟩
    · rintro ⟨run, after, isRun, many⟩
      exact ⟨_, (reasons _).mpr (.inr ⟨run, after, isRun, many, rfl⟩), rfl⟩
  · intro e stopped
    rcases (reasons e).mp stopped with ⟨-, rfl⟩ | ⟨run, after, isRun, -, rfl⟩
    · exact .inl rfl
    · exact .inr ⟨run, after, isRun, rfl⟩

/-- Between operators a numeral with two points stops the scan, and the parenthesis behind it is
not read any more. -/
theorem scan_reads_two_points :
    (scan "8/1.2.3)".toList).tokens = [.number "8", .operator .divide] ∧
    ("8/1.2.3)".toList).length = 8 ∧
    (∀ tokens left, Turns "8/1.2.3)".toList tokens left → tokens.length + left.length ≤ 8) ∧
    (∃ e, (scan "8/1.2.3)".toList).stopped = some e ∧ e.kind = .invalidNumber) ∧
    tokenize "8/1.2.3)" = (scan "8/1.2.3)".toList).all := by
  have tokens : (scan "8/1.2.3)".toList).tokens = [.number "8", .operator .divide] := by
    with_unfolding_all rfl
  have numerals : "1.2.3".toList.all isNumeralChar = true := by decide
  have plain : "8/1.2.3)".toList.all (fun c => !isSpace c && !decide (IsForeign c)) = true := by
    decide
  obtain ⟨rest, -, turns, -, -, -, number, -, agrees⟩ := scan_reads "8/1.2.3)"
  refine ⟨tokens, by decide, fun tokens left made => (turns tokens left made).1, ?_, ?_⟩
  · refine number.mpr ⟨"1.2.3".toList, [')'], ⟨?_, by decide, ?_, ?_, ?_⟩, by decide⟩
    · rw [tokens]
      decide
    · exact List.all_eq_true.mp numerals
    · rw [tokens]
      intro c last
      cases last
      rfl
    · intro c head
      cases head
      rfl
  · exact agrees fun c mem => by simpa using List.all_eq_true.mp plain c mem

end InfixCalc
