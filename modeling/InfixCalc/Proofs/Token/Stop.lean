import InfixCalc.Proofs.Evaluation.Partial
import Mathlib.Order.Nat

/-!
# `InfixCalc.Proofs.Token.Stop`: where reading a line stops, and why

A scan reads tokens until it comes to the end of its characters or to something that it cannot read.
`StopsAt` says what it can come to, and `exists_rest_of_scan` that what it has read and what it has
come to make up the characters. Where a scan begins again behind a place at which no numeral is cut,
it reads on as if nothing had been before (`scan_append`).

From these two it follows which numeral is refused in a line: of the runs of digits and points that
are as long as they can be (`IsRunIn`), the first one with two points (`stopped_eq_some_iff`). White
space inside a numeral is gone by then. A foreign character is refused before, wherever it stands in
the line.

`tokenize_outcome` puts this together: how every line ends.
-/

set_option autoImplicit false

namespace InfixCalc

open Text

/-! ### What a scan comes to -/

/-- What a scan has come to, and how it tells:

- `finished`: the end of the characters;
- `malformed`: a run of digits and points with two points or more;
- `unreadable`: a character that begins no token. -/
inductive StopsAt : List Char → Option CalcError → Prop where
  | finished : StopsAt [] none
  | malformed {run after : List Char} (nonempty : run ≠ [])
    (isNumeral : ∀ c ∈ run, isNumeralChar c = true)
    (ends : ∀ c ∈ after.head?, isNumeralChar c = false) (many : 1 < run.count '.') :
    StopsAt (run ++ after) (some (.manyPoints (String.ofList run)))
  | unreadable {c : Char} {rest : List Char} (noNumeral : isNumeralChar c = false)
    (noToken : Token.ofChar? c = none) :
    StopsAt (c :: rest) (some (.unreadable (String.ofList (c :: rest))))

/-- No run of digits and points is cut between the two lists. -/
def Apart (front rest : List Char) : Prop :=
  ∀ c ∈ front.getLast?, ∀ d ∈ rest.head?, ¬ (isNumeralChar c = true ∧ isNumeralChar d = true)

/-- A cut depends on what is next to it only. -/
theorem Apart.of_append {front middle rest : List Char} (apart : Apart (front ++ middle) rest) :
    Apart middle rest := by
  intro c last
  exact apart c (by simp [Option.mem_def.mp last])

/-- So what is put in front of a list does not matter, unless the list is empty. -/
theorem Apart.append {front middle rest : List Char} (apart : Apart middle rest)
    (joint : middle = [] → Apart front rest) : Apart (front ++ middle) rest := by
  intro c last d head
  cases empty : middle.getLast? with
  | none =>
      obtain rfl := List.getLast?_eq_none_iff.mp empty
      exact joint rfl c (by simpa using last) d head
  | some e => exact apart c (by simpa [empty] using last) d head

/-- What follows a run that ends does not go on with it. -/
theorem apart_of_head {rest : List Char} (stop : ∀ c ∈ rest.head?, isNumeralChar c = false)
    (front : List Char) : Apart front rest := by
  intro c _ d head numerals
  rw [stop d head] at numerals
  cases numerals.2

/-- What is left behind a run does not go on with it. -/
theorem head_dropWhile_isNumeralChar (chars : List Char) :
    ∀ c ∈ (chars.dropWhile isNumeralChar).head?, isNumeralChar c = false := by
  intro c head
  have stop := List.head?_dropWhile_not isNumeralChar chars
  rw [Option.mem_def.mp head] at stop
  exact stop

/-- The run that begins with a digit or a point has digits and points only. -/
theorem isNumeralChar_of_mem_run {c : Char} {rest : List Char}
    (isNumeral : isNumeralChar c = true) :
    ∀ d ∈ c :: rest.takeWhile isNumeralChar, isNumeralChar d = true := by
  intro d mem
  rcases List.mem_cons.mp mem with rfl | mem
  · exact isNumeral
  · exact List.mem_takeWhile_imp mem

/-- A scan has read the characters up to what it has come to, and the texts of its tokens are what
it has read. -/
theorem exists_rest_of_scan (chars : List Char) :
    ∃ rest, chars = (scan chars).tokens.flatMap (·.text.toList) ++ rest ∧
      Apart ((scan chars).tokens.flatMap (·.text.toList)) rest ∧
      StopsAt rest (scan chars).stopped := by
  -- The cases are those of the scan: its end, a numeral that is read or refused, and a token or
  -- none of one character.
  fun_induction scan chars with
  | case1 => exact ⟨[], rfl, by simp [Apart], .finished⟩
  | case2 c rest isNumeral token made ih =>
      obtain ⟨-, rfl⟩ := Token.ofNumeral_eq_ok_iff.mp made
      obtain ⟨left, split, apart, stops⟩ := ih
      refine ⟨left, ?_, ?_, stops⟩
      · rw [Scan.cons, List.flatMap_cons, List.append_assoc, ← split]
        simp [Token.text]
      · rw [Scan.cons, List.flatMap_cons]
        refine apart.append fun nothing => apart_of_head ?_ _
        rw [nothing, List.nil_append] at split
        exact split ▸ head_dropWhile_isNumeralChar rest
  | case3 c rest isNumeral e failed =>
      obtain ⟨many, rfl⟩ := Token.ofNumeral_eq_error_iff.mp failed
      rw [String.toList_ofList] at many
      refine ⟨c :: rest, rfl, by simp [Apart], ?_⟩
      have stops := StopsAt.malformed (List.cons_ne_nil _ _) (isNumeralChar_of_mem_run isNumeral)
        (head_dropWhile_isNumeralChar rest) many
      rwa [List.cons_append, List.takeWhile_append_dropWhile] at stops
  | case4 c rest noNumeral token made ih =>
      obtain ⟨single, -, -, -⟩ := Token.of_ofChar? made
      obtain ⟨left, split, apart, stops⟩ := ih
      refine ⟨left, ?_, ?_, stops⟩
      · rw [Scan.cons, List.flatMap_cons, List.append_assoc, ← split, single]
        rfl
      · rw [Scan.cons, List.flatMap_cons, single]
        refine apart.append fun _ d last _ _ numerals => noNumeral ?_
        cases last
        exact numerals.1
  | case5 c rest noNumeral none =>
      exact ⟨c :: rest, rfl, by simp [Apart], .unreadable (eq_false_of_ne_true noNumeral) none⟩

/-! ### Scanning on -/

/-- A run that the list begins with ends in it, or where the rest begins. -/
theorem Apart.stops {c : Char} {front rest : List Char} (apart : Apart (c :: front) rest)
    (isNumeral : isNumeralChar c = true) :
    ∀ d ∈ (front.dropWhile isNumeralChar ++ rest).head?, isNumeralChar d = false := by
  intro d head
  cases behind : front.dropWhile isNumeralChar with
  | nil =>
      -- The run is the whole list, so its last character is the last one before the rest.
      have whole : c :: front = c :: front.takeWhile isNumeralChar := by
        rw [← List.append_nil (front.takeWhile isNumeralChar), ← behind,
          List.takeWhile_append_dropWhile]
      have all : ∀ e ∈ c :: front, isNumeralChar e = true := by
        rw [whole]
        exact isNumeralChar_of_mem_run isNumeral
      have last := List.getLast?_eq_some_getLast (List.cons_ne_nil c front)
      rw [behind, List.nil_append] at head
      exact eq_false_of_ne_true fun isNumeral' =>
        apart _ last d head ⟨all _ (List.getLast_mem _), isNumeral'⟩
  | cons e behind' =>
      refine head_dropWhile_isNumeralChar front d ?_
      rw [behind] at head ⊢
      exact head

/-- Behind characters that are read to their end, a scan reads on as if nothing had been before. -/
theorem scan_append {front rest : List Char} (apart : Apart front rest)
    (finished : (scan front).stopped = none) :
    scan (front ++ rest) = ⟨(scan front).tokens ++ (scan rest).tokens, (scan rest).stopped⟩ := by
  fun_induction scan front with
  | case1 => rfl
  | case2 c front isNumeral token made ih =>
      have stop := apart.stops isNumeral
      have cut : c :: front
          = (c :: front.takeWhile isNumeralChar) ++ front.dropWhile isNumeralChar := by
        rw [List.cons_append, List.takeWhile_append_dropWhile]
      obtain ⟨onePoint, rfl⟩ := Token.ofNumeral_eq_ok_iff.mp made
      rw [String.toList_ofList] at onePoint
      -- The numeral in front is read as it was, since it ends before the rest begins.
      have typed : Numeral.IsTyped (c :: front.takeWhile isNumeralChar) :=
        ⟨List.cons_ne_nil _ _, isNumeralChar_of_mem_run isNumeral, onePoint⟩
      rw [cut] at apart ⊢
      rw [List.append_assoc, scan_append_numeral typed stop, ih apart.of_append finished]
      rfl
  | case3 => cases finished
  | case4 c front _ token made ih =>
      have apart' : Apart ([c] ++ front) rest := apart
      rw [List.cons_append, scan_cons_of_ofChar? made, ih apart'.of_append finished]
      rfl
  | case5 => cases finished

/-! ### The runs of digits and points -/

/-- Between what comes before and after it, the run is one of the runs of digits and points of the
characters, and as long as it can be. -/
structure IsRunIn (chars before run after : List Char) : Prop where
  whole : chars = before ++ (run ++ after)
  nonempty : run ≠ []
  isNumeral : ∀ c ∈ run, isNumeralChar c = true
  begins : ∀ c ∈ before.getLast?, isNumeralChar c = false
  ends : ∀ c ∈ after.head?, isNumeralChar c = false

/-- The run is the first one with two points or more. -/
structure IsFirstMalformedIn (chars before run after : List Char) : Prop where
  isRun : IsRunIn chars before run after
  many : 1 < run.count '.'
  first : ∀ before' run' after', IsRunIn chars before' run' after' → 1 < run'.count '.' →
    before.length ≤ before'.length

/-- Of the runs with two points or more there is a first one. -/
theorem exists_isFirstMalformedIn {chars before run after : List Char}
    (isRun : IsRunIn chars before run after) (many : 1 < run.count '.') :
    ∃ before' run' after', IsFirstMalformedIn chars before' run' after' := by
  classical
  have some : ∃ n before' run' after', IsRunIn chars before' run' after' ∧ 1 < run'.count '.' ∧
      before'.length = n := ⟨_, before, run, after, isRun, many, rfl⟩
  obtain ⟨before', run', after', isRun', many', length⟩ := Nat.find_spec some
  refine ⟨before', run', after', isRun', many', fun earlier other rest isRun'' many'' => ?_⟩
  rw [length]
  exact Nat.find_min' some ⟨earlier, other, rest, isRun'', many'', rfl⟩

/-- Nothing is cut where a run begins, since it is as long as it can be. -/
theorem IsRunIn.apart {chars before run after : List Char}
    (isRun : IsRunIn chars before run after) : Apart before (run ++ after) := by
  intro c last _ _ numerals
  rw [isRun.begins c last] at numerals
  cases numerals.1

/-- A run of what comes before another run is a run of the whole. -/
theorem IsRunIn.of_before {chars before run after earlier other between : List Char}
    (isRun : IsRunIn chars before run after) (inside : IsRunIn before earlier other between) :
    IsRunIn chars earlier other (between ++ (run ++ after)) := by
  refine ⟨?_, inside.nonempty, inside.isNumeral, inside.begins, ?_⟩
  · rw [isRun.whole, inside.whole]
    simp only [List.append_assoc]
  · cases empty : between with
    | cons c between =>
        rintro d ⟨⟩
        exact inside.ends c (by simp [empty])
    | nil =>
        -- The run cannot follow at once: what comes before it ends in no digit and no point.
        obtain ⟨front, c, rfl⟩ := (List.eq_nil_or_concat other).resolve_left inside.nonempty
        have numeral := inside.isNumeral c (by simp)
        have last : c ∈ before.getLast? := by simp [inside.whole, empty]
        rw [isRun.begins c last] at numeral
        cases numeral

/-- A scan does not go on where a run with two points or more begins. -/
theorem stopped_malformed {run after : List Char} (nonempty : run ≠ [])
    (isNumeral : ∀ c ∈ run, isNumeralChar c = true)
    (ends : ∀ c ∈ after.head?, isNumeralChar c = false) (many : 1 < run.count '.') :
    (scan (run ++ after)).stopped = some (.manyPoints (String.ofList run)) := by
  cases run with
  | nil => exact absurd rfl nonempty
  | cons c run =>
      obtain ⟨taken, -⟩ := takeWhile_dropWhile_append
        (fun d mem => isNumeral d (List.mem_cons_of_mem _ mem)) ends
      have failed := Token.ofNumeral_eq_error_iff.mpr
        ⟨by rwa [String.toList_ofList], rfl⟩
      rw [List.cons_append, scan, if_pos (isNumeral c List.mem_cons_self), taken, failed]

/-! ### What stops a scan -/

/-- The characters are digits, points, operators and parentheses only. -/
def IsGrammatical (chars : List Char) : Prop :=
  ∀ c ∈ chars, isAllowed c = true ∧ isSpace c = false

/-- Where a scan of such characters stops, a run with two points or more begins. -/
theorem exists_isRunIn_of_stopped {chars : List Char} {e : CalcError}
    (grammatical : IsGrammatical chars) (stopped : (scan chars).stopped = some e) :
    ∃ before run after, IsRunIn chars before run after ∧ 1 < run.count '.' := by
  obtain ⟨rest, whole, apart, stops⟩ := exists_rest_of_scan chars
  rw [stopped] at stops
  -- Every character can begin a token, so only a run can be at fault.
  cases stops with
  | @malformed run after nonempty isNumeral ends many =>
      refine ⟨_, run, after, ⟨whole, nonempty, isNumeral, fun c last => ?_, ends⟩, many⟩
      obtain ⟨d, run, rfl⟩ := List.exists_cons_of_ne_nil nonempty
      exact eq_false_of_ne_true fun isNumeral' =>
        apart c last d rfl ⟨isNumeral', isNumeral d List.mem_cons_self⟩
  | @unreadable c rest noNumeral noToken =>
      obtain ⟨allowed, noSpace⟩ := grammatical c (by rw [whole]; simp)
      simp [isAllowed, noNumeral, noToken, noSpace] at allowed

/-- What comes before the first run with two points or more is read to its end. -/
theorem IsFirstMalformedIn.finished {chars before run after : List Char}
    (malformed : IsFirstMalformedIn chars before run after) (grammatical : IsGrammatical chars) :
    (scan before).stopped = none := by
  by_contra unfinished
  obtain ⟨e, stopped⟩ := Option.ne_none_iff_exists'.mp unfinished
  have grammatical' : IsGrammatical before := fun c mem =>
    grammatical c (by simp [malformed.isRun.whole, mem])
  obtain ⟨earlier, other, between, inside, many⟩ := exists_isRunIn_of_stopped grammatical' stopped
  -- The run that it would stop at is in front of the first one.
  have behind := malformed.first _ _ _ (malformed.isRun.of_before inside) many
  have nonempty := List.length_pos_of_ne_nil inside.nonempty
  have split := congrArg List.length inside.whole
  simp only [List.length_append] at split
  omega

/-- The first run with two points or more stops the scan, since everything before it is read. -/
theorem IsFirstMalformedIn.stopped {chars before run after : List Char}
    (malformed : IsFirstMalformedIn chars before run after) (grammatical : IsGrammatical chars) :
    (scan chars).stopped = some (.manyPoints (String.ofList run)) := by
  have finished := malformed.finished grammatical
  obtain ⟨isRun, many, -⟩ := malformed
  rw [isRun.whole, scan_append isRun.apart finished]
  exact stopped_malformed isRun.nonempty isRun.isNumeral isRun.ends many

/-- The first run with two points or more is what stops a scan of such characters, and nothing else
does. -/
theorem stopped_eq_some_iff {chars : List Char} {e : CalcError}
    (grammatical : IsGrammatical chars) :
    (scan chars).stopped = some e ↔
      ∃ before run after, IsFirstMalformedIn chars before run after ∧
        e = .manyPoints (String.ofList run) := by
  constructor
  · intro stopped
    obtain ⟨_, _, _, isRun, many⟩ := exists_isRunIn_of_stopped grammatical stopped
    obtain ⟨before, run, after, malformed⟩ := exists_isFirstMalformedIn isRun many
    refine ⟨before, run, after, malformed, ?_⟩
    exact Option.some.inj (stopped.symm.trans (malformed.stopped grammatical))
  · rintro ⟨before, run, after, malformed, rfl⟩
    exact malformed.stopped grammatical

/-! ### Lines -/

/-- The characters that expressions are typed with. -/
def grammarChars : List Char :=
  "0123456789.+-*/()".toList

/-- The character is none that expressions are typed with, and no white space. -/
def IsForeign (c : Char) : Prop :=
  c ∉ grammarChars ∧ isSpace c = false

instance (c : Char) : Decidable (IsForeign c) :=
  inferInstanceAs (Decidable (_ ∧ _))

/-- The characters that expressions are typed with are those of numerals and those that make a
token. -/
theorem mem_grammarChars_iff {c : Char} :
    c ∈ grammarChars ↔ isNumeralChar c = true ∨ (Token.ofChar? c).isSome = true := by
  constructor
  · intro mem
    have all : grammarChars.all (fun c => isNumeralChar c || (Token.ofChar? c).isSome) = true := by
      decide
    simpa using List.all_eq_true.mp all c mem
  · rintro (numeral | made)
    · have all : numeralChars.all (fun c => decide (c ∈ grammarChars)) = true := by decide
      simpa using of_all_numeralChars all numeral
    · obtain ⟨token, made⟩ := Option.isSome_iff_exists.mp made
      unfold Token.ofChar? at made
      split at made <;> first | decide | cases made

/-- A character is foreign if it is not allowed. -/
theorem isForeign_iff {c : Char} : IsForeign c ↔ isAllowed c = false := by
  rw [IsForeign, mem_grammarChars_iff, isAllowed]
  simp

/-- A line without foreign characters has nothing but digits, points, operators and parentheses
among its visible characters. -/
theorem isGrammatical_visible {line : String} (noForeign : ∀ c ∈ line.toList, ¬ IsForeign c) :
    IsGrammatical (visible line) := by
  intro c mem
  obtain ⟨mem, visible⟩ := List.mem_filter.mp mem
  have allowed := noForeign c mem
  rw [isForeign_iff, Bool.not_eq_false] at allowed
  exact ⟨allowed, by simpa using visible⟩

/-- A line is refused for its first foreign character or, if it has none, for the first numeral with
two points or more. -/
theorem tokenize_eq_error_iff {line : String} {e : CalcError} :
    tokenize line = .error e ↔
      (∃ before c after, line.toList = before ++ c :: after ∧ IsForeign c ∧
        (∀ d ∈ before, ¬ IsForeign d) ∧ e = .foreignCharacter c) ∨
      ((∀ c ∈ line.toList, ¬ IsForeign c) ∧
        ∃ before run after, IsFirstMalformedIn (visible line) before run after ∧
          e = .manyPoints (String.ofList run)) := by
  unfold tokenize
  cases found : line.toList.find? (!isAllowed ·) with
  | some c =>
      obtain ⟨refused, before, after, whole, allowed⟩ := List.find?_eq_some_iff_append.mp found
      have foreign : IsForeign c := isForeign_iff.mpr (by simpa using refused)
      have mem : c ∈ line.toList := by simp [whole]
      constructor
      · rintro ⟨⟩
        refine .inl ⟨before, c, after, whole, foreign, fun d mem => ?_, rfl⟩
        rw [isForeign_iff]
        simpa using allowed d mem
      · rintro (⟨before', d, after', whole', foreign', none, rfl⟩ | ⟨none, -⟩)
        · -- The first foreign character is found.
          have found' : line.toList.find? (!isAllowed ·) = some d := by
            refine List.find?_eq_some_iff_append.mpr
              ⟨by simpa using isForeign_iff.mp foreign', before', after', whole', fun a mem => ?_⟩
            have allowed' := none a mem
            rw [isForeign_iff, Bool.not_eq_false] at allowed'
            simpa using allowed'
          cases found.symm.trans found'
          rfl
        · exact absurd foreign (none c mem)
  | none =>
      have noForeign : ∀ c ∈ line.toList, ¬ IsForeign c := fun c mem => by
        rw [isForeign_iff]
        simpa using List.find?_eq_none.mp found c mem
      -- Nothing is refused before the scan, so only the first run with two points is left.
      have stopped := @stopped_eq_some_iff _ e (isGrammatical_visible noForeign)
      show (scan (visible line)).all = .error e ↔ _
      rw [Scan.all_eq_error_iff, stopped]
      constructor
      · intro first
        exact .inr ⟨noForeign, first⟩
      · rintro (⟨before, c, after, whole, foreign, -⟩ | ⟨-, first⟩)
        · exact absurd foreign (noForeign c (by simp [whole]))
        · exact first

/-- If there is a foreign character, there is a first one. -/
theorem exists_first_isForeign {chars : List Char} (some : ∃ c ∈ chars, IsForeign c) :
    ∃ before c after, chars = before ++ c :: after ∧ IsForeign c ∧ ∀ d ∈ before, ¬ IsForeign d := by
  obtain ⟨c, mem, foreign⟩ := some
  have found : (chars.find? fun d => decide (IsForeign d)).isSome = true :=
    List.find?_isSome.mpr ⟨c, mem, by simpa using foreign⟩
  obtain ⟨d, found⟩ := Option.isSome_iff_exists.mp found
  obtain ⟨first, before, after, whole, none⟩ := List.find?_eq_some_iff_append.mp found
  exact ⟨before, d, after, whole, by simpa using first, fun a mem => by simpa using none a mem⟩

/-- Which lines are refused for a character. -/
theorem exists_invalidCharacter_iff {line : String} :
    (∃ e, tokenize line = .error e ∧ e.kind = .invalidCharacter) ↔
      ∃ c ∈ line.toList, IsForeign c := by
  constructor
  · rintro ⟨e, failed, kind⟩
    rcases tokenize_eq_error_iff.mp failed with
      ⟨before, c, after, whole, foreign, -, -⟩ | ⟨-, before, run, after, -, rfl⟩
    · exact ⟨c, by simp [whole], foreign⟩
    · cases kind
  · intro some
    obtain ⟨before, c, after, whole, foreign, first⟩ := exists_first_isForeign some
    exact ⟨_, tokenize_eq_error_iff.mpr (.inl ⟨before, c, after, whole, foreign, first, rfl⟩), rfl⟩

/-- Which lines are refused for a numeral. -/
theorem exists_invalidNumber_iff {line : String} :
    (∃ e, tokenize line = .error e ∧ e.kind = .invalidNumber) ↔
      (∀ c ∈ line.toList, ¬ IsForeign c) ∧
        ∃ before run after, IsRunIn (visible line) before run after ∧ 1 < run.count '.' := by
  constructor
  · rintro ⟨e, failed, kind⟩
    rcases tokenize_eq_error_iff.mp failed with
      ⟨-, c, -, -, -, -, rfl⟩ | ⟨noForeign, before, run, after, first, -⟩
    · cases kind
    · exact ⟨noForeign, before, run, after, first.isRun, first.many⟩
  · rintro ⟨noForeign, _, _, _, isRun, many⟩
    obtain ⟨before, run, after, first⟩ := exists_isFirstMalformedIn isRun many
    exact ⟨_, tokenize_eq_error_iff.mpr (.inr ⟨noForeign, before, run, after, first, rfl⟩), rfl⟩

/-- Which lines have tokens. -/
theorem exists_tokenize_eq_ok_iff {line : String} :
    (∃ tokens, tokenize line = .ok tokens) ↔
      (∀ c ∈ line.toList, ¬ IsForeign c) ∧
        ∀ before run after, IsRunIn (visible line) before run after → run.count '.' ≤ 1 := by
  constructor
  · rintro ⟨tokens, scanned⟩
    have noError : ∀ e, tokenize line ≠ .error e := fun e failed => by
      rw [scanned] at failed
      cases failed
    have noForeign : ∀ c ∈ line.toList, ¬ IsForeign c := fun c mem foreign => by
      obtain ⟨e, failed, -⟩ := exists_invalidCharacter_iff.mpr ⟨c, mem, foreign⟩
      exact noError e failed
    refine ⟨noForeign, fun before run after isRun => Nat.not_lt.mp fun many => ?_⟩
    obtain ⟨e, failed, -⟩ := exists_invalidNumber_iff.mpr ⟨noForeign, _, _, _, isRun, many⟩
    exact noError e failed
  · rintro ⟨noForeign, few⟩
    -- If it were refused, then for one of the two reasons that are ruled out.
    cases scanned : tokenize line with
    | ok tokens => exact ⟨tokens, rfl⟩
    | error e =>
        rcases tokenize_eq_error_iff.mp scanned with
          ⟨before, c, after, whole, foreign, -⟩ | ⟨-, before, run, after, first, -⟩
        · exact absurd foreign (noForeign c (by simp [whole]))
        · exact absurd first.many (Nat.not_lt.mpr (few _ _ _ first.isRun))

/-- How cutting any line into tokens ends. A foreign character anywhere in the line is named before
anything else, and of several the first one. Otherwise, of the runs of digits and points in the
visible characters, each as long as it can be, the first one with two points or more is named in
full. Otherwise there are tokens. No step of it can fail in any other way. -/
theorem tokenize_outcome (line : String) :
    ((∃ e, tokenize line = .error e ∧ e.kind = .invalidCharacter) ↔
      ∃ c ∈ line.toList, IsForeign c) ∧
    ((∃ e, tokenize line = .error e ∧ e.kind = .invalidNumber) ↔
      (∀ c ∈ line.toList, ¬ IsForeign c) ∧
        ∃ before run after, IsRunIn (visible line) before run after ∧ 1 < run.count '.') ∧
    ((∃ tokens, tokenize line = .ok tokens) ↔
      (∀ c ∈ line.toList, ¬ IsForeign c) ∧
        ∀ before run after, IsRunIn (visible line) before run after → run.count '.' ≤ 1) ∧
    (∀ e, tokenize line = .error e ↔
      (∃ before c after, line.toList = before ++ c :: after ∧ IsForeign c ∧
        (∀ d ∈ before, ¬ IsForeign d) ∧ e = .foreignCharacter c) ∨
      ((∀ c ∈ line.toList, ¬ IsForeign c) ∧
        ∃ before run after, IsFirstMalformedIn (visible line) before run after ∧
          e = .manyPoints (String.ofList run))) ∧
    ((∀ c, (CalcError.foreignCharacter c).notice
        = ⟨.invalidCharacter, "Invalid character " ++ quoted (String.singleton c), none⟩) ∧
      ∀ numeral, (CalcError.manyPoints numeral).notice
        = ⟨.invalidNumber, "Invalid number " ++ numeral, none⟩) ∧
    tokenizePartially line = (tokenize line).mapError Failure.user :=
  ⟨exists_invalidCharacter_iff, exists_invalidNumber_iff, exists_tokenize_eq_ok_iff,
    fun _ => tokenize_eq_error_iff, ⟨fun _ => rfl, fun _ => rfl⟩, tokenizePartially_eq line⟩

/-- The numeral in front has two points, and its white space is in the middle of it. -/
example : tokenize "1.2 .3 / ..5" = .error (.manyPoints "1.2.3") ∧
    tokenize "1.2 .3 / ..5 & ?" = .error (.foreignCharacter '&') := by
  with_unfolding_all exact ⟨rfl, rfl⟩

end InfixCalc
