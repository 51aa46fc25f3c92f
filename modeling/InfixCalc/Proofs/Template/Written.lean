import InfixCalc.Proofs.Fold
import InfixCalc.Template
import Mathlib.Data.List.TakeWhile

/-!
# `InfixCalc.Proofs.Template.Written`: what the common templates say

Most templates are made of characters that stand for themselves, of which the braces are doubled,
and of places that ask for an argument as a whole, as it is or as it is shown, without a layout.
`Part` is such a part and `written` the text of such a template. This module says what becomes of
it, without a reader for templates in between and for arguments of any type.

* `rendered` goes through the parts from left to right and counts the places without a number or a
  name. What an argument is inserted as goes into the message as it is, whatever its characters.
* `ofString_written_render` is the main result: reading the text and rendering what was read comes
  to the same. It is a round trip, part by part (`parse_written`), under the invariant `Fits` that
  the numbering so far goes with the parts to come.
* `rendered_eq_error_iff` says how it fails: the parts before some place are rendered, and the place
  asks for an argument that is not there (`Asked.Lacks`), or for one that is there (`Asked.Finds`)
  and fails while it is inserted.

Places that are counted and places that are numbered do not go together (`Unmixed`).
-/

set_option autoImplicit false

namespace InfixCalc

/-! ### Numbers in templates -/

/-- The number that digits of any script denote, behind a number that has been read. -/
def numberFrom (number : Nat) (digits : List Char) : Nat :=
  digits.foldl (fun n c => 10 * n + (Text.digitValue? c).getD 0) number

/-- A digit multiplies the number before it by ten and adds its own value. -/
theorem numberFrom_cons (number : Nat) (c : Char) (digits : List Char) :
    numberFrom number (c :: digits)
      = numberFrom (10 * number + (Text.digitValue? c).getD 0) digits :=
  rfl

/-- Digits never make a number smaller, so one beyond the limit stays beyond it. -/
theorem le_numberFrom (number : Nat) (digits : List Char) : number ≤ numberFrom number digits := by
  induction digits generalizing number with
  | nil => exact Nat.le_refl _
  | cons c digits ih =>
      have grows := ih (10 * number + (Text.digitValue? c).getD 0)
      rw [numberFrom_cons]
      omega

/-- Digits are read to their end, unless their number is beyond the limit. -/
theorem readNumber_digits {number : Nat} {digits : List Char}
    (all : ∀ c ∈ digits, Text.isDigit c = true) (small : number ≤ templateNumberLimit) :
    readNumber number digits =
      if templateNumberLimit < numberFrom number digits then none
      else some (numberFrom number digits, []) := by
  induction digits generalizing number with
  | nil =>
      show some (number, []) = if templateNumberLimit < number then none else some (number, [])
      rw [if_neg (Nat.not_lt.mpr small)]
  | cons c digits ih =>
      obtain ⟨digit, value⟩ := Option.isSome_iff_exists.mp (all c List.mem_cons_self)
      have grows := le_numberFrom (10 * number + digit) digits
      simp only [readNumber, numberFrom_cons, value, Option.getD_some]
      split
      · -- The number only grows from here, so it ends beyond the limit too.
        rw [if_pos (by omega)]
      · next within =>
          exact ih (fun c mem => all c (List.mem_cons_of_mem _ mem)) (Nat.not_lt.mp within)

/-- What begins with another character is not read as a number. -/
theorem readNumber_of_head {chars : List Char} (number : Nat)
    (other : ∀ c ∈ chars.head?, Text.isDigit c = false) :
    readNumber number chars = some (number, chars) := by
  cases chars with
  | nil => rfl
  | cons c rest =>
      have none : Text.digitValue? c = none := by
        simpa [Text.isDigit] using other c rfl
      simp only [readNumber, none]

namespace Template

/-! ### Templates as they are written -/

/-- Digits that give the position of an argument. There may be zeros in front. -/
structure Index where
  digits : List Char
  nonempty : digits ≠ []
  allDigits : digits.all Text.isDigit = true

/-- An index has digits only. -/
theorem Index.isDigit (i : Index) : ∀ c ∈ i.digits, Text.isDigit c = true :=
  List.all_eq_true.mp i.allDigits

/-- The position that an index gives. -/
def Index.position (i : Index) : Nat :=
  numberFrom 0 i.digits

/-- The character ends a name, or what is behind it is no part of the name. -/
def endsArgument (c : Char) : Bool :=
  Field.endsName c || Field.beginsPart c

/-- The name of an argument. It does not begin with a digit, and holds none of the characters that
have a meaning in a place. -/
structure Name where
  chars : List Char
  nonempty : chars ≠ []
  noNumber : ∀ c ∈ chars.head?, Text.isDigit c = false
  inside : ∀ c ∈ chars, endsArgument c = false

/-- Which argument a place asks for. -/
inductive Asked where
  /-- The next one, by counting the places that ask so. -/
  | next
  /-- The one at a position. -/
  | index (i : Index)
  /-- The one of a name. -/
  | named (n : Name)

/-- A part of a template: a character that stands for itself, or a place for an argument. -/
inductive Part where
  | literal (c : Char)
  | place (asked : Asked) (shown : Bool)

/-- What a place has between its braces, in front of a conversion. -/
def Asked.written : Asked → List Char
  | next => []
  | index i => i.digits
  | named n => n.chars

/-- The end of a place, with a conversion if the argument is inserted as it is shown. -/
def closing (shown : Bool) : List Char :=
  if shown then ['!', 'r', '\x7d'] else ['\x7d']

/-- The text of a part. Braces that stand for themselves are doubled. -/
def Part.written : Part → List Char
  | literal c => if c = '\x7b' || c = '\x7d' then [c, c] else [c]
  | place asked shown => '\x7b' :: (asked.written ++ closing shown)

/-- The text of a template. -/
def written (parts : List Part) : String :=
  String.ofList (parts.flatMap Part.written)

/-- The place is counted. -/
def Part.isCounted : Part → Bool
  | place .next _ => true
  | _ => false

/-- The place has a number. -/
def Part.isNumbered : Part → Bool
  | place (.index _) _ => true
  | _ => false

/-- The places are not both counted and numbered. -/
def Unmixed (parts : List Part) : Prop :=
  (∀ p ∈ parts, p.isNumbered = false) ∨ ∀ p ∈ parts, p.isCounted = false

/-! ### What they say -/

/-- The argument that a place asks for, when some places have been counted. -/
def Asked.find {ω : Type} (a : Arguments ω) (counted : Nat) : Asked → Except TemplateError ω
  | next => a.find (.position counted)
  | index i =>
    if templateNumberLimit < i.position then .error .numberBeyondLimit
    else a.find (.position i.position)
  | named n => a.find (.name (String.ofList n.chars))

/-- What a value is inserted as: its text in the layout without marks, or how it is shown. -/
def inserted {ω : Type} [Argument ω] (shown : Bool) (v : ω) : Except TemplateError (List Char) :=
  if shown then (Argument.shown v).map String.toList else Argument.laidOut v []

/-- The text of a part, when some places have been counted. -/
def Part.rendered {ω : Type} [Argument ω] (a : Arguments ω) (counted : Nat) :
    Part → Except TemplateError (List Char)
  | literal c => .ok [c]
  | place asked shown => do
    let v ← asked.find a counted
    inserted shown v

/-- The number of places that have been counted behind a part. -/
def Part.countedAfter (counted : Nat) (p : Part) : Nat :=
  if p.isCounted then counted + 1 else counted

/-- The text of a template, when some places have been counted. -/
def rendered {ω : Type} [Argument ω] (a : Arguments ω) (counted : Nat) :
    List Part → Except TemplateError (List Char)
  | [] => .ok []
  | p :: parts => do
    let text ← p.rendered a counted
    let rest ← rendered a (p.countedAfter counted) parts
    return text ++ rest

/-! ### Reading a place -/

/-- A name ends at the first character that ends names, if no bracket opens in it. -/
theorem splitName_eq {name rest : List Char} (inside : ∀ c ∈ name, endsArgument c = false)
    (ends : ∀ c ∈ rest.head?, Field.endsName c = true) :
    Field.splitName false (name ++ rest) = (name, rest) := by
  induction name with
  | nil =>
      cases rest with
      | nil => rfl
      | cons c rest =>
          have ends : Field.endsName c = true := ends c rfl
          simp [Field.splitName, ends]
  | cons c name ih =>
      -- No character of the name ends it, and none opens a bracket that would hide an end.
      obtain ⟨nameChar, whole⟩ := Bool.or_eq_false_iff.mp (inside c List.mem_cons_self)
      have noBracket : (c == '[') = false := by
        rw [Field.beginsPart, Bool.or_eq_false_iff] at whole
        simpa using whole.2
      rw [List.cons_append, Field.splitName, nameChar, noBracket]
      simp only [Bool.not_false, Bool.and_false, Bool.false_eq_true, if_false]
      rw [ih fun c mem => inside c (List.mem_cons_of_mem _ mem)]

/-- A digit has no meaning of its own in a place. -/
theorem endsArgument_of_isDigit {c : Char} (digit : Text.isDigit c = true) :
    endsArgument c = false := by
  rw [Bool.eq_false_iff]
  intro other
  have special : c = '\x7b' ∨ c = '\x7d' ∨ c = '!' ∨ c = ':' ∨ c = '.' ∨ c = '[' := by
    simpa [endsArgument, Field.endsName, Field.beginsPart, or_assoc] using other
  rcases special with rfl | rfl | rfl | rfl | rfl | rfl <;> exact absurd digit (by decide)

/-- What a place asks with ends no argument. -/
theorem Asked.inside (asked : Asked) : ∀ c ∈ asked.written, endsArgument c = false := by
  cases asked with
  | next => simp [Asked.written]
  | index i => exact fun c mem => endsArgument_of_isDigit (i.isDigit c mem)
  | named n => exact n.inside

/-- The letter of the conversion of a place. -/
def letterOf (shown : Bool) : Option Char :=
  if shown then some 'r' else none

/-- A place is read up to its closing brace. -/
theorem read_place (asked : Asked) (shown : Bool) (rest : List Char) :
    Field.read (asked.written ++ (closing shown ++ rest))
      = .ok (⟨asked.written, letterOf shown, []⟩, rest) := by
  have split : Field.splitName false (asked.written ++ (closing shown ++ rest))
      = (asked.written, closing shown ++ rest) :=
    splitName_eq asked.inside (by cases shown <;> simp [closing, Field.endsName])
  rw [Field.read, split]
  cases shown with
  | false => rfl
  | true => rfl

/-! ### The numbering -/

/-- The numbering so far goes with the parts to come, when some places have been counted. -/
def Fits (counted : Nat) (parts : List Part) : Numbering → Prop
  | .undecided => counted = 0 ∧ Unmixed parts
  | .counted next => next = counted ∧ ∀ p ∈ parts, p.isNumbered = false
  | .given => ∀ p ∈ parts, p.isCounted = false

/-- A part that is not counted leaves the count as it is, and the numbering goes with the rest. -/
theorem Fits.tail {counted : Nat} {p : Part} {parts : List Part} {numbering : Numbering}
    (fits : Fits counted (p :: parts) numbering) (plain : p.isCounted = false) :
    Fits (p.countedAfter counted) parts numbering := by
  have same : p.countedAfter counted = counted := by
    rw [Part.countedAfter, plain, if_neg Bool.false_ne_true]
  rw [same]
  cases numbering with
  | undecided =>
      obtain ⟨zero, unmixed⟩ := fits
      exact ⟨zero, unmixed.imp (List.forall_mem_cons.mp · |>.2) (List.forall_mem_cons.mp · |>.2)⟩
  | counted next => exact ⟨fits.1, (List.forall_mem_cons.mp fits.2).2⟩
  | given => exact (List.forall_mem_cons.mp fits).2

/-- If the first part has a property, it is not true that no part has it. -/
theorem not_forall_cons {q : Part → Bool} {p : Part} {parts : List Part} (here : q p = true) :
    ¬ ∀ x ∈ p :: parts, q x = false := by
  intro none
  rw [none p List.mem_cons_self] at here
  cases here

/-- Behind a counted place no place is numbered. -/
theorem Fits.notNumbered {counted : Nat} {p : Part} {parts : List Part} {numbering : Numbering}
    (fits : Fits counted (p :: parts) numbering) (isCounted : p.isCounted = true) :
    ∀ q ∈ parts, q.isNumbered = false := by
  cases numbering with
  | undecided =>
      exact (List.forall_mem_cons.mp (fits.2.resolve_right (not_forall_cons isCounted))).2
  | counted next => exact (List.forall_mem_cons.mp fits.2).2
  | given => exact absurd fits (not_forall_cons isCounted)

/-- Behind a numbered place no place is counted. -/
theorem Fits.notCounted {counted : Nat} {p : Part} {parts : List Part} {numbering : Numbering}
    (fits : Fits counted (p :: parts) numbering) (isNumbered : p.isNumbered = true) :
    ∀ q ∈ parts, q.isCounted = false := by
  cases numbering with
  | undecided =>
      exact (List.forall_mem_cons.mp (fits.2.resolve_left (not_forall_cons isNumbered))).2
  | counted next => exact absurd fits.2 (not_forall_cons isNumbered)
  | given => exact (List.forall_mem_cons.mp fits).2

/-- A place with a name refers to the argument of this name, whatever the numbering. -/
theorem reference_named (n : Name) (numbering : Numbering) :
    Field.reference numbering n.chars = .ok (.name (String.ofList n.chars), numbering) := by
  have read := readNumber_of_head 0 n.noNumber
  obtain ⟨c, rest, same⟩ := List.exists_cons_of_ne_nil n.nonempty
  rw [same] at read ⊢
  unfold Field.reference
  rw [read]

/-- A place with a number refers to the argument at this position, unless the number is beyond the
limit. -/
theorem reference_index (i : Index) {numbering : Numbering}
    (notCounted : ∀ next, numbering ≠ .counted next) :
    Field.reference numbering i.digits =
      if templateNumberLimit < i.position then .error .numberBeyondLimit
      else .ok (.position i.position, .given) := by
  have read : readNumber 0 i.digits =
      if templateNumberLimit < i.position then none else some (i.position, []) :=
    readNumber_digits i.isDigit (Nat.zero_le _)
  obtain ⟨c, rest, same⟩ := List.exists_cons_of_ne_nil i.nonempty
  rw [same] at read ⊢
  unfold Field.reference
  -- The number decides the numbering if it is within the limit and no place has been counted.
  by_cases beyond : templateNumberLimit < i.position
  · rw [if_pos beyond] at read ⊢
    rw [read]
  · rw [if_neg beyond] at read ⊢
    rw [read]
    cases numbering with
    | undecided => rfl
    | counted next => exact absurd rfl (notCounted next)
    | given => rfl

/-- A place in a template refers to the argument that it asks for, and the numbering behind it goes
with the rest. A number beyond the limit is no reference, and the numbering stays. -/
theorem Fits.reference {counted : Nat} {asked : Asked} {shown : Bool} {parts : List Part}
    {numbering : Numbering} (fits : Fits counted (.place asked shown :: parts) numbering) :
    ∃ after, Fits ((Part.place asked shown).countedAfter counted) parts after ∧
      ((∃ r, Field.reference numbering asked.written = .ok (r, after) ∧
          ∀ {ω : Type} (a : Arguments ω), asked.find a counted = a.find r) ∨
        ∃ e, Field.reference numbering asked.written = .error e ∧ after = numbering ∧
          ∀ {ω : Type} (a : Arguments ω), asked.find a counted = .error e) := by
  cases asked with
  | next =>
      have notNumbered : ∀ p ∈ parts, p.isNumbered = false := fits.notNumbered rfl
      -- A place that is counted decides the numbering, or goes on with the one so far.
      cases numbering with
      | undecided =>
          obtain ⟨rfl, -⟩ := fits
          exact ⟨.counted 1, ⟨rfl, notNumbered⟩, .inl ⟨.position 0, rfl, fun a => rfl⟩⟩
      | counted next =>
          obtain ⟨rfl, -⟩ := fits
          exact ⟨.counted (next + 1), ⟨rfl, notNumbered⟩, .inl ⟨.position next, rfl, fun a => rfl⟩⟩
      | given => exact absurd (fits _ List.mem_cons_self) (by simp [Part.isCounted])
  | index i =>
      have notCounted : ∀ next, numbering ≠ .counted next := by
        rintro next rfl
        exact absurd (fits.2 _ List.mem_cons_self) (by simp [Part.isNumbered])
      -- A number beyond the limit decides nothing, so the numbering stays.
      by_cases beyond : templateNumberLimit < i.position
      · refine ⟨numbering, fits.tail rfl, .inr ⟨.numberBeyondLimit, ?_, rfl, fun a => ?_⟩⟩
        · exact (reference_index i notCounted).trans (if_pos beyond)
        · exact if_pos beyond
      · refine ⟨.given, ?_, .inl ⟨.position i.position, ?_, fun a => ?_⟩⟩
        · exact fits.notCounted rfl
        · exact (reference_index i notCounted).trans (if_neg beyond)
        · exact if_neg beyond
  | named n =>
      exact ⟨numbering, fits.tail rfl, .inl ⟨_, reference_named n numbering, fun a => rfl⟩⟩

/-! ### Reading a template -/

/-- A text in a layout without marks stays as it is. -/
theorem layOut_nil (text : List Char) : layOut [] text = .ok text := by
  have parsed : Layout.parse [] = .ok ⟨none, 0, .left, ' '⟩ := rfl
  simp [layOut, parsed, Layout.apply]

/-- A piece without a path and a layout is the argument, as it is or as it is shown. -/
theorem renderPiece_place {ω α : Type} [Argument ω] (render : α → Except TemplateError (List Char))
    (a : Arguments ω) (r : Reference) (shown : Bool) :
    renderPiece render a (.place r [] (if shown then .shown else .plain) [])
      = a.find r >>= inserted shown := by
  rw [renderPiece, Arguments.lookup]
  cases found : a.find r with
  | error e => rfl
  | ok v =>
      rw [except_ok_bind, List.foldlM_nil]
      -- A conversion makes a text of the argument before it is laid out, and no layout changes it.
      cases shown with
      | false => rfl
      | true =>
          show ((Argument.shown v).map Sum.inr >>= fun v => Argument.laidOut v [])
            = (Argument.shown v).map String.toList
          cases Argument.shown v with
          | error e => rfl
          | ok text => exact layOut_nil text.toList

/-- A place without a layout becomes one piece, which says what the place says. -/
theorem Fits.place_eq {counted : Nat} {asked : Asked} {shown : Bool} {parts : List Part}
    {numbering : Numbering} (fits : Fits counted (.place asked shown :: parts) numbering) :
    ∃ piece after, Fits ((Part.place asked shown).countedAfter counted) parts after ∧
      place readPieces numbering ⟨asked.written, letterOf shown, []⟩ = ([piece], after) ∧
      ∀ {ω : Type} [Argument ω] render (a : Arguments ω),
        renderPiece render a piece = (Part.place asked shown).rendered a counted := by
  obtain ⟨after, next, refers⟩ := fits.reference
  -- Without a point or a bracket in it, all that the place asks with is the name.
  have noPart : ∀ c ∈ asked.written, (!Field.beginsPart c) = true := fun c mem => by
    have inside := asked.inside c mem
    rw [endsArgument, Bool.or_eq_false_iff] at inside
    rw [inside.2]
    rfl
  have whole := List.takeWhile_eq_self_iff.mpr noPart
  have nothing := List.dropWhile_eq_nil_iff.mpr noPart
  have form : Form.ofLetter (letterOf shown) = .ok (if shown then .shown else .plain) := by
    cases shown <;> rfl
  rcases refers with ⟨r, reference, same⟩ | ⟨e, reference, rfl, same⟩
  · refine ⟨.place r [] (if shown then .shown else .plain) [], after, next, ?_, ?_⟩
    · simp only [place, whole, nothing, reference, Field.readPath, form, readPieces]
      simp [parse]
    · intro ω _ render a
      rw [renderPiece_place, Part.rendered, same]
  · refine ⟨.broken e, after, next, ?_, ?_⟩
    · simp only [place, whole, reference]
    · intro ω _ render a
      rw [Part.rendered, same]
      rfl

/-- The pieces behind an opening brace that is not doubled are those of the place that begins there
and those behind the place. -/
theorem parse_place {α : Type} (readLayout : LayoutReader α) (numbering : Numbering) {f : Field}
    {chars tail : List Char} (single : ∀ c ∈ chars.head?, c ≠ '\x7b')
    (read : Field.read chars = .ok (f, tail)) :
    (parse readLayout numbering ('\x7b' :: chars)).1 =
      (place readLayout numbering f).1 ++
        (parse readLayout (place readLayout numbering f).2 tail).1 := by
  rw [parse]
  · -- Reading the place has one outcome, and the other branch would need another one.
    split
    · next failed =>
        rw [read] at failed
        cases failed
    · next found =>
        rw [read] at found
        cases found
        rfl
  · rintro rest rfl
    exact single _ rfl rfl
  · rintro rfl
    cases read

/-- What a place asks with begins with no brace, so the brace in front of it is not doubled. -/
theorem Asked.head_ne (asked : Asked) {rest : List Char} (single : ∀ c ∈ rest.head?, c ≠ '\x7b') :
    ∀ c ∈ (asked.written ++ rest).head?, c ≠ '\x7b' := by
  rintro c first rfl
  cases same : asked.written with
  | nil => exact single _ (by simpa [same] using first) rfl
  | cons d chars =>
      have inside := asked.inside d (by simp [same])
      obtain rfl : d = '\x7b' := by simpa [same] using first
      cases inside

/-- The front of a template becomes one piece, which says what the first part says. -/
theorem Fits.parse_eq {counted : Nat} {p : Part} {parts : List Part} {numbering : Numbering}
    (fits : Fits counted (p :: parts) numbering) (rest : List Char) :
    ∃ piece after, Fits (p.countedAfter counted) parts after ∧
      (parse readPieces numbering (p.written ++ rest)).1
        = piece :: (parse readPieces after rest).1 ∧
      ∀ {ω : Type} [Argument ω] render (a : Arguments ω),
        renderPiece render a piece = p.rendered a counted := by
  cases p with
  | literal c =>
      refine ⟨.literal c, numbering, fits.tail rfl, ?_, fun render a => rfl⟩
      -- A brace of either kind is doubled, and any other character is itself.
      by_cases opens : c = '\x7b'
      · subst opens
        simp [Part.written, parse]
      by_cases closes : c = '\x7d'
      · subst closes
        simp [Part.written, parse]
      simp [Part.written, opens, closes, parse]
  | place asked shown =>
      obtain ⟨piece, after, next, becomes, renders⟩ := fits.place_eq
      refine ⟨piece, after, next, ?_, renders⟩
      have single : ∀ c ∈ (asked.written ++ (closing shown ++ rest)).head?, c ≠ '\x7b' :=
        asked.head_ne (by cases shown <;> simp [closing])
      rw [Part.written, List.cons_append, List.append_assoc,
        parse_place readPieces numbering single (read_place asked shown rest), becomes]
      rfl

/-! ### Rendering -/

/-- Parts are rendered from the first one on. -/
theorem renderAll_cons {α : Type} (render : α → Except TemplateError (List Char)) (x : α)
    (xs : List α) :
    renderAll render (x :: xs) = (do
      let text ← render x
      let rest ← renderAll render xs
      return text ++ rest) := by
  simp only [renderAll, List.mapM_cons]
  cases render x with
  | error e => rfl
  | ok text => cases xs.mapM render <;> rfl

section
variable {ω : Type} [Argument ω]

/-- What is read from the parts of a template says what they say. -/
theorem Fits.renderAll_parse {parts : List Part} {counted : Nat} {numbering : Numbering}
    (fits : Fits counted parts numbering) (a : Arguments ω)
    (render : Piece Char → Except TemplateError (List Char)) :
    renderAll (renderPiece render a) (parse readPieces numbering (parts.flatMap Part.written)).1
      = rendered a counted parts := by
  induction parts generalizing counted numbering with
  | nil =>
      rw [List.flatMap_nil, parse]
      rfl
  | cons p parts ih =>
      -- The first part is one piece, whatever follows, and the numbering behind it fits the rest.
      obtain ⟨piece, after, next, reads, renders⟩ := fits.parse_eq (parts.flatMap Part.written)
      rw [List.flatMap_cons, reads, renderAll_cons, renders, ih next, rendered]

/-- Reading the text of a template and rendering what was read comes to what its parts say. -/
theorem ofString_written_render {parts : List Part} (unmixed : Unmixed parts) (a : Arguments ω) :
    (ofString (written parts)).render a = (rendered a 0 parts).map String.ofList := by
  have fits : Fits 0 parts .undecided := ⟨rfl, unmixed⟩
  rw [render, ofString, written, String.toList_ofList, fits.renderAll_parse]

end

/-! ### Places that cannot be filled -/

section
variable {ω : Type} {a : Arguments ω} {counted : Nat} {asked : Asked} {e : TemplateError} {v : ω}

/-- A place asks for an argument that is not there, when some places have been counted, and what is
said about it:

- `next`, `index`: there are not enough arguments for the position;
- `beyond`: the position is beyond the limit for numbers, whatever the arguments;
- `named`: no argument has the name. -/
inductive Asked.Lacks (a : Arguments ω) (counted : Nat) : Asked → TemplateError → Prop where
  | next (few : a.positional.length ≤ counted) : Lacks a counted .next (.missingPosition counted)
  | index {i : Index} (within : i.position ≤ templateNumberLimit)
    (few : a.positional.length ≤ i.position) :
    Lacks a counted (.index i) (.missingPosition i.position)
  | beyond {i : Index} (beyond : templateNumberLimit < i.position) :
    Lacks a counted (.index i) .numberBeyondLimit
  | named {n : Name} (missing : a.named.lookup (String.ofList n.chars) = none) :
    Lacks a counted (.named n) (.missingName (String.ofList n.chars))

/-- A place asks for an argument that is there, when some places have been counted, and this is
it. -/
inductive Asked.Finds (a : Arguments ω) (counted : Nat) : Asked → ω → Prop where
  | next {v : ω} (there : a.positional[counted]? = some v) : Finds a counted .next v
  | index {i : Index} {v : ω} (within : i.position ≤ templateNumberLimit)
    (there : a.positional[i.position]? = some v) : Finds a counted (.index i) v
  | named {n : Name} {v : ω} (there : a.named.lookup (String.ofList n.chars) = some v) :
    Finds a counted (.named n) v

/-- A position has no argument exactly if there are not enough of them. -/
theorem Arguments.find_position_eq_error_iff {n : Nat} :
    a.find (.position n) = .error e ↔ a.positional.length ≤ n ∧ e = .missingPosition n := by
  rw [← List.getElem?_eq_none_iff]
  cases found : a.positional[n]? <;> simp [Arguments.find, found, eq_comm]

/-- A position finds the argument that is at it. -/
theorem Arguments.find_position_eq_ok_iff {n : Nat} :
    a.find (.position n) = .ok v ↔ a.positional[n]? = some v := by
  cases found : a.positional[n]? <;> simp [Arguments.find, found]

/-- A name has no argument exactly if none is listed under it. -/
theorem Arguments.find_name_eq_error_iff {name : String} :
    a.find (.name name) = .error e ↔ a.named.lookup name = none ∧ e = .missingName name := by
  cases found : a.named.lookup name <;> simp [Arguments.find, found, eq_comm]

/-- A name finds the argument that has it. -/
theorem Arguments.find_name_eq_ok_iff {name : String} :
    a.find (.name name) = .ok v ↔ a.named.lookup name = some v := by
  cases found : a.named.lookup name <;> simp [Arguments.find, found]

/-- Looking for the argument of a place fails exactly if the place lacks it. -/
theorem Asked.find_eq_error_iff : asked.find a counted = .error e ↔ asked.Lacks a counted e := by
  constructor
  · intro failed
    cases asked with
    | next =>
        obtain ⟨few, rfl⟩ := Arguments.find_position_eq_error_iff.mp failed
        exact .next few
    -- The limit is looked at first, and then the arguments.
    | index i =>
        rw [Asked.find] at failed
        split at failed
        · next beyond =>
            cases failed
            exact .beyond beyond
        · next within =>
            obtain ⟨few, rfl⟩ := Arguments.find_position_eq_error_iff.mp failed
            exact .index (Nat.not_lt.mp within) few
    | named n =>
        obtain ⟨missing, rfl⟩ := Arguments.find_name_eq_error_iff.mp failed
        exact .named missing
  · intro lacks
    cases lacks with
    | next few => exact Arguments.find_position_eq_error_iff.mpr ⟨few, rfl⟩
    | index within few =>
        rw [Asked.find, if_neg (Nat.not_lt.mpr within)]
        exact Arguments.find_position_eq_error_iff.mpr ⟨few, rfl⟩
    | beyond beyond => exact if_pos beyond
    | named missing => exact Arguments.find_name_eq_error_iff.mpr ⟨missing, rfl⟩

/-- Looking for the argument of a place gives exactly the one that the place finds. -/
theorem Asked.find_eq_ok_iff : asked.find a counted = .ok v ↔ asked.Finds a counted v := by
  constructor
  · intro found
    cases asked with
    | next => exact .next (Arguments.find_position_eq_ok_iff.mp found)
    | index i =>
        rw [Asked.find] at found
        split at found
        · cases found
        · next within =>
            exact .index (Nat.not_lt.mp within) (Arguments.find_position_eq_ok_iff.mp found)
    | named n => exact .named (Arguments.find_name_eq_ok_iff.mp found)
  · intro finds
    cases finds with
    | next there => exact Arguments.find_position_eq_ok_iff.mpr there
    | index within there =>
        rw [Asked.find, if_neg (Nat.not_lt.mpr within)]
        exact Arguments.find_position_eq_ok_iff.mpr there
    | named there => exact Arguments.find_name_eq_ok_iff.mpr there

end

section
variable {ω : Type} [Argument ω]

/-- A place cannot be filled, when some places have been counted, and why:

- `lacks`: it asks for an argument that is not there;
- `fails`: its argument is there, and fails while it is inserted. -/
inductive Asked.Unfilled (a : Arguments ω) (counted : Nat) (asked : Asked) (shown : Bool)
    (e : TemplateError) : Prop where
  | lacks (missing : asked.Lacks a counted e)
  | fails {v : ω} (there : asked.Finds a counted v) (failing : inserted shown v = .error e)

/-- Only a place can fail, namely one that cannot be filled. -/
theorem Part.rendered_eq_error_iff {a : Arguments ω} {counted : Nat} {p : Part}
    {e : TemplateError} :
    p.rendered a counted = .error e ↔
      ∃ asked shown, p = .place asked shown ∧ asked.Unfilled a counted shown e := by
  cases p with
  | literal c => simp [Part.rendered]
  | place asked shown =>
      simp only [Part.place.injEq, Part.rendered]
      constructor
      · intro failed
        refine ⟨asked, shown, ⟨rfl, rfl⟩, ?_⟩
        cases found : asked.find a counted with
        | error e' =>
            rw [found] at failed
            cases failed
            exact .lacks (Asked.find_eq_error_iff.mp found)
        | ok v =>
            rw [found, except_ok_bind] at failed
            exact .fails (Asked.find_eq_ok_iff.mp found) failed
      · rintro ⟨_, _, ⟨rfl, rfl⟩, missing | ⟨there, failing⟩⟩
        · rw [Asked.find_eq_error_iff.mpr missing, except_error_bind]
        · rw [Asked.find_eq_ok_iff.mpr there, except_ok_bind, failing]

/-- The count goes on over a part, and the parts behind it add theirs. -/
theorem Part.countedAfter_add (p : Part) (counted : Nat) (parts : List Part) :
    p.countedAfter counted + parts.countP Part.isCounted
      = counted + (p :: parts).countP Part.isCounted := by
  cases here : p.isCounted with
  | false => simp [Part.countedAfter, here]
  | true =>
      simp only [Part.countedAfter, here, if_true, List.countP_cons]
      omega

/-- Parts are rendered one after the other, and the counting goes on. -/
theorem rendered_append (a : Arguments ω) (counted : Nat) (before after : List Part) :
    rendered a counted (before ++ after) = (do
      let text ← rendered a counted before
      let rest ← rendered a (counted + before.countP Part.isCounted) after
      return text ++ rest) := by
  induction before generalizing counted with
  | nil =>
      simp only [rendered, except_ok_bind, List.nil_append, List.countP_nil, Nat.add_zero]
      cases rendered a counted after <;> rfl
  | cons p before ih =>
      rw [List.cons_append, rendered, rendered, ih, Part.countedAfter_add]
      -- Whatever fails first fails on both sides.
      cases p.rendered a counted with
      | error e => rfl
      | ok text =>
          cases rendered a (p.countedAfter counted) before with
          | error e => rfl
          | ok front =>
              cases rendered a (counted + (p :: before).countP Part.isCounted) after with
              | error e => rfl
              | ok rest => exact congrArg Except.ok (List.append_assoc text front rest).symm

/-- Characters that stand for themselves go into the text in front of the rest. -/
theorem rendered_literals (a : Arguments ω) (counted : Nat) (text : List Char)
    (parts : List Part) :
    rendered a counted (text.map Part.literal ++ parts)
      = (rendered a counted parts).map (text ++ ·) := by
  induction text with
  | nil =>
      show rendered a counted parts = _
      cases rendered a counted parts <;> rfl
  | cons c text ih =>
      show (rendered a counted (text.map Part.literal ++ parts) >>= fun rest => .ok (c :: rest)) = _
      rw [ih]
      cases rendered a counted parts <;> rfl

/-- A template cannot be rendered exactly if some place in it cannot be filled and what is in front
of the place can be rendered. -/
theorem rendered_eq_error_iff {a : Arguments ω} {counted : Nat} {parts : List Part}
    {e : TemplateError} :
    rendered a counted parts = .error e ↔
      ∃ before asked shown after, parts = before ++ .place asked shown :: after ∧
        (∃ text, rendered a counted before = .ok text) ∧
        asked.Unfilled a (counted + before.countP Part.isCounted) shown e := by
  constructor
  · intro failed
    -- The place that fails is the first part, or it is behind and the first part has been rendered.
    induction parts generalizing counted with
    | nil => cases failed
    | cons p parts ih =>
        rw [rendered] at failed
        cases first : p.rendered a counted with
        | error e' =>
            rw [first] at failed
            cases failed
            obtain ⟨asked, shown, rfl, unfilled⟩ := Part.rendered_eq_error_iff.mp first
            exact ⟨[], asked, shown, parts, rfl, ⟨[], rfl⟩, unfilled⟩
        | ok text =>
            rw [first, except_ok_bind] at failed
            cases others : rendered a (p.countedAfter counted) parts with
            | ok rest =>
                rw [others] at failed
                cases failed
            | error e' =>
                rw [others] at failed
                cases failed
                obtain ⟨before, asked, shown, after, rfl, ⟨front, found⟩, unfilled⟩ := ih others
                refine ⟨p :: before, asked, shown, after, rfl, ⟨text ++ front, ?_⟩, ?_⟩
                · rw [rendered, first, except_ok_bind, found]
                  rfl
                · rwa [p.countedAfter_add counted before] at unfilled
  · rintro ⟨before, asked, shown, after, rfl, ⟨text, front⟩, unfilled⟩
    have first := Part.rendered_eq_error_iff.mpr ⟨asked, shown, rfl, unfilled⟩
    rw [rendered_append, front, except_ok_bind, rendered, first]
    rfl

end

end Template

end InfixCalc
