import InfixCalc.Template.Error
import InfixCalc.Text.Digit

/-!
# `InfixCalc.Template.Layout`: a text laid out in a field

A layout says how many characters of a text are kept, how wide the field is, on which side of it the
text stands and what fills the rest. It is written as in `*<8.3`: the fill and the side, the
width, and behind a point the number of characters kept. All parts may be missing.

The way to write layouts is shared with numbers, and the marks that only numbers have are read and
then refused: signs, `z`, `#`, thousands marked by `,` or `_`, and types other than `s`.
-/

set_option autoImplicit false

namespace InfixCalc

/-- The greatest number that a template may contain. -/
def templateNumberLimit : Nat :=
  0x7FFFFFFFFFFFFFFF

/-- Goes on reading a number by the digits at the front, and gives the rest of the text. There is
no number beyond the limit. -/
def readNumber (number : Nat) : List Char → Option (Nat × List Char)
  | [] => some (number, [])
  | c :: rest =>
    match Text.digitValue? c with
    | none => some (number, c :: rest)
    | some digit =>
      if templateNumberLimit < 10 * number + digit then none
      else readNumber (10 * number + digit) rest

/-- The side of a field on which a text stands. -/
inductive Side where
  | left
  | right
  /-- In the middle, or one character further to the left. -/
  | middle
deriving DecidableEq, Repr

/-- How a text is laid out. -/
structure Layout where
  /-- The number of characters kept, if it is limited. -/
  kept : Option Nat
  /-- The width of the field. A longer text has a field of its own length. -/
  width : Nat
  side : Side
  fill : Char
deriving DecidableEq, Repr

namespace Layout

/-- A text in its field. -/
def apply (l : Layout) (text : List Char) : List Char :=
  let shown := match l.kept with
    | none => text
    | some count => text.take count
  let missing := l.width - shown.length
  let before := match l.side with
    | .left => 0
    | .right => missing
    | .middle => missing / 2
  List.replicate before l.fill ++ shown ++ List.replicate (missing - before) l.fill

/-- The character says where a text or a number stands in its field. -/
def isAlignment (c : Char) : Bool :=
  c = '<' || c = '>' || c = '^' || c = '='

/-- The fill and the alignment at the front, and the rest. The fill comes first, and may itself be
a character of alignment. -/
def takeAlignment : List Char → Option Char × Option Char × List Char
  | fill :: mark :: rest =>
    if isAlignment mark then (some fill, some mark, rest)
    else if isAlignment fill then (none, some fill, mark :: rest)
    else (none, none, fill :: mark :: rest)
  | [mark] => if isAlignment mark then (none, some mark, []) else (none, none, [mark])
  | [] => (none, none, [])

/-- The mark at the front if it is one of the given, and the rest. -/
def takeMark (marks : List Char) : List Char → Option Char × List Char
  | c :: rest => if c ∈ marks then (some c, rest) else (none, c :: rest)
  | [] => (none, [])

/-- The number at the front, if there is one, and the rest. -/
def takeNumber (chars : List Char) : Except LayoutError (Option Nat × List Char) :=
  match readNumber 0 chars with
  | none => .error .numberBeyondLimit
  | some (number, rest) =>
    .ok (if rest.length < chars.length then some number else none, rest)

/-- The mark for thousands at the front, if there is one, and the rest. -/
def takeSeparator : List Char → Except LayoutError (Option Char × List Char)
  | ',' :: '_' :: _ => .error .twoSeparators
  | '_' :: ',' :: _ => .error .twoSeparators
  | ',' :: rest => .ok (some ',', rest)
  | '_' :: rest => .ok (some '_', rest)
  | rest => .ok (none, rest)

/-- The number of characters kept, behind a point at the front, and the rest. -/
def takeKept : List Char → Except LayoutError (Option Nat × List Char)
  | '.' :: rest =>
    match takeNumber rest with
    | .error e => .error e
    | .ok (none, _) => .error .missingLength
    | .ok (some number, rest) => .ok (some number, rest)
  | rest => .ok (none, rest)

/-- The types of numbers whose thousands can be marked in the given way. -/
def separatedTypes (mark : Char) : List Char :=
  ['d', 'e', 'f', 'g', 'E', 'G', '%', 'F', '\x00']
    ++ if mark = '_' then ['b', 'o', 'x', 'X'] else []

/-- The type that the rest of a layout is; without one it is that of texts. -/
def typeOf (layout : List Char) : List Char → Except LayoutError Char
  | [] => .ok 's'
  | [c] => .ok c
  | _ => .error (.unreadable (String.ofList layout))

/-- The side that an alignment is. -/
def sideOf : Option Char → Except LayoutError Side
  | some '>' => .ok .right
  | some '^' => .ok .middle
  | some '=' => .error .signAlignment
  | _ => .ok .left

/-- The layout that a text denotes. The first mark that is wrong in itself is refused first, then
a type that is not that of texts, then the marks that only numbers have. -/
def parse (layout : List Char) : Except LayoutError Layout := do
  let (fill, alignment, rest) := takeAlignment layout
  let (sign, rest) := takeMark [' ', '+', '-'] rest
  let (zeroSign, rest) := takeMark ['z'] rest
  let (alternate, rest) := takeMark ['#'] rest
  let (zero, rest) := if fill.isSome then (none, rest) else takeMark ['0'] rest
  let (width, rest) ← takeNumber rest
  let (separator, rest) ← takeSeparator rest
  let (kept, rest) ← takeKept rest
  let type ← typeOf layout rest
  match separator.filter fun mark => type ∉ separatedTypes mark with
  | some mark => .error (.separator mark type)
  | none =>
    if type ≠ 's' then .error (.unknownType type)
    else if sign = some ' ' then .error .signSpace
    else if sign.isSome then .error .sign
    else if zeroSign.isSome then .error .zeroSign
    else if alternate.isSome then .error .alternateForm
    else
      let side ← sideOf alignment
      return ⟨kept, width.getD 0, side, (fill.or zero).getD ' '⟩

end Layout

end InfixCalc
