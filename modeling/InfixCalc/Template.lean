import InfixCalc.Template.Argument

/-!
# `InfixCalc.Template`: messages with places for arguments

A template is a text with places in braces. A place refers to an argument by its position, by its
name, or, if it has no name, by counting the places without one before it; positions and counting do
not mix. The argument, or a part of it, is inserted as it is, or in the form that the place asks
for, in the layout of the place. A brace that is text is doubled. Inserted text is never read as a
template again, but a layout may have places of its own, whose layouts have none.

A template is read from left to right, and a malformed one is rendered up to where it breaks: an
argument before that place that is missing or cannot be inserted is reported first.
-/

set_option autoImplicit false

namespace InfixCalc

/-- A piece of a template whose layouts are made of `α`. -/
inductive Piece (α : Type) where
  /-- A character that stands for itself. -/
  | literal (c : Char)
  /-- A place for an argument. The path leads to the part of it that is meant, each step from the
  part before it. -/
  | place (reference : Reference) (path : List PathStep) (form : Form) (layout : List α)
  /-- A place of which only this much makes sense. Its argument is looked up and brought into the
  form, and nothing is inserted. -/
  | lookup (reference : Reference) (path : List PathStep) (form : Form)
  /-- The template is malformed from here on. -/
  | broken (e : TemplateError)
deriving DecidableEq, Repr

/-- A template, in pieces. -/
abbrev Template := List (Piece (Piece Char))

namespace Template

/-- How layouts are read: their parts and the numbering behind them. -/
abbrev LayoutReader (α : Type) := Numbering → List Char → Except TemplateError (List α × Numbering)

/-- The pieces that a place makes, and the numbering behind it. A fault in the place comes up behind
the parts before it. -/
def place {α : Type} (readLayout : LayoutReader α) (numbering : Numbering) (f : Field) :
    List (Piece α) × Numbering :=
  match Field.reference numbering (f.name.takeWhile (!Field.beginsPart ·)) with
  | .error e => ([.broken e], numbering)
  | .ok (reference, numbering) =>
    match Field.readPath (f.name.dropWhile (!Field.beginsPart ·)), Form.ofLetter f.letter with
    | (path, some e), _ => ([.lookup reference path .plain, .broken e], numbering)
    | (path, none), .error e => ([.lookup reference path .plain, .broken e], numbering)
    | (path, none), .ok form =>
      match readLayout numbering f.layout with
      | .error e => ([.lookup reference path form, .broken e], numbering)
      | .ok (layout, numbering) => ([.place reference path form layout], numbering)

/-- The pieces that characters make, and the numbering behind them. -/
def parse {α : Type} (readLayout : LayoutReader α) (numbering : Numbering) :
    List Char → List (Piece α) × Numbering
  | [] => ([], numbering)
  | '\x7b' :: '\x7b' :: rest =>
    let (pieces, last) := parse readLayout numbering rest
    (.literal '\x7b' :: pieces, last)
  | '\x7d' :: '\x7d' :: rest =>
    let (pieces, last) := parse readLayout numbering rest
    (.literal '\x7d' :: pieces, last)
  | '\x7d' :: _ => ([.broken .loneClosingBrace], numbering)
  | ['\x7b'] => ([.broken .loneOpeningBrace], numbering)
  | '\x7b' :: rest =>
    match _read : Field.read rest with
    | .error e => ([.broken e], numbering)
    | .ok (f, tail) =>
      let (first, next) := place readLayout numbering f
      let (pieces, last) := parse readLayout next tail
      (first ++ pieces, last)
  | c :: rest =>
    let (pieces, last) := parse readLayout numbering rest
    (.literal c :: pieces, last)
termination_by chars => chars.length
decreasing_by
  · simp only [List.length_cons]
    omega
  · simp only [List.length_cons]
    omega
  · exact Nat.lt_succ_of_lt (Field.length_lt_of_read _read)
  · exact Nat.lt_succ_self _

/-- A layout of plain text, which has no places. -/
def readPlain : LayoutReader Char := fun numbering chars =>
  if '\x7b' ∈ chars then .error .tooDeep else .ok (chars, numbering)

/-- A layout with places, whose layouts are plain text. -/
def readPieces : LayoutReader (Piece Char) := fun numbering chars =>
  .ok (parse readPlain numbering chars)

/-- The template that a text denotes. -/
def ofString (text : String) : Template :=
  (parse readPieces .undecided text.toList).1

/-- The arguments that a template is rendered with. -/
structure Arguments (ω : Type) where
  positional : List ω
  named : List (String × ω)

section
variable {ω : Type}

/-- The argument that a place refers to. -/
def Arguments.find (a : Arguments ω) : Reference → Except TemplateError ω
  | .position n =>
    match a.positional[n]? with
    | some v => .ok v
    | none => .error (.missingPosition n)
  | .name name =>
    match a.named.lookup name with
    | some v => .ok v
    | none => .error (.missingName name)

/-- The text of parts, one after the other. -/
def renderAll {α : Type} (render : α → Except TemplateError (List Char)) (parts : List α) :
    Except TemplateError (List Char) :=
  (parts.mapM render).map List.flatten

variable [Argument ω]

/-- The part of an argument that a place is about, in its form. -/
def Arguments.lookup (a : Arguments ω) (reference : Reference) (path : List PathStep)
    (form : Form) : Except TemplateError (ω ⊕ String) := do
  let argument ← a.find reference
  let part ← path.foldlM Argument.part argument
  form.convert part

/-- The text of a piece, if `render` gives that of a part of a layout. A layout is looked at only
when the argument is there in its form. -/
def renderPiece {α : Type} (render : α → Except TemplateError (List Char)) (a : Arguments ω) :
    Piece α → Except TemplateError (List Char)
  | .literal c => .ok [c]
  | .place reference path form layout => do
    let v ← a.lookup reference path form
    Argument.laidOut v (← renderAll render layout)
  | .lookup reference path form => do
    let _ ← a.lookup reference path form
    return []
  | .broken e => .error e

/-- The text of a template with its arguments. -/
def render (a : Arguments ω) (t : Template) : Except TemplateError String :=
  (renderAll (renderPiece (renderPiece (fun c => .ok [c]) a) a) t).map String.ofList

end

end Template

end InfixCalc
