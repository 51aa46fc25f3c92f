import InfixCalc.Template.Field

/-!
# `InfixCalc.Template.Argument`: the values that a template inserts

The arguments of a template are values of any type for which four things are given: the parts of a
value, its text, how it is shown to whoever writes programs, and its text in a layout. Each of them
may fail, also in a way of its own, and a template that asks for it then fails so.

The values at hand are texts. A text is shown between quotes, its parts are its characters, and its
layouts are those of `Layout`.
-/

set_option autoImplicit false

namespace InfixCalc.Template

/-- What a template can do with a value. -/
class Argument (ω : Type) where
  /-- The part that a step leads to. -/
  part (v : ω) (step : PathStep) : Except TemplateError ω
  /-- The value as a text. -/
  text (v : ω) : Except TemplateError String
  /-- The value as it is shown to whoever writes programs. -/
  shown (v : ω) : Except TemplateError String
  /-- The value in the layout that a text denotes. -/
  laidOut (v : ω) (layout : List Char) : Except TemplateError (List Char)

/-- The part of a text that a step leads to. -/
def textPart (text : String) : PathStep → Except TemplateError String
  | .position n =>
    match text.toList[n]? with
    | some c => .ok (String.singleton c)
    | none => .error .missingPart
  | .key _ => .error .namedPart
  | .field name => .error (.missingField name)

/-- A text in the layout that a text denotes. -/
def layOut (layout text : List Char) : Except TemplateError (List Char) :=
  match Layout.parse layout with
  | .ok l => .ok (l.apply text)
  | .error e => .error (.layout e)

instance : Argument String where
  part := textPart
  text text := .ok text
  shown text := .ok (Text.quoted text)
  laidOut text layout := layOut layout text.toList

/-- Values of two types can be arguments side by side. -/
instance {ω ω' : Type} [Argument ω] [Argument ω'] : Argument (ω ⊕ ω') where
  part
    | .inl v, step => (Argument.part v step).map .inl
    | .inr v, step => (Argument.part v step).map .inr
  text
    | .inl v => Argument.text v
    | .inr v => Argument.text v
  shown
    | .inl v => Argument.shown v
    | .inr v => Argument.shown v
  laidOut
    | .inl v, layout => Argument.laidOut v layout
    | .inr v, layout => Argument.laidOut v layout

end Template

open Template in
/-- A value in a form: itself, if it goes into its layout as it is, or else a text. -/
def Form.convert {ω : Type} [Argument ω] (v : ω) : Form → Except TemplateError (ω ⊕ String)
  | plain => .ok (.inl v)
  | text => (Argument.text v).map .inr
  | shown => (Argument.shown v).map .inr
  | shownInAscii => (Argument.shown v).map fun text => .inr (Text.inAscii text)

end InfixCalc
