import InfixCalc.Guard
import InfixCalc.Proofs.Machine.Frame
import InfixCalc.Proofs.Template.Written

/-!
# `InfixCalc.Proofs.Guard`: how guarded calls end

A guard looks only at which side a fault comes from. So what it does can be said for faults of any
type: `Guard.around` keeps the fault behind a report itself, and `report_eq` says that the guard of
the calculator is the same with less of it shown. The arguments of the call can be of any type, too.

`Ending` lists the five ways in which a guarded call ends, for the templates of `written`, and
`around_eq_iff` says that there is no other. The last two are the guard's own failure: the template
asks for an argument that the call does not have, or for one that fails while it is inserted. A
position beyond the limit for numbers in templates is refused as such, before any argument is looked
for (`beyond_limit_not_missing`).

Reading a numeral on the machine is a guarded call (`numeralValue_eq_report`). Its template has one
place, for the numeral, so its message can always be made, whatever the machine is shown as, and
whatever the numeral holds goes into it as it is.
-/

set_option autoImplicit false

namespace InfixCalc

open Template

/-! ### Faults of any type -/

/-- How a call fails, with faults that guards let pass in `υ` and faults from outside in `ε`. -/
inductive Fault (υ ε : Type) where
  /-- With a fault of the calculator's own, or with something that is no fault of the call, such as
  an interrupt. -/
  | own (e : υ)
  /-- With a fault from outside. -/
  | outside (e : ε)

/-- How a guarded call fails. -/
inductive GuardedFault (υ ε : Type) where
  /-- With a fault that was let pass. -/
  | own (e : υ)
  /-- With a fault that the guard made, and the one from outside behind it. -/
  | reported (kind : ErrorKind) (message : String) (cause : ε)
  /-- The message cannot be made. -/
  | unreportable (e : TemplateError)

namespace Guard

section
variable {ω υ ε α : Type} [Argument ω]

/-- The outcome of a call, given its arguments, as a guard passes it on. -/
def around (g : Guard) (a : Arguments ω) : Except (Fault υ ε) α → Except (GuardedFault υ ε) α
  | .ok result => .ok result
  | .error (.own e) => .error (.own e)
  | .error (.outside e) =>
    match g.template.render a with
    | .ok message => .error (.reported g.kind message e)
    | .error t => .error (.unreportable t)

/-- How a call ends behind a guard with the template of some parts:

- `result`: with the result of the call;
- `own`: with the calculator's own fault, or whatever else guards let pass, unchanged;
- `reported`: a fault from outside is the cause of one of the guard's kind, whose message is what
  the parts say with the arguments of the call;
- `lacking`: there was a fault from outside, and the first place that cannot be filled does not find
  its argument, which is what is reported;
- `failing`: there was a fault from outside, and the argument of the first place that cannot be
  filled fails while it is inserted, which is what is reported. -/
inductive Ending (kind : ErrorKind) (parts : List Part) (a : Arguments ω) :
    Except (Fault υ ε) α → Except (GuardedFault υ ε) α → Prop where
  | result (v : α) : Ending kind parts a (.ok v) (.ok v)
  | own (e : υ) : Ending kind parts a (.error (.own e)) (.error (.own e))
  | reported {e : ε} {message : List Char} (renders : rendered a 0 parts = .ok message) :
    Ending kind parts a (.error (.outside e))
      (.error (.reported kind (String.ofList message) e))
  | lacking {e : ε} {t : TemplateError} {before after : List Part} {asked : Asked} {shown : Bool}
    (split : parts = before ++ .place asked shown :: after)
    (front : ∃ text, rendered a 0 before = .ok text)
    (lacks : asked.Lacks a (before.countP Part.isCounted) t) :
    Ending kind parts a (.error (.outside e)) (.error (.unreportable t))
  | failing {e : ε} {t : TemplateError} {before after : List Part} {asked : Asked} {shown : Bool}
    {v : ω} (split : parts = before ++ .place asked shown :: after)
    (front : ∃ text, rendered a 0 before = .ok text)
    (finds : asked.Finds a (before.countP Part.isCounted) v)
    (fails : inserted shown v = .error t) :
    Ending kind parts a (.error (.outside e)) (.error (.unreportable t))

/-- If a place cannot be filled, a fault from outside is lost, and the place is what is reported.
What is behind the place makes no difference, and what is in front of it only has to be rendered. -/
theorem around_of_unfilled {kind : ErrorKind} {before after : List Part} {asked : Asked}
    {shown : Bool} (unmixed : Unmixed (before ++ .place asked shown :: after)) {a : Arguments ω}
    {t : TemplateError} (front : ∃ text, rendered a 0 before = .ok text)
    (unfilled : asked.Unfilled a (before.countP Part.isCounted) shown t) (e : ε) :
    (around ⟨kind, ofString (written (before ++ .place asked shown :: after))⟩ a
        (.error (.outside e)) : Except (GuardedFault υ ε) α) = .error (.unreportable t) := by
  have fails := rendered_eq_error_iff.mpr
    ⟨before, asked, shown, after, rfl, front, by rwa [Nat.zero_add]⟩
  rw [around, ofString_written_render unmixed a, fails]
  rfl

/-- A call that ends in one of these ways behind the guard is passed on so. -/
theorem Ending.around_eq {kind : ErrorKind} {parts : List Part} (unmixed : Unmixed parts)
    {a : Arguments ω} {call : Except (Fault υ ε) α} {outcome : Except (GuardedFault υ ε) α}
    (ending : Ending kind parts a call outcome) :
    around ⟨kind, ofString (written parts)⟩ a call = outcome := by
  -- The first two do not come to the template, the third renders it, and the last two fail at a
  -- place of it.
  cases ending with
  | result v => rfl
  | own e => rfl
  | reported renders =>
      rw [around, ofString_written_render unmixed a, renders]
      rfl
  | lacking split front lacks =>
      subst split
      exact around_of_unfilled unmixed front (.lacks lacks) _
  | failing split front finds fails =>
      subst split
      exact around_of_unfilled unmixed front (.fails finds fails) _

/-- Every call ends in one of these ways. -/
theorem exists_ending (kind : ErrorKind) (parts : List Part) (a : Arguments ω)
    (call : Except (Fault υ ε) α) :
    ∃ outcome : Except (GuardedFault υ ε) α, Ending kind parts a call outcome := by
  rcases call with (e | e) | v
  · exact ⟨_, .own e⟩
  · -- Only a fault from outside makes the guard render its template.
    cases renders : rendered a 0 parts with
    | ok message => exact ⟨_, .reported renders⟩
    | error t =>
        obtain ⟨before, asked, shown, after, split, front, unfilled⟩ :=
          rendered_eq_error_iff.mp renders
        rw [Nat.zero_add] at unfilled
        rcases unfilled with lacks | ⟨finds, fails⟩
        · exact ⟨_, .lacking split front lacks⟩
        · exact ⟨_, .failing split front finds fails⟩
  · exact ⟨_, .result v⟩

/-- A guard passes a call on in one of these ways and in no other. -/
theorem around_eq_iff {kind : ErrorKind} {parts : List Part} (unmixed : Unmixed parts)
    {a : Arguments ω} {call : Except (Fault υ ε) α} {outcome : Except (GuardedFault υ ε) α} :
    around ⟨kind, ofString (written parts)⟩ a call = outcome ↔
      Ending kind parts a call outcome := by
  refine ⟨?_, Ending.around_eq unmixed⟩
  rintro rfl
  obtain ⟨outcome, ending⟩ := exists_ending kind parts a call
  rwa [ending.around_eq unmixed]

end

end Guard

/-- The fault of a call, by the side that it comes from. -/
def CallError.fault : CallError → Fault Notice (OuterKind × String)
  | user notice => .own notice
  | outer kind message => .outside (kind, message)

/-- What is shown of the fault of a guarded call: only the class of the fault behind it. -/
def GuardedFault.shown : GuardedFault Notice (OuterKind × String) → GuardError
  | own notice => .user notice
  | reported kind message cause => .user ⟨kind, message, some cause.1⟩
  | unreportable e => .template e

namespace Guard

/-- The guard of the calculator treats all types of faults alike. -/
theorem report_eq {ω α : Type} [Argument ω] (g : Guard) (a : Arguments ω)
    (call : Except CallError α) :
    g.report a call = (g.around a (call.mapError CallError.fault)).mapError GuardedFault.shown := by
  rcases call with (notice | ⟨kind, message⟩) | v
  · rfl
  · show g.report a _ = ((g.around a (.error (.outside (kind, message)))).mapError _)
    rw [report, around]
    cases g.template.render a <;> rfl
  · rfl

/-! ### Numerals on the machine -/

/-- The guard of the reading of numerals. -/
def conversion : Guard :=
  ⟨.invalidExpression, ofString "Cannot convert {1}"⟩

/-- The arguments of such a reading: the machine, whatever it is, and the numeral. -/
def conversionArguments {ω : Type} (machine : ω) (text : String) : Arguments (ω ⊕ String) :=
  ⟨[.inl machine, .inr text], []⟩

/-- Reading a numeral without a guard. What denotes no number fails on its value. -/
def readNumeral (sentence text : String) : Except CallError Float :=
  match Numeral.readDouble? text with
  | some v => .ok v
  | none => .error (.outer .value sentence)

/-- The place in the guard's template: the argument behind the machine, which is the numeral. -/
def numeralPlace : Part :=
  .place (.index ⟨['1'], by decide, by decide⟩) false

section
variable {ω : Type} [Argument ω]

/-- The place is filled with the numeral as it is. -/
theorem rendered_numeralPlace (machine : ω) (text : String) :
    rendered (conversionArguments machine text) 0 [numeralPlace] = .ok text.toList := by
  have second : Asked.find (conversionArguments machine text) 0
      (.index ⟨['1'], by decide, by decide⟩) = .ok (.inr text) :=
    Asked.find_eq_ok_iff.mpr (.index (by decide) rfl)
  rw [rendered, numeralPlace, Part.rendered, second, except_ok_bind]
  show (layOut [] text.toList >>= fun front => _) = _
  rw [layOut_nil, except_ok_bind]
  exact congrArg Except.ok (List.append_nil _)

/-- Whatever the numeral and the machine, the message can be made, and ends with the numeral. -/
theorem conversion_render (machine : ω) (text : String) :
    conversion.template.render (conversionArguments machine text)
      = .ok ("Cannot convert " ++ text) := by
  have unmixed : Unmixed ("Cannot convert ".toList.map Part.literal ++ [numeralPlace]) := by
    right
    decide
  have spelled : written ("Cannot convert ".toList.map Part.literal ++ [numeralPlace])
      = "Cannot convert {1}" := by
    decide
  -- The machine is an argument of the call too, but no place asks for it.
  have render := ofString_written_render unmixed (conversionArguments machine text)
  rw [spelled, rendered_literals, rendered_numeralPlace] at render
  show (ofString "Cannot convert {1}").render _ = _
  rw [render]
  show Except.ok (String.ofList ("Cannot convert ".toList ++ text.toList)) = _
  rw [String.ofList_append, String.ofList_toList, String.ofList_toList]

/-- Reading a numeral on the machine is a guarded call. -/
theorem numeralValue_eq_report (machine : ω) (sentence text : String) :
    conversion.report (conversionArguments machine text) (readNumeral sentence text)
      = (numeralValue text).mapError fun e => .user e.notice := by
  unfold readNumeral numeralValue
  cases Numeral.readDouble? text with
  | some v => rfl
  | none =>
      show conversion.report _ _ = .error _
      rw [report, conversion_render]
      rfl

end

/-- An argument that is no text, by what it is shown as, if it can be shown. It has no parts and
only the layout without marks. -/
structure Item where
  shown : Except TemplateError String

instance : Argument Item where
  part _ _ := .error (.raised "TypeError" "object is not subscriptable")
  text item := item.shown
  shown item := item.shown
  laidOut item layout :=
    if layout.isEmpty then item.shown.map String.toList
    else .error (.raised "TypeError" "unsupported format string")

/-- A brace and the first argument. -/
def bracedParts : List Part :=
  [.literal '\x7b', .place (.index ⟨['0'], by decide, by decide⟩) false]

/-- The first argument, as it is shown. -/
def shownParts : List Part :=
  [.place (.index ⟨['0'], by decide, by decide⟩) true]

/-- A place for the argument at the first position beyond the limit. -/
def beyondPlace : Part :=
  .place (.index ⟨"9223372036854775808".toList, by decide, by decide⟩) false

end Guard

end InfixCalc
