import InfixCalc.Error
import InfixCalc.Template

/-!
# `InfixCalc.Guard`: faults from outside as faults of the calculator

A guarded call turns any fault from outside into a fault of a chosen class, with a message made
from a template and the arguments of the call; the fault behind it is kept as the cause. A fault of
the calculator's own passes unchanged. If the message cannot be made, that is what is reported: the
template may be wrong, or an argument may be missing or fail while it is inserted.
-/

set_option autoImplicit false

namespace InfixCalc

/-- How a call fails. -/
inductive CallError where
  /-- With a fault of the calculator's own. -/
  | user (notice : Notice)
  /-- With a fault from outside. -/
  | outer (kind : OuterKind) (message : String)

/-- How a guarded call fails. -/
inductive GuardError where
  /-- With a fault of the calculator's own. -/
  | user (notice : Notice)
  /-- The message cannot be made. -/
  | template (e : TemplateError)

/-- A guard: the class of the faults it reports, and the template of their message. -/
structure Guard where
  kind : ErrorKind
  template : Template

/-- The outcome of a call, given its arguments, as the guard reports it. -/
def Guard.report {ω α : Type} [Template.Argument ω] (g : Guard) (a : Template.Arguments ω) :
    Except CallError α → Except GuardError α
  | .ok result => .ok result
  | .error (.user notice) => .error (.user notice)
  | .error (.outer kind _) =>
    match g.template.render a with
    | .ok message => .error (.user ⟨g.kind, message, some kind⟩)
    | .error e => .error (.template e)

end InfixCalc
