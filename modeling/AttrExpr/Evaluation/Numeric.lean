import AttrExpr.Evaluation.Call

/-! Functions on numbers. -/
set_option autoImplicit false

namespace AttrExpr

namespace ActiveCall

def numberArg (call : ActiveCall) : Eval Number := do
  call.numberOf (← call.arg 0)

/-- The value of an operation on the subject and the first argument. -/
def operation (call : ActiveCall) (symbol : String)
    (compute : Number → Number → Except ArithmeticError Number) (subject : Number) :
    Eval Value := do
  let other ← call.numberArg
  let result := (compute subject other).mapError fun error =>
    EvalCause.arithmetic error subject.text symbol other.text
  pure (.number (← Eval.ofExcept call.token result))

/-- Whether the order of the subject and the first argument is one of some. -/
def comparison (call : ActiveCall) (orders : List Ordering) (subject : Number) : Eval Value := do
  let other ← call.numberArg
  pure (.boolean ((subject.compare? other).any orders.contains))

/-- The value of a function on numbers whose subject has been evaluated. -/
def onNumber (call : ActiveCall) (subject : Number) : Eval Value :=
  match call.function with
  | .toNumber => pure (.number subject)
  | .toDecimal => pure (.number subject.toDecimal)
  | .abs => pure (.number subject.abs)
  | .plus => call.operation "+" Number.plus subject
  | .minus => call.operation "-" Number.minus subject
  | .multiply => call.operation "*" Number.times subject
  | .divide => call.operation "/" Number.divide subject
  | .modulo => call.operation "%" Number.modulo subject
  | .gt => call.comparison [.gt] subject
  | .ge => call.comparison [.gt, .eq] subject
  | .lt => call.comparison [.lt] subject
  | _ => call.comparison [.lt, .eq] subject

end ActiveCall

end AttrExpr
