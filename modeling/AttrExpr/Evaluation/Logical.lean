import AttrExpr.Evaluation.Call

/-! Functions on truth values. An argument that does not matter is not evaluated. -/
set_option autoImplicit false

namespace AttrExpr

namespace ActiveCall

def booleanArg (call : ActiveCall) : Eval Value := do
  pure (.boolean (← call.booleanOf (← call.arg 0)))

/-- The value of a function on truth values whose subject has been evaluated. -/
def onBoolean (call : ActiveCall) (subject : Bool) : Eval Value :=
  match call.function with
  | .not => pure (.boolean !subject)
  | .and => if subject then call.booleanArg else pure (.boolean false)
  | .or => if subject then pure (.boolean true) else call.booleanArg
  | _ => do pure (.string (← call.textArg (if subject then 0 else 1)))

end ActiveCall

end AttrExpr
