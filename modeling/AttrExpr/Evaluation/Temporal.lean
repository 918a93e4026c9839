import AttrExpr.Evaluation.Call

/-! Functions on dates and instants. -/
set_option autoImplicit false

namespace AttrExpr

namespace ActiveCall

/-- The token of the subject, or of the call when it has none. -/
def subjectToken (call : ActiveCall) : String :=
  match call.subject with
  | some subject => subject.token
  | none => call.token

/-- The text of a subject that has to be set. -/
def temporalText (call : ActiveCall) (expected : Kind) : Eval String := do
  let subject ← call.rawSubject
  if subject.isUnset then Eval.fail (.unset expected) call.subjectToken
  else pure (← call.coerceSubject subject).text

def toDateValue (call : ActiveCall) : Eval Value := do
  let text ← call.temporalText .date
  let pattern := (← call.optionalTextArg 0).map Pattern.mk
  let formats := (← read).formats
  match formats.readDate? pattern text with
  | some date => pure (.date date)
  | none => Eval.fail (.malformedDate text (pattern.getD formats.date).text) call.token

def toInstantValue (call : ActiveCall) : Eval Value := do
  let text ← call.temporalText .instant
  let pattern := (← call.optionalTextArg 0).map Pattern.mk
  let formats := (← read).formats
  match formats.readInstant? pattern text with
  | some instant => pure (.instant instant)
  | none => Eval.fail (.malformedInstant text (formats.instantPattern pattern)) call.token

/-- The subject written after the pattern that is the first argument. -/
def formatValue (call : ActiveCall) : Eval Value := do
  let subject ← call.subjectValue
  let pattern ← call.textArg 0
  let write (moment : Moment) : Eval Value :=
    match (Pattern.mk pattern).write? moment with
    | some cs => pure (.string (.ofList cs))
    | none => Eval.fail (.malformedFormat pattern subject.text) call.token
  match subject with
  | .date date => write (.ofDate date)
  | .instant instant => write (.ofInstant instant)
  | other => Eval.internal (.notTemporal other) call.token

end ActiveCall

end AttrExpr
