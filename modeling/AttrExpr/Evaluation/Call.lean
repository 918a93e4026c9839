import AttrExpr.Evaluation.Context
import AttrExpr.Regex.Reader

/-! Calls that are being evaluated: subject and arguments are evaluated when a function asks for
them. -/
set_option autoImplicit false

namespace AttrExpr

/-- A subject or an argument: its token, the kind that its value is turned into, and its
evaluation. -/
structure Operand where
  token : String
  target : Option Kind
  action : Eval Value

def Operand.value (operand : Operand) : Eval Value := do
  Eval.coerceTo operand.token operand.target (← operand.action)

structure ActiveCall where
  function : Function
  token : String
  subject : Option Operand
  args : List Operand
  pattern : Option Regex

namespace ActiveCall

/-- The value of the subject as it is. -/
def rawSubject (call : ActiveCall) : Eval Value :=
  match call.subject with
  | some subject => subject.action
  | none => Eval.internal (.noSubject call.function) call.token

def coerceSubject (call : ActiveCall) (value : Value) : Eval Value :=
  match call.subject with
  | some subject => Eval.coerceTo subject.token subject.target value
  | none => pure value

def subjectValue (call : ActiveCall) : Eval Value := do
  call.coerceSubject (← call.rawSubject)

def subjectText (call : ActiveCall) : Eval String := do
  pure (← call.subjectValue).text

/-- The value of an argument. One that is left out is unset. -/
def arg (call : ActiveCall) (index : Nat) : Eval Value :=
  match call.args[index]? with
  | some operand => operand.value
  | none => pure .unset

def textArg (call : ActiveCall) (index : Nat) : Eval String := do
  pure (← call.arg index).text

def optionalTextArg (call : ActiveCall) (index : Nat) : Eval (Option String) := do
  if index < call.args.length then pure (some (← call.textArg index)) else pure none

def wholeArg (call : ActiveCall) (index : Nat) : Eval Int64 := do
  let value ← call.arg index
  match value.number?.bind Number.toWhole? with
  | some n => pure n
  | none => Eval.fail (.notWhole value.text) call.token

def numberOf (call : ActiveCall) (value : Value) : Eval Number :=
  match value with
  | .number n => pure n
  | other => Eval.internal (.notNumber other) call.token

def booleanOf (call : ActiveCall) (value : Value) : Eval Bool :=
  match value with
  | .boolean b => pure b
  | other => Eval.internal (.notBoolean other) call.token

end ActiveCall

/-- Reads a regular expression, which has to match all of a text if `whole`. -/
def readPattern (whole : Bool) (text : String) : Except Regex.PatternError Regex :=
  if whole then Regex.readWhole text else Regex.read text

/-- The regular expression of a call: the one that was read before, or its first argument. -/
def ActiveCall.patternValue (call : ActiveCall) : Eval Regex :=
  match call.pattern with
  | some regex => pure regex
  | none => do
    let text ← call.textArg 0
    Eval.ofExcept call.token
      ((readPattern (call.function.patternWhole?.getD false) text).mapError (.invalidPattern text))

end AttrExpr
