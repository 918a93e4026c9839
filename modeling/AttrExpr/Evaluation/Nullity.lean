import AttrExpr.Evaluation.Call
import AttrExpr.Unicode.Case

/-! Functions that see whether an attribute is missing. Their subject is taken as it is. -/
set_option autoImplicit false

namespace AttrExpr

namespace Value

/-- Whether a value is unset or text without anything but blanks. -/
def isBlank : Value → Bool
  | .unset => true
  | .string s => (Unicode.trim s.toList).isEmpty
  | _ => false

/-- Equality in the language: values of one kind by value, others by their text. Unset equals
unset. -/
def same (a b : Value) : Bool :=
  match a, b with
  | .unset, .unset => true
  | .unset, _ | _, .unset => false
  | .number x, .number y => x.eq y
  | .boolean x, .boolean y => x == y
  | .string x, .string y => x == y
  | .date x, .date y => x = y
  | .instant x, .instant y => x.eq y
  | a, b => a.text == b.text

/-- Equality of the text of two values in lower case. Unset equals unset only. -/
def sameIgnoringCase (a b : Value) : Bool :=
  match a.isUnset, b.isUnset with
  | true, true => true
  | false, false => Unicode.toLower a.text == Unicode.toLower b.text
  | _, _ => false

end Value

namespace ActiveCall

/-- The text of the subject, or of the first argument in its place. -/
def textOr (call : ActiveCall) (subject : Value) (replaced : Bool) : Eval Value := do
  if replaced then pure (.string (← call.textArg 0)) else pure (.string subject.text)

/-- The value of a function that sees missing attributes, once its subject has been evaluated. -/
def onNullable (call : ActiveCall) (subject : Value) : Eval Value :=
  match call.function with
  | .isNull => pure (.boolean subject.isUnset)
  | .notNull => pure (.boolean !subject.isUnset)
  | .isEmpty => pure (.boolean subject.isBlank)
  | .replaceNull => call.textOr subject subject.isUnset
  | .replaceEmpty => call.textOr subject subject.isBlank
  | .equals => do pure (.boolean (subject.same (← call.arg 0)))
  | _ => do pure (.boolean (subject.sameIgnoringCase (← call.arg 0)))

end ActiveCall

end AttrExpr
