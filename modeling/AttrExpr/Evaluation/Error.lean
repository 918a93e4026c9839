import AttrExpr.Coercion
import AttrExpr.Diagnostic.Code
import AttrExpr.Function.Basic
import AttrExpr.Regex.Scan
import AttrExpr.Value.Inspect

/-! Why an evaluation fails, and the token that is to blame. -/
set_option autoImplicit false

namespace AttrExpr

/-- Faults that no compiled expression shows. -/
inductive InternalFault where
  | unboundVariable (slot : Nat)
  | noSubject (function : Function)
  | notLowered (function : Function)
  | notPredicate (value : Value)
  | notNumber (value : Value)
  | notBoolean (value : Value)
  | notTemporal (value : Value)
  | notBooleanResult (value : Value)
  | pendingAtRoot (count : Nat)
  deriving DecidableEq

def InternalFault.message : InternalFault → String
  | .unboundVariable slot => s!"loop variable {slot} is not bound"
  | .noSubject function => s!"'{function.name}' has no subject"
  | .notLowered function => s!"'{function.name}' must be lowered to a quantifier"
  | .notPredicate value => s!"predicate produced {value.inspect}"
  | .notNumber value => s!"expected a number, found {value.inspect}"
  | .notBoolean value => s!"expected a boolean, found {value.inspect}"
  | .notTemporal value => s!"expected a date or instant, found {value.inspect}"
  | .notBooleanResult value => s!"{value.inspect} is not a boolean"
  | .pendingAtRoot count => s!"{count} loop binding(s) left unevaluated at the root"

/-- What went wrong. -/
inductive EvalCause where
  | coercion (error : CoercionError)
  | notWhole (value : String)
  | notReadAsBoolean (kind : Kind)
  | arithmetic (error : ArithmeticError) (left symbol right : String)
  | substringStart (start : Int64) (length : Nat)
  | substringEnd (stop start : Int64) (length : Nat)
  | negativeWidth (width : Int64)
  | malformedDate (text pattern : String)
  | malformedInstant (text pattern : String)
  | malformedFormat (pattern value : String)
  | unset (expected : Kind)
  | invalidPattern (pattern : String) (error : Regex.PatternError)
  | internal (fault : InternalFault)
  deriving DecidableEq

def int64Text (n : Int64) : String := .ofList (intText n.toInt)

namespace EvalCause

def code : EvalCause → Code
  | .coercion (.unset _) | .unset _ => .unsetValue
  | .coercion (.malformed _ _ _) | .malformedDate _ _ | .malformedInstant _ _
  | .malformedFormat _ _ => .malformedLiteral
  | .coercion (.incompatible _ _ _) | .notWhole _ | .notReadAsBoolean _ => .coercionFailed
  | .arithmetic _ _ _ _ | .substringStart _ _ | .substringEnd _ _ _ | .negativeWidth _ =>
    .arithmetic
  | .invalidPattern _ _ => .invalidComputedPattern
  | .internal _ => .internal

/-- What is said of a cause, apart from the token. -/
def wording (detail : Regex.PatternError → String) : EvalCause → String
  | .coercion (.unset kind) | .unset kind =>
    s!"Attribute is not set but a {kind.name} value is required"
  | .coercion error => error.message
  | .notWhole value => s!"expected a whole number, found '{value}'"
  | .notReadAsBoolean kind => s!"a {kind.name} expression cannot be read as a boolean"
  | .arithmetic error left symbol right => s!"{error.message}: {left} {symbol} {right}"
  | .substringStart start length =>
    s!"substring start {int64Text start} is outside 0..={length}"
  | .substringEnd stop start length =>
    s!"substring end {int64Text stop} is outside {int64Text start}..={length}"
  | .negativeWidth width => s!"padding width {int64Text width} is negative"
  | .malformedDate text pattern => s!"'{text}' does not match the date pattern '{pattern}'"
  | .malformedInstant text pattern => s!"'{text}' does not match the instant pattern '{pattern}'"
  | .malformedFormat pattern value => s!"invalid format pattern '{pattern}' for {value}"
  | .invalidPattern pattern error => s!"Invalid regular expression '{pattern}': {detail error}"
  | .internal fault => fault.message

end EvalCause

/-- A cause with the token of the part that failed. -/
structure EvalError where
  cause : EvalCause
  token : String
  deriving DecidableEq

namespace EvalError

def code (error : EvalError) : Code := error.cause.code

def isInternal (error : EvalError) : Bool := error.code = .internal

def message (detail : Regex.PatternError → String) (error : EvalError) : String :=
  (if error.isInternal then "Internal evaluation error: " else "") ++ error.cause.wording detail ++
    s!" (in '{error.token}')"

end EvalError

end AttrExpr
