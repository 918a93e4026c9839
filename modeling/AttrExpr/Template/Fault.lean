import AttrExpr.Diagnostic.Code
import AttrExpr.Source.Location

/-! Why a source text is no template, and where. -/
set_option autoImplicit false

namespace AttrExpr

/-- What was missing or wrong at the place where reading stopped. -/
inductive Fault where
  | expectedClosing
  | expectedArgument
  | expectedSeparator
  | expectedEnd
  | endInArguments
  | endBeforeArgument
  | unterminatedExpression
  | unterminatedString
  | invalidNumber (token : String)
  | expectedFunctionName
  | invalidFunctionName (name : String)
  | expectedParenthesis
  | expectedSubject
  deriving DecidableEq, Repr

namespace Fault

def code : Fault → Code
  | .expectedClosing | .expectedArgument | .expectedSeparator | .expectedEnd => .unexpectedToken
  | .endInArguments | .endBeforeArgument => .unexpectedEnd
  | .unterminatedExpression => .unterminatedExpression
  | .unterminatedString => .unterminatedString
  | .invalidNumber _ => .invalidNumber
  | .expectedFunctionName | .invalidFunctionName _ | .expectedParenthesis => .expectedCall
  | .expectedSubject => .expectedSubject

def wording : Fault → String
  | .expectedClosing => "expected ':' or '\x7d'"
  | .expectedArgument => "expected a string, number, boolean or $\x7b...\x7d argument"
  | .expectedSeparator => "expected ',' or ')'"
  | .expectedEnd => "expected end of expression"
  | .endInArguments => "unexpected end of input in argument list"
  | .endBeforeArgument => "unexpected end of input, expected an argument"
  | .unterminatedExpression => "unterminated expression, expected '\x7d'"
  | .unterminatedString => "unterminated string literal"
  | .invalidNumber token => s!"invalid number literal '{token}'"
  | .expectedFunctionName => "expected function name"
  | .invalidFunctionName name => s!"invalid character in function name '{name}'"
  | .expectedParenthesis => "expected '(' after function name"
  | .expectedSubject => "expected attribute name or function"

end Fault

/-- A fault, the byte offset that it is reported at, and the character there. -/
structure SourceError where
  fault : Fault
  offset : Nat
  found : Option Char
  deriving DecidableEq, Repr

namespace SourceError

def code (error : SourceError) : Code := error.fault.code

/-- The message of an error. One that is only about the character found names that character. -/
def message (error : SourceError) : String :=
  if error.code = .unexpectedToken then
    match error.found with
    | some c => s!"unexpected '{c}', {error.fault.wording}"
    | none => s!"unexpected end of input, {error.fault.wording}"
  else error.fault.wording

/-- The place of an error covers the character found, or nothing at the end of the source. -/
def span (error : SourceError) : Span :=
  ⟨error.offset, error.offset + (match error.found with
    | some c => c.utf8Size
    | none => 0)⟩

def location (error : SourceError) (source : List Char) : Location := .ofSpan error.span source

end SourceError

end AttrExpr
