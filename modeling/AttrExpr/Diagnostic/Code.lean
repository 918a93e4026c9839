/-! The numbered kinds of errors: what each is called and which advice goes with it. -/
set_option autoImplicit false

namespace AttrExpr

structure Code where
  number : Nat
  deriving DecidableEq, Repr

namespace Code

def unexpectedToken : Code := ⟨1⟩
def unexpectedEnd : Code := ⟨2⟩
def unterminatedExpression : Code := ⟨3⟩
def unterminatedString : Code := ⟨4⟩
def invalidNumber : Code := ⟨5⟩
def expectedCall : Code := ⟨6⟩
def expectedSubject : Code := ⟨7⟩
def typeMismatch : Code := ⟨100⟩
def unknownFunction : Code := ⟨101⟩
def argumentCount : Code := ⟨102⟩
def missingSubject : Code := ⟨103⟩
def unexpectedSubject : Code := ⟨104⟩
def invalidQuantifier : Code := ⟨105⟩
def invalidPattern : Code := ⟨106⟩
def undeclaredAttribute : Code := ⟨107⟩
def coercionFailed : Code := ⟨201⟩
def arithmetic : Code := ⟨202⟩
def malformedLiteral : Code := ⟨203⟩
def unsetValue : Code := ⟨204⟩
def invalidComputedPattern : Code := ⟨205⟩
def internal : Code := ⟨400⟩
def configuration : Code := ⟨402⟩

/-- The written form of a code: its number with at least four digits. -/
def text (code : Code) : String :=
  let digits := toString code.number
  "AEL" ++ "".pushn '0' (4 - digits.length) ++ digits

def description (code : Code) : String :=
  match code.number with
  | 1 => "Unexpected token"
  | 2 => "Unexpected end of input"
  | 3 => "Unterminated expression"
  | 4 => "Unterminated string literal"
  | 5 => "Invalid number literal"
  | 6 => "Expected function call"
  | 7 => "Expected attribute name or function"
  | 100 => "Type mismatch"
  | 101 => "Unknown function"
  | 102 => "Invalid argument count"
  | 103 => "Function requires a subject"
  | 104 => "Function cannot be applied to a subject"
  | 105 => "Invalid multi-attribute expression"
  | 106 => "Invalid regular expression"
  | 107 => "Undeclared attribute"
  | 200 => "Evaluation failed"
  | 201 => "Type coercion failed"
  | 202 => "Arithmetic error"
  | 203 => "Malformed date/instant literal"
  | 204 => "Unset attribute where a value is required"
  | 205 => "Invalid regular expression"
  | 400 => "Internal error"
  | 402 => "Configuration error"
  | _ => "Unknown error"

/-- Advice for the kinds of errors that have some. -/
def help? (code : Code) : Option String :=
  match code.number with
  | 3 => some "Every '$\x7b' must be closed by a matching '\x7d'"
  | 101 => some "Run `ael functions` to list the available functions"
  | 105 =>
    some ("Multi-attribute subjects need a boolean predicate " ++
      "or a reducing function such as join() or count()")
  | 204 => some "Use replaceNull() to supply a default for missing attributes"
  | _ => none

/-- Whether a code stands for an error in the form of a source text. -/
def isReading (code : Code) : Bool := 1 ≤ code.number && code.number < 100

def isCompilation (code : Code) : Bool := 100 ≤ code.number && code.number < 200

def isEvaluation (code : Code) : Bool := 200 ≤ code.number && code.number < 300

def isSystem (code : Code) : Bool := 400 ≤ code.number && code.number < 500

end Code

end AttrExpr
