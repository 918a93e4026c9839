import AttrExpr.Calendar.Writer
import AttrExpr.Json.Basic
import AttrExpr.Number

/-! Values of expressions, their equality and their text. -/
set_option autoImplicit false

namespace AttrExpr

/-- What an expression evaluates to. A missing attribute is unset. -/
inductive Value where
  | unset
  | string (text : String)
  | boolean (b : Bool)
  | number (n : Number)
  | date (date : Date)
  | instant (instant : Instant)
  deriving DecidableEq

namespace Value

def isUnset : Value → Bool
  | .unset => true
  | _ => false

def kind? : Value → Option Kind
  | .unset => none
  | .string _ => some .string
  | .boolean _ => some .boolean
  | .number n => some n.kind
  | .date _ => some .date
  | .instant _ => some .instant

def string? : Value → Option String
  | .string s => some s
  | _ => none

def boolean? : Value → Option Bool
  | .boolean b => some b
  | _ => none

def number? : Value → Option Number
  | .number n => some n
  | _ => none

/-- The text of a value. It is what a value becomes when it is turned into a string. -/
def text : Value → String
  | .unset => ""
  | .string s => s
  | .boolean b => if b then "true" else "false"
  | .number n => n.text
  | .date d => .ofList d.text
  | .instant i => .ofList i.canonicalText

def ofInt64 (n : Int64) : Value := .number (.whole n)

/-- Equality of values: numbers by value, instants by moment. -/
def eq : Value → Value → Bool
  | .unset, .unset => true
  | .string a, .string b => a == b
  | .boolean a, .boolean b => a == b
  | .number a, .number b => a.eq b
  | .date a, .date b => a = b
  | .instant a, .instant b => a.eq b
  | _, _ => false

def numberJson : Number → Json
  | .whole n => .number (.ofList (intText n.toInt))
  | .decimal d => if d.isFinite then .number (.ofList (d.write jsonStyle)) else .null

def json : Value → Json
  | .unset => .null
  | .string s => .string s
  | .boolean b => .boolean b
  | .number n => numberJson n
  | .date d => .string (.ofList d.text)
  | .instant i => .string (.ofList i.zuluText)

end Value

end AttrExpr
