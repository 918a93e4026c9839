import AttrExpr.Binary64.Text
import AttrExpr.Kind
import AttrExpr.Unicode.Case

/-! Numbers: whole ones of 64 bits for as long as they are exact, and binary ones otherwise. -/
set_option autoImplicit false

namespace AttrExpr

inductive Number where
  | whole (n : Int64)
  | decimal (d : Binary64)
  deriving DecidableEq

/-- Why an operation on numbers has no result. -/
inductive ArithmeticError where
  | divisionByZero
  | outOfRange
  deriving DecidableEq, Repr

def ArithmeticError.message : ArithmeticError → String
  | .divisionByZero => "division by zero"
  | .outOfRange => "result is out of the representable range"

/-- An integer as a word of 64 bits, when it is one. -/
def wholeOfInt? (n : Int) : Option Int64 :=
  if -0x8000000000000000 ≤ n ∧ n < 0x8000000000000000 then some (Int64.ofInt n) else none

namespace Number

/-- The nearest binary number. -/
def toBinary : Number → Binary64
  | .whole n => .ofInt n.toInt
  | .decimal d => d

def isFinite : Number → Bool
  | .whole _ => true
  | .decimal d => d.isFinite

/-- The whole number that a number is, if it is one of 64 bits. -/
def toWhole? : Number → Option Int64
  | .whole n => some n
  | .decimal d => d.toInt?.bind wholeOfInt?

def isWhole : Number → Bool
  | .whole _ => true
  | .decimal _ => false

def isZero : Number → Bool
  | .whole n => n == 0
  | .decimal d => d.isZero

def kind : Number → Kind
  | .whole _ => .whole
  | .decimal _ => .number

def toDecimal (x : Number) : Number := .decimal x.toBinary

/-- A binary result, which must be finite. -/
def finite (d : Binary64) : Except ArithmeticError Number :=
  if d.isFinite then .ok (.decimal d) else .error .outOfRange

/-- Whole operands give a whole result when it fits; all else is computed on binary numbers. -/
def combine (exact : Int → Int → Int) (binary : Binary64 → Binary64 → Binary64) (x y : Number) :
    Except ArithmeticError Number :=
  match x, y with
  | .whole a, .whole b =>
    match wholeOfInt? (exact a.toInt b.toInt) with
    | some n => .ok (.whole n)
    | none => finite (binary x.toBinary y.toBinary)
  | _, _ => finite (binary x.toBinary y.toBinary)

def plus : Number → Number → Except ArithmeticError Number := combine (· + ·) .add

def minus : Number → Number → Except ArithmeticError Number := combine (· - ·) .sub

def times : Number → Number → Except ArithmeticError Number := combine (· * ·) .mul

/-- A quotient of whole numbers stays whole when the division is exact and the result fits. -/
def divide (x y : Number) : Except ArithmeticError Number :=
  if y.isZero then .error .divisionByZero
  else
    match x, y with
    | .whole a, .whole b =>
      if a.toInt.tmod b.toInt = 0 then
        match wholeOfInt? (a.toInt.tdiv b.toInt) with
        | some n => .ok (.whole n)
        | none => .ok (.decimal (x.toBinary.div y.toBinary))
      else finite (x.toBinary.div y.toBinary)
    | _, _ => finite (x.toBinary.div y.toBinary)

/-- The remainder, with the sign of the dividend. -/
def modulo (x y : Number) : Except ArithmeticError Number :=
  if y.isZero then .error .divisionByZero
  else
    match x, y with
    | .whole a, .whole b => .ok (.whole (Int64.ofInt (a.toInt.tmod b.toInt)))
    | _, _ => finite (x.toBinary.rem y.toBinary)

def abs : Number → Number
  | .whole n =>
    match wholeOfInt? n.toInt.natAbs with
    | some m => .whole m
    | none => .decimal (Binary64.ofInt n.toInt).abs
  | .decimal d => .decimal d.abs

/-- Equality of values. Two whole numbers are compared exactly, all others as binary numbers. -/
def eq (x y : Number) : Bool :=
  match x, y with
  | .whole a, .whole b => a == b
  | _, _ => x.toBinary.eq y.toBinary

/-- The order of two numbers, unless one is NaN. -/
def compare? (x y : Number) : Option Ordering :=
  match x, y with
  | .whole a, .whole b => some (compare a.toInt b.toInt)
  | _, _ => x.toBinary.compare? y.toBinary

/-- The text of a number. It reads back as the same number. -/
def text : Number → String
  | .whole n => .ofList (intText n.toInt)
  | .decimal d => .ofList (d.write plainStyle)

end Number

/-- A run of digits with an optional sign, as an integer. -/
def readInt? (cs : List Char) : Option Int :=
  let (negative, ds) := takeSign cs
  if ds.isEmpty || !ds.all Char.isDigit then none
  else some (if negative then -(digitsValue ds : Int) else digitsValue ds)

/-- A character that may occur in the text of a number. -/
def isNumeric (c : Char) : Bool :=
  c.isDigit || c == '+' || c == '-' || c == '.' || c == 'e' || c == 'E'

/-- Reads a number that takes up the whole text but for blanks around it. Digits alone that fit
64 bits are a whole number; infinity, NaN and other bases are refused. -/
def readNumber? (text : String) : Option Number :=
  let cs := Unicode.trim text.toList
  if !cs.all isNumeric || !cs.any Char.isDigit then none
  else
    match (readInt? cs).bind wholeOfInt? with
    | some n => some (.whole n)
    | none =>
      match readDecimal? cs with
      | some d => if d.isFinite then some (.decimal d) else none
      | none => none

end AttrExpr
