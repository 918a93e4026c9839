/-! Binary floating-point numbers of 64 bits, in exact arithmetic: every operation computes its
exact result as a fraction and rounds it once, to the nearest number and to the even one of two. -/
set_option autoImplicit false

namespace AttrExpr

/-- `mantissa · 2 ^ exponent` is in the one form in which the format writes it. -/
def Canonical (mantissa : Nat) (exponent : Int) : Prop :=
  mantissa < 1 <<< 53 ∧ -1074 ≤ exponent ∧ exponent ≤ 971 ∧
    (exponent = -1074 ∨ 1 <<< 52 ≤ mantissa)

instance (mantissa : Nat) (exponent : Int) : Decidable (Canonical mantissa exponent) :=
  inferInstanceAs (Decidable (_ ∧ _ ∧ _ ∧ (_ ∨ _)))

inductive Binary64 where
  | finite (negative : Bool) (mantissa : Nat) (exponent : Int)
      (canonical : Canonical mantissa exponent)
  | infinite (negative : Bool)
  | nan
  deriving DecidableEq

namespace Binary64

def zero (negative : Bool) : Binary64 := .finite negative 0 (-1074) (by decide)

def isFinite : Binary64 → Bool
  | .finite .. => true
  | _ => false

/-- The quotient to the nearest whole number; a half goes to the even neighbour. -/
def divToEven (num den : Nat) : Nat :=
  let q := num / den
  let r := num % den
  if 2 * r < den ∨ (2 * r = den ∧ q % 2 = 0) then q else q + 1

/-- `num / den` divided by `2 ^ exponent`, as a fraction. -/
def scaled (num den : Nat) (exponent : Int) : Nat × Nat :=
  if 0 ≤ exponent then (num, den <<< exponent.toNat)
  else (num <<< (-exponent).toNat, den)

/-- The exponent at which `num / den` has 53 bits, but not below that of the smallest numbers and of
zero. -/
def exponentFor (num den : Nat) : Int :=
  if num = 0 then -1074
  else
    let guess : Int := (Nat.log2 num : Int) - (Nat.log2 den : Int) - 52
    let (n, d) := scaled num den guess
    max (if n < d <<< 52 then guess - 1 else guess) (-1074)

/-- The number nearest to `num / den`, with a sign. Past the largest number it is infinite. -/
def round (negative : Bool) (num den : Nat) : Binary64 :=
  let exponent := exponentFor num den
  let (n, d) := scaled num den exponent
  let mantissa := divToEven n d
  if h : Canonical mantissa exponent then .finite negative mantissa exponent h
  else if h : Canonical (1 <<< 52) (exponent + 1) then .finite negative (1 <<< 52) (exponent + 1) h
  else .infinite negative

/-- The number nearest to an integer fraction; an exact zero is positive. -/
def ofFraction (num : Int) (den : Nat) : Binary64 := round (num < 0) num.natAbs den

def ofInt (n : Int) : Binary64 := ofFraction n 1

/-- A signed mantissa and an exponent as a fraction. -/
def fraction (negative : Bool) (mantissa : Nat) (exponent : Int) : Int × Nat :=
  let n : Nat := mantissa <<< exponent.toNat
  (if negative then -(n : Int) else n, 1 <<< (-exponent).toNat)

/-- The exact value of a finite number: a whole numerator over a power of two. -/
def value? : Binary64 → Option (Int × Nat)
  | .finite negative mantissa exponent _ => some (fraction negative mantissa exponent)
  | _ => none

def isNegative : Binary64 → Bool
  | .finite negative .. => negative
  | .infinite negative => negative
  | .nan => false

def isZero : Binary64 → Bool
  | .finite _ mantissa _ _ => mantissa == 0
  | _ => false

def neg : Binary64 → Binary64
  | .finite negative mantissa exponent h => .finite (!negative) mantissa exponent h
  | .infinite negative => .infinite (!negative)
  | .nan => .nan

def abs : Binary64 → Binary64
  | .finite _ mantissa exponent h => .finite false mantissa exponent h
  | .infinite _ => .infinite false
  | .nan => .nan

/-- The nearest number to an exact result, or a zero of the given sign. -/
def roundOrZero (zeroNegative : Bool) (num : Int) (den : Nat) : Binary64 :=
  if num = 0 then zero zeroNegative else ofFraction num den

def add (x y : Binary64) : Binary64 :=
  match x, y with
  | .finite s m e _, .finite t n f _ =>
    let (a, b) := fraction s m e
    let (c, d) := fraction t n f
    roundOrZero (s && t) (a * d + c * b) (b * d)
  | .nan, _ | _, .nan => .nan
  | .infinite s, .infinite t => if s = t then .infinite s else .nan
  | .infinite s, _ | _, .infinite s => .infinite s

def sub (x y : Binary64) : Binary64 := add x y.neg

def mul (x y : Binary64) : Binary64 :=
  match x, y with
  | .finite s m e _, .finite t n f _ =>
    let (a, b) := fraction s m e
    let (c, d) := fraction t n f
    roundOrZero (s != t) (a * c) (b * d)
  | .nan, _ | _, .nan => .nan
  | x, y => if x.isZero || y.isZero then .nan else .infinite (x.isNegative != y.isNegative)

def div (x y : Binary64) : Binary64 :=
  match x, y with
  | .finite s m e _, .finite t n f _ =>
    if n = 0 then (if m = 0 then .nan else .infinite (s != t))
    else
      let (a, b) := fraction s m e
      let (c, d) := fraction t n f
      if m = 0 then zero (s != t) else round (s != t) (a.natAbs * d) (b * c.natAbs)
  | .nan, _ | _, .nan => .nan
  | .infinite _, .infinite _ => .nan
  | .infinite s, y => .infinite (s != y.isNegative)
  | x, .infinite t => zero (x.isNegative != t)

/-- The remainder of division toward zero. It has the sign of `x` and is exact. -/
def rem (x y : Binary64) : Binary64 :=
  match x, y with
  | .finite s m e _, .finite t n f _ =>
    if n = 0 then .nan
    else
      let (a, b) := fraction s m e
      let (c, d) := fraction t n f
      roundOrZero s ((a * d).tmod (c * b)) (b * d)
  | .finite s m e h, .infinite _ => .finite s m e h
  | _, _ => .nan

/-- Equality of values: both zeros are equal, and NaN equals nothing. -/
def eq (x y : Binary64) : Bool :=
  match x, y with
  | .finite s m e _, .finite t n f _ =>
    let (a, b) := fraction s m e
    let (c, d) := fraction t n f
    a * d == c * b
  | .infinite s, .infinite t => s == t
  | _, _ => false

def lt (x y : Binary64) : Bool :=
  match x, y with
  | .finite s m e _, .finite t n f _ =>
    let (a, b) := fraction s m e
    let (c, d) := fraction t n f
    a * d < c * b
  | .nan, _ | _, .nan => false
  | .infinite s, .infinite t => s && !t
  | .infinite s, _ => s
  | _, .infinite t => !t

/-- The order of two numbers, unless one of them is NaN. -/
def compare? (x y : Binary64) : Option Ordering :=
  if x.lt y then some .lt else if y.lt x then some .gt else if x.eq y then some .eq else none

/-- The whole number that a finite number is. -/
def toInt? (x : Binary64) : Option Int :=
  match x.value? with
  | some (num, den) => if num % den = 0 then some (num / den) else none
  | none => none

end Binary64

end AttrExpr
