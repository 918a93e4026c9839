import AttrExpr.Binary64.Basic

/-! The fewest decimal digits that read back as a binary number, and of those the nearest. -/
set_option autoImplicit false

namespace AttrExpr

/-- Ten to a power. -/
def tenTo (n : Nat) : Nat := Nat.pow 10 n

/-- The number `digits · 10 ^ exponent`. -/
structure Decimal where
  digits : Nat
  exponent : Int
  deriving DecidableEq, Repr

/-- Which of two equally near numbers is taken: the greater, or the one with an even last digit. -/
inductive Tie where
  | up
  | even
  deriving DecidableEq, Repr

/-- The numbers that round to one binary number, as whole multiples of one unit: they lie between
`low` and `high`, ends included when `closed`, around `mid`. -/
structure Roundings where
  low : Nat
  mid : Nat
  high : Nat
  unit : Nat
  closed : Bool

namespace Roundings

/-- The numbers that round to `mantissa · 2 ^ exponent`. Below a power of two the gap is half. -/
def around (mantissa : Nat) (exponent : Int) : Roundings :=
  let scale := 1 <<< (exponent - 2).toNat
  { low := (4 * mantissa - if mantissa = 1 <<< 52 ∧ exponent ≠ -1074 then 1 else 2) * scale
    mid := 4 * mantissa * scale
    high := (4 * mantissa + 2) * scale
    unit := 1 <<< (2 - exponent).toNat
    closed := mantissa % 2 == 0 }

/-- The same numbers counted in units of `10 ^ exponent`. -/
def inUnits (r : Roundings) (exponent : Int) : Roundings :=
  let scale := tenTo (-exponent).toNat
  { r with
    low := r.low * scale
    mid := r.mid * scale
    high := r.high * scale
    unit := r.unit * tenTo exponent.toNat }

/-- Whether `n` units lie among the numbers. -/
def holds (r : Roundings) (n : Nat) : Bool :=
  if r.closed then r.low ≤ n * r.unit && n * r.unit ≤ r.high
  else r.low < n * r.unit && n * r.unit < r.high

/-- The whole number of units nearest to the middle among the two next to it, if one is inside. -/
def pick? (r : Roundings) (tie : Tie) : Option Nat :=
  let below := r.mid / r.unit
  match r.holds below, r.holds (below + 1) with
  | false, false => none
  | true, false => some below
  | false, true => some (below + 1)
  | true, true =>
    let twice := 2 * (r.mid % r.unit)
    if twice < r.unit then some below
    else if r.unit < twice then some (below + 1)
    else match tie with
      | .up => some (below + 1)
      | .even => some (if below % 2 = 0 then below else below + 1)

end Roundings

/-- A decimal without zeros at its end. -/
def Decimal.stripped : Nat → Decimal → Decimal
  | 0, d => d
  | fuel + 1, d =>
    if d.digits ≠ 0 ∧ d.digits % 10 = 0 then stripped fuel ⟨d.digits / 10, d.exponent + 1⟩ else d

/-- Tries finer and finer decimal grids, from `exponent` downwards. -/
def shortestFrom (tie : Tie) (r : Roundings) : Nat → Int → Decimal
  | 0, exponent => ⟨0, exponent⟩
  | fuel + 1, exponent =>
    match (r.inUnits exponent).pick? tie with
    | some n => if n = 0 then shortestFrom tie r fuel (exponent - 1) else ⟨n, exponent⟩
    | none => shortestFrom tie r fuel (exponent - 1)

/-- The shortest decimal that rounds to `mantissa · 2 ^ exponent`. -/
def shortest (tie : Tie) (mantissa : Nat) (exponent : Int) : Decimal :=
  if mantissa = 0 then ⟨0, 0⟩
  else
    let log2 : Int := (Nat.log2 mantissa : Int) + exponent
    let start := (log2 * 30103).fdiv 100000 + 1
    (shortestFrom tie (.around mantissa exponent) 21 start).stripped 20

end AttrExpr
