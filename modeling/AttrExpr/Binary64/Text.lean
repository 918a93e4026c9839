import AttrExpr.Binary64.Shortest
import AttrExpr.Text.Utf8

/-! Decimal text of binary numbers: writing in a given style, and reading. -/
set_option autoImplicit false

namespace AttrExpr

/-- How a number is written: which decimal exponents are positional, whether a whole number keeps a
fraction, whether a positive exponent has a sign, and which of two nearest numbers is taken. -/
structure NumberStyle where
  positionalFrom : Int
  positionalBelow : Int
  keepsFraction : Bool
  signsExponent : Bool
  tie : Tie
  deriving DecidableEq, Repr

/-- Decimal digits of a natural number. -/
def natText (n : Nat) : List Char := Nat.toDigits 10 n

def intText (n : Int) : List Char := if n < 0 then '-' :: natText n.natAbs else natText n.natAbs

/-- Digits written out to their last place, without an exponent. -/
def Decimal.positional (d : Decimal) (keepsFraction : Bool) : List Char :=
  let ds := natText d.digits
  if 0 ≤ d.exponent then
    ds ++ List.replicate d.exponent.toNat '0' ++ if keepsFraction then ['.', '0'] else []
  else
    let places := (-d.exponent).toNat
    if places < ds.length then
      ds.take (ds.length - places) ++ '.' :: ds.drop (ds.length - places)
    else '0' :: '.' :: (List.replicate (places - ds.length) '0' ++ ds)

/-- The exponent of the first digit. -/
def Decimal.leading (d : Decimal) : Int := d.exponent + (natText d.digits).length - 1

/-- One digit, the others after a point, and the exponent of the first. -/
def Decimal.scientific (d : Decimal) (signsExponent : Bool) : List Char :=
  let mantissa := match natText d.digits with
    | [] => []
    | [c] => [c]
    | c :: cs => c :: '.' :: cs
  let sign := if signsExponent && 0 ≤ d.leading then ['+'] else []
  mantissa ++ 'e' :: (sign ++ intText d.leading)

def Decimal.write (d : Decimal) (style : NumberStyle) : List Char :=
  if d.digits = 0 ∨ (style.positionalFrom ≤ d.leading ∧ d.leading < style.positionalBelow) then
    d.positional style.keepsFraction
  else d.scientific style.signsExponent

/-- The text of a number in a style. -/
def Binary64.write (style : NumberStyle) : Binary64 → List Char
  | .finite negative mantissa exponent _ =>
    (if negative then ['-'] else []) ++ (shortest style.tie mantissa exponent).write style
  | .infinite negative => if negative then ['-', 'i', 'n', 'f'] else ['i', 'n', 'f']
  | .nan => ['N', 'a', 'N']

/-- Results are written without an exponent and without a needless fraction. -/
def plainStyle : NumberStyle := ⟨-400, 400, false, false, .up⟩

/-- Numbers in JSON always show a fraction or an exponent. -/
def jsonStyle : NumberStyle := ⟨-5, 16, true, true, .even⟩

/-- Numbers in messages on broken invariants show a fraction or an exponent. -/
def messageStyle : NumberStyle := ⟨-4, 16, true, false, .up⟩

/-- The value of a run of decimal digits. -/
def digitsValue (cs : List Char) : Nat := cs.foldl (fun n c => n * 10 + (c.toNat - '0'.toNat)) 0

/-- The leading decimal digits and what follows them. -/
def takeDigits (cs : List Char) : List Char × List Char :=
  (cs.takeWhile Char.isDigit, cs.dropWhile Char.isDigit)

/-- The binary number nearest to `digits · 10 ^ exponent`. Beyond the range of the format only the
magnitude is looked at, so that no huge power is ever computed. -/
def Decimal.nearest (negative : Bool) (d : Decimal) : Binary64 :=
  let magnitude : Int := d.exponent + (natText d.digits).length
  if d.digits = 0 ∨ magnitude < -330 then .zero negative
  else if 310 < magnitude then .infinite negative
  else .round negative (d.digits * tenTo d.exponent.toNat) (tenTo (-d.exponent).toNat)

/-- Reads `digits.digits`, with a digit on at least one side; the point may be missing. -/
def readFixed? (cs : List Char) : Option (Decimal × List Char) :=
  let (whole, rest) := takeDigits cs
  let (fraction, rest) := match rest with
    | '.' :: more => takeDigits more
    | _ => ([], rest)
  if whole.isEmpty && fraction.isEmpty then none
  else some (⟨digitsValue (whole ++ fraction), -(fraction.length : Int)⟩, rest)

/-- Reads an exponent with its mark, or nothing at all. -/
def readExponent? : List Char → Option Int
  | [] => some 0
  | c :: cs =>
    if c = 'e' ∨ c = 'E' then
      let (negative, ds) := match cs with
        | '-' :: rest => (true, rest)
        | '+' :: rest => (false, rest)
        | _ => (false, cs)
      if ds.isEmpty || !ds.all Char.isDigit then none
      else some (if negative then -(digitsValue ds : Int) else digitsValue ds)
    else none

/-- An optional sign and what follows it. -/
def takeSign : List Char → Bool × List Char
  | '-' :: cs => (true, cs)
  | '+' :: cs => (false, cs)
  | cs => (false, cs)

/-- Reads a decimal with an optional sign and an optional exponent, and nothing else. -/
def readDecimal? (cs : List Char) : Option Binary64 := do
  let (negative, rest) := takeSign cs
  let (d, rest) ← readFixed? rest
  let exponent ← readExponent? rest
  pure (Decimal.nearest negative ⟨d.digits, d.exponent + exponent⟩)

/-- Reads any number text, the names of infinity and NaN included, in any case. -/
def Binary64.ofText? (text : String) : Option Binary64 :=
  let (negative, rest) := takeSign text.toList
  let name := rest.map Char.toLower
  if name = ['i', 'n', 'f'] ∨ name = ['i', 'n', 'f', 'i', 'n', 'i', 't', 'y'] then
    some (.infinite negative)
  else if name = ['n', 'a', 'n'] then some .nan
  else readDecimal? text.toList

end AttrExpr
