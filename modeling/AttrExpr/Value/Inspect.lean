import AttrExpr.Unicode.Property
import AttrExpr.Value.Basic

/-! Values as messages about broken invariants show them: with their kind, and strings in quotes. -/
set_option autoImplicit false

namespace AttrExpr

namespace Unicode

/-- The characters that are shown by their code point: marks that join the character before them,
and those that show nothing. -/
def unprinted : CharSet :=
  graphemeExtend.union (charsOfAny [.control, .format, .surrogate, .privateUse, .unassigned,
    .lineSeparator, .paragraphSeparator, .spaceSeparator])

end Unicode

/-- The characters that stand for one character of a quoted string. -/
def inspectChar (c : Char) : List Char :=
  if c = '\x00' then ['\\', '0']
  else if c = '\t' then ['\\', 't']
  else if c = '\r' then ['\\', 'r']
  else if c = '\n' then ['\\', 'n']
  else if c = '\\' then ['\\', '\\']
  else if c = '"' then ['\\', '"']
  else if ' ' ≤ c ∧ c ≤ '~' then [c]
  else if Unicode.unprinted.contains c then
    ['\\', 'u', '\x7b'] ++ Nat.toDigits 16 c.toNat ++ ['\x7d']
  else [c]

def inspectText (text : String) : List Char := '"' :: (text.toList.flatMap inspectChar ++ ['"'])

/-- A label with its content in parentheses. -/
def labelled (label : String) (content : List Char) : String :=
  label ++ "(" ++ .ofList content ++ ")"

namespace Value

def inspectNumber : Number → String
  | .whole n => labelled "Whole" (intText n.toInt)
  | .decimal d => labelled "Decimal" (d.write messageStyle)

def inspect : Value → String
  | .unset => "Unset"
  | .string s => labelled "String" (inspectText s)
  | .boolean b => labelled "Boolean" (if b then "true" else "false").toList
  | .number n => labelled "Number" (inspectNumber n).toList
  | .date d => labelled "Date" d.text
  | .instant i => labelled "Instant" i.text

end Value

end AttrExpr
