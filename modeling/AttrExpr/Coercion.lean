import AttrExpr.Formats
import AttrExpr.Value.Basic

/-! Turning values into values of another kind. -/
set_option autoImplicit false

namespace AttrExpr

/-- Why a value does not become one of a kind. -/
inductive CoercionError where
  | incompatible (source target : Kind) (value : String)
  | unset (target : Kind)
  | malformed (target : Kind) (value pattern : String)
  deriving DecidableEq, Repr

def CoercionError.message : CoercionError → String
  | .incompatible source target value =>
    s!"cannot coerce {source.name} value '{value}' to {target.name}"
  | .unset target => s!"attribute is not set but a {target.name} value is required"
  | .malformed target value pattern =>
    s!"'{value}' does not match the {target.name} pattern '{pattern}'"

/-- A number as a whole one. `source` is the kind of the value that it was read from. -/
def Number.coerceWhole (source : Kind) (n : Number) : Except CoercionError Value :=
  match n.toWhole? with
  | some k => .ok (.number (.whole k))
  | none => .error (.incompatible source .whole n.text)

/-- Text as a truth value: either word, whatever its case. -/
def truthOfText? (text : String) : Option Bool :=
  let word := text.toList.map Char.toLower
  if word = "true".toList then some true else if word = "false".toList then some false else none

/-- Text as a value of a kind. -/
def coerceText (formats : Formats) (target : Kind) (text : String) : Except CoercionError Value :=
  match target with
  | .string => .ok (.string text)
  | .boolean =>
    match truthOfText? text with
    | some b => .ok (.boolean b)
    | none => .error (.incompatible .string target text)
  | .number =>
    match readNumber? text with
    | some n => .ok (.number n)
    | none => .error (.incompatible .string target text)
  | .whole =>
    match readNumber? text with
    | some n => n.coerceWhole .string
    | none => .error (.incompatible .string target text)
  | .date =>
    match formats.readDate? none text with
    | some date => .ok (.date date)
    | none => .error (.malformed target text formats.date.text)
  | .instant =>
    match formats.readInstant? none text with
    | some instant => .ok (.instant instant)
    | none => .error (.malformed target text (formats.instantPattern none))

/-- A value as one of another kind. An unset value is the empty string and nothing else. -/
def Value.coerce (formats : Formats) (target : Kind) (value : Value) : Except CoercionError Value :=
  match value, target with
  | .unset, .string => .ok (.string "")
  | .unset, target => .error (.unset target)
  | .string text, target => coerceText formats target text
  | value, .string => .ok (.string value.text)
  | .number n, .number => .ok (.number n)
  | .number n, .whole => n.coerceWhole n.kind
  | .boolean b, .boolean => .ok (.boolean b)
  | .date d, .date => .ok (.date d)
  | .instant i, .instant => .ok (.instant i)
  | .boolean b, target => .error (.incompatible .boolean target (Value.boolean b).text)
  | .number n, target => .error (.incompatible n.kind target n.text)
  | .date d, target => .error (.incompatible .date target (Value.date d).text)
  | .instant i, target => .error (.incompatible .instant target (Value.instant i).text)

end AttrExpr
