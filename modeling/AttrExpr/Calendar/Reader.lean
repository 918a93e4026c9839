import AttrExpr.Calendar.Fields
import AttrExpr.Calendar.Writer
import AttrExpr.Text.Search
import AttrExpr.Unicode.Case

/-! Reading dates and instants: after a pattern, and in the standard form. A reader answers with the
fields so far and what is left of the text. -/
set_option autoImplicit false

namespace AttrExpr

/-- The value of the leading digits, of which there are at least one and at most `width`. -/
def readDigits? (width : Nat) (cs : List Char) : Option (Nat × List Char) :=
  let digits := (cs.take width).takeWhile Char.isDigit
  if digits.isEmpty then none else some (digitsValue digits, cs.drop digits.length)

/-- Exactly two digits. -/
def readTwo? : List Char → Option (Nat × List Char)
  | a :: b :: cs => if a.isDigit && b.isDigit then some (digitsValue [a, b], cs) else none
  | _ => none

/-- A number with an optional sign. With a sign it may have any number of digits. -/
def readSigned? (width : Nat) (cs : List Char) : Option (Int × List Char) :=
  match cs with
  | '-' :: rest => (readDigits? rest.length rest).map fun (n, rest) => (-(n : Int), rest)
  | '+' :: rest => (readDigits? rest.length rest).map fun (n, rest) => ((n : Int), rest)
  | _ => (readDigits? width cs).map fun (n, rest) => ((n : Int), rest)

namespace NumberField

/-- The number of digits that a field has at most; nothing for a field without a bound. -/
def width? : NumberField → Option Nat
  | .year | .isoYear => some 4
  | .nanosecond => some 9
  | .ordinal => some 3
  | .quarter | .daysFromSunday | .weekdayNumber => some 1
  | .timestamp => none
  | _ => some 2

def isSigned : NumberField → Bool
  | .year | .isoYear => true
  | _ => false

def read? (field : NumberField) (fields : Fields) (cs : List Char) :
    Option (Fields × List Char) := do
  let cs := Unicode.trimStart cs
  let width := field.width?.getD cs.length
  let (value, rest) ←
    if field.isSigned then readSigned? width cs
    else (readDigits? width cs).map fun (n, rest) => ((n : Int), rest)
  let fields ← fields.set field value
  pure (fields, rest)

end NumberField

/-- What follows a word, whatever its case. -/
def afterWord? : List Char → List Char → Option (List Char)
  | [], cs => some cs
  | _ :: _, [] => none
  | w :: ws, c :: cs => if w.toLower = c.toLower then afterWord? ws cs else none

/-- The place in a list of names of the one that the text starts with by its first three letters;
when `long`, the rest of the name is passed over if it is there. -/
def readName? (names : List String) (long : Bool) (cs : List Char) : Option (Nat × List Char) :=
  names.zipIdx.findSome? fun (name, i) =>
    (afterWord? (name.toList.take 3) cs).map fun rest =>
      (i, if long then (afterWord? (name.toList.drop 3) rest).getD rest else rest)

/-- The digits of a fraction of a second in nanoseconds. Digits past the ninth do not count. -/
def readFraction? (cs : List Char) : Option (Nat × List Char) :=
  let digits := cs.takeWhile Char.isDigit
  if digits.isEmpty then none
  else
    let kept := digits.take 9
    some (digitsValue kept * tenTo (9 - kept.length), cs.dropWhile Char.isDigit)

/-- The sign of an offset: plus, hyphen or the minus sign. -/
def readOffsetSign? : List Char → Option (Bool × List Char)
  | '+' :: cs => some (false, cs)
  | '-' :: cs => some (true, cs)
  | '−' :: cs => some (true, cs)
  | _ => none

/-- The minutes of an offset. Without two characters there are none, which may be allowed. -/
def readOffsetMinutes? (optional : Bool) : List Char → Option (Nat × List Char)
  | [] => if optional then some (0, []) else none
  | a :: b :: cs =>
    if '0' ≤ a && a ≤ '5' && b.isDigit then some (digitsValue [a, b], cs) else none
  | [_] => none

/-- An offset in minutes: a sign, two digits of hours, a separator, and two digits of minutes. -/
def readOffset? (separator : List Char → Option (List Char)) (optional : Bool) (cs : List Char) :
    Option (Int × List Char) := do
  let (negative, rest) ← readOffsetSign? cs
  let (hours, rest) ← readTwo? rest
  let rest ← separator rest
  let (minutes, rest) ← readOffsetMinutes? optional rest
  let total : Int := hours * 60 + minutes
  pure (if negative then -total else total, rest)

/-- A letter for universal time, or an offset. -/
def readZuluOffset? (separator : List Char → Option (List Char)) (optional : Bool)
    (cs : List Char) : Option (Int × List Char) :=
  match cs with
  | 'Z' :: rest | 'z' :: rest => some (0, rest)
  | _ => readOffset? separator optional cs

/-- Any number of colons and blanks. -/
def skipSeparators (cs : List Char) : Option (List Char) :=
  some (cs.dropWhile fun c => c == ':' || Unicode.isWhiteSpace c)

def readColon? : List Char → Option (List Char)
  | ':' :: cs => some cs
  | _ => none

/-- The offset of the lenient standard form, for which the name of universal time is allowed. -/
def readNamedOffset? (cs : List Char) : Option (Int × List Char) :=
  match afterWord? ['U', 'T', 'C'] cs with
  | some rest => some (0, rest)
  | none => readZuluOffset? skipSeparators false cs

namespace TextField

/-- Sets the fraction of a second from a number of digits that is fixed. -/
def readFixedFraction? (digits : Nat) (fields : Fields) (cs : List Char) :
    Option (Fields × List Char) :=
  let taken := cs.take digits
  if taken.length = digits ∧ taken.all Char.isDigit then
    (fields.set .nanosecond (digitsValue taken * tenTo (9 - digits) : Nat)).map (·, cs.drop digits)
  else none

def readPoint? (fields : Fields) (cs : List Char) : Option (Fields × List Char) :=
  match cs with
  | '.' :: rest => do
    let (nanosecond, rest) ← readFraction? rest
    (fields.set .nanosecond nanosecond).map (·, rest)
  | _ => some (fields, cs)

def readHalf? (fields : Fields) (cs : List Char) : Option (Fields × List Char) :=
  match afterWord? ['a', 'm'] cs, afterWord? ['p', 'm'] cs with
  | some rest, _ => (fields.setHalf 0).map (·, rest)
  | _, some rest => (fields.setHalf 1).map (·, rest)
  | none, none => none

def readMonth? (long : Bool) (fields : Fields) (cs : List Char) : Option (Fields × List Char) := do
  let (i, rest) ← readName? monthNames long cs
  (fields.set .month (i + 1)).map (·, rest)

def readWeekday? (long : Bool) (fields : Fields) (cs : List Char) :
    Option (Fields × List Char) := do
  let (i, rest) ← readName? weekdayNames long cs
  (fields.setWeekday (.ofNumber i)).map (·, rest)

end TextField

/-- Reads the standard form leniently: blanks before each number and around the separators, and any
spelling of the offset. -/
def readStandard? (fields : Fields) (cs : List Char) : Option (Fields × List Char) := do
  let after (c : Char) (cs : List Char) : Option (List Char) :=
    Text.after? [c] (Unicode.trimStart cs)
  let (fields, cs) ← NumberField.read? .year fields cs
  let (fields, cs) ← NumberField.read? .month fields (← after '-' cs)
  let (fields, cs) ← NumberField.read? .day fields (← after '-' cs)
  let cs ← match cs with
    | 'T' :: rest | 't' :: rest | ' ' :: rest => some rest
    | _ => none
  let (fields, cs) ← NumberField.read? .hour fields cs
  let (fields, cs) ← NumberField.read? .minute fields (← after ':' cs)
  let (fields, cs) ← NumberField.read? .second fields (← after ':' cs)
  let (fields, cs) ← TextField.readPoint? fields cs
  let (minutes, cs) ← readNamedOffset? (Unicode.trimStart cs)
  (fields.setOffset minutes).map (·, cs)

namespace TextField

def read? (field : TextField) (fields : Fields) (cs : List Char) : Option (Fields × List Char) :=
  match field with
  | .shortMonth => readMonth? false fields cs
  | .longMonth => readMonth? true fields cs
  | .shortWeekday => readWeekday? false fields cs
  | .longWeekday => readWeekday? true fields cs
  | .lowerHalf | .upperHalf => readHalf? fields cs
  | .fraction | .fractionOf _ => readPoint? fields cs
  | .digitsOf digits => readFixedFraction? digits fields cs
  | .zoneName => some (fields, cs.dropWhile fun c => !Unicode.isWhiteSpace c)
  | .offset .lenient => do
    let (minutes, rest) ← readZuluOffset? skipSeparators true (Unicode.trimStart cs)
    (fields.setOffset minutes).map (·, rest)
  | .offset _ => do
    let (minutes, rest) ← readOffset? skipSeparators false (Unicode.trimStart cs)
    (fields.setOffset minutes).map (·, rest)
  | .standard => readStandard? fields cs

end TextField

def PatternItem.read? (fields : Fields) (cs : List Char) : PatternItem → Option (Fields × List Char)
  | .literal needle => (Text.after? needle cs).map (fields, ·)
  | .blank _ => some (fields, Unicode.trimStart cs)
  | .number field _ => field.read? fields cs
  | .text field => field.read? fields cs
  | .invalid => none

/-- Reads items one after the other, up to the end of the text. -/
def readItems? (fields : Fields) (cs : List Char) : List PatternItem → Option Fields
  | [] => if cs.isEmpty then some fields else none
  | item :: items =>
    match item.read? fields cs with
    | some (fields, rest) => readItems? fields rest items
    | none => none

/-- The fields of a text that follows a pattern from end to end. -/
def Pattern.read? (pattern : Pattern) (text : List Char) : Option Fields :=
  readItems? .empty text pattern.items

def Date.ofText? (pattern : Pattern) (text : List Char) : Option Date :=
  (pattern.read? text).bind fun fields => fields.date.toOption

/-- Reads an instant after a pattern. A local time without an offset takes `offset`, and a date
alone its first moment. -/
def Instant.ofText? (pattern : Pattern) (offset : Offset) (text : List Char) : Option Instant :=
  match pattern.read? text with
  | none => none
  | some fields =>
    match fields.instant?, fields.dateTime 0, fields.date with
    | some instant, _, _ => some instant
    | none, .ok (date, time), _ => Instant.ofLocal? date time offset
    | none, .error _, .ok date => Instant.ofLocal? date .midnight offset
    | none, .error _, .error _ => none

/-- Reads one field of exactly some digits and then sets it. -/
def readExact? (digits : Nat) (field : NumberField) (fields : Fields) (cs : List Char) :
    Option (Fields × List Char) :=
  let taken := cs.take digits
  if taken.length = digits ∧ taken.all Char.isDigit then
    (fields.set field (digitsValue taken : Nat)).map (·, cs.drop digits)
  else none

/-- Reads an instant in its standard form and nothing else. -/
def Instant.ofStandard? (cs : List Char) : Option Instant := do
  let (fields, cs) ← readExact? 4 .year .empty cs
  let (fields, cs) ← readExact? 2 .month fields (← Text.after? ['-'] cs)
  let (fields, cs) ← readExact? 2 .day fields (← Text.after? ['-'] cs)
  let cs ← match cs with
    | 'T' :: rest | 't' :: rest | ' ' :: rest => some rest
    | _ => none
  let (fields, cs) ← readExact? 2 .hour fields cs
  let (fields, cs) ← readExact? 2 .minute fields (← Text.after? [':'] cs)
  let (fields, cs) ← readExact? 2 .second fields (← Text.after? [':'] cs)
  let (fields, cs) ← TextField.readPoint? fields cs
  let (minutes, cs) ← readZuluOffset? readColon? false cs
  let fields ← fields.setOffset minutes
  if cs.isEmpty then fields.instant? else none

/-- Reads the offset that a configuration names. What follows the minutes is not looked at. -/
def Offset.ofText? (text : List Char) : Option Offset :=
  let cs := Unicode.trim text
  if cs = ['Z'] ∨ cs = ['z'] ∨ cs = ['U', 'T', 'C'] then some .zero
  else (readOffset? skipSeparators false cs).bind fun (minutes, _) => Offset.ofMinutes? minutes

end AttrExpr
