import AttrExpr.Unicode.Property

/-! Patterns for the text of dates and instants: literal text, blanks, and fields that a percent
sign introduces. One list of items serves reading and writing. -/
set_option autoImplicit false

namespace AttrExpr

/-- Fields that are numbers. -/
inductive NumberField where
  | year
  | century
  | yearOfCentury
  | isoYear
  | isoYearOfCentury
  | quarter
  | month
  | day
  | weekFromSunday
  | weekFromMonday
  | isoWeek
  | daysFromSunday
  | weekdayNumber
  | ordinal
  | hour
  | clockHour
  | minute
  | second
  | nanosecond
  | timestamp
  deriving DecidableEq, Repr

/-- How much of an offset is written, and whether its reading is lenient. -/
inductive OffsetStyle where
  | plain
  | colon
  | seconds
  | hours
  | lenient
  deriving DecidableEq, Repr

/-- Fields that are not plain numbers. -/
inductive TextField where
  | shortMonth
  | longMonth
  | shortWeekday
  | longWeekday
  | lowerHalf
  | upperHalf
  | fraction
  | fractionOf (digits : Nat)
  | digitsOf (digits : Nat)
  | zoneName
  | offset (style : OffsetStyle)
  | standard
  deriving DecidableEq, Repr

/-- What a short number is filled up with. -/
inductive Padding where
  | none
  | zero
  | blank
  deriving DecidableEq, Repr

inductive PatternItem where
  | literal (text : List Char)
  | blank (text : List Char)
  | number (field : NumberField) (padding : Padding)
  | text (field : TextField)
  | invalid
  deriving DecidableEq, Repr

namespace PatternItem

def colon : PatternItem := .literal [':']

def slash : PatternItem := .literal ['/']

def dash : PatternItem := .literal ['-']

def zeros (field : NumberField) : PatternItem := .number field .zero

def clock : List PatternItem := [zeros .hour, colon, zeros .minute, colon, zeros .second]

/-- The items that one letter stands for. -/
def ofLetter : Char → List PatternItem
  | 'A' => [.text .longWeekday]
  | 'B' => [.text .longMonth]
  | 'C' => [zeros .century]
  | 'D' | 'x' => [zeros .month, slash, zeros .day, slash, zeros .yearOfCentury]
  | 'F' => [zeros .year, dash, zeros .month, dash, zeros .day]
  | 'G' => [zeros .isoYear]
  | 'H' => [zeros .hour]
  | 'I' => [zeros .clockHour]
  | 'M' => [zeros .minute]
  | 'P' => [.text .lowerHalf]
  | 'R' => [zeros .hour, colon, zeros .minute]
  | 'S' => [zeros .second]
  | 'T' | 'X' => clock
  | 'U' => [zeros .weekFromSunday]
  | 'V' => [zeros .isoWeek]
  | 'W' => [zeros .weekFromMonday]
  | 'Y' => [zeros .year]
  | 'Z' => [.text .zoneName]
  | 'a' => [.text .shortWeekday]
  | 'b' | 'h' => [.text .shortMonth]
  | 'c' =>
    [.text .shortWeekday, .blank [' '], .text .shortMonth, .blank [' '], .number .day .blank,
      .blank [' ']] ++ clock ++ [.blank [' '], zeros .year]
  | 'd' => [zeros .day]
  | 'e' => [.number .day .blank]
  | 'f' => [zeros .nanosecond]
  | 'g' => [zeros .isoYearOfCentury]
  | 'j' => [zeros .ordinal]
  | 'k' => [.number .hour .blank]
  | 'l' => [.number .clockHour .blank]
  | 'm' => [zeros .month]
  | 'n' => [.blank ['\n']]
  | 'p' => [.text .upperHalf]
  | 'q' => [.number .quarter .none]
  | 'r' =>
    [zeros .clockHour, colon, zeros .minute, colon, zeros .second, .blank [' '], .text .upperHalf]
  | 's' => [.number .timestamp .none]
  | 't' => [.blank ['\t']]
  | 'u' => [.number .weekdayNumber .none]
  | 'v' => [.number .day .blank, dash, .text .shortMonth, dash, zeros .year]
  | 'w' => [.number .daysFromSunday .none]
  | 'y' => [zeros .yearOfCentury]
  | 'z' => [.text (.offset .plain)]
  | '+' => [.text .standard]
  | '%' => [.literal ['%']]
  | _ => [.invalid]

/-- The items of a field with a padding of its own, which only a single number can have. -/
def padded (padding : Padding) : List PatternItem → List PatternItem
  | [.number field _] => [.number field padding]
  | _ => [.invalid]

/-- A fraction of a second with a fixed number of digits. -/
def fractionDigits? : Char → Option Nat
  | '3' => some 3
  | '6' => some 6
  | '9' => some 9
  | _ => none

/-- The items of the field that follows a percent sign, and what follows the field. -/
def ofField : List Char → List PatternItem × List Char
  | '-' :: c :: cs => (padded .none (ofPlain c cs).1, (ofPlain c cs).2)
  | '0' :: c :: cs => (padded .zero (ofPlain c cs).1, (ofPlain c cs).2)
  | '_' :: c :: cs => (padded .blank (ofPlain c cs).1, (ofPlain c cs).2)
  | '#' :: 'z' :: cs => ([.text (.offset .lenient)], cs)
  | '#' :: _ :: cs => ([.invalid], cs)
  | c :: cs => ofPlain c cs
  | [] => ([.invalid], [])
where
  /-- A field without a flag in front. -/
  ofPlain : Char → List Char → List PatternItem × List Char
    | ':', ':' :: ':' :: 'z' :: cs => ([.text (.offset .hours)], cs)
    | ':', ':' :: 'z' :: cs => ([.text (.offset .seconds)], cs)
    | ':', 'z' :: cs => ([.text (.offset .colon)], cs)
    | '.', 'f' :: cs => ([.text .fraction], cs)
    | '.', d :: 'f' :: cs =>
      match fractionDigits? d with
      | some digits => ([.text (.fractionOf digits)], cs)
      | none => ([.invalid], cs)
    | c, 'f' :: cs =>
      match fractionDigits? c with
      | some digits => ([.text (.digitsOf digits)], cs)
      | none => (ofLetter c, 'f' :: cs)
    | c, cs => (ofLetter c, cs)

end PatternItem

/-- The items of a pattern. Every step uses up a character, so `fuel` characters are enough. -/
def patternItems : Nat → List Char → List PatternItem
  | 0, _ => []
  | fuel + 1, cs =>
    match cs with
    | [] => []
    | '%' :: rest =>
      let (items, rest) := PatternItem.ofField rest
      items ++ patternItems fuel rest
    | c :: _ =>
      if Unicode.isWhiteSpace c then
        .blank (cs.takeWhile Unicode.isWhiteSpace) ::
          patternItems fuel (cs.dropWhile Unicode.isWhiteSpace)
      else
        let isText := fun c => c != '%' && !Unicode.isWhiteSpace c
        .literal (cs.takeWhile isText) :: patternItems fuel (cs.dropWhile isText)

structure Pattern where
  text : String
  deriving DecidableEq, Repr

namespace Pattern

def items (pattern : Pattern) : List PatternItem :=
  patternItems pattern.text.length pattern.text.toList

/-- Whether every field of a pattern is known. -/
def isValid (pattern : Pattern) : Bool := !pattern.items.contains .invalid

end Pattern

end AttrExpr
