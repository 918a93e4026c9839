import AttrExpr.Template.Basic
import AttrExpr.Template.Fault

/-! The smallest parts of expressions: blanks, names, quoted strings and numbers, read from the
front of what is left of the source. -/
set_option autoImplicit false

namespace AttrExpr

/-- What is left to read, and the byte offset at which it starts. -/
structure Rest where
  offset : Nat
  chars : List Char
  deriving DecidableEq, Repr

namespace Rest

/-- What follows the leading characters `taken`. -/
def past (s : Rest) (taken rest : List Char) : Rest := ⟨s.offset + Text.byteLength taken, rest⟩

/-- The leading characters of a class, and what follows them. -/
def takeWhile (p : Char → Bool) (s : Rest) : List Char × Rest :=
  let taken := s.chars.takeWhile p
  (taken, s.past taken (s.chars.dropWhile p))

/-- What follows one given character. -/
def after? (c : Char) (s : Rest) : Option Rest :=
  match s.chars with
  | [] => none
  | x :: cs => if x = c then some ⟨s.offset + x.utf8Size, cs⟩ else none

/-- What follows the opening of an embedded expression. -/
def afterOpening? (s : Rest) : Option Rest := (s.after? '$').bind (·.after? '\x7b')

def fail {α : Type} (s : Rest) (fault : Fault) : Except SourceError α :=
  .error ⟨fault, s.offset, s.chars.head?⟩

def upTo (s t : Rest) : Span := ⟨s.offset, t.offset⟩

end Rest

def isBlank (c : Char) : Bool := c == ' ' || c == '\t' || c == '\r' || c == '\n'

/-- A character of an attribute name that is written without quotes. -/
def isNameChar (c : Char) : Bool := Unicode.isAlphanumeric c || c == '_' || c == '.' || c == '-'

/-- A character of a function name. -/
def isWordChar (c : Char) : Bool := c.isAlphanum || c == '_'

def Rest.skipBlanks (s : Rest) : Rest := (s.takeWhile isBlank).2

/-- The character that stands for itself after a backslash, or for a control character. -/
def unescape (c : Char) : Char :=
  if c = 'n' then '\n' else if c = 'r' then '\r' else if c = 't' then '\t' else c

/-- The content of a quoted string up to its closing quote, and what follows that. -/
def quotedFrom? (quote : Char) : Nat → List Char → Option (List Char × Rest)
  | _, [] => none
  | _, ['\\'] => none
  | offset, '\\' :: c :: cs =>
    (quotedFrom? quote (offset + 1 + c.utf8Size) cs).map fun (text, rest) =>
      (unescape c :: text, rest)
  | offset, c :: cs =>
    if c = quote then some ([], ⟨offset + c.utf8Size, cs⟩)
    else (quotedFrom? quote (offset + c.utf8Size) cs).map fun (text, rest) => (c :: text, rest)

/-- Reads a quoted string when there is one. -/
def readQuoted? (s : Rest) : Option (Except SourceError (List Char × Rest)) :=
  match s.chars with
  | [] => none
  | c :: cs =>
    if c = '\'' ∨ c = '"' then
      some (match quotedFrom? c (s.offset + c.utf8Size) cs with
        | some found => .ok found
        | none => s.fail .unterminatedString)
    else none

/-- A point with digits after it, when they are there. -/
def takeFraction (cs : List Char) : List Char × List Char :=
  match cs with
  | '.' :: rest =>
    let (digits, more) := takeDigits rest
    if digits.isEmpty then ([], cs) else ('.' :: digits, more)
  | _ => ([], cs)

/-- The sign of an exponent, when there is one. -/
def takeExponentSign (cs : List Char) : List Char × List Char :=
  match cs with
  | '+' :: rest => (['+'], rest)
  | '-' :: rest => (['-'], rest)
  | _ => ([], cs)

/-- An exponent with its mark and digits, when they are there. -/
def takeExponent (cs : List Char) : List Char × List Char :=
  match cs with
  | [] => ([], [])
  | mark :: rest =>
    if mark = 'e' ∨ mark = 'E' then
      let (sign, rest) := takeExponentSign rest
      let (digits, more) := takeDigits rest
      if digits.isEmpty then ([], cs) else (mark :: (sign ++ digits), more)
    else ([], cs)

def takeMinus (cs : List Char) : List Char × List Char :=
  match cs with
  | '-' :: rest => (['-'], rest)
  | _ => ([], cs)

/-- The text of a number in front, and what follows it. -/
def takeNumber? (cs : List Char) : Option (List Char × List Char) :=
  let (sign, rest) := takeMinus cs
  let (digits, rest) := takeDigits rest
  let (fraction, rest) := takeFraction rest
  let (exponent, rest) := takeExponent rest
  if digits.isEmpty then none else some (sign ++ digits ++ fraction ++ exponent, rest)

/-- The number that a number text stands for: a whole one when it has only digits and fits, a binary
one otherwise, and nothing when that is not finite. -/
def numberOfToken? (token : List Char) : Option Number :=
  let whole := if token.any (fun c => c == '.' || c == 'e' || c == 'E') then none
    else (readInt? token).bind wholeOfInt?
  match whole with
  | some n => some (.whole n)
  | none =>
    match readDecimal? token with
    | some d => if d.isFinite then some (.decimal d) else none
    | none => none

/-- Reads a number when there is one. -/
def readNumberLiteral? (s : Rest) : Option (Except SourceError (Number × Rest)) :=
  match takeNumber? s.chars with
  | none => none
  | some (token, rest) =>
    some (match numberOfToken? token with
      | some n => .ok (n, s.past token rest)
      | none => s.fail (.invalidNumber (.ofList token)))

/-- Reads a truth value when the next word is one. -/
def readBoolean? (s : Rest) : Option (Bool × Rest) :=
  let (word, rest) := s.takeWhile isWordChar
  if word = "true".toList then some (true, rest)
  else if word = "false".toList then some (false, rest)
  else none

end AttrExpr
