import AttrExpr.Json.Basic
import AttrExpr.Text.Search
import AttrExpr.Unicode.CharSet

/-! Reading documents that are one object with nothing but texts in it. -/
set_option autoImplicit false

namespace AttrExpr.Json

def isBlank (c : Char) : Bool := c == ' ' || c == '\n' || c == '\t' || c == '\r'

def skipBlanks (cs : List Char) : List Char := cs.dropWhile isBlank

/-- The number that four hexadecimal digits stand for. -/
def readUnit? : List Char → Option (Nat × List Char)
  | a :: b :: c :: d :: rest => do
    let digits ← [a, b, c, d].mapM Unicode.hexDigit?
    pure (digits.foldl (fun n digit => n * 16 + digit) 0, rest)
  | _ => none

def isHighSurrogate (n : Nat) : Bool := 0xD800 ≤ n && n < 0xDC00

def isLowSurrogate (n : Nat) : Bool := 0xDC00 ≤ n && n < 0xE000

/-- The character of a numeric escape. One beyond four digits is written as a pair of surrogates,
which occur in no other way. -/
def readNumericEscape? (cs : List Char) : Option (Char × List Char) := do
  let (n, rest) ← readUnit? cs
  if isHighSurrogate n then
    let rest ← Text.after? ['\\', 'u'] rest
    let (m, rest) ← readUnit? rest
    if isLowSurrogate m then
      pure (Char.ofNat (0x10000 + (n - 0xD800) * 0x400 + (m - 0xDC00)), rest)
    else none
  else if isLowSurrogate n then none
  else pure (Char.ofNat n, rest)

/-- The character of an escape, after the backslash. -/
def readEscape? : List Char → Option (Char × List Char)
  | '"' :: rest => some ('"', rest)
  | '\\' :: rest => some ('\\', rest)
  | '/' :: rest => some ('/', rest)
  | 'b' :: rest => some ('\x08', rest)
  | 'f' :: rest => some ('\x0c', rest)
  | 'n' :: rest => some ('\n', rest)
  | 'r' :: rest => some ('\r', rest)
  | 't' :: rest => some ('\t', rest)
  | 'u' :: rest => readNumericEscape? rest
  | _ => none

/-- The characters up to the closing quote. Every step uses up a character, so `fuel` characters are
enough. -/
def readQuoted? : Nat → List Char → Option (List Char × List Char)
  | 0, _ => none
  | _ + 1, [] => none
  | fuel + 1, c :: cs =>
    if c = '"' then some ([], cs)
    else do
      let (c, cs) ← if c = '\\' then readEscape? cs else if c.toNat < 32 then none else some (c, cs)
      let (text, cs) ← readQuoted? fuel cs
      pure (c :: text, cs)

def readText? (cs : List Char) : Option (String × List Char) := do
  let cs ← Text.after? ['"'] (skipBlanks cs)
  let (text, cs) ← readQuoted? cs.length cs
  pure (.ofList text, skipBlanks cs)

def readMember? (cs : List Char) : Option ((String × String) × List Char) := do
  let (name, cs) ← readText? cs
  let cs ← Text.after? [':'] cs
  let (value, cs) ← readText? cs
  pure ((name, value), cs)

/-- One member and those that follow it after commas, up to the end of the object. -/
def readMembers? : Nat → List Char → Option (List (String × String) × List Char)
  | 0, _ => none
  | fuel + 1, cs => do
    let (member, cs) ← readMember? cs
    match cs with
    | ',' :: cs => do
      let (members, cs) ← readMembers? fuel cs
      pure (member :: members, cs)
    | '\x7d' :: cs => some ([member], cs)
    | _ => none

/-- The members of a document that is an object of texts, in their order and with repetitions. -/
def textMembers? (document : String) : Option (List (String × String)) := do
  let cs ← Text.after? ['\x7b'] (skipBlanks document.toList)
  let (members, rest) ← match skipBlanks cs with
    | '\x7d' :: rest => some ([], rest)
    | cs => readMembers? cs.length cs
  if (skipBlanks rest).isEmpty then some members else none

end AttrExpr.Json
