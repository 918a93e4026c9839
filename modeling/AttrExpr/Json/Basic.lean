import AttrExpr.Text.Utf8

/-! Documents in JSON and their two written forms: on one line, and indented. -/
set_option autoImplicit false

namespace AttrExpr

/-- A document. A number is kept as its text; the members of an object keep their order. -/
inductive Json where
  | null
  | boolean (b : Bool)
  | number (text : String)
  | string (text : String)
  | array (items : List Json)
  | object (members : List (String × Json))

namespace Json

def hexDigits : List Char := "0123456789abcdef".toList

/-- A control character as four hexadecimal digits. -/
def controlEscape (c : Char) : List Char :=
  ['\\', 'u', '0', '0'] ++ ((hexDigits[c.toNat / 16]?).toList ++ (hexDigits[c.toNat % 16]?).toList)

/-- The characters that stand for one character between quotes. -/
def escapeChar (c : Char) : List Char :=
  if c = '"' then ['\\', '"']
  else if c = '\\' then ['\\', '\\']
  else if c = '\n' then ['\\', 'n']
  else if c = '\r' then ['\\', 'r']
  else if c = '\t' then ['\\', 't']
  else if c = '\x08' then ['\\', 'b']
  else if c = '\x0c' then ['\\', 'f']
  else if c.toNat < 32 then controlEscape c
  else [c]

def quote (text : String) : String := .ofList ('"' :: (text.toList.flatMap escapeChar ++ ['"']))

mutual

/-- A document on one line, without blanks. -/
def compact : Json → String
  | .null => "null"
  | .boolean b => toString b
  | .number text => text
  | .string text => quote text
  | .array items => "[" ++ ",".intercalate (compactAll items) ++ "]"
  | .object members => "\x7b" ++ ",".intercalate (compactMembers members) ++ "\x7d"

def compactAll : List Json → List String
  | [] => []
  | item :: items => compact item :: compactAll items

def compactMembers : List (String × Json) → List String
  | [] => []
  | (key, value) :: members => (quote key ++ ":" ++ compact value) :: compactMembers members

end

/-- Items on lines of their own between two brackets, or nothing between them. -/
def block (opening closing indent : String) (items : List String) : String :=
  if items.isEmpty then opening ++ closing
  else
    opening ++ "\n" ++ ",\n".intercalate (items.map (indent ++ "  " ++ ·)) ++
      "\n" ++ indent ++ closing

mutual

/-- A document with each item and each member on a line of its own, two blanks further in. -/
def pretty (indent : String) : Json → String
  | .array items => block "[" "]" indent (prettyAll (indent ++ "  ") items)
  | .object members => block "\x7b" "\x7d" indent (prettyMembers (indent ++ "  ") members)
  | .null => "null"
  | .boolean b => toString b
  | .number text => text
  | .string text => quote text

def prettyAll (indent : String) : List Json → List String
  | [] => []
  | item :: items => pretty indent item :: prettyAll indent items

def prettyMembers (indent : String) : List (String × Json) → List String
  | [] => []
  | (key, value) :: members =>
    (quote key ++ ": " ++ pretty indent value) :: prettyMembers indent members

end

end Json

end AttrExpr
