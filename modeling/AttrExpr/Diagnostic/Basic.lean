import AttrExpr.Diagnostic.Code
import AttrExpr.Diagnostic.Styled
import AttrExpr.Json.Basic
import AttrExpr.Source.Location

/-! Messages on errors as readers see them: a headline, the place in the source with a line of
carets under it, and advice. -/
set_option autoImplicit false

namespace AttrExpr

structure Diagnostic where
  code : Code
  message : String
  location : Option Location
  token : Option String
  help : Option String
  deriving DecidableEq

/-- The lines of a text: each ends at a line feed, and a carriage return before that is dropped. An
empty line at the end is none. -/
def linesFrom (line : List Char) : List Char → List (List Char)
  | [] => if line.isEmpty then [] else [line.reverse]
  | c :: cs =>
    if c = '\n' then (match line with
      | '\r' :: rest => rest.reverse
      | _ => line.reverse) :: linesFrom [] cs
    else linesFrom (c :: line) cs

def lines (cs : List Char) : List (List Char) := linesFrom [] cs

namespace Diagnostic

/-- A message of a kind, with the advice that goes with the kind. -/
def ofMessage (code : Code) (message : String) : Diagnostic :=
  ⟨code, message, none, none, code.help?⟩

def summary (diagnostic : Diagnostic) : String :=
  s!"error: {diagnostic.code.text} - {diagnostic.message}" ++
    match diagnostic.location with
    | some location => s!" at {location.text}"
    | none => ""

def headline (diagnostic : Diagnostic) (colored : Bool) : String :=
  Style.heading.paint colored s!"error[{diagnostic.code.text}]" ++ ": " ++
    Style.strong.paint colored diagnostic.message

/-- The number of carets under a line: as many as the location has bytes, at least one, and no more
than the bytes of the line leave after the column. -/
def caretCount (location : Location) (line : List Char) : Nat :=
  min (max location.length 1) (max (Text.byteLength line - (location.column - 1)) 1)

/-- The line of the source that a location is on, with carets under it. -/
def excerpt (location : Location) (source : List Char) : String :=
  match (lines source)[location.line - 1]? with
  | some line =>
    s!"\n  --> {location.text}\n   | {String.ofList line}\n   | " ++
      "".pushn ' ' (location.column - 1) ++ "".pushn '^' (caretCount location line)
  | none => ""

def render (diagnostic : Diagnostic) (source : List Char) (colored : Bool) : String :=
  diagnostic.headline colored ++
    (match diagnostic.location with
    | some location => excerpt location source
    | none => "") ++
    match diagnostic.help with
    | some help => s!"\n   = help: {help}"
    | none => ""

def locationJson (location : Location) : Json :=
  .object [
    ("line", .number (toString location.line)),
    ("column", .number (toString location.column)),
    ("offset", .number (toString location.offset)),
    ("length", .number (toString location.length))]

def json (diagnostic : Diagnostic) : Json :=
  .object [
    ("code", .number (toString diagnostic.code.number)),
    ("message", .string diagnostic.message),
    ("location", (diagnostic.location.map locationJson).getD .null),
    ("token", (diagnostic.token.map Json.string).getD .null),
    ("help", (diagnostic.help.map Json.string).getD .null)]

end Diagnostic

end AttrExpr
