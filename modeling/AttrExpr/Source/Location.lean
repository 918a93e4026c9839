import AttrExpr.Source.Span

/-! Places in a source text for readers: line and column, both from one, with the column in
characters, beside the byte offset and length. -/
set_option autoImplicit false

namespace AttrExpr

structure Location where
  line : Nat
  column : Nat
  offset : Nat
  length : Nat
  deriving DecidableEq, Repr

namespace Location

/-- The characters after the last line break. -/
def lastLine (cs : List Char) : List Char := (cs.reverse.takeWhile (· != '\n')).reverse

/-- The text in front of a byte offset, or all of it when the offset is no character boundary. -/
def textBefore (offset : Nat) (source : List Char) : List Char :=
  match Text.splitBytes? offset source with
  | some (before, _) => before
  | none => source

def ofSpan (span : Span) (source : List Char) : Location :=
  let before := textBefore span.start source
  { line := before.count '\n' + 1
    column := (lastLine before).length + 1
    offset := span.start
    length := span.stop - span.start }

def text (location : Location) : String := s!"{location.line}:{location.column}"

end Location

end AttrExpr
