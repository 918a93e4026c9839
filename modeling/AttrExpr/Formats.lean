import AttrExpr.Calendar.Reader

/-! How the text of dates and instants is read where no pattern is given. -/
set_option autoImplicit false

namespace AttrExpr

/-- The default patterns and offset. Without a pattern for instants they are in standard form. -/
structure Formats where
  date : Pattern
  instant : Option Pattern
  offset : Offset
  deriving DecidableEq

namespace Formats

def standard : Formats := ⟨⟨"%Y-%m-%d"⟩, none, .zero⟩

def readDate? (formats : Formats) (pattern : Option Pattern) (text : String) : Option Date :=
  Date.ofText? (pattern.getD formats.date) text.toList

def readInstant? (formats : Formats) (pattern : Option Pattern) (text : String) : Option Instant :=
  match pattern.or formats.instant with
  | some pattern => Instant.ofText? pattern formats.offset text.toList
  | none => Instant.ofStandard? text.toList

/-- The pattern that instants are read by, or the name of the standard form. -/
def instantPattern (formats : Formats) (pattern : Option Pattern) : String :=
  match pattern.or formats.instant with
  | some pattern => pattern.text
  | none => "RFC 3339"

end Formats

end AttrExpr
