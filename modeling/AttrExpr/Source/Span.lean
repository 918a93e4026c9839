import AttrExpr.Text.Utf8

/-! Stretches of a source text, by the byte offsets of their ends. -/
set_option autoImplicit false

namespace AttrExpr

structure Span where
  start : Nat
  stop : Nat
  deriving DecidableEq, Repr

namespace Span

/-- The smallest span that covers two. -/
def merge (a b : Span) : Span := ⟨min a.start b.start, max a.stop b.stop⟩

/-- The text that a span covers; empty when an end falls outside the source or inside a
character. -/
def slice (span : Span) (source : List Char) : List Char :=
  (Text.slice? span.start span.stop source).getD []

def token (span : Span) (source : List Char) : String := .ofList (span.slice source)

end Span

end AttrExpr
