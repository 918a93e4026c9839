import AttrExpr.Text.Search

/-! Text with a terminal style, for readers who asked for colours. -/
set_option autoImplicit false

namespace AttrExpr

inductive Style where
  | heading
  | strong
  | token
  | label
  deriving DecidableEq, Repr

namespace Style

def opening : Style → String
  | .heading => "\x1b[1;31m"
  | .strong => "\x1b[1m"
  | .token => "\x1b[36m"
  | .label => "\x1b[1;32m"

def closing : String := "\x1b[0m"

/-- A text in a style. Where the text itself ends a style, this one is opened again. -/
def apply (style : Style) (text : String) : String :=
  let inner := Text.replaceAll closing.toList (closing ++ style.opening).toList text.toList
  style.opening ++ .ofList inner ++ closing

/-- A text in a style if `colored`, and as it is otherwise. -/
def paint (style : Style) (colored : Bool) (text : String) : String :=
  if colored then style.apply text else text

end Style

end AttrExpr
