import AttrExpr.Function.Signature

/-! The list of functions for readers. -/
set_option autoImplicit false

namespace AttrExpr

namespace Signature

/-- A parameter by its place: one that may be repeated has dots after it, one that may be left out
stands in brackets. -/
def paramText (signature : Signature) (param : Expectation) (index : Nat) : String :=
  let dots := if signature.variadic && index + 1 == signature.params.length then "..." else ""
  if signature.minArgs ≤ index then s!"[{param.text}{dots}]" else param.text ++ dots

/-- A call of a function of a name with its parameters, and what comes out. -/
def text (signature : Signature) (name : String) : String :=
  let subject := match signature.subject with
    | some subject => subject.text ++ ":"
    | none => ""
  let params := signature.params.zipIdx.map fun (param, index) => signature.paramText param index
  let result := match signature.returns with
    | some kind => kind.name
    | none => "type of argument"
  s!"{subject}{name}(" ++ ", ".intercalate params ++ s!") -> {result}"

end Signature

def Function.usage (function : Function) : String := function.signature.text function.name

end AttrExpr
