import AttrExpr.Number
import AttrExpr.Source.Span
import AttrExpr.Text.Search

/-! Templates: text with embedded expressions. An expression is a subject and a chain of calls on
it, and an argument of a call may be an expression again. Every part knows its span in the
source. -/
set_option autoImplicit false

namespace AttrExpr

inductive Literal where
  | string (text : String)
  | number (n : Number)
  | boolean (b : Bool)
  deriving DecidableEq

/-- The text of a literal. In a string only the quotes are escaped. -/
def Literal.text : Literal → String
  | .string s => .ofList ('\'' :: (Text.replaceAll ['\''] ['\\', '\''] s.toList ++ ['\'']))
  | .number n => n.text
  | .boolean b => toString b

mutual

inductive Expression where
  | mk (subject : Subject) (chain : List Call)

inductive Subject where
  | attribute (name : String) (span : Span)
  | call (call : Call)

inductive Call where
  | mk (name : String) (nameSpan : Span) (args : List Argument) (span : Span)

inductive Argument where
  | literal (value : Literal) (span : Span)
  | expression (expr : Expression) (span : Span)

end

namespace Call

def name : Call → String
  | .mk name _ _ _ => name

def nameSpan : Call → Span
  | .mk _ nameSpan _ _ => nameSpan

def args : Call → List Argument
  | .mk _ _ args _ => args

def span : Call → Span
  | .mk _ _ _ span => span

end Call

def Subject.span : Subject → Span
  | .attribute _ span => span
  | .call inner => inner.span

def Argument.span : Argument → Span
  | .literal _ span => span
  | .expression _ span => span

namespace Expression

def subject : Expression → Subject
  | .mk subject _ => subject

def chain : Expression → List Call
  | .mk _ chain => chain

end Expression

inductive Segment where
  | text (text : List Char) (span : Span)
  | expression (expr : Expression) (span : Span)

def Segment.span : Segment → Span
  | .text _ span => span
  | .expression _ span => span

structure Template where
  segments : List Segment

namespace Template

/-- The expression that a template consists of, when there is nothing beside it. -/
def only? (template : Template) : Option Expression :=
  match template.segments with
  | [.expression expr _] => some expr
  | _ => none

def expressions (template : Template) : List Expression :=
  template.segments.filterMap fun
    | .expression expr _ => some expr
    | .text _ _ => none

end Template

end AttrExpr
