import AttrExpr.Function.Signature
import AttrExpr.Regex.Basic
import AttrExpr.Source.Span
import AttrExpr.Value.Basic

/-! Compiled expressions as trees. -/
set_option autoImplicit false

namespace AttrExpr

/-- The kind of value that a node gives, and where it is in the source. -/
structure Origin where
  kind : Kind
  token : String
  span : Span
  deriving DecidableEq, Repr

/-- Where the candidates of a quantifier come from. -/
inductive CandidateSource (α : Type) where
  | named (names : List String)
  | matching (patterns : List Regex)
  | delineated (value delimiter : α)

/-- How a quantifier combines the values of its body. -/
inductive Fold (α : Type) where
  | any
  | all
  | join (separator : α)
  | count

/-- The values of subject and arguments are turned into the kinds that are named as their targets. A
quantifier evaluates its body for each candidate, which the body sees as the variable of a slot. -/
inductive Node where
  | literal (origin : Origin) (value : Value)
  | attribute (origin : Origin) (name : String)
  | template (origin : Origin) (parts : List Node)
  | loopVariable (origin : Origin) (slot : Nat)
  | call (origin : Origin) (function : Function) (subject : Option Node)
      (subjectTarget : Option Kind) (args : List Node) (targets : List (Option Kind))
      (pattern : Option Regex)
  | quantifier (origin : Origin) (slot : Nat) (source : CandidateSource Node) (fold : Fold Node)
      (body : Node)

namespace Node

def origin : Node → Origin
  | .literal origin _ | .attribute origin _ | .template origin _ | .loopVariable origin _ => origin
  | .call origin _ _ _ _ _ _ => origin
  | .quantifier origin _ _ _ _ => origin

def kind (node : Node) : Kind := node.origin.kind

def token (node : Node) : String := node.origin.token

def span (node : Node) : Span := node.origin.span

mutual

/-- A node and all nodes under it: subject before arguments, and the operands of a quantifier before
its body. -/
def all : Node → List Node
  | .template origin parts => .template origin parts :: allOfList parts
  | .call origin function subject subjectTarget args targets pattern =>
    .call origin function subject subjectTarget args targets pattern ::
      (allOfOption subject ++ allOfList args)
  | .quantifier origin slot source fold body =>
    .quantifier origin slot source fold body :: (allOfSource source ++ allOfFold fold ++ all body)
  | .literal origin value => [.literal origin value]
  | .attribute origin name => [.attribute origin name]
  | .loopVariable origin slot => [.loopVariable origin slot]

def allOfList : List Node → List Node
  | [] => []
  | node :: nodes => all node ++ allOfList nodes

def allOfOption : Option Node → List Node
  | none => []
  | some node => all node

def allOfSource : CandidateSource Node → List Node
  | .delineated value delimiter => all value ++ all delimiter
  | .named _ => []
  | .matching _ => []

def allOfFold : Fold Node → List Node
  | .join separator => all separator
  | .any => []
  | .all => []
  | .count => []

end

mutual

/-- The most candidates that are still to come for a variable in the tree, given their number for
each slot. Variables inside quantifiers do not count. -/
def pending (remaining : Nat → Nat) : Node → Nat
  | .loopVariable _ slot => remaining slot
  | .template _ parts => pendingOfList remaining parts
  | .call _ _ subject _ args _ _ =>
    max (pendingOfOption remaining subject) (pendingOfList remaining args)
  | .literal _ _ => 0
  | .attribute _ _ => 0
  | .quantifier _ _ _ _ _ => 0

def pendingOfList (remaining : Nat → Nat) : List Node → Nat
  | [] => 0
  | node :: nodes => max (pending remaining node) (pendingOfList remaining nodes)

def pendingOfOption (remaining : Nat → Nat) : Option Node → Nat
  | none => 0
  | some node => pending remaining node

end

end Node

end AttrExpr
