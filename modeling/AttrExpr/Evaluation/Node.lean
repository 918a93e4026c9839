import AttrExpr.Evaluation.Function
import AttrExpr.Evaluation.Quantifier

/-! The values of nodes. -/
set_option autoImplicit false

namespace AttrExpr

namespace Node

/-- Arguments with the kinds that their values are turned into; there may be fewer kinds. -/
def operands (nodes : List (String × Eval Value)) (targets : List (Option Kind)) : List Operand :=
  nodes.zipIdx.map fun ((token, action), i) => ⟨token, (targets[i]?).join, action⟩

mutual

/-- The value of a node. -/
def eval : Node → Eval Value
  | .literal _ value => pure value
  | .attribute _ name => Eval.lookup name
  | .template _ parts => do pure (.string (← evalText parts))
  | .loopVariable origin slot => Eval.variableOf origin.token slot
  | .call origin function subject subjectTarget args targets pattern =>
    ActiveCall.value
      { function := function
        token := origin.token
        subject := evalSubject subjectTarget subject
        args := operands (evalArgs args) targets
        pattern := pattern }
  | .quantifier origin slot source fold body =>
    Eval.quantify origin.token slot (evalSource source) (evalFold fold) (eval body)
      fun remaining => body.pending remaining

/-- The text of parts one after the other. -/
def evalText : List Node → Eval String
  | [] => pure ""
  | part :: parts => do
    let text := (← eval part).text
    pure (text ++ (← evalText parts))

def evalSubject (target : Option Kind) : Option Node → Option Operand
  | none => none
  | some node => some ⟨node.token, target, eval node⟩

def evalArgs : List Node → List (String × Eval Value)
  | [] => []
  | node :: nodes => (node.token, eval node) :: evalArgs nodes

def evalSource : CandidateSource Node → CandidateSource (Eval Value)
  | .named names => .named names
  | .matching patterns => .matching patterns
  | .delineated value delimiter => .delineated (eval value) (eval delimiter)

def evalFold : Fold Node → Fold (Eval Value)
  | .any => .any
  | .all => .all
  | .join separator => .join (eval separator)
  | .count => .count

end

end Node

end AttrExpr
