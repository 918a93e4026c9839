import AttrExpr.Evaluation.Context
import AttrExpr.Node.Basic
import AttrExpr.Text.Search

/-! Quantifiers: the body is evaluated for one candidate after the other, and a fold decides after
each whether to go on. -/
set_option autoImplicit false

namespace AttrExpr

/-- A fold with the result so far. -/
inductive Accumulator where
  | any
  | all
  | join (separator : String) (joined : Option String)
  | count (n : Nat)
  deriving DecidableEq, Repr

namespace Accumulator

/-- Takes in the value of a body: either the result is known, or the fold goes on. -/
def push (token : String) (value : Value) : Accumulator → Eval (Value ⊕ Accumulator)
  | .any =>
    match value with
    | .boolean b => pure (if b then .inl (.boolean true) else .inr .any)
    | other => Eval.internal (.notPredicate other) token
  | .all =>
    match value with
    | .boolean b => pure (if b then .inr .all else .inl (.boolean false))
    | other => Eval.internal (.notPredicate other) token
  | .join separator joined =>
    if value.isUnset then pure (.inr (.join separator joined))
    else
      match joined with
      | none => pure (.inr (.join separator (some value.text)))
      | some text => pure (.inr (.join separator (some (text ++ separator ++ value.text))))
  | .count n =>
    match value with
    | .boolean false | .unset => pure (.inr (.count n))
    | _ => pure (.inr (.count (n + 1)))

/-- The result when there are no more candidates. -/
def finish : Accumulator → Value
  | .any => .boolean false
  | .all => .boolean true
  | .join _ joined => .string (joined.getD "")
  | .count n => .number (.whole (Int64.ofNat n))

end Accumulator

/-- The pieces of a text between delimiters. An empty text has none, and an empty delimiter does not
divide. -/
def delineate (text delimiter : String) : List String :=
  if text.isEmpty then []
  else if delimiter.isEmpty then [text]
  else (Text.pieces delimiter.toList text.toList).map String.ofList

namespace CandidateSource

def candidates (source : CandidateSource (Eval Value)) : Eval (List Candidate) := do
  match source with
  | .named names => pure (names.map .attribute)
  | .matching patterns => do
    let attributes := (← read).attributes
    pure ((sortedNames (patterns.flatMap attributes.namesMatching)).map .attribute)
  | .delineated value delimiter => do
    let text := (← value).text
    let delimiter := (← delimiter).text
    pure ((delineate text delimiter).map .value)

end CandidateSource

def Fold.accumulator (fold : Fold (Eval Value)) : Eval Accumulator := do
  match fold with
  | .any => pure .any
  | .all => pure .all
  | .join separator => do pure (.join (← separator).text none)
  | .count => pure (.count 0)

namespace Eval

/-- Moves a slot on to its next candidate, if there is one. -/
def advance (slot : Nat) : Eval Bool := do
  match ((← get).cursor? slot).bind Cursor.advanced? with
  | some cursor => do
    modify fun state => state.bind slot cursor
    pure true
  | none => do
    modify fun state => state.release slot
    pure false

/-- Evaluates an action and releases a slot afterwards, also when it fails. -/
def releasing {α : Type} (slot : Nat) (action : Eval α) : Eval α := fun environment state =>
  let (result, state) := action environment state
  (result, state.release slot)

/-- Evaluates the body for the current candidate and those after it. `pending` tells from the number
of candidates to come for each slot how many the body still has to see. -/
def drive (token : String) (slot : Nat) (body : Eval Value) (pending : (Nat → Nat) → Nat) :
    Nat → Accumulator → Eval Value
  | 0, acc => pure acc.finish
  | fuel + 1, acc => do
    let value ← body
    modify fun state => { state with iterations := state.iterations + 1 }
    match ← acc.push token value with
    | .inl result => pure result
    | .inr acc => do
      if pending (← get).remaining = 0 then pure acc.finish
      else if ← advance slot then drive token slot body pending fuel acc
      else pure acc.finish

/-- The value of a quantifier. Its candidates and its fold are evaluated before any body. -/
def quantify (token : String) (slot : Nat) (source : CandidateSource (Eval Value))
    (fold : Fold (Eval Value)) (body : Eval Value) (pending : (Nat → Nat) → Nat) :
    Eval Value := do
  let candidates ← source.candidates
  let acc ← fold.accumulator
  match Cursor.start? candidates with
  | none => pure acc.finish
  | some cursor => do
    modify fun state => state.bind slot cursor
    releasing slot (drive token slot body pending candidates.length acc)

end Eval

end AttrExpr
