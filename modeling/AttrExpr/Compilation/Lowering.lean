import AttrExpr.Compilation.Error
import AttrExpr.Evaluation.Call
import AttrExpr.Node.Basic
import AttrExpr.Template.Basic

/-! Lowering of expressions to nodes: functions are resolved, kinds are checked, and quantifiers are
put around the calls that follow them. -/
set_option autoImplicit false

namespace AttrExpr

/-- The source, and the attributes that may be referred to when they are declared. -/
structure Scope where
  source : List Char
  declared : Option (List String)

/-- The number of slots handed out, and the attributes referred to so far, in increasing order. -/
structure Progress where
  slots : Nat
  referenced : List String
  deriving DecidableEq, Repr

abbrev Lower (α : Type) : Type := ReaderT Scope (StateT Progress (Except CompileError)) α

/-- Puts a name at its place among names in increasing order, unless it is there. -/
def insertName (name : String) : List String → List String
  | [] => [name]
  | other :: rest =>
    if name < other then name :: other :: rest
    else if name = other then other :: rest
    else other :: insertName name rest

namespace Lower

def source : Lower (List Char) := do pure (← read).source

def fail {α : Type} (cause : CompileCause) (span : Span) : Lower α := do
  throw (.located cause (.ofSpan (← source) span))

def origin (kind : Kind) (span : Span) : Lower Origin := do
  pure ⟨kind, span.token (← source), span⟩

/-- Notes that an attribute is referred to, which has to be declared if any are. -/
def reference (name : String) (span : Span) : Lower Unit := do
  match (← read).declared with
  | some declared =>
    if declared.contains name then pure () else fail (.undeclaredAttribute name) span
  | none => pure ()
  modify fun progress => { progress with referenced := insertName name progress.referenced }

def newSlot : Lower Nat := do
  let slot := (← get).slots
  modify fun progress => { progress with slots := slot + 1 }
  pure slot

def resolve (name : String) (span : Span) : Lower Function :=
  match Function.ofName? name with
  | some function => pure function
  | none => fail (.unknownFunction name) span

end Lower

/-- An argument that is to be lowered; `text` is that of a string literal. -/
structure PlannedArg where
  text : Option String
  span : Span
  lower : Lower Node

/-- A call whose arguments are to be lowered. -/
structure PlannedCall where
  name : String
  nameSpan : Span
  span : Span
  args : List PlannedArg

inductive PlannedSubject where
  | attribute (name : String) (span : Span)
  | call (call : PlannedCall)

namespace Lower

def checkArity (function : Function) (call : PlannedCall) (span : Span) : Lower Unit :=
  if function.signature.accepts call.args.length then pure ()
  else fail (.arityMismatch function function.signature.arityText call.args.length) span

/-- The kind that a subject is turned into. -/
def subjectTarget (function : Function) : Option Node → Lower (Option Kind)
  | none => pure none
  | some subject =>
    match function.signature.subject with
    | none => pure none
    | some expected =>
      match expected.resolve? subject.kind with
      | some target => pure target
      | none =>
        fail (.typeMismatch s!"{expected.text} as the subject of {function.name}()" subject.kind)
          subject.span

/-- Lowers arguments from one place on, with the kinds that they are turned into. -/
def arguments (function : Function) : Nat → List PlannedArg → Lower (List (Node × Option Kind))
  | _, [] => pure []
  | index, arg :: args => do
    let node ← arg.lower
    let expected := function.signature.param index
    match expected.resolve? node.kind with
    | none =>
      let wanted := s!"{expected.text} for argument {index + 1} of {function.name}()"
      fail (.typeMismatch wanted node.kind) arg.span
    | some target => do
      let rest ← arguments function (index + 1) args
      pure ((node, target) :: rest)

def readPatternAt (whole : Bool) (text : String) (span : Span) : Lower Regex :=
  match readPattern whole text with
  | .ok regex => pure regex
  | .error error => fail (.invalidPattern text error) span

/-- The regular expression of a call whose first argument is a string literal. -/
def literalPattern (function : Function) (args : List PlannedArg) : Lower (Option Regex) :=
  match function.patternWhole?, args with
  | some whole, ⟨some text, span, _⟩ :: _ => some <$> readPatternAt whole text span
  | _, _ => pure none

def call (function : Function) (subject : Option Node) (planned : PlannedCall) (span : Span) :
    Lower Node := do
  checkArity function planned span
  let target ← subjectTarget function subject
  let args ← arguments function 0 planned.args
  let pattern ← literalPattern function planned.args
  let kind := (function.signature.returns.or (args.head?.map fun arg => arg.1.kind)).getD .string
  let origin ← origin kind span
  pure (.call origin function subject target (args.map (·.1)) (args.map (·.2)) pattern)

/-- Lowers a chain of calls on a node. -/
def chain (node : Node) : List PlannedCall → Lower Node
  | [] => pure node
  | planned :: rest => do
    let function ← resolve planned.name planned.nameSpan
    if function.isReducer then
      fail (.invalidQuantifier (.reducerAfterValue function)) planned.span
    else if function.signature.subject.isNone then
      fail (.unexpectedSubject function) planned.span
    else chain (← call function (some node) planned planned.span) rest

/-- Arguments that have to be string literals. -/
def literalTexts (function : Function) : List PlannedArg → Lower (List (String × Span))
  | [] => pure []
  | arg :: args =>
    match arg.text with
    | none => fail (.invalidQuantifier (.argumentNotLiteral function)) arg.span
    | some text => do
      let rest ← literalTexts function args
      pure ((text, arg.span) :: rest)

def candidateSource (function : Function) (kind : CandidateKind) (args : List PlannedArg) :
    Lower (CandidateSource Node) := do
  match kind, args with
  | .named, args => do
    let texts ← literalTexts function args
    for (name, span) in texts do
      reference name span
    pure (.named (texts.map (·.1)))
  | .matching, args => do
    let texts ← literalTexts function args
    pure (.matching (← texts.mapM fun (text, span) => readPatternAt true text span))
  | .delineated, value :: delimiter :: _ => do
    let value ← value.lower
    pure (.delineated value (← delimiter.lower))
  | .delineated, _ => pure (.named [])

def isReducerCall (planned : PlannedCall) : Bool :=
  (Function.ofName? planned.name).any Function.isReducer

/-- The span from a subject to the last of the calls on it. -/
def spanTo (subject : Span) (calls : List PlannedCall) : Span :=
  match calls.getLast? with
  | some last => subject.merge last.span
  | none => subject

/-- The fold of a quantifier without a reducer, whose body has to be a predicate. -/
def predicateFold (function : Function) (all : Bool) (body : Node) (calls : List PlannedCall)
    (subject : Span) : Lower (Fold Node) :=
  if body.kind = .boolean then pure (if all then .all else .any)
  else
    fail (.invalidQuantifier (if calls.isEmpty then .noPredicate function
      else .predicateKind function body.kind)) (spanTo subject calls)

/-- The fold of a quantifier with a reducer, and the kind of its result. -/
def reducerFold (function : Function) (all : Bool) (planned : PlannedCall) :
    Lower (Fold Node × Kind) := do
  let reducer ← resolve planned.name planned.nameSpan
  if !all then fail (.invalidQuantifier (.reducesAny reducer function)) planned.span
  else do
    checkArity reducer planned planned.span
    match reducer, planned.args with
    | .join, separator :: _ => do pure (.join (← separator.lower), .string)
    | _, _ => pure (.count, .whole)

/-- Lowers a multi-attribute subject with the calls that follow. Those up to the first reducer make
the body, and those after it apply to the result. -/
def quantifier (function : Function) (kind : CandidateKind) (all : Bool) (planned : PlannedCall)
    (calls : List PlannedCall) : Lower Node := do
  checkArity function planned planned.span
  let source ← candidateSource function kind planned.args
  let slot ← newSlot
  let bodyCalls := calls.takeWhile fun call => !isReducerCall call
  let body ← chain (.loopVariable (← origin .string planned.span) slot) bodyCalls
  match calls.dropWhile fun call => !isReducerCall call with
  | [] => do
    let fold ← predicateFold function all body bodyCalls planned.span
    let origin ← origin .boolean (spanTo planned.span bodyCalls)
    pure (.quantifier origin slot source fold body)
  | reducer :: rest => do
    let (fold, result) ← reducerFold function all reducer
    let origin ← origin result (planned.span.merge reducer.span)
    chain (.quantifier origin slot source fold body) rest

/-- Lowers an expression whose first part is a call. -/
def callExpression (planned : PlannedCall) (calls : List PlannedCall) : Lower Node := do
  let function ← resolve planned.name planned.nameSpan
  match function.quantifier? with
  | some (kind, all) => quantifier function kind all planned calls
  | none =>
    if function.isReducer then fail (.invalidQuantifier (.reducerFirst function)) planned.span
    else if function.signature.subject.isSome then fail (.missingSubject function) planned.span
    else chain (← call function none planned planned.span) calls

def expression : PlannedSubject → List PlannedCall → Lower Node
  | .attribute name span, calls => do
    reference name span
    chain (.attribute (← origin .string span) name) calls
  | .call planned, calls => callExpression planned calls

def literal (value : Literal) (span : Span) : Lower Node := do
  match value with
  | .string text => pure (.literal (← origin .string span) (.string text))
  | .number n => pure (.literal (← origin n.kind span) (.number n))
  | .boolean b => pure (.literal (← origin .boolean span) (.boolean b))

end Lower

def Literal.string? : Literal → Option String
  | .string text => some text
  | _ => none

mutual

def Expression.lower : Expression → Lower Node
  | .mk subject chain => Lower.expression (Subject.plan subject) (planCalls chain)

def Subject.plan : Subject → PlannedSubject
  | .attribute name span => .attribute name span
  | .call planned => .call (Call.plan planned)

def Call.plan : Call → PlannedCall
  | .mk name nameSpan args span => ⟨name, nameSpan, span, planArgs args⟩

def Argument.plan : Argument → PlannedArg
  | .literal value span => ⟨value.string?, span, Lower.literal value span⟩
  | .expression expr span => ⟨none, span, Expression.lower expr⟩

def planCalls : List Call → List PlannedCall
  | [] => []
  | call :: calls => Call.plan call :: planCalls calls

def planArgs : List Argument → List PlannedArg
  | [] => []
  | arg :: args => Argument.plan arg :: planArgs args

end

def Segment.lower : Segment → Lower Node
  | .text cs span => do
    pure (.literal (← Lower.origin .string span) (.string (.ofList cs)))
  | .expression expr _ => expr.lower

/-- Lowers a template. An expression with nothing beside it keeps its kind. -/
def Template.lower (template : Template) : Lower Node :=
  match template.only? with
  | some expr => expr.lower
  | none => do
    let parts ← template.segments.mapM Segment.lower
    let source ← Lower.source
    pure (.template (← Lower.origin .string ⟨0, Text.byteLength source⟩) parts)

end AttrExpr
