import AttrExpr.Proofs.Outcomes
import AttrExpr.Proofs.Results
import AttrExpr.Proofs.Settled
import AttrExpr.Proofs.Windows

/-! The negation of a source: the source as the argument of `literal`, and `not` on that. It
evaluates what the source does, and nothing else. -/
set_option autoImplicit false

namespace AttrExpr

/-- The source of the negation of another. -/
def negation (source : String) : String := "$\x7bliteral(" ++ source ++ "):not()\x7d"

namespace Value

/-- The truth value that a value stands for. -/
def truth (formats : Formats) (value : Value) : Except CoercionError Bool :=
  (value.coerce formats .boolean).map fun truth => truth.boolean?.getD false

theorem coerce_boolean (formats : Formats) (value : Value) :
    value.coerce formats .boolean = (value.truth formats).map .boolean := by
  rw [truth]
  cases h : value.coerce formats .boolean with
  | error failure => rfl
  | ok result =>
    obtain ⟨b, rfl⟩ := (Value.coerce_is h).boolean
    rfl

end Value

namespace Node

/-- The value of a node as it is. -/
def relayed (origin : Origin) (node : Node) : Node :=
  .call origin .literal none none [node] [none] none

/-- The negation of a node, made into a truth value. -/
def negated (origin : Origin) (node : Node) : Node :=
  .call origin .not (some node) (some .boolean) [] [] none

@[simp] theorem kind_relayed (origin : Origin) (node : Node) :
    (relayed origin node).kind = origin.kind := rfl

theorem eval_relayed (origin : Origin) (node : Node) : (relayed origin node).eval = node.eval := by
  have h : (relayed origin node).eval = node.eval >>= pure := by
    rw [relayed, eval]
    rfl
  rw [h, bind_pure]

/-- A negation gives the other truth value, or fails as the node or its coercion does. -/
theorem eval_negated (origin : Origin) (node : Node) (env : Environment) (state : State) :
    let outcome := node.eval env state
    (negated origin node).eval env state =
      (outcome.1.bind fun value =>
        ((value.truth env.formats).map fun b => .boolean !b).mapError
          fun failure => ⟨.coercion failure, node.token⟩, outcome.2) := by
  dsimp only
  rw [negated, eval]
  simp only [ActiveCall.value, Function.family, ActiveCall.subjectValue, ActiveCall.rawSubject,
    ActiveCall.coerceSubject, evalSubject, bind_assoc]
  rw [Eval.bind_apply]
  rcases node.eval env state with ⟨error | value, after⟩
  · rfl
  · dsimp only
    rw [Eval.bind_apply, Eval.coerceTo_apply, Value.coerceTo, Value.coerce_boolean, Except.bind]
    cases value.truth env.formats <;> rfl

end Node

namespace Lower

variable {scope : Scope} {before after : Progress} {name : String} {nameSpan span : Span}

theorem resolve_name (function : Function) (span : Span) :
    resolve function.name span = pure function := by
  rw [resolve, Function.ofName?_name]

/-- What `literal` makes of its argument. -/
theorem makes_literalCall {arg : PlannedArg} {node : Node} :
    Makes (call .literal none ⟨name, nameSpan, span, [arg]⟩ span) scope before node after ↔
      ∃ value, Makes arg.lower scope before value after ∧
        node = .relayed ⟨value.kind, span.token scope.source, span⟩ value := by
  have harity : Function.literal.signature.accepts 1 = true := by decide
  have hresolve (kind : Kind) :
      (Function.literal.signature.param 0).resolve? kind = some none := rfl
  have hpattern : literalPattern .literal [arg] = pure none := rfl
  simp only [call, checkArity, subjectTarget, arguments, harity, hresolve, hpattern,
    List.length_singleton, if_true, pure_bind, bind_assoc, makes_bind, makes_pure, makes_origin]
  constructor
  · rintro ⟨value, between, hvalue, origin, _, ⟨rfl, rfl⟩, rfl, rfl⟩
    exact ⟨value, hvalue, rfl⟩
  · rintro ⟨value, hvalue, rfl⟩
    exact ⟨value, after, hvalue, _, _, ⟨rfl, rfl⟩, rfl, rfl⟩

theorem callExpression_literal (planned : PlannedCall)
    (hname : planned.name = Function.literal.name)
    (calls : List PlannedCall) :
    callExpression planned calls =
      (do chain (← call .literal none planned planned.span) calls) := by
  rw [callExpression, hname, resolve_name]
  rfl

/-- What `not` makes of a node that becomes a truth value. -/
theorem makes_not {node result : Node}
    (hkind : (Expectation.kind .boolean).resolve? node.kind = some (some .boolean)) :
    Makes (chain node [⟨"not", nameSpan, span, []⟩]) scope before result after ↔
      result = .negated ⟨.boolean, span.token scope.source, span⟩ node ∧ after = before := by
  have hname : resolve "not" nameSpan = pure Function.not := resolve_name .not nameSpan
  have hcall : chain node [⟨"not", nameSpan, span, []⟩] =
      call .not (some node) ⟨"not", nameSpan, span, []⟩ span := by
    rw [chain, hname, pure_bind]
    exact bind_pure (call .not (some node) ⟨"not", nameSpan, span, []⟩ span)
  have harity : Function.not.signature.accepts 0 = true := by decide
  have hsubject : Function.not.signature.subject = some (.kind .boolean) := rfl
  have hpattern : literalPattern .not [] = pure none := rfl
  simp only [hcall, call, checkArity, subjectTarget, arguments, hpattern, harity, hsubject, hkind,
    List.length_nil, if_true, pure_bind, makes_bind, makes_pure, makes_origin]
  constructor
  · rintro ⟨origin, _, ⟨rfl, rfl⟩, rfl, rfl⟩
    exact ⟨rfl, rfl⟩
  · rintro ⟨rfl, rfl⟩
    exact ⟨_, _, ⟨rfl, rfl⟩, rfl, rfl⟩

/-- What is made of a negation. -/
theorem makes_negation {arg : PlannedArg} {value : Node} {notSpan callSpan : Span}
    (h : Makes arg.lower scope before value after)
    (hkind : (Expectation.kind .boolean).resolve? value.kind = some (some .boolean)) :
    Makes (callExpression ⟨"literal", nameSpan, span, [arg]⟩ [⟨"not", notSpan, callSpan, []⟩])
      scope before
      (.negated ⟨.boolean, callSpan.token scope.source, callSpan⟩
        (.relayed ⟨value.kind, span.token scope.source, span⟩ value)) after := by
  rw [callExpression_literal _ rfl, makes_bind]
  refine ⟨.relayed ⟨value.kind, span.token scope.source, span⟩ value, after,
    makes_literalCall.mpr ⟨value, h, rfl⟩, (makes_not ?_).mpr ⟨rfl, rfl⟩⟩
  rw [Node.kind_relayed]
  exact hkind

end Lower

theorem Expression.EmbeddedBy.negation {expr : Expression} {source : String}
    (h : expr.EmbeddedBy source.toList) :
    ∃ nameSpan span notSpan callSpan,
      (Expression.mk (.call (.mk "literal" nameSpan
        [(Argument.expression expr ⟨0, Text.byteLength source.toList⟩).mapSpans (Span.shift 10)]
        span)) [.mk "not" notSpan [] callSpan]).EmbeddedBy (negation source).toList := by
  have htext : (AttrExpr.negation source).toList = '$' :: '\x7b' ::
      (Function.literal.name.toList ++ '(' :: (source.toList ++ ')' :: ":not()\x7d".toList)) := by
    simp [AttrExpr.negation, Function.name]
  rw [htext]
  exact EmbeddedBy.calls .literal .not (h.argument.alone _ _) (.empty _ _)

/-- A source that can be read as a truth value has a negation, which evaluates the tree of the
source. -/
theorem Compiler.compile_negation {compiler : Compiler} {source : String} {compiled : Compiled}
    (h : compiler.compile source = .ok compiled) {expr : Expression}
    (hexpr : expr.EmbeddedBy source.toList) (hvalid : compiled.isValidForBoolean = true) :
    ∃ negated, compiler.compile (negation source) = .ok negated ∧
      ∃ origin inner value, negated.root = .negated origin (.relayed inner value) ∧
        value.eval = compiled.root.eval := by
  obtain ⟨nameSpan, span, notSpan, callSpan, hwhole⟩ := hexpr.negation
  obtain ⟨-, -, hmakes⟩ := (compile_embedded_iff hexpr).mp h
  let left : Scope := ⟨source.toList, compiler.declared⟩
  let right : Scope := ⟨(negation source).toList, compiler.declared⟩
  have hright : right.source = "$\x7bliteral(".toList ++ left.source ++ "):not()\x7d".toList := by
    simp [left, right, negation]
  obtain ⟨value, after, hvalue, -, halike⟩ | ⟨_, -, hrefused⟩ :=
    Window.inside_lower (Eval.RunsAlike.loops (T := Eq) fun _ => rfl) (fun _ => rfl) 0 0
      (fun _ _ h => h.symm) (show right.declared = left.declared from rfl) hright hexpr _ ⟨0, []⟩
      _ _ rfl hmakes
  · have hoffset : Text.byteLength "$\x7bliteral(".toList = 10 := by decide
    rw [hoffset] at hvalue
    have hkind : (Expectation.kind .boolean).resolve? value.kind = some (some .boolean) := by
      rw [halike.kind]
      rcases Bool.or_eq_true_iff.mp hvalid with hk | hk <;>
        rw [show compiled.root.kind = _ from beq_iff_eq.mp hk] <;> rfl
    obtain ⟨negated, hnegated, hroot⟩ :=
      exists_compile_embedded hwhole (Lower.makes_negation hvalue hkind)
    exact ⟨negated, hnegated, _, _, value, hroot, halike.eval.eq⟩
  · exact hrefused.elim

/-- What the negation of a source gives, from the value of its tree. Nothing else is evaluated. -/
theorem Compiled.run_negation {compiler : Compiler} {source : String} {compiled negated : Compiled}
    (h : compiler.compile source = .ok compiled)
    (hnegated : compiler.compile (negation source) = .ok negated) {origin inner : Origin}
    {value : Node} (hroot : negated.root = .negated origin (.relayed inner value))
    (hvalue : value.eval = compiled.root.eval) (attributes : Attributes) (clock : Instant) :
    let outcome := compiled.root.eval (compiled.environment attributes clock) .fresh
    negated.run attributes clock =
      (outcome.1.bind fun value =>
        ((value.truth compiled.formats).map fun b => .boolean !b).mapError
          fun failure => ⟨.coercion failure, inner.token⟩, outcome.2) := by
  have hformats := (Compiler.compile_ok_iff.mp h).2.1
  have hformats' := (Compiler.compile_ok_iff.mp hnegated).2.1
  have henv : negated.environment attributes clock = compiled.environment attributes clock := by
    rw [environment, environment, hformats, hformats']
  dsimp only
  rw [run_eq_root hnegated, henv, hroot, Node.eval_negated, Node.eval_relayed, hvalue]
  rcases compiled.root.eval (compiled.environment attributes clock) .fresh with
    ⟨error | value, after⟩
  · rfl
  · simp only [Except.bind, environment]
    cases value.truth compiled.formats <;> rfl

end AttrExpr
