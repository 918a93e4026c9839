import AttrExpr.Proofs.Negation
import AttrExpr.Proofs.SideBySide

/-! Expressions inside `literal`. Calls on `literal` of an expression do what they do on the
expression itself, unless they would be the body of a quantifier there. -/
set_option autoImplicit false

namespace AttrExpr

/-- The value of an expression as it is, with calls on that. -/
def Expression.wrapped (expr : Expression) (calls : List Call) : Expression :=
  .mk (.call (Function.literal.applied [.expression expr ⟨0, 0⟩])) calls

theorem Argument.expression_of_unplaced {arg : Argument} {expr : Expression} {span : Span}
    (h : arg.mapSpans unplaced = (Argument.expression expr span).mapSpans unplaced) :
    ∃ inner outer, arg = .expression inner outer ∧
      inner.mapSpans unplaced = expr.mapSpans unplaced := by
  cases arg with
  | literal value outer => cases h
  | expression inner outer => exact ⟨inner, outer, rfl, (Argument.expression.inj h).1⟩

theorem Expression.wrapped_of_unplaced {found expr : Expression} {calls : List Call}
    (h : found.mapSpans unplaced = (expr.wrapped calls).mapSpans unplaced) :
    ∃ (nameSpan : Span) (inner : Expression) (outer span : Span) (more : List Call),
      found = .mk (.call (.mk "literal" nameSpan [.expression inner outer] span)) more ∧
      inner.mapSpans unplaced = expr.mapSpans unplaced ∧
      mapCallSpans unplaced more = mapCallSpans unplaced calls := by
  obtain ⟨subject, more⟩ := found
  simp only [wrapped, Expression.mapSpans, Expression.mk.injEq] at h
  obtain ⟨hsubject, hmore⟩ := h
  cases subject with
  | «attribute» name span => cases hsubject
  | call call =>
    obtain ⟨nameSpan, arg, args, span, rfl, harg, hargs⟩ :=
      Function.applied_of_unplaced (Subject.call.inj hsubject)
    obtain ⟨inner, outer, rfl, hinner⟩ := Argument.expression_of_unplaced harg
    cases args with
    | cons arg args => cases hargs
    | nil => exact ⟨nameSpan, inner, outer, span, more, rfl, hinner, hmore⟩

theorem Lower.literalCall_eq (name : String) (nameSpan span : Span) (arg : PlannedArg) :
    call .literal none ⟨name, nameSpan, span, [arg]⟩ span = (do
      let value ← arg.lower
      let origin ← origin value.kind span
      pure (.relayed origin value)) := by
  have harity : Function.literal.signature.accepts 1 = true := by decide
  have hresolve (kind : Kind) :
      (Function.literal.signature.param 0).resolve? kind = some none := rfl
  have hpattern : literalPattern .literal [arg] = pure none := rfl
  simp only [call, checkArity, subjectTarget, arguments, harity, hresolve, hpattern,
    List.length_singleton, if_true, pure_bind, bind_assoc]
  rfl

/-- Calls on `literal` of an argument are calls on what that gives. -/
theorem Lower.lower_wrapped (nameSpan outer span : Span) (inner : Expression) (calls : List Call) :
    (Expression.mk (.call (.mk "literal" nameSpan [.expression inner outer] span)) calls).lower =
      (do chain (← call .literal none ⟨"literal", nameSpan, span, [⟨none, outer, inner.lower⟩]⟩
        span) (planCalls calls)) := by
  rw [Expression.lower, Subject.plan, expression, Call.plan, callExpression_literal _ rfl]
  rfl

namespace Node

theorem pending_relayed (origin : Origin) (node : Node) (remaining : Nat → Nat) :
    (relayed origin node).pending remaining = node.pending remaining := by
  simp [relayed, pending, pendingOfOption, pendingOfList]

/-- A node that is relayed gives what the node gives. -/
theorem sameOutcome_relayed {origin : Origin} {node : Node} (hkind : origin.kind = node.kind) :
    node.SameOutcome (relayed origin node) ∧ (relayed origin node).SameOutcome node :=
  ⟨.of_eval hkind (eval_relayed origin node ▸ .refl _) (pending_relayed origin node),
    .of_eval hkind.symm (eval_relayed origin node ▸ .refl _) fun remaining =>
      (pending_relayed origin node remaining).symm⟩

end Node

namespace Lower.Simulation.Carries

variable {sim : Simulation (fun _ _ => True) Eval.SameOutcome id} {x y : Lower Node}

theorem literalCall (h : sim.Carries sim.Alike x y) (name : String) (nameSpan outer span : Span) :
    sim.Carries sim.Alike x
      (Lower.call .literal none ⟨name, nameSpan, span, [⟨none, outer, y⟩]⟩ span) := by
  intro before before' after node hbehind hmakes
  obtain ⟨other, after', hother, hafter, halike⟩ | ⟨error, herror, hrefused⟩ :=
    h _ _ _ _ hbehind hmakes
  · exact .inl ⟨_, after', makes_literalCall.mpr ⟨other, hother, rfl⟩, hafter,
      Node.SameOutcome.trans halike (Node.sameOutcome_relayed (by rfl)).1⟩
  · exact .inr ⟨error, literalCall_eq .. ▸ herror.bind, hrefused⟩

theorem ofLiteralCall (h : sim.Carries sim.Alike x y) (name : String)
    (nameSpan outer span : Span) :
    sim.Carries sim.Alike
      (Lower.call .literal none ⟨name, nameSpan, span, [⟨none, outer, x⟩]⟩ span) y := by
  intro before before' after node hbehind hmakes
  obtain ⟨value, hvalue, rfl⟩ := makes_literalCall.mp hmakes
  obtain ⟨other, after', hother, hafter, halike⟩ | hrefused := h _ _ _ _ hbehind hvalue
  · exact .inl ⟨other, after', hother, hafter,
      Node.SameOutcome.trans (Node.sameOutcome_relayed (by rfl)).2 halike⟩
  · exact .inr hrefused

/-- An expression with calls after it carries over to the same calls on `literal` of it. -/
theorem toWrapped {expr found found' : Expression} {calls : List Call}
    (hspan : ∀ a b, sim.span a b) (hclosed : expr.isOpen = false)
    (h : found.mapSpans unplaced = (expr.continued calls).mapSpans unplaced)
    (h' : found'.mapSpans unplaced = (expr.wrapped calls).mapSpans unplaced) :
    sim.Carries sim.Alike found.lower found'.lower := by
  obtain ⟨front, more, rfl, hfront, hmore⟩ := Expression.continued_of_unplaced h
  obtain ⟨nameSpan, inner, outer, span, more', rfl, hinner, hmore'⟩ :=
    Expression.wrapped_of_unplaced h'
  have hopen : front.isOpen = false := by
    rw [← front.isOpen_mapSpans unplaced, hfront, expr.isOpen_mapSpans, hclosed]
  rw [lower_continued hopen, lower_wrapped]
  have hvalue := sim.respelled_expression hspan front inner (hinner.trans hfront.symm)
  exact (hvalue.literalCall "literal" nameSpan outer span).bind fun _ _ hnode =>
    .chain (sim.respelled_calls hspan more more' (hmore'.trans hmore.symm)) hnode

theorem ofWrapped {expr found found' : Expression} {calls : List Call}
    (hspan : ∀ a b, sim.span a b) (hclosed : expr.isOpen = false)
    (h : found.mapSpans unplaced = (expr.wrapped calls).mapSpans unplaced)
    (h' : found'.mapSpans unplaced = (expr.continued calls).mapSpans unplaced) :
    sim.Carries sim.Alike found.lower found'.lower := by
  obtain ⟨nameSpan, inner, outer, span, more, rfl, hinner, hmore⟩ :=
    Expression.wrapped_of_unplaced h
  obtain ⟨front, more', rfl, hfront, hmore'⟩ := Expression.continued_of_unplaced h'
  have hopen : front.isOpen = false := by
    rw [← front.isOpen_mapSpans unplaced, hfront, expr.isOpen_mapSpans, hclosed]
  rw [lower_wrapped, lower_continued hopen]
  have hvalue := sim.respelled_expression hspan inner front (hfront.trans hinner.symm)
  exact (hvalue.ofLiteralCall "literal" nameSpan outer span).bind fun _ _ hnode =>
    .chain (sim.respelled_calls hspan more more' (hmore'.trans hmore.symm)) hnode

end Lower.Simulation.Carries

/-- The tree of a source that is an attribute and nothing else. -/
theorem Lower.makes_attribute {name : String} {span : Span} {found : Expression}
    (h : found.mapSpans unplaced =
      ((Expression.mk (.attribute name span) []).continued []).mapSpans unplaced)
    {scope : Scope} {before after : Progress} {root : Node}
    (hmakes : found.lower.Makes scope before root after) :
    ∃ origin, root = .attribute origin name := by
  obtain ⟨subject, calls⟩ := found
  simp only [Expression.continued, Expression.subject, Expression.chain, Expression.mapSpans,
    Expression.mk.injEq, List.append_nil, mapCallSpans_eq, List.map_nil, List.map_eq_nil_iff] at h
  obtain ⟨hsubject, rfl⟩ := h
  cases subject with
  | call call => cases hsubject
  | «attribute» name' span' =>
    obtain rfl := (Subject.attribute.inj hsubject).1
    simp only [Expression.lower, Subject.plan, planCalls, expression, chain, makes_bind,
      makes_pure] at hmakes
    obtain ⟨_, _, -, origin, _, -, rfl, -⟩ := hmakes
    exact ⟨origin, rfl⟩

namespace Compiled

/-- What the tree of a source gives on a record: unset is not the empty text yet. -/
def given (compiled : Compiled) (attributes : Attributes) (clock : Instant) :
    Except EvalError Value :=
  (compiled.root.eval (compiled.environment attributes clock) .fresh).1

/-- Calls on `literal` of an expression do what they do on the expression. The sources compile both
or neither, to the same kind and with the same attributes referred to. On every record they give the
same value or fail for the same cause, after the same reads and iterations, and what is unset in the
one is unset in the other. So `literal` of a missing attribute is unset. -/
theorem literal_is_transparent (compiler : Compiler) (expr : Expression) (calls : List Call)
    (hclosed : expr.isOpen = false) (plain wrapped : String)
    (hplain : (expr.continued calls).ReadFrom plain)
    (hwrapped : (expr.wrapped calls).ReadFrom wrapped) :
    ((∃ second, compiler.compile wrapped = .ok second) ↔
      ∃ first, compiler.compile plain = .ok first) ∧
    ∀ first second : Compiled, compiler.compile plain = .ok first →
      compiler.compile wrapped = .ok second →
      second.kind = first.kind ∧ second.referenced = first.referenced ∧
      ∀ (attributes : Attributes) (clock : Instant),
        (second.run attributes clock).1.mapError EvalError.cause =
            (first.run attributes clock).1.mapError EvalError.cause ∧
          (second.run attributes clock).2 = (first.run attributes clock).2 ∧
          (second.given attributes clock = .ok .unset ↔ first.given attributes clock = .ok .unset) ∧
          ∀ name span, expr = .mk (.attribute name span) [] → calls = [] →
            attributes.lookup name = none → second.given attributes clock = .ok .unset := by
  have hto {first : Compiled} (hfirst : compiler.compile plain = .ok first) :=
    hplain.agrees hwrapped hfirst fun _ _ h h' => .toWrapped (fun _ _ => trivial) hclosed h h'
  have hof {second : Compiled} (hsecond : compiler.compile wrapped = .ok second) :=
    hwrapped.agrees hplain hsecond fun _ _ h h' => .ofWrapped (fun _ _ => trivial) hclosed h h'
  refine ⟨⟨?_, ?_⟩, fun first second hfirst hsecond => ?_⟩
  · rintro ⟨second, hsecond⟩
    obtain ⟨first, hfirst, -⟩ := hof hsecond
    exact ⟨first, hfirst⟩
  · rintro ⟨first, hfirst⟩
    obtain ⟨second, hsecond, -⟩ := hto hfirst
    exact ⟨second, hsecond⟩
  obtain ⟨other, hother, hroot, hreferenced⟩ := hto hfirst
  obtain rfl : other = second := Except.ok.inj (hother.symm.trans hsecond)
  refine ⟨hroot.kind, hreferenced, fun attributes clock => ?_⟩
  obtain ⟨hvalue, hstate⟩ := run_agrees hfirst hsecond hroot.eval attributes clock
  have hunset : other.given attributes clock = .ok .unset ↔
      first.given attributes clock = .ok .unset := by
    rw [given, given, environment_eq hfirst, environment_eq hsecond]
    exact hroot.eval.ok_iff _ _ _
  refine ⟨hvalue, hstate, hunset, fun name span hexpr hcalls hmissing => hunset.mpr ?_⟩
  subst hexpr hcalls
  obtain ⟨found, hfound, hmakes⟩ := hplain.made hfirst
  obtain ⟨origin, hattribute⟩ := Lower.makes_attribute hfound hmakes
  have hlookup (env : Environment) (hnone : env.attributes.lookup name = none) (state : State) :
      (Eval.lookup name env state).1 = .ok .unset := by
    rw [Eval.lookup, Eval.modify_bind_apply, Eval.read_bind_apply, hnone]
    rfl
  rw [given, hattribute, Node.eval]
  exact hlookup _ hmissing _

/-- The tree of `${missing:isNull()}`. -/
def missingIsNull : Compiled where
  source := "$\x7bmissing:isNull()\x7d"
  root := .call ⟨.boolean, "isNull()", ⟨10, 18⟩⟩ .isNull
    (some (.attribute ⟨.string, "missing", ⟨2, 9⟩⟩ "missing")) none [] [] none
  formats := .standard
  slots := 0
  referenced := ["missing"]

theorem compile_missingIsNull :
    Compiler.standard.compile missingIsNull.source = .ok missingIsNull := by
  cbv

/-- A missing attribute inside `literal` is null. -/
theorem literal_is_transparent_missing :
    let expr : Expression := .mk (.attribute "missing" ⟨0, 0⟩) []
    let calls : List Call := [Function.isNull.applied []]
    let wrapped := "$\x7bliteral($\x7bmissing\x7d):isNull()\x7d"
    expr.isOpen = false ∧ (expr.continued calls).ReadFrom missingIsNull.source ∧
      (expr.wrapped calls).ReadFrom wrapped ∧
      Compiler.standard.compile missingIsNull.source = .ok missingIsNull ∧
      ∃ second, Compiler.standard.compile wrapped = .ok second ∧ second.kind = .boolean ∧
        second.referenced = ["missing"] ∧
        second.run (Record.attributes ⟨[]⟩) .epoch =
          (.ok (.boolean true), ⟨[], 0, ["missing"]⟩) := by
  intro expr calls wrapped
  have hplain : (expr.continued calls).ReadFrom missingIsNull.source :=
    ⟨_, _, by cbv, by cbv, by cbv⟩
  have hwrapped : (expr.wrapped calls).ReadFrom wrapped := ⟨_, _, by cbv, by cbv, by cbv⟩
  obtain ⟨hcompiles, hsame⟩ :=
    literal_is_transparent .standard expr calls rfl missingIsNull.source wrapped hplain hwrapped
  obtain ⟨second, hsecond⟩ := hcompiles.mpr ⟨_, compile_missingIsNull⟩
  obtain ⟨hkind, hreferenced, hrun⟩ := hsame _ second compile_missingIsNull hsecond
  obtain ⟨hvalue, hstate, -⟩ := hrun (Record.attributes ⟨[]⟩) .epoch
  have hfirst : missingIsNull.run (Record.attributes ⟨[]⟩) .epoch =
      (.ok (.boolean true), ⟨[], 0, ["missing"]⟩) := by cbv
  refine ⟨rfl, hplain, hwrapped, compile_missingIsNull, second, hsecond, hkind, hreferenced, ?_⟩
  rw [hfirst] at hvalue hstate
  generalize second.run (Record.attributes ⟨[]⟩) .epoch = run at hvalue hstate ⊢
  obtain ⟨error | value, after⟩ := run
  · cases hvalue
  · cases hvalue
    cases hstate
    rfl

end Compiled

end AttrExpr
