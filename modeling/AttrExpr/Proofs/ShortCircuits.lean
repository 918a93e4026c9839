import AttrExpr.Proofs.Relaying
import AttrExpr.Proofs.TruthValues
import AttrExpr.Proofs.Wrapping

/-! Connectives on truth values. The subject is evaluated first, and the argument only if the
subject leaves the result open. -/
set_option autoImplicit false

namespace AttrExpr

open Eval (SameOutcome)

/-- The truth value that a value stands for, or a failure that a token is to blame for. -/
def Eval.truthOf (token : String) (value : Value) : Eval Bool := do
  ofExcept token ((value.truth (← read).formats).mapError .coercion)

theorem Eval.coerceTo_boolean (token : String) (value : Value) :
    coerceTo token (some .boolean) value = Value.boolean <$> truthOf token value := by
  funext env state
  rw [map_apply, truthOf, coerceTo, coerce, read_bind_apply, read_bind_apply, Value.coerce_boolean]
  cases value.truth env.formats <;> rfl

theorem Eval.truthOf_boolean (token : String) (b : Bool) : truthOf token (.boolean b) = pure b := by
  funext env state
  have htruth : (Value.boolean b).truth env.formats = .ok b := rfl
  rw [truthOf, read_bind_apply, htruth]
  rfl

theorem Eval.truthOf_sameOutcome (token token' : String) (value : Value) :
    SameOutcome (truthOf token value) (truthOf token' value) := by
  intro env state
  rw [outcome, outcome, truthOf, truthOf, read_bind_apply, read_bind_apply]
  cases value.truth env.formats <;> rfl

namespace Node

/-- The truth value of a node, as a connective asks for it. -/
def truth (node : Node) : Eval Bool := do
  Eval.truthOf node.token (← node.eval)

/-- A connective on two nodes, both made into truth values. -/
def connected (origin : Origin) (function : Function) (node arg : Node) : Node :=
  .call origin function (some node) (some .boolean) [arg] [some .boolean] none

theorem truth_of_eval {node : Node} {x : Eval Bool} (h : node.eval = Value.boolean <$> x) :
    node.truth = x := by
  rw [truth, h, bind_map_left]
  simp only [Eval.truthOf_boolean, bind_pure]

theorem SameOutcome.truth {node other : Node} (h : node.SameOutcome other) :
    Eval.SameOutcome node.truth other.truth :=
  h.eval.bind fun value => Eval.truthOf_sameOutcome _ _ value

end Node

namespace ActiveCall

variable {call : ActiveCall} {node : Node}

/-- The subject of a function on truth values is evaluated first. -/
theorem value_logical (hfamily : call.function.family = .logical)
    (hsubject : call.subject = some ⟨node.token, some .boolean, node.eval⟩) :
    call.value = (do call.onBoolean (← node.truth)) := by
  rw [value, hfamily]
  simp only [subjectValue, rawSubject, coerceSubject, hsubject, bind_assoc, Eval.coerceTo_boolean,
    bind_map_left, booleanOf, pure_bind, Node.truth]

theorem booleanArg_eq (h : call.args[0]? = some ⟨node.token, some .boolean, node.eval⟩) :
    call.booleanArg = Value.boolean <$> node.truth := by
  simp only [booleanArg, arg, h, Operand.value, bind_assoc, Eval.coerceTo_boolean, booleanOf,
    pure_bind, Node.truth, ← bind_pure_comp]

end ActiveCall

namespace Node

variable (origin : Origin) (node arg : Node)

theorem eval_not : (negated origin node).eval = Value.boolean <$> (do pure !(← node.truth)) := by
  rw [negated, eval, ActiveCall.value_logical rfl rfl, map_bind]
  rfl

theorem eval_and : (connected origin .and node arg).eval =
    Value.boolean <$> (do if ← node.truth then arg.truth else pure false) := by
  rw [connected, eval, ActiveCall.value_logical rfl rfl, map_bind]
  refine bind_congr fun b => ?_
  cases b with
  | false => rfl
  | true => exact ActiveCall.booleanArg_eq rfl

theorem eval_or : (connected origin .or node arg).eval =
    Value.boolean <$> (do if ← node.truth then pure true else arg.truth) := by
  rw [connected, eval, ActiveCall.value_logical rfl rfl, map_bind]
  refine bind_congr fun b => ?_
  cases b with
  | false => exact ActiveCall.booleanArg_eq rfl
  | true => rfl

section

variable {origin node arg} {env : Environment} {state after : State} (outer inner : Origin)

/-- Where the subject is false, the argument does not matter. -/
theorem eval_not_and_of_false (h : node.truth env state = (.ok false, after)) :
    (negated outer (connected inner .and node arg)).eval env state =
      (.ok (.boolean true), after) := by
  rw [eval_not, truth_of_eval (eval_and ..), Eval.map_apply, bind_assoc, Eval.bind_apply, h]
  rfl

theorem eval_or_not_of_false (h : node.truth env state = (.ok false, after)) :
    (connected outer .or (negated inner node) arg).eval env state =
      (.ok (.boolean true), after) := by
  rw [eval_or, truth_of_eval (eval_not ..), Eval.map_apply, bind_assoc, Eval.bind_apply, h]
  rfl

end

/-- A conjunction denied, and what is denied of the one or of the other. -/
theorem sameOutcome_deMorgan {node other arg arg' : Node}
    (h : Eval.SameOutcome node.truth other.truth) (harg : Eval.SameOutcome arg.truth arg'.truth)
    (outer inner outer' inner' inner'' : Origin) :
    Eval.SameOutcome (negated outer (connected inner .and node arg)).eval
      (connected outer' .or (negated inner' other) (negated inner'' arg')).eval := by
  rw [eval_not, eval_or, truth_of_eval (eval_and ..), truth_of_eval (eval_not ..),
    truth_of_eval (eval_not ..), bind_assoc, bind_assoc, ← bind_pure_comp, ← bind_pure_comp,
    bind_assoc, bind_assoc]
  refine h.bind fun b => ?_
  cases b with
  | false => exact .refl _
  | true =>
    simp only [if_true, Bool.not_true, Bool.false_eq_true, if_false, pure_bind, bind_assoc]
    exact harg.bind fun b => .refl _

end Node

namespace Lower

variable {scope : Scope} {before after : Progress} {value : Node}

/-- Kinds whose values become truth values. -/
theorem resolve_boolean {kind : Kind} (h : kind = .boolean ∨ kind = .string) :
    (Expectation.kind .boolean).resolve? kind = some (some .boolean) := by
  rcases h with rfl | rfl <;> rfl

/-- What a connective makes of nodes that become truth values. -/
theorem makes_connective {function : Function} (hfunction : function = .and ∨ function = .or)
    (node : Node) (arg : PlannedArg) (nameSpan span : Span)
    (hmakes : arg.lower.Makes scope before value after)
    (hnode : node.kind = .boolean ∨ node.kind = .string)
    (hvalue : value.kind = .boolean ∨ value.kind = .string) :
    (chain node [⟨function.name, nameSpan, span, [arg]⟩]).Makes scope before
      (.connected ⟨.boolean, span.token scope.source, span⟩ function node value) after := by
  have hsignature : function.isReducer = false ∧
      function.signature.subject = some (.kind .boolean) ∧
      function.signature.accepts 1 = true ∧ function.signature.param 0 = .kind .boolean ∧
      function.signature.returns = some .boolean ∧ function.patternWhole? = none := by
    rcases hfunction with rfl | rfl <;> decide
  obtain ⟨hreducer, hsubject, harity, hparam, hreturns, hwhole⟩ := hsignature
  have hpattern : literalPattern function [arg] = pure none := by
    unfold literalPattern
    rw [hwhole]
  simp only [chain, resolve_name, hreducer, hsubject, Option.isNone_some, Bool.false_eq_true,
    if_false, pure_bind, bind_pure, call, checkArity, List.length_singleton, harity, if_true,
    subjectTarget, resolve_boolean hnode, arguments, hparam, hpattern, hreturns, bind_assoc,
    makes_bind, makes_origin, makes_pure]
  refine ⟨value, after, hmakes, [(value, some .boolean)], after, ?_, _, after, ⟨rfl, rfl⟩, rfl, rfl⟩
  rw [resolve_boolean hvalue]
  exact makes_pure.mpr ⟨rfl, rfl⟩

end Lower

/-! Sources of two expressions. -/

theorem Function.applied_nil_of_unplaced {function : Function} {call : Call}
    (h : call.mapSpans unplaced = (function.applied []).mapSpans unplaced) :
    ∃ nameSpan span, call = .mk function.name nameSpan [] span := by
  obtain ⟨name, nameSpan, args, span⟩ := call
  simp only [applied, Call.mapSpans, mapArgumentSpans, Call.mk.injEq] at h
  obtain ⟨rfl, -, hargs, -⟩ := h
  cases args with
  | nil => exact ⟨nameSpan, span, rfl⟩
  | cons arg args => cases hargs

theorem Function.applied_one_of_unplaced {function : Function} {call : Call} {expr : Expression}
    {span : Span}
    (h : call.mapSpans unplaced = (function.applied [.expression expr span]).mapSpans unplaced) :
    ∃ nameSpan inner outer span, call = .mk function.name nameSpan [.expression inner outer] span ∧
      inner.mapSpans unplaced = expr.mapSpans unplaced := by
  obtain ⟨nameSpan, arg, args, span, rfl, harg, hargs⟩ := Function.applied_of_unplaced h
  obtain ⟨inner, outer, rfl, hinner⟩ := Argument.expression_of_unplaced harg
  cases args with
  | nil => exact ⟨nameSpan, inner, outer, span, rfl, hinner⟩
  | cons arg args => cases hargs

namespace Expression

variable (expr other : Expression)

/-- An expression denied. -/
def denied : Expression := expr.wrapped [Function.not.applied []]

/-- The conjunction of two expressions, denied. -/
def bothDenied : Expression :=
  expr.wrapped [Function.and.applied [.expression other ⟨0, 0⟩], Function.not.applied []]

/-- What is denied of the one expression or of the other. -/
def eitherDenied : Expression :=
  expr.wrapped [Function.not.applied [], Function.or.applied [.expression other.denied ⟨0, 0⟩]]

end Expression

namespace Lower

variable {scope : Scope} {before between after : Progress} {expr other found inner : Expression}
  {node value result : Node}

theorem makes_chain_append {calls more : List PlannedCall}
    (h : (chain node calls).Makes scope before value between)
    (hmore : (chain value more).Makes scope between result after) :
    (chain node (calls ++ more)).Makes scope before result after := by
  rw [chain_append, makes_bind]
  exact ⟨value, between, h, hmore⟩

theorem makes_wrapped {nameSpan outer span : Span} {calls : List Call}
    (h : inner.lower.Makes scope before node between)
    (hcalls : (chain (.relayed ⟨node.kind, span.token scope.source, span⟩ node)
      (planCalls calls)).Makes scope between result after) :
    Makes (Expression.mk (.call (.mk "literal" nameSpan [.expression inner outer] span))
      calls).lower scope before result after := by
  rw [lower_wrapped, makes_bind]
  exact ⟨_, between, makes_literalCall.mpr ⟨node, h, rfl⟩, hcalls⟩

/-- Denial of a node that becomes a truth value. -/
theorem makes_denial (node : Node) (nameSpan span : Span)
    (hkind : node.kind = .boolean ∨ node.kind = .string) :
    (chain node [⟨"not", nameSpan, span, []⟩]).Makes scope before
      (.negated ⟨.boolean, span.token scope.source, span⟩ node) before :=
  (makes_not (resolve_boolean hkind)).mpr ⟨rfl, rfl⟩

/-- What is made of an expression that is denied. -/
theorem makes_denied (h : found.mapSpans unplaced = expr.denied.mapSpans unplaced) :
    ∃ inner : Expression, inner.mapSpans unplaced = expr.mapSpans unplaced ∧
      ∀ {scope before node after}, inner.lower.Makes scope before node after →
        node.kind = .boolean ∨ node.kind = .string →
        ∃ outer origin, outer.kind = .boolean ∧ origin.kind = node.kind ∧
          found.lower.Makes scope before (.negated outer (.relayed origin node)) after := by
  obtain ⟨nameSpan, inner, argSpan, span, more, rfl, hinner, hmore⟩ :=
    Expression.wrapped_of_unplaced h
  rw [mapCallSpans_eq, mapCallSpans_eq] at hmore
  obtain ⟨call, rest, rfl, hcall, hrest⟩ := List.map_eq_cons_iff.mp hmore
  obtain rfl := List.map_eq_nil_iff.mp hrest
  obtain ⟨notSpan, callSpan, rfl⟩ := Function.applied_nil_of_unplaced hcall
  refine ⟨inner, hinner, fun {scope before node after} hnode hkind => ?_⟩
  let origin : Origin := ⟨node.kind, span.token scope.source, span⟩
  exact ⟨_, origin, rfl, rfl,
    makes_wrapped hnode (makes_denial (.relayed origin node) notSpan callSpan hkind)⟩

/-- What is made of a conjunction that is denied. -/
theorem makes_bothDenied
    (h : found.mapSpans unplaced = (expr.bothDenied other).mapSpans unplaced) :
    ∃ inner inner' : Expression, inner.mapSpans unplaced = expr.mapSpans unplaced ∧
      inner'.mapSpans unplaced = other.mapSpans unplaced ∧
      ∀ {scope before between after node value}, inner.lower.Makes scope before node between →
        inner'.lower.Makes scope between value after →
        node.kind = .boolean ∨ node.kind = .string → value.kind = .boolean ∨ value.kind = .string →
        ∃ outer connective origin, outer.kind = .boolean ∧ origin.kind = node.kind ∧
          found.lower.Makes scope before
            (.negated outer (.connected connective .and (.relayed origin node) value)) after := by
  obtain ⟨nameSpan, inner, argSpan, span, more, rfl, hinner, hmore⟩ :=
    Expression.wrapped_of_unplaced h
  rw [mapCallSpans_eq, mapCallSpans_eq] at hmore
  obtain ⟨call, rest, rfl, hcall, hrest⟩ := List.map_eq_cons_iff.mp hmore
  obtain ⟨last, rest, rfl, hlast, hrest⟩ := List.map_eq_cons_iff.mp hrest
  obtain rfl := List.map_eq_nil_iff.mp hrest
  obtain ⟨andSpan, inner', outer, callSpan, rfl, hinner'⟩ :=
    Function.applied_one_of_unplaced hcall
  obtain ⟨notSpan, lastSpan, rfl⟩ := Function.applied_nil_of_unplaced hlast
  refine ⟨inner, inner', hinner, hinner',
    fun {scope before between after node value} hnode hvalue hkind hkind' => ?_⟩
  let origin : Origin := ⟨node.kind, span.token scope.source, span⟩
  have hand := makes_connective (.inl rfl) (.relayed origin node) ⟨none, outer, inner'.lower⟩
    andSpan callSpan hvalue hkind hkind'
  exact ⟨_, _, origin, rfl, rfl, makes_wrapped hnode
    (makes_chain_append hand (makes_denial _ notSpan lastSpan (.inl rfl)))⟩

/-- What is made of two expressions of which one is denied. -/
theorem makes_eitherDenied
    (h : found.mapSpans unplaced = (expr.eitherDenied other).mapSpans unplaced) :
    ∃ inner inner' : Expression, inner.mapSpans unplaced = expr.mapSpans unplaced ∧
      inner'.mapSpans unplaced = other.mapSpans unplaced ∧
      ∀ {scope before between after node value}, inner.lower.Makes scope before node between →
        inner'.lower.Makes scope between value after →
        node.kind = .boolean ∨ node.kind = .string → value.kind = .boolean ∨ value.kind = .string →
        ∃ outer first origin second origin', outer.kind = .boolean ∧ origin.kind = node.kind ∧
          origin'.kind = value.kind ∧ found.lower.Makes scope before
            (.connected outer .or (.negated first (.relayed origin node))
              (.negated second (.relayed origin' value))) after := by
  obtain ⟨nameSpan, inner, argSpan, span, more, rfl, hinner, hmore⟩ :=
    Expression.wrapped_of_unplaced h
  rw [mapCallSpans_eq, mapCallSpans_eq] at hmore
  obtain ⟨call, rest, rfl, hcall, hrest⟩ := List.map_eq_cons_iff.mp hmore
  obtain ⟨last, rest, rfl, hlast, hrest⟩ := List.map_eq_cons_iff.mp hrest
  obtain rfl := List.map_eq_nil_iff.mp hrest
  obtain ⟨notSpan, callSpan, rfl⟩ := Function.applied_nil_of_unplaced hcall
  obtain ⟨orSpan, found', outer, lastSpan, rfl, hfound'⟩ := Function.applied_one_of_unplaced hlast
  obtain ⟨inner', hinner', hdenied⟩ := makes_denied hfound'
  refine ⟨inner, inner', hinner, hinner',
    fun {scope before between after node value} hnode hvalue hkind hkind' => ?_⟩
  let origin : Origin := ⟨node.kind, span.token scope.source, span⟩
  obtain ⟨second, origin', hsecond, horigin', hvalue⟩ := hdenied hvalue hkind'
  have hor := makes_connective (.inr rfl)
    (.negated ⟨.boolean, callSpan.token scope.source, callSpan⟩ (.relayed origin node))
    ⟨none, outer, found'.lower⟩ orSpan lastSpan hvalue (.inl rfl) (.inl hsecond)
  exact ⟨_, _, origin, second, origin', rfl, rfl, horigin', makes_wrapped hnode
    (makes_chain_append (makes_denial (.relayed origin node) notSpan callSpan hkind) hor)⟩

end Lower

namespace Compiled

theorem kind_of_isValidForBoolean {compiled : Compiled}
    (h : compiled.isValidForBoolean = true) :
    compiled.kind = .boolean ∨ compiled.kind = .string := by
  rcases Bool.or_eq_true_iff.mp h with h | h
  · exact .inl (beq_iff_eq.mp h)
  · exact .inr (beq_iff_eq.mp h)

/-- A source that is read as false has a tree with that truth value. -/
theorem truth_of_evaluateBoolean {compiler : Compiler} {source : String} {compiled : Compiled}
    (h : compiler.compile source = .ok compiled) (hvalid : compiled.isValidForBoolean = true)
    {attributes : Attributes} {clock : Instant} {b : Bool}
    (htruth : compiled.evaluateBoolean attributes clock = .ok b) :
    compiled.root.truth (compiled.environment attributes clock) .fresh =
      (.ok b, (compiled.run attributes clock).2) := by
  rw [evaluateBoolean_eq h hvalid] at htruth
  rw [run_eq_root h, Node.truth, Eval.bind_apply]
  generalize compiled.root.eval (compiled.environment attributes clock) .fresh = run at htruth ⊢
  obtain ⟨error | value, after⟩ := run
  · cases htruth
  · by_cases hunset : value = .unset
    · subst hunset
      cases htruth
    · simp only [Except.bind, Value.atRoot_of_set hunset] at htruth
      dsimp only
      rw [Eval.truthOf, Eval.read_bind_apply, environment]
      cases hvalue : value.truth compiled.formats with
      | error failure =>
        rw [hvalue] at htruth
        cases htruth
      | ok other =>
        rw [hvalue] at htruth
        cases htruth
        rfl

variable {compiler : Compiler} {expr other : Expression} {first second source : String}
  {x y : Compiled}

/-- Where two sources compile, the denial of their conjunction does. Its operands are the tree of
the first, and what is made of the second expression after that. -/
theorem compile_bothDenied (hfirst : expr.ReadFrom first) (hsecond : other.ReadFrom second)
    (hsource : (expr.bothDenied other).ReadFrom source) (hx : compiler.compile first = .ok x)
    (hy : compiler.compile second = .ok y) (hxvalid : x.isValidForBoolean = true)
    (hyvalid : y.isValidForBoolean = true) :
    ∃ both, compiler.compile source = .ok both ∧ both.kind = .boolean ∧
      ∃ outer connective node value,
        both.root = .negated outer (.connected connective .and node value) ∧
        x.root.SameOutcome node ∧ value.kind = y.kind ∧ ∃ (inner : Expression) (last : Progress),
          inner.mapSpans unplaced = other.mapSpans unplaced ∧
          inner.lower.Makes ⟨source.toList, compiler.declared⟩ ⟨x.slots, x.referenced⟩ value
            last := by
  obtain ⟨found, hfound, hcompile⟩ := hsource.compile_of_makes compiler
  obtain ⟨inner, inner', hinner, hinner', hmakes⟩ := Lower.makes_bothDenied hfound
  obtain ⟨start, hstart, hmade⟩ := hfirst.made hx
  obtain ⟨node, hnode, hsame⟩ := hmade.respelled (hinner.trans hstart.symm) source.toList
  obtain ⟨value, last, hvalue, hk⟩ :=
    hsecond.lowered hy hinner' source.toList ⟨x.slots, x.referenced⟩
  obtain ⟨outer, connective, origin, houter, horigin, hroot⟩ := hmakes hnode hvalue
    (hsame.kind ▸ kind_of_isValidForBoolean hxvalid) (hk ▸ kind_of_isValidForBoolean hyvalid)
  obtain ⟨both, hboth, hroot⟩ := hcompile hroot
  have hkind : both.kind = .boolean := by
    rw [kind, hroot]
    exact houter
  exact ⟨both, hboth, hkind, outer, connective, _, value, hroot,
    hsame.trans (Node.sameOutcome_relayed horigin).1, hk, inner', last, hinner', hvalue⟩

theorem compile_eitherDenied (hfirst : expr.ReadFrom first)
    (hsource : (expr.eitherDenied other).ReadFrom source) (hx : compiler.compile first = .ok x)
    (hxvalid : x.isValidForBoolean = true) {inner : Expression} {cs : List Char} {value : Node}
    {last : Progress} (hinner : inner.mapSpans unplaced = other.mapSpans unplaced)
    (hvalue : inner.lower.Makes ⟨cs, compiler.declared⟩ ⟨x.slots, x.referenced⟩ value last)
    (hkind : value.kind = .boolean ∨ value.kind = .string) :
    ∃ either, compiler.compile source = .ok either ∧
      ∃ outer origin origin' node value', either.root =
          .connected outer .or (.negated origin node) (.negated origin' value') ∧
        x.root.SameOutcome node ∧ value.SameOutcome value' := by
  obtain ⟨found, hfound, hcompile⟩ := hsource.compile_of_makes compiler
  obtain ⟨front, inner', hfront, hinner', hmakes⟩ := Lower.makes_eitherDenied hfound
  obtain ⟨start, hstart, hmade⟩ := hfirst.made hx
  obtain ⟨node, hnode, hsame⟩ := hmade.respelled (hfront.trans hstart.symm) source.toList
  obtain ⟨value', hvalue', hsame'⟩ := hvalue.respelled (hinner'.trans hinner.symm) source.toList
  obtain ⟨outer, first, origin, second, origin', -, horigin, horigin', hroot⟩ :=
    hmakes hnode hvalue' (hsame.kind ▸ kind_of_isValidForBoolean hxvalid) (hsame'.kind ▸ hkind)
  obtain ⟨either, heither, hroot⟩ := hcompile hroot
  exact ⟨either, heither, outer, first, second, _, _, hroot,
    hsame.trans (Node.sameOutcome_relayed horigin).1,
    hsame'.trans (Node.sameOutcome_relayed horigin').1⟩

/-- A conjunction that is denied, and what is denied of the one expression or of the other. Both
sources compile; on every record they give the same truth value or fail for the same cause, after
the same reads and iterations. Where the first expression is false, nothing but that is
evaluated. -/
theorem connectives_are_dual (compiler : Compiler) (expr other : Expression)
    (first second left right : String) (hfirst : expr.ReadFrom first)
    (hsecond : other.ReadFrom second) (hleft : (expr.bothDenied other).ReadFrom left)
    (hright : (expr.eitherDenied other).ReadFrom right) (x y : Compiled)
    (hx : compiler.compile first = .ok x) (hy : compiler.compile second = .ok y)
    (hxvalid : x.isValidForBoolean = true) (hyvalid : y.isValidForBoolean = true) :
    ∃ both either, compiler.compile left = .ok both ∧ compiler.compile right = .ok either ∧
      ∀ (attributes : Attributes) (clock : Instant),
        (∀ value, (both.run attributes clock).1 = .ok value → ∃ b, value = .boolean b) ∧
        (either.run attributes clock).1.mapError EvalError.cause =
            (both.run attributes clock).1.mapError EvalError.cause ∧
          (either.run attributes clock).2 = (both.run attributes clock).2 ∧
        (x.evaluateBoolean attributes clock = .ok false →
          both.run attributes clock = (.ok (.boolean true), (x.run attributes clock).2) ∧
            either.run attributes clock = (.ok (.boolean true), (x.run attributes clock).2)) := by
  obtain ⟨both, hboth, hboolean, outer, inner, node, value, hroot, hnode, hkind, found, last,
    hfound, hmade⟩ := compile_bothDenied hfirst hsecond hleft hx hy hxvalid hyvalid
  obtain ⟨either, heither, outer', origin, origin', node', value', hroot', hnode', hvalue⟩ :=
    compile_eitherDenied hfirst hright hx hxvalid hfound hmade
      (hkind ▸ kind_of_isValidForBoolean hyvalid)
  have hsame : Eval.SameOutcome both.root.eval either.root.eval := by
    rw [hroot, hroot']
    exact Node.sameOutcome_deMorgan (hnode.truth.symm.trans hnode'.truth) hvalue.truth _ _
      _ _ _
  refine ⟨both, either, hboth, heither, fun attributes clock => ?_⟩
  obtain ⟨hvalues, hstates⟩ := run_agrees hboth heither hsame attributes clock
  refine ⟨fun value hv => (hboolean ▸ eval_ok hboth hv).boolean, hvalues, hstates, fun hfalse => ?_⟩
  have htruth := Eval.outcome_eq_ok.mpr (truth_of_evaluateBoolean hx hxvalid hfalse)
  rw [environment_eq hx] at htruth
  have hleft := Eval.outcome_eq_ok.mp ((hnode.truth _ _).trans htruth)
  have hright := Eval.outcome_eq_ok.mp ((hnode'.truth _ _).trans htruth)
  constructor
  · rw [run_eq_root hboth, hroot, environment_eq hboth, Node.eval_not_and_of_false _ _ hleft]
    rfl
  · rw [run_eq_root heither, hroot', environment_eq heither, Node.eval_or_not_of_false _ _ hright]
    rfl

/-- The tree of `${on}`. -/
def onAlone : Compiled where
  source := "$\x7bon\x7d"
  root := .attribute ⟨.string, "on", ⟨2, 4⟩⟩ "on"
  formats := .standard
  slots := 0
  referenced := ["on"]

theorem compile_onAlone :
    Compiler.standard.compile onAlone.source = .ok onAlone := by
  cbv

/-- The tree of `${n:gt(1)}`. -/
def countAboveOne : Compiled where
  source := "$\x7bn:gt(1)\x7d"
  root := .call ⟨.boolean, "gt(1)", ⟨4, 9⟩⟩ .gt
    (some (.attribute ⟨.string, "n", ⟨2, 3⟩⟩ "n")) (some .number)
    [.literal ⟨.whole, "1", ⟨7, 8⟩⟩ (.number (.whole 1))] [some .number] none
  formats := .standard
  slots := 0
  referenced := ["n"]

theorem compile_countAboveOne :
    Compiler.standard.compile countAboveOne.source = .ok countAboveOne := by
  cbv

/-- A count that is no number fails a comparison, but not where `on` is false. -/
theorem connectives_are_dual_off :
    let expr : Expression := .mk (.attribute "on" ⟨0, 0⟩) []
    let other : Expression := .mk (.attribute "n" ⟨0, 0⟩)
      [Function.gt.applied [.literal (.number (.whole 1)) ⟨0, 0⟩]]
    let left := "$\x7bliteral($\x7bon\x7d):and($\x7bn:gt(1)\x7d):not()\x7d"
    let right :=
      "$\x7bliteral($\x7bon\x7d):not():or($\x7bliteral($\x7bn:gt(1)\x7d):not()\x7d)\x7d"
    let record := Record.attributes ⟨[("on", "false"), ("n", "many")]⟩
    expr.ReadFrom onAlone.source ∧ other.ReadFrom countAboveOne.source ∧
      (expr.bothDenied other).ReadFrom left ∧ (expr.eitherDenied other).ReadFrom right ∧
      Compiler.standard.compile onAlone.source = .ok onAlone ∧
      Compiler.standard.compile countAboveOne.source = .ok countAboveOne ∧
      onAlone.isValidForBoolean = true ∧ countAboveOne.isValidForBoolean = true ∧
      (∃ error, countAboveOne.evaluateBoolean record .epoch = .error error) ∧
      ∃ both either, Compiler.standard.compile left = .ok both ∧
        Compiler.standard.compile right = .ok either ∧
        both.run record .epoch = (.ok (.boolean true), ⟨[], 0, ["on"]⟩) ∧
        either.run record .epoch = (.ok (.boolean true), ⟨[], 0, ["on"]⟩) := by
  intro expr other left right record
  have hexpr : expr.ReadFrom onAlone.source := ⟨_, _, by cbv, by cbv, by cbv⟩
  have hother : other.ReadFrom countAboveOne.source := ⟨_, _, by cbv, by cbv, by cbv⟩
  have hleft : (expr.bothDenied other).ReadFrom left := ⟨_, _, by cbv, by cbv, by cbv⟩
  have hright : (expr.eitherDenied other).ReadFrom right := ⟨_, _, by cbv, by cbv, by cbv⟩
  have hvalid : onAlone.isValidForBoolean = true := by decide
  have hvalid' : countAboveOne.isValidForBoolean = true := by decide
  obtain ⟨both, either, hboth, heither, hrun⟩ :=
    connectives_are_dual .standard expr other _ _ left right hexpr hother hleft hright onAlone
      countAboveOne compile_onAlone compile_countAboveOne hvalid hvalid'
  obtain ⟨-, -, -, hfalse⟩ := hrun record .epoch
  obtain ⟨htrue, htrue'⟩ := hfalse (by cbv)
  exact ⟨hexpr, hother, hleft, hright, compile_onAlone, compile_countAboveOne, hvalid, hvalid',
    ⟨_, by cbv⟩, both, either, hboth, heither, htrue, htrue'⟩

end Compiled

end AttrExpr
