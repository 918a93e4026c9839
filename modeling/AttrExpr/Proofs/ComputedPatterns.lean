import AttrExpr.Proofs.PatternCalls
import Mathlib.Data.List.TakeWhile

/-! Regular expressions that are written as string literals, and the same ones computed. Both give
the same wherever both compile. A literal that is no regular expression does not compile; computed,
it fails once the subject has been evaluated. -/
set_option autoImplicit false

namespace AttrExpr

/-! Sources that end in a call on a regular expression. -/

/-- An expression with more calls after it. -/
def Expression.continued (expr : Expression) (calls : List Call) : Expression :=
  .mk expr.subject (expr.chain ++ calls)

/-- An expression with one more call after it. -/
def Expression.followedBy (expr : Expression) (call : Call) : Expression :=
  .mk expr.subject (expr.chain ++ [call])

/-- A text as a string literal. -/
def Argument.written (text : String) : Argument := .literal (.string text) ⟨0, 0⟩

/-- A call of a function by its name. -/
def Function.applied (function : Function) (args : List Argument) : Call :=
  .mk function.name ⟨0, 0⟩ args ⟨0, 0⟩

/-- A text that is computed: the value of `literal` applied to the text. -/
def Argument.computed (text : String) : Argument :=
  .expression (.mk (.call (Function.literal.applied [.written text])) []) ⟨0, 0⟩

/-- A source consists of an expression, in whatever way that is spelled. -/
def Expression.ReadFrom (expr : Expression) (source : String) : Prop :=
  ∃ template found, Template.read source.toList = .ok template ∧ template.only? = some found ∧
    found.mapSpans unplaced = expr.mapSpans unplaced

def Subject.isQuantifier : Subject → Bool
  | .attribute _ _ => false
  | .call inner => ((Function.ofName? inner.name).bind Function.quantifier?).isSome

/-- An expression starts with a quantifier to whose body a call after the expression belongs. -/
def Expression.isOpen (expr : Expression) : Bool :=
  expr.subject.isQuantifier &&
    expr.chain.all fun call => !(Function.ofName? call.name).any Function.isReducer

theorem planCalls_eq (calls : List Call) : planCalls calls = calls.map Call.plan := by
  induction calls with
  | nil => rfl
  | cons call calls ih => rw [planCalls, ih, List.map_cons]

theorem mapCallSpans_eq (f : Span → Span) (calls : List Call) :
    mapCallSpans f calls = calls.map (Call.mapSpans f) := by
  induction calls with
  | nil => rfl
  | cons call calls ih => rw [mapCallSpans, ih, List.map_cons]

@[simp] theorem Call.name_mapSpans (f : Span → Span) (call : Call) :
    (call.mapSpans f).name = call.name := by
  cases call
  rfl

@[simp] theorem Call.name_plan (call : Call) : call.plan.name = call.name := by
  cases call
  rfl

theorem Expression.isOpen_mapSpans (f : Span → Span) (expr : Expression) :
    (expr.mapSpans f).isOpen = expr.isOpen := by
  obtain ⟨subject, calls⟩ := expr
  have hsubject : (subject.mapSpans f).isQuantifier = subject.isQuantifier := by
    cases subject with
    | «attribute» name span => rfl
    | call inner => simp only [Subject.mapSpans, Subject.isQuantifier, Call.name_mapSpans]
  simp only [isOpen, Expression.mapSpans, Expression.subject, Expression.chain, hsubject,
    mapCallSpans_eq, List.all_map, Function.comp_def, Call.name_mapSpans]

theorem Expression.continued_of_unplaced {found expr : Expression} {calls : List Call}
    (h : found.mapSpans unplaced = (expr.continued calls).mapSpans unplaced) :
    ∃ (front : Expression) (more : List Call), found = front.continued more ∧
      front.mapSpans unplaced = expr.mapSpans unplaced ∧
      mapCallSpans unplaced more = mapCallSpans unplaced calls := by
  obtain ⟨subject, chain⟩ := found
  obtain ⟨subject', chain'⟩ := expr
  simp only [continued, Expression.mapSpans, Expression.subject, Expression.chain,
    Expression.mk.injEq, mapCallSpans_eq, List.map_append] at h
  obtain ⟨hsubject, hcalls⟩ := h
  obtain ⟨front, more, rfl, hfront, hmore⟩ := List.map_eq_append_iff.mp hcalls
  refine ⟨.mk subject front, more, rfl, ?_, ?_⟩
  · simp only [Expression.mapSpans, mapCallSpans_eq, hsubject, hfront]
  · rw [mapCallSpans_eq, mapCallSpans_eq, hmore]

theorem Expression.followedBy_of_unplaced {found expr : Expression} {call : Call}
    (h : found.mapSpans unplaced = (expr.followedBy call).mapSpans unplaced) :
    ∃ (front : Expression) (last : Call), found = front.followedBy last ∧
      front.mapSpans unplaced = expr.mapSpans unplaced ∧
      last.mapSpans unplaced = call.mapSpans unplaced := by
  obtain ⟨front, more, rfl, hfront, hmore⟩ := @Expression.continued_of_unplaced _ _ [call] h
  rw [mapCallSpans_eq] at hmore
  obtain ⟨last, rest, rfl, hlast, hrest⟩ := List.map_eq_cons_iff.mp hmore
  obtain rfl := List.map_eq_nil_iff.mp hrest
  exact ⟨front, last, rfl, hfront, hlast⟩

theorem Function.applied_of_unplaced {function : Function} {call : Call} {first : Argument}
    {more : List Argument}
    (h : call.mapSpans unplaced = (function.applied (first :: more)).mapSpans unplaced) :
    ∃ nameSpan arg args span, call = .mk function.name nameSpan (arg :: args) span ∧
      arg.mapSpans unplaced = first.mapSpans unplaced ∧
      mapArgumentSpans unplaced args = mapArgumentSpans unplaced more := by
  obtain ⟨name, nameSpan, args, span⟩ := call
  simp only [applied, Call.mapSpans, mapArgumentSpans, Call.mk.injEq] at h
  obtain ⟨rfl, -, hargs, -⟩ := h
  cases args with
  | nil => cases hargs
  | cons arg args =>
    simp only [mapArgumentSpans, List.cons.injEq] at hargs
    exact ⟨nameSpan, arg, args, span, rfl, hargs.1, hargs.2⟩

theorem Argument.written_of_unplaced {arg : Argument} {text : String}
    (h : arg.mapSpans unplaced = (written text).mapSpans unplaced) :
    ∃ span, arg = .literal (.string text) span := by
  cases arg with
  | literal value span =>
    obtain rfl := (Argument.literal.inj h).1
    exact ⟨span, rfl⟩
  | expression expr span => cases h

theorem Argument.computed_of_unplaced {arg : Argument} {text : String}
    (h : arg.mapSpans unplaced = (computed text).mapSpans unplaced) :
    ∃ nameSpan span inner outer, arg = .expression
      (.mk (.call (.mk "literal" nameSpan [.literal (.string text) inner] span)) []) outer := by
  cases arg with
  | literal value span => cases h
  | expression expr outer =>
    obtain ⟨subject, calls⟩ := expr
    have hexpr := (Argument.expression.inj h).1
    simp only [Expression.mapSpans, Expression.mk.injEq] at hexpr
    obtain ⟨hsubject, hcalls⟩ := hexpr
    rw [mapCallSpans_eq] at hcalls
    obtain rfl := List.map_eq_nil_iff.mp hcalls
    cases subject with
    | «attribute» name span => cases hsubject
    | call inner =>
      obtain ⟨nameSpan, arg, args, span, rfl, harg, hargs⟩ :=
        Function.applied_of_unplaced (Subject.call.inj hsubject)
      obtain ⟨innerSpan, rfl⟩ := written_of_unplaced harg
      cases args with
      | nil => exact ⟨nameSpan, span, innerSpan, outer, rfl⟩
      | cons arg args => cases hargs

/-! What lowering makes of a text that is computed, and of a call after an expression. -/

namespace Lower

variable {scope : Scope} {before after : Progress}

/-- A computed text is not taken for a string literal, and it has its value without any reading. -/
theorem makes_computed {arg : Argument} {text : String}
    (h : arg.mapSpans unplaced = (Argument.computed text).mapSpans unplaced) :
    arg.plan.text = none ∧ ∀ {scope : Scope} {before after : Progress} {node : Node},
      Makes arg.plan.lower scope before node after → after = before ∧ node.kind = .string ∧
        node.eval = pure (.string text) ∧ ∀ remaining, node.pending remaining = 0 := by
  obtain ⟨nameSpan, span, inner, outer, rfl⟩ := Argument.computed_of_unplaced h
  refine ⟨rfl, fun {scope before after node} hmakes => ?_⟩
  obtain ⟨rfl, rfl⟩ := (makes_iff rfl).mp hmakes
  refine ⟨rfl, rfl, ?_, fun remaining => ?_⟩
  · rw [Node.eval]
    rfl
  · rw [Node.pending]
    rfl

theorem chain_append (node : Node) (calls more : List PlannedCall) :
    chain node (calls ++ more) = (do chain (← chain node calls) more) := by
  induction calls generalizing node with
  | nil => rfl
  | cons planned calls ih =>
    rw [List.cons_append, chain, chain, bind_assoc]
    refine bind_congr fun function => ?_
    split
    · rfl
    · split
      · rfl
      · rw [bind_assoc]
        exact bind_congr fun called => ih called

theorem takeWhile_append_closed {calls : List PlannedCall} (h : calls.any isReducerCall = true)
    (more : List PlannedCall) :
    (calls ++ more).takeWhile (fun call => !isReducerCall call) =
        calls.takeWhile (fun call => !isReducerCall call) ∧
      (calls ++ more).dropWhile (fun call => !isReducerCall call) =
        calls.dropWhile (fun call => !isReducerCall call) ++ more ∧
      calls.dropWhile (fun call => !isReducerCall call) ≠ [] := by
  have hdrop : calls.dropWhile (fun call => !isReducerCall call) ≠ [] := by
    intro hnil
    obtain ⟨call, hmem, hcall⟩ := List.any_eq_true.mp h
    have hnot := List.dropWhile_eq_nil_iff.mp hnil call hmem
    rw [hcall] at hnot
    cases hnot
  have hsplit := congrArg List.length
    (List.takeWhile_append_dropWhile (p := fun call => !isReducerCall call) (l := calls))
  have hpos := List.length_pos_iff.mpr hdrop
  rw [List.length_append] at hsplit
  rw [List.takeWhile_append, List.dropWhile_append, if_neg (by omega),
    if_neg (by simpa using hdrop)]
  exact ⟨rfl, rfl, hdrop⟩

/-- A call after a quantifier that is closed by a reducer is a call on its result. -/
theorem quantifier_append_closed (function : Function) (kind : CandidateKind) (all : Bool)
    (planned : PlannedCall) {calls : List PlannedCall} (h : calls.any isReducerCall = true)
    (more : List PlannedCall) :
    quantifier function kind all planned (calls ++ more) =
      (do chain (← quantifier function kind all planned calls) more) := by
  obtain ⟨htake, hdrop, hne⟩ := takeWhile_append_closed h more
  unfold quantifier
  simp only [htake, hdrop]
  generalize calls.dropWhile (fun call => !isReducerCall call) = rest at hne ⊢
  cases rest with
  | nil => exact absurd rfl hne
  | cons reducer rest => simp only [List.cons_append, bind_assoc, chain_append]

/-- A call after a quantifier without a reducer belongs to its body. -/
theorem makes_quantifier_open {function : Function} {kind : CandidateKind} {all : Bool}
    {planned last : PlannedCall} {calls : List PlannedCall} (h : calls.any isReducerCall = false)
    (hlast : isReducerCall last = false) {root : Node}
    (hmakes : Makes (quantifier function kind all planned (calls ++ [last])) scope before root
      after) :
    ∃ origin slot source fold body left between between',
      root = .quantifier origin slot source fold body ∧ fold.operands = [] ∧
        Makes (chain left [last]) scope between body between' := by
  have hall : ∀ call ∈ calls ++ [last], (!isReducerCall call) = true := by
    intro call hc
    rcases List.mem_append.mp hc with hc | hc
    · have hnot := List.any_eq_false.mp h call hc
      simpa using hnot
    · obtain rfl := List.mem_singleton.mp hc
      rw [hlast]
      rfl
  unfold quantifier at hmakes
  rw [List.takeWhile_eq_self_iff.mpr hall, List.dropWhile_eq_nil_iff.mpr hall] at hmakes
  simp only [chain_append, makes_bind, makes_pure] at hmakes
  obtain ⟨_, _, -, source, _, -, slot, _, -, _, _, -, body, _, ⟨left, _, -, hbody⟩, fold, _, hfold,
    _, _, -, rfl, -⟩ := hmakes
  exact ⟨_, _, _, _, _, _, _, _, rfl, (makes_predicateFold hfold).1, hbody⟩

theorem callExpression_append (planned : PlannedCall) {calls : List PlannedCall}
    (h : ((Function.ofName? planned.name).bind Function.quantifier?).isSome = false ∨
      calls.any isReducerCall = true) (more : List PlannedCall) :
    callExpression planned (calls ++ more) =
      (do chain (← callExpression planned calls) more) := by
  unfold callExpression resolve
  cases hname : Function.ofName? planned.name with
  | none => rfl
  | some function =>
    dsimp only
    rw [pure_bind, pure_bind]
    cases hquantifier : function.quantifier? with
    | some entry =>
      have hclosed := h.resolve_left (by simp [hname, hquantifier])
      exact quantifier_append_closed function _ _ planned hclosed more
    | none =>
      dsimp only
      split
      · rfl
      · split
        · rfl
        · rw [bind_assoc]
          exact bind_congr fun called => chain_append called calls more

theorem makes_callExpression_open {planned last : PlannedCall} {calls : List PlannedCall}
    (hopen : ((Function.ofName? planned.name).bind Function.quantifier?).isSome = true)
    (h : calls.any isReducerCall = false) (hlast : isReducerCall last = false) {root : Node}
    (hmakes : Makes (callExpression planned (calls ++ [last])) scope before root after) :
    ∃ origin slot source fold body left between between',
      root = .quantifier origin slot source fold body ∧ fold.operands = [] ∧
        Makes (chain left [last]) scope between body between' := by
  unfold callExpression resolve at hmakes
  cases hname : Function.ofName? planned.name with
  | none => simp [hname] at hopen
  | some function =>
    cases hquantifier : function.quantifier? with
    | none => simp [hname, hquantifier] at hopen
    | some entry =>
      rw [hname] at hmakes
      simp only [pure_bind, hquantifier] at hmakes
      exact makes_quantifier_open h hlast hmakes

theorem isOpen_call (inner : Call) (calls : List Call) :
    (Expression.mk (.call inner) calls).isOpen =
      (((Function.ofName? inner.plan.name).bind Function.quantifier?).isSome &&
        !(calls.map Call.plan).any isReducerCall) := by
  rw [List.any_map, List.not_any_eq_all_not, Call.name_plan]
  simp only [Expression.isOpen, Expression.subject, Expression.chain, Subject.isQuantifier,
    Function.comp_def, isReducerCall, Call.name_plan]

/-- Calls after an expression that leaves no quantifier open are calls on its value. -/
theorem lower_continued {expr : Expression} (h : expr.isOpen = false) (calls : List Call) :
    (expr.continued calls).lower = (do chain (← expr.lower) (planCalls calls)) := by
  obtain ⟨subject, first⟩ := expr
  rw [Expression.continued, Expression.subject, Expression.chain, Expression.lower,
    Expression.lower, planCalls_eq, planCalls_eq, planCalls_eq, List.map_append]
  cases subject with
  | «attribute» name span => simp only [Subject.plan, expression, chain_append, bind_assoc]
  | call inner =>
    have hclosed := isOpen_call inner first
    rw [h, eq_comm, Bool.and_eq_false_iff, Bool.not_eq_false'] at hclosed
    exact callExpression_append inner.plan hclosed _

/-- A call after an expression is in the body of the quantifier that the expression leaves open, or
it is a call on the value of the expression. -/
theorem makes_followedBy {expr : Expression} {last : Call} (hlast : isReducerCall last.plan = false)
    {root : Node} (h : Makes (expr.followedBy last).lower scope before root after) :
    (expr.isOpen = true ∧ ∃ origin slot source fold body left between between',
      root = .quantifier origin slot source fold body ∧ fold.operands = [] ∧
        Makes (chain left [last.plan]) scope between body between') ∨
    (expr.isOpen = false ∧ ∃ left between, Makes expr.lower scope before left between ∧
      Makes (chain left [last.plan]) scope between root after) := by
  cases hopen : expr.isOpen with
  | false => exact .inr ⟨rfl, makes_bind.mp (lower_continued hopen [last] ▸ h)⟩
  | true =>
    obtain ⟨subject, calls⟩ := expr
    cases subject with
    | «attribute» name span => cases hopen
    | call inner =>
      rw [isOpen_call, Bool.and_eq_true, Bool.not_eq_true'] at hopen
      rw [Expression.followedBy, Expression.subject, Expression.chain, Expression.lower,
        planCalls_eq, List.map_append, List.map_cons, List.map_nil] at h
      exact .inl ⟨rfl, makes_callExpression_open hopen.1 hopen.2 hlast h⟩

/-- A call on a computed regular expression, as it is made. -/
theorem makes_computedCall {function : Function} {whole : Bool} (hf : function.OnPattern whole)
    {last : Call} {text : String} {more : List Argument}
    (hlast : last.mapSpans unplaced =
      (function.applied (.computed text :: more)).mapSpans unplaced)
    {left node : Node} (h : Makes (chain left [last.plan]) scope before node after) :
    ∃ origin first rest targets, node = .call origin function (some left) (some .string)
        (first :: rest) (some .string :: targets) none ∧
      first.eval = pure (.string text) := by
  obtain ⟨nameSpan, arg, args, span, rfl, harg, -⟩ := Function.applied_of_unplaced hlast
  obtain ⟨htext, hcomputed⟩ := makes_computed harg
  have hpattern : literalPattern function (planArgs (arg :: args)) = pure none := by
    rw [planArgs]
    generalize arg.plan = planned at htext
    obtain ⟨_, span, lower⟩ := planned
    cases htext
    unfold literalPattern
    rw [hf.whole]
  simp only [Call.plan, chain, resolve, hf.name, hf.reducer, hf.subject, Option.isNone_some,
    pure_bind, bind_pure, call, hpattern, makes_bind, makes_origin, makes_pure, Bool.false_eq_true,
    if_false] at h
  obtain ⟨_, _, -, target, _, htarget, entries, _, hentries, _, _, ⟨rfl, -⟩, rfl, -⟩ := h
  simp only [planArgs, arguments, makes_bind] at hentries
  obtain ⟨first, _, hfirst, hrest⟩ := hentries
  obtain ⟨-, hkind, heval, -⟩ := hcomputed hfirst
  simp only [hf.param, hkind, Kind.resolve_string, makes_bind, makes_pure] at hrest
  obtain ⟨rest, _, -, rfl, -⟩ := hrest
  obtain ⟨hresolve, -⟩ := makes_subjectTarget htarget
  cases (Kind.resolve_string left.kind).symm.trans (hresolve left _ rfl hf.subject)
  exact ⟨_, first, _, _, rfl, heval⟩

end Lower

end AttrExpr
