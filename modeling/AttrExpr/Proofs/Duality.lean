import AttrExpr.Proofs.Quantified
import AttrExpr.Proofs.Visits

/-! Asking whether all candidates fail a predicate, and denying that any satisfies it. Both evaluate
the same bodies for the same candidates. -/
set_option autoImplicit false

namespace AttrExpr

open Eval (RunsAlike Agreeing Ensures)

/-- The opposite of a truth value. Other values stay as they are. -/
def Value.negate : Value → Value
  | .boolean b => .boolean !b
  | value => value

theorem Value.negate_eq_false {value : Value} :
    value.negate = .boolean false ↔ value = .boolean true := by
  cases value with
  | boolean b => cases b <;> decide
  | unset | string | number | date | instant => exact ⟨nofun, nofun⟩

/-- All values fail when none satisfies. -/
theorem Fold.combine_negate (values : List Value) :
    (Fold.all : Fold String).combine (values.map Value.negate) =
      ((Fold.any : Fold String).combine values).negate := by
  have hcontains : (values.map Value.negate).contains (.boolean false) =
      values.contains (.boolean true) := by
    rw [Bool.eq_iff_iff]
    simp [Value.negate_eq_false]
  rw [combine, combine, hcontains, Value.negate]

namespace Eval

variable {T : String → String → Prop}

theorem Congruence.evaluated {R : ∀ {α : Type}, Eval α → Eval α → Prop} (congr : Congruence T @R)
    {source other : CandidateSource (Eval Value)} (h : source.Rel R other) :
    R source.evaluated other.evaluated := by
  cases h with
  | named names => exact congr.pure _
  | matching patterns => exact congr.pure _
  | delineated hvalue hdelimiter =>
    exact congr.bind hvalue fun value => congr.bind hdelimiter fun delimiter => congr.pure _

/-- A body and its negation are evaluated for the same candidates: the one decides where the other
does. -/
theorem visit_negated {body body' : Node} {env : Environment} {slot : Nat} (origin : Origin)
    (hagrees : RunsAlike T body.eval body'.eval)
    (hboolean : Ensures env (fun state => (state.cursor? slot).isSome) body.eval fun value =>
      value.Fits .boolean) (candidates : List Candidate) (state : State) :
    let outcome := visit slot body.eval (Fold.any : Fold String).decides candidates env state
    let other := visit slot (Node.negated origin body').eval (Fold.all : Fold String).decides
      candidates env state
    Agreeing T (outcome.1.map (List.map Value.negate)) other.1 ∧ other.2 = outcome.2 := by
  induction candidates generalizing state with
  | nil => exact ⟨.ok [], rfl⟩
  | cons candidate following ih =>
    dsimp only
    have hvalue := hboolean (state.bind slot ⟨candidate, following⟩) (by simp)
    obtain ⟨hresult, hstate⟩ := hagrees env (state.bind slot ⟨candidate, following⟩)
    rw [visit_cons, visit_cons, Node.eval_negated]
    generalize body.eval env (state.bind slot ⟨candidate, following⟩) = run,
      body'.eval env (state.bind slot ⟨candidate, following⟩) = run' at *
    obtain ⟨result, after⟩ := run
    obtain ⟨result', after'⟩ := run'
    obtain rfl : after = after' := hstate.symm
    cases hresult with
    | error cause h => exact ⟨.error cause h, rfl⟩
    | ok value =>
      obtain ⟨b, rfl⟩ := Value.Fits.boolean hvalue
      have htruth : (Value.boolean b).truth env.formats = .ok b := rfl
      simp only [Except.bind, htruth]
      cases b with
      -- the candidate that satisfies the predicate decides both: no other is visited
      | true => exact ⟨.ok [Value.boolean false], rfl⟩
      | false =>
        obtain ⟨hvalues, hafter⟩ := ih (counted (after.release slot))
        have hany : (Fold.any : Fold String).decides (.boolean false) = false := rfl
        have hall : (Fold.all : Fold String).decides (.boolean !false) = false := rfl
        simp only [Except.map, Except.mapError, hany, hall, Bool.false_eq_true, if_false]
        rw [bind_apply, bind_apply]
        generalize visit slot body.eval (Fold.any : Fold String).decides following env
            (counted (after.release slot)) = rest,
          visit slot (Node.negated origin body').eval (Fold.all : Fold String).decides following env
            (counted (after.release slot)) = rest' at *
        obtain ⟨result, last⟩ := rest
        obtain ⟨result', last'⟩ := rest'
        obtain rfl : last = last' := hafter.symm
        cases result with
        | error error =>
          cases hvalues with
          | error cause h => exact ⟨.error cause h, rfl⟩
        | ok values =>
          cases hvalues with
          | ok => exact ⟨.ok (Value.boolean true :: values.map Value.negate), rfl⟩

end Eval

/-- A quantifier that asks whether all candidates fail a predicate gives the opposite of the one
that asks whether any satisfies it. -/
theorem Node.quantifier_dual {T : String → String → Prop} {origin other inner : Origin} {slot : Nat}
    {source source' : CandidateSource Node} {body body' : Node}
    (h : (quantifier origin slot source .any body).WellFormed)
    (h' : (quantifier other slot source' .all (negated inner body')).WellFormed)
    (hsource : source.Rel (Node.Alike T (RunsAlike T) id) source')
    (hbody : body.Alike T (RunsAlike T) id body') :
    RunsAlike T (Value.negate <$> (quantifier origin slot source .any body).eval)
      (quantifier other slot source' .all (negated inner body')).eval := by
  intro env state
  have hself : QuantifierSound origin slot source .any body := h.self
  have hself' : QuantifierSound other slot source' .all (negated inner body') := h'.self
  have hchild : body.WellFormed := h.child (by simp [children])
  have hkind : body.kind = .boolean := hself.kind.1
  have hboolean : Ensures env (fun state => (state.cursor? slot).isSome) body.eval fun value =>
      value.Fits .boolean :=
    hkind ▸ hchild.evaluates.weaken fun state hstate => by simpa [Bound, hself.free] using hstate
  obtain ⟨hresult, hstate⟩ :=
    RunsAlike.congruence.evaluated (Alike.evalSource hsource) env state
  rw [Eval.map_apply, hself.eval_eq_folded hchild,
    hself'.eval_eq_folded (h'.child (by simp [children])), Eval.folded, Eval.folded,
    Eval.bind_apply, Eval.bind_apply]
  generalize (evalSource source).evaluated env state = run,
    (evalSource source').evaluated env state = run' at *
  obtain ⟨result, after⟩ := run
  obtain ⟨result', after'⟩ := run'
  obtain rfl : after = after' := hstate.symm
  cases hresult with
  | error cause h => exact ⟨.error cause h, rfl⟩
  | ok texts =>
    obtain ⟨hvalues, hlast⟩ :=
      Eval.visit_negated inner hbody.eval hboolean (texts.listed env.attributes) after
    simp only [evalFold, Fold.evaluated, Eval.bind_apply, Eval.pure_apply]
    generalize Eval.visit slot body.eval (Fold.any : Fold String).decides
        (texts.listed env.attributes) env after = visited,
      Eval.visit slot (negated inner body').eval (Fold.all : Fold String).decides
        (texts.listed env.attributes) env after = visited' at *
    obtain ⟨result, last⟩ := visited
    obtain ⟨result', last'⟩ := visited'
    obtain rfl : last = last' := hlast.symm
    cases result with
    | error error =>
      cases hvalues with
      | error cause h => exact ⟨.error cause h, rfl⟩
    | ok values =>
      cases hvalues with
      | ok =>
        dsimp only
        rw [Fold.combine_negate]
        exact ⟨.ok _, rfl⟩

/-! The two sources. -/

/-- What a quantifier takes, by the kind of its candidates. -/
def CandidateKind.signature : CandidateKind → Signature
  | .named | .matching => Function.withMany none [.kind .string] .boolean
  | .delineated => Function.exactly none [.kind .string, .kind .string] .boolean

theorem Function.signature_of_quantifier {function : Function} {kind : CandidateKind} {all : Bool}
    (h : function.quantifier? = some (kind, all)) : function.signature = kind.signature := by
  cases function with
  | anyAttribute | allAttributes | anyMatchingAttribute | allMatchingAttributes
  | anyDelineatedValue | allDelineatedValues =>
    cases h
    rfl
  | _ => cases h

/-- Tokens that are the same, or name the two quantifiers with the same arguments. -/
def Renamed (any all : Function) (written token token' : String) : Prop :=
  token' = token ∨ token = any.name ++ written ∧ token' = all.name ++ written

/-- What is behind the names of two functions, in a source of each. -/
def Window.renamed (any all : Function) (rest after : String) (declared : Option (List String)) :
    Window where
  left := ⟨(calling any rest).toList, declared⟩
  right := ⟨(calling all (rest ++ after)).toList, declared⟩
  declared := rfl
  text := rest.toList
  before := '$' :: '\x7b' :: any.name.toList
  after := ['\x7d']
  before' := '$' :: '\x7b' :: all.name.toList
  after' := after.toList ++ ['\x7d']
  left_eq := by simp [toList_calling]
  right_eq := by simp [toList_calling]

namespace Lower

theorem callExpression_quantifier {function : Function} {kind : CandidateKind} {all : Bool}
    (h : function.quantifier? = some (kind, all)) (planned : PlannedCall)
    (hname : planned.name = function.name) (calls : List PlannedCall) :
    callExpression planned calls = quantifier function kind all planned calls := by
  rw [callExpression, hname, resolve_name, pure_bind, h]

namespace Simulation

variable {T : String → String → Prop} {R : ∀ {α : Type}, Eval α → Eval α → Prop} {slots : Nat → Nat}
  {sim : Simulation T @R slots} {any all : Function} {kind : CandidateKind}
  {planned planned' : PlannedCall} {calls others : List PlannedCall}

/-- Calls that reduce nothing do not when they are negated. -/
theorem isReducerCall_negated (hcalls : List.Forall₂ sim.LinkAlike calls others)
    (h : ∀ call ∈ calls, isReducerCall call = false) (notSpan callSpan : Span) :
    ∀ call ∈ others ++ [⟨"not", notSpan, callSpan, []⟩], isReducerCall call = false := by
  intro call hcall
  rcases List.mem_append.mp hcall with hcall | hcall
  · have hsame : others.map isReducerCall = calls.map isReducerCall :=
      forall₂_map_eq (hcalls.imp fun _ _ h => Carries.isReducerCall h)
    obtain ⟨first, hmem, heq⟩ := List.mem_map.mp (hsame ▸ List.mem_map_of_mem hcall)
    exact heq ▸ h first hmem
  · obtain rfl := List.mem_singleton.mp hcall
    rw [isReducerCall, show Function.ofName? "not" = some .not from Function.not.ofName?_name]
    rfl

/-- Where a predicate is asked of any candidate, its negation can be asked of all. The loop
variables are alike although the calls that they are named for are not. -/
theorem makes_dual (hany : any.quantifier? = some (kind, false))
    (hall : all.quantifier? = some (kind, true)) (hrefused : ∀ error, ¬ sim.refused error)
    (hargs : List.Forall₂ sim.ArgAlike planned.args planned'.args)
    (hcalls : List.Forall₂ sim.LinkAlike calls others)
    (htoken : T (planned.span.token sim.left.source) (planned'.span.token sim.right.source))
    (notSpan callSpan : Span) {before before' after : Progress} {node : Node}
    (hbehind : sim.behind before before')
    (h : Makes (quantifier any kind false planned calls) sim.left before node after) :
    ∃ origin other inner slot source source' body body' after',
      node = .quantifier origin slot source .any body ∧
      Makes (quantifier all kind true planned' (others ++ [⟨"not", notSpan, callSpan, []⟩]))
        sim.right before' (.quantifier other (slots slot) source' .all (.negated inner body'))
        after' ∧
      source.Rel sim.Alike source' ∧ sim.Alike body body' := by
  have hpredicate := predicate_of_makes_any h
  obtain ⟨haccepts, source, between, body, hsource, hbody, hkind, rfl⟩ :=
    (makes_predicate hpredicate).mp h
  obtain ⟨source', between', hsource', hbetween, hrel⟩ :=
    (Carries.candidateSource any kind hargs _ _ _ _ hbehind hsource).resolve_right
      fun ⟨error, _, h⟩ => hrefused error h
  let first : Origin := ⟨.string, planned.span.token sim.left.source, planned.span⟩
  let second : Origin := ⟨.string, planned'.span.token sim.right.source, planned'.span⟩
  have horigin : first.Alike T second := ⟨rfl, htoken⟩
  have hvariable : sim.Alike (.loopVariable first between.slots)
      (.loopVariable second (slots between.slots)) :=
    .loopVariable sim.congr horigin between.slots
  obtain ⟨body', after', hbody', -, halike⟩ :=
    (Carries.chain hcalls hvariable _ _ _ _ (sim.newSlot hbetween) hbody).resolve_right
      fun ⟨error, _, h⟩ => hrefused error h
  let inner : Origin := ⟨.boolean, callSpan.token sim.right.source, callSpan⟩
  have hnot : Makes (chain body' [⟨"not", notSpan, callSpan, []⟩]) sim.right after'
      (.negated inner body') after' := by
    refine (makes_not ?_).mpr ⟨rfl, rfl⟩
    rw [halike.kind, hkind]
    rfl
  let negated := others ++ [⟨"not", notSpan, callSpan, []⟩]
  have hreducer := isReducerCall_negated hcalls hpredicate notSpan callSpan
  have hmakes : Makes (quantifier all kind true planned' negated) sim.right before'
      (.quantifier ⟨.boolean, (spanTo planned'.span negated).token sim.right.source,
        spanTo planned'.span negated⟩ (slots between.slots) source' .all (.negated inner body'))
      after' := by
    rw [← sim.slot hbetween] at hbody' ⊢
    refine (makes_predicate hreducer).mpr ⟨?_, source', between', .negated inner body',
      makes_candidateSource_of any all hsource', ?_, rfl, rfl⟩
    · rwa [Function.signature_of_quantifier hall, ← Function.signature_of_quantifier hany,
        ← hargs.length_eq]
    · rw [chain_append]
      exact makes_bind.mpr ⟨body', after', hbody', hnot⟩
  exact ⟨_, _, inner, between.slots, source, source', body, body', after', rfl, hmakes, hrel,
    halike⟩

end Simulation

end Lower

section

variable {any all : Function} {kind : CandidateKind}
  (hany : any.quantifier? = some (kind, false)) (hall : all.quantifier? = some (kind, true))
  {written more : String} {args : List Argument} {calls : List Call}
  (hspelled : TailSpelled args calls written.toList more.toList) {compiler : Compiler}
  {base : Compiled}

include hany hall hspelled

/-- A source that asks for any candidate, and one that asks whether all fail. The trees are alike,
but for the negation of the body and the tokens that name the quantifiers. -/
theorem compile_dual (h : compiler.compile (calling any (written ++ more)) = .ok base) :
    ∃ left, compiler.compile (calling all (written ++ more ++ ":not()")) = .ok left ∧
      ∃ origin other inner slot source source' body body',
        base.root = .quantifier origin slot source .any body ∧
        left.root = .quantifier other slot source' .all (.negated inner body') ∧
        source.Rel (Node.Alike (Renamed any all written) (RunsAlike (Renamed any all written)) id)
          source' ∧
        body.Alike (Renamed any all written) (RunsAlike (Renamed any all written)) id body' := by
  obtain ⟨nameSpan, hbase⟩ := hspelled.calling any
  obtain ⟨nameSpan', notSpan, callSpan, hleft⟩ := hspelled.calling_not all
  obtain ⟨-, -, hmakes⟩ := (Compiler.compile_embedded_iff hbase).mp h
  simp only [Expression.lower, Subject.plan, Lower.expression, Call.plan] at hmakes
  rw [Lower.callExpression_quantifier hany _ rfl] at hmakes
  have hT (token : String) : Renamed any all written token token := .inl rfl
  -- what is behind the names is the same text, further on by the lengths of the names
  let window := Window.renamed any all (written ++ more) ":not()" compiler.declared
  let sim := window.simulation (RunsAlike.loops hT) hT 0 0 fun _ _ h => h.symm
  have hspan (span : Span) (hcuts : span.Cuts (written ++ more).toList) :
      sim.span (span.shift (0 + 2 + Text.byteLength any.name.toList))
        (span.shift (0 + 2 + Text.byteLength all.name.toList)) := by
    rw [← byteLength_opening any, ← byteLength_opening all]
    exact window.span_shift _ _ _ _ _ hcuts
  have hcuts := hspelled.cuts
  rw [← String.toList_append] at hcuts
  have hargs := sim.mapped_arguments _ _ _ args fun pair hp => hspan pair.2 (hcuts.1 pair hp)
  have hcalls := sim.mapped_calls _ _ _ calls fun pair hp => hspan pair.2 (hcuts.2 pair hp)
  have hany' := token_calling any written more
  have hall' := token_calling all written (more ++ ":not()")
  rw [← String.append_assoc] at hall'
  let planned (function : Function) (nameSpan : Span) : PlannedCall :=
    ⟨function.name, nameSpan, ⟨0 + 2, 0 + 2 + Text.byteLength function.name.toList +
      Text.byteLength written.toList⟩, planArgs (mapArgumentSpans
        (Span.shift (0 + 2 + Text.byteLength function.name.toList)) args)⟩
  have hargs' : List.Forall₂ sim.ArgAlike (planned any nameSpan).args
      (planned all nameSpan').args := hargs
  have hsame : sim.behind ⟨0, []⟩ ⟨0, []⟩ := rfl
  obtain ⟨origin, other, inner, slot, source, source', body, body', after', hroot, hdual, hsource,
      hbody⟩ := sim.makes_dual hany hall (fun _ h => h) hargs' hcalls (.inr ⟨hany', hall'⟩) notSpan
    callSpan hsame hmakes
  obtain ⟨left, hcompiled, hleftRoot⟩ := Compiler.exists_compile_embedded hleft (by
    simp only [Expression.lower, Subject.plan, Lower.expression, planCalls_eq, List.map_append,
      List.map_cons, List.map_nil, Call.plan, planArgs]
    rw [← planCalls_eq, Lower.callExpression_quantifier hall _ rfl]
    exact hdual)
  exact ⟨left, hcompiled, origin, other, inner, slot, source, source', body, body', hroot,
    hleftRoot, hsource, hbody⟩

end

namespace Compiled

/-- Asking whether all candidates fail a predicate, and denying that any satisfies it. Both compile
where the predicate is one, and give the same truth value or fail for the same cause. They look up
the same names and evaluate as many bodies. What fails in taking a candidate itself is blamed on the
quantifier, by the name that this has in each. -/
theorem all_not_is_not_any (compiler : Compiler) (kind : CandidateKind) (any all : Function)
    (hany : any.quantifier? = some (kind, false)) (hall : all.quantifier? = some (kind, true))
    (written more : String) (args : List Argument) (calls : List Call)
    (hspelled : TailSpelled args calls written.toList more.toList) (base : Compiled)
    (h : compiler.compile (calling any (written ++ more)) = .ok base) :
    ∃ left right, compiler.compile (calling all (written ++ more ++ ":not()")) = .ok left ∧
      compiler.compile (negation (calling any (written ++ more))) = .ok right ∧
      ∀ (attributes : Attributes) (clock : Instant),
        (left.run attributes clock).2 = (right.run attributes clock).2 ∧
        ((∃ b, left.evaluate attributes clock = .ok (.boolean b) ∧
            right.evaluate attributes clock = .ok (.boolean b)) ∨
          ∃ error failure, left.evaluate attributes clock = .error error ∧
            right.evaluate attributes clock = .error failure ∧ error.cause = failure.cause ∧
            (error.token = failure.token ∨
              error.token = all.name ++ written ∧ failure.token = any.name ++ written)) := by
  obtain ⟨nameSpan, hexpr⟩ := hspelled.calling any
  obtain ⟨left, hleft, origin, other, inner, slot, source, source', body, body', hroot, hleftRoot,
    hsource, hbody⟩ := compile_dual hany hall hspelled h
  obtain ⟨hwell, hfree⟩ := Compiler.compile_wellFormed h
  have hwell' := (Compiler.compile_wellFormed hleft).1
  have hself : Node.QuantifierSound origin slot source .any body := (hroot ▸ hwell).self
  have hkind : base.root.kind = .boolean := by
    rw [hroot]
    exact hself.kind.2
  have hvalid : base.isValidForBoolean = true := by
    rw [isValidForBoolean, Compiled.kind, hkind]
    rfl
  obtain ⟨right, hright, _, outer, value, hrightRoot, hvalue⟩ :=
    Compiler.compile_negation h hexpr hvalid
  refine ⟨left, right, hleft, hright, fun attributes clock => ?_⟩
  have hrun := run_negation h hright hrightRoot hvalue attributes clock
  have hboolean : Eval.Always (base.environment attributes clock) base.root.eval fun value =>
      value.Fits .boolean := hkind ▸ hwell.evaluates.of_closed hfree
  have hformats := (Compiler.compile_ok_iff.mp h).2.1
  have hformats' := (Compiler.compile_ok_iff.mp hleft).2.1
  have henv : left.environment attributes clock = base.environment attributes clock := by
    rw [environment, environment, hformats, hformats']
  have hdual : RunsAlike (Renamed any all written) (Value.negate <$> base.root.eval)
      left.root.eval := by
    rw [hroot] at hwell ⊢
    rw [hleftRoot] at hwell' ⊢
    exact Node.quantifier_dual hwell hwell' hsource hbody
  have hfits := hboolean .fresh trivial
  obtain ⟨hresult, hstate⟩ := hdual (base.environment attributes clock) .fresh
  rw [evaluate, evaluate, hrun, run_eq_root hleft, henv]
  rw [Eval.map_apply] at hresult hstate
  generalize base.root.eval (base.environment attributes clock) .fresh = outcome,
    left.root.eval (base.environment attributes clock) .fresh = outcome' at *
  obtain ⟨result, after⟩ := outcome
  obtain ⟨result', after'⟩ := outcome'
  obtain rfl : after' = after := hstate
  refine ⟨rfl, ?_⟩
  cases result with
  | error failure =>
    cases hresult with
    | error cause htoken => exact .inr ⟨_, _, rfl, rfl, rfl, htoken.imp_right And.symm⟩
  | ok value =>
    -- a quantifier gives a truth value, so the negation of it does not fail in a coercion
    obtain ⟨b, rfl⟩ := Value.Fits.boolean hfits
    cases hresult with
    | ok => exact .inl ⟨!b, rfl, rfl⟩

/-- A body that fails for a candidate behind the one that decides. -/
theorem all_not_is_not_any_decided :
    let record := Record.attributes ⟨[("a", "3"), ("b", "x")]⟩
    let written := "('a', 'b')"
    let more := ":gt(1)"
    Function.anyAttribute.quantifier? = some (.named, false) ∧
      Function.allAttributes.quantifier? = some (.named, true) ∧
      ∃ args calls base, TailSpelled args calls written.toList more.toList ∧
        Compiler.standard.compile (calling .anyAttribute (written ++ more)) = .ok base ∧
        ∃ left right,
          Compiler.standard.compile (calling .allAttributes (written ++ more ++ ":not()")) =
            .ok left ∧
          Compiler.standard.compile (negation (calling .anyAttribute (written ++ more))) =
            .ok right ∧
          left.evaluate record .epoch = .ok (.boolean false) ∧
          right.evaluate record .epoch = .ok (.boolean false) ∧
          (left.run record .epoch).2 = (right.run record .epoch).2 := by
  intro record written more
  have hspelled : TailSpelled _ _ written.toList more.toList := .of_read 8 (by cbv) (by cbv)
  have hany : calling .anyAttribute (written ++ more) =
      "$\x7banyAttribute('a', 'b'):gt(1)\x7d" := by
    cbv
  have hall : calling .allAttributes (written ++ more ++ ":not()") =
      "$\x7ballAttributes('a', 'b'):gt(1):not()\x7d" := by
    cbv
  have hbase : resultOn [("a", "3"), ("b", "x")] "$\x7banyAttribute('a', 'b'):gt(1)\x7d" =
      .ok (.ok (.boolean true)) := by
    cbv
  have hleft : resultOn [("a", "3"), ("b", "x")] "$\x7ballAttributes('a', 'b'):gt(1):not()\x7d" =
      .ok (.ok (.boolean false)) := by
    cbv
  rw [← hany] at hbase
  rw [← hall] at hleft
  obtain ⟨base, hbase, -⟩ := compile_of_resultOn hbase
  obtain ⟨left, right, hcompiled, hright, hdual⟩ :=
    all_not_is_not_any .standard .named .anyAttribute .allAttributes rfl rfl written more _ _
      hspelled base hbase
  obtain ⟨other, hother, hvalue⟩ := compile_of_resultOn hleft
  obtain rfl : left = other := Except.ok.inj (hcompiled.symm.trans hother)
  obtain ⟨hstate, ⟨b, hb, hb'⟩ | ⟨_, _, hfails, -⟩⟩ := hdual record .epoch
  · obtain rfl : false = b := Value.boolean.inj (Except.ok.inj (hvalue.symm.trans hb))
    exact ⟨rfl, rfl, _, _, base, hspelled, hbase, left, right, hcompiled, hright, hvalue, hb',
      hstate⟩
  · cases hvalue.symm.trans hfails

/-- A candidate that is no number is blamed on the quantifier, by the name in each source. -/
theorem tokens_differ_for_candidate :
    ∃ error failure,
      resultOn [("a", "x")] "$\x7ballAttributes('a'):gt(1):not()\x7d" = .ok (.error error) ∧
      resultOn [("a", "x")] "$\x7bliteral($\x7banyAttribute('a'):gt(1)\x7d):not()\x7d" =
        .ok (.error failure) ∧
      error ≠ failure ∧ error.cause = failure.cause ∧ error.token = "allAttributes('a')" ∧
      failure.token = "anyAttribute('a')" := by
  refine ⟨⟨_, "allAttributes('a')"⟩, ⟨_, "anyAttribute('a')"⟩, by cbv, by cbv, fun h => ?_, rfl,
    rfl, rfl⟩
  exact absurd (congrArg EvalError.token h) (by decide)

end Compiled

end AttrExpr
