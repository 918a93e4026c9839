import AttrExpr.Proofs.SideBySide

/-! Calls of one function on one regular expression, which is a string literal in one source and
computed in another. The sources agree where both compile, and a regular expression that is none is
refused by the one when it is compiled and by the other once the subject has a value. -/
set_option autoImplicit false

namespace AttrExpr

namespace Lower.Simulation

variable {sim : Simulation (fun _ _ => True) Eval.SameOutcome id} {function : Function}
  {whole : Bool} {text : String}

/-- A computed text carries over to the same text as a string literal. -/
theorem Carries.computedText {arg arg' : Argument}
    (h : arg.mapSpans unplaced = (Argument.computed text).mapSpans unplaced)
    (h' : arg'.mapSpans unplaced = (Argument.written text).mapSpans unplaced) :
    sim.Carries (fun node other => sim.Alike node other ∧ node.kind = .string ∧
      other.eval = pure (.string text)) arg.plan.lower arg'.plan.lower := by
  obtain ⟨span, rfl⟩ := Argument.written_of_unplaced h'
  intro before before' after node hbehind hmakes
  obtain ⟨rfl, hkind, heval, hpending⟩ := (makes_computed h).2 hmakes
  let other : Node := .literal ⟨.string, span.token sim.right.source, span⟩ (.string text)
  have heval' : other.eval = pure (.string text) := by rw [Node.eval]
  have hsame : node.SameOutcome other :=
    .of_eval hkind.symm (by rw [heval, heval']; exact .refl _) fun remaining => by
      rw [hpending, Node.pending]
  exact .inl ⟨other, before', (makes_iff rfl).mpr ⟨rfl, rfl⟩, hbehind, hsame, hkind, heval'⟩

theorem LinkAlike.ofComputed {call call' : Call} {more : List Argument}
    (hf : function.OnPattern whole) (hspan : ∀ a b, sim.span a b)
    (h : call.mapSpans unplaced =
      (function.applied (.computed text :: more)).mapSpans unplaced)
    (h' : call'.mapSpans unplaced =
      (function.applied (.written text :: more)).mapSpans unplaced)
    (hrefused : ∀ error site, readPattern whole text = .error error →
      sim.refused (.located (.invalidPattern text error) site)) :
    sim.LinkAlike call.plan call'.plan := by
  obtain ⟨nameSpan, arg, args, span, rfl, harg, hargs⟩ := Function.applied_of_unplaced h
  obtain ⟨nameSpan', arg', args', span', rfl, harg', hargs'⟩ := Function.applied_of_unplaced h'
  have htext := (makes_computed harg).1
  have htext' : arg'.plan.text = some text := by
    obtain ⟨_, rfl⟩ := Argument.written_of_unplaced harg'
    rfl
  exact .computed hf rfl rfl (hspan _ _) rfl rfl htext htext' (.computedText harg harg')
    (sim.respelled_arguments hspan args args' (hargs'.trans hargs.symm)) hrefused

/-- An expression carries over that ends in a call on a computed regular expression. -/
theorem Carries.computedLast {expr found found' : Expression} {more : List Argument}
    (hf : function.OnPattern whole) (hspan : ∀ a b, sim.span a b)
    (h : found.mapSpans unplaced =
      (expr.followedBy (function.applied (.computed text :: more))).mapSpans unplaced)
    (h' : found'.mapSpans unplaced =
      (expr.followedBy (function.applied (.written text :: more))).mapSpans unplaced)
    (hrefused : ∀ error site, readPattern whole text = .error error →
      sim.refused (.located (.invalidPattern text error) site)) :
    sim.Carries sim.Alike found.lower found'.lower := by
  obtain ⟨⟨subject, calls⟩, last, rfl, hfront, hlast⟩ := Expression.followedBy_of_unplaced h
  obtain ⟨⟨subject', calls'⟩, last', rfl, hfront', hlast'⟩ := Expression.followedBy_of_unplaced h'
  have hfronts := hfront'.trans hfront.symm
  simp only [Expression.mapSpans, Expression.mk.injEq] at hfronts
  obtain ⟨hsubject, hcalls⟩ := hfronts
  have hlinks := sim.respelled_calls hspan calls calls' hcalls
  have hlink := LinkAlike.ofComputed hf hspan hlast hlast' hrefused
  refine sim.respelled_subject hspan subject subject' hsubject ?_
  simp only [Expression.chain, planCalls_eq, List.map_append, List.map_cons, List.map_nil]
  rw [planCalls_eq, planCalls_eq] at hlinks
  exact List.rel_append hlinks (.cons hlink .nil)

end Lower.Simulation

/-! Calls that fail as soon as their subject has a value. -/

namespace Node

/-- A tree fails as soon as its subject has a value, and evaluates nothing after that. -/
def FailsAfter (node subject : Node) (cause : EvalCause) : Prop :=
  ∀ (env : Environment) (state between : State) (value : Value),
    subject.eval env state = (.ok value, between) →
      node.eval env state = (.error ⟨cause, node.token⟩, between)

theorem failsAfter_computed {function : Function} {whole : Bool} (hf : function.OnPattern whole)
    {text : String} {error : Regex.PatternError} (hread : readPattern whole text = .error error)
    {origin : Origin} {subject first : Node} {rest : List Node} {targets : List (Option Kind)}
    (hfirst : first.eval = pure (.string text)) :
    FailsAfter (.call origin function (some subject) (some .string) (first :: rest)
      (some .string :: targets) none) subject (.invalidPattern text error) := by
  intro env state between value hsubject
  rw [eval]
  let call : ActiveCall :=
    ⟨function, origin.token, evalSubject (some .string) (some subject),
      operands (evalArgs (first :: rest)) (some .string :: targets), none⟩
  have htext : call.textArg 0 = pure text := ActiveCall.textArg_string rfl rfl hfirst
  have hpattern : call.patternValue = Eval.fail (.invalidPattern text error) call.token := by
    rw [ActiveCall.patternValue_computed hf rfl htext, hread]
    rfl
  have hvalue : call.subjectText env state = (.ok value.text, between) := by
    have hraw : call.rawSubject = subject.eval := rfl
    have hcoerce : call.coerceSubject value = pure (.string value.text) :=
      Eval.coerceTo_string subject.token value
    rw [ActiveCall.subjectText, ActiveCall.subjectValue, bind_assoc, Eval.bind_apply, hraw,
      hsubject]
    dsimp only
    rw [hcoerce]
    rfl
  exact call.value_refused hf hpattern hvalue

/-- A quantifier fails with its body on the first candidate. -/
theorem FailsAfter.quantifier {cause : EvalCause} {subject body : Node}
    (h : body.FailsAfter subject cause) {origin : Origin} {slot : Nat}
    {source : CandidateSource Node} {fold : Fold Node} (hfold : fold.operands = [])
    {env : Environment} {state before between : State} {candidate : Candidate}
    {following : List Candidate} {value : Value}
    (hsource : (evalSource source).candidates env state = (.ok (candidate :: following), before))
    (hsubject : subject.eval env (before.bind slot ⟨candidate, following⟩) =
      (.ok value, between)) :
    (Node.quantifier origin slot source fold body).eval env state =
      (.error ⟨cause, body.token⟩, between.release slot) := by
  have hacc : ∃ acc, (evalFold fold).accumulator = pure acc := by
    cases fold with
    | any => exact ⟨_, rfl⟩
    | all => exact ⟨_, rfl⟩
    | join separator => cases hfold
    | count => exact ⟨_, rfl⟩
  obtain ⟨acc, hacc⟩ := hacc
  have hbody := h env _ _ _ hsubject
  rw [eval, Eval.quantify, Eval.bind_apply, hsource]
  dsimp only
  rw [hacc, pure_bind, Cursor.start?]
  dsimp only
  rw [Eval.modify_bind_apply, Eval.releasing_apply, List.length_cons, Eval.drive, Eval.bind_apply,
    hbody]

end Node

/-- What is made of an expression that ends in a call on a computed text which is no regular
expression. -/
theorem Lower.makes_refused {function : Function} {whole : Bool} (hf : function.OnPattern whole)
    {text : String} {error : Regex.PatternError} (hread : readPattern whole text = .error error)
    {found expr : Expression} {more : List Argument}
    (hfound : found.mapSpans unplaced =
      (expr.followedBy (function.applied (.computed text :: more))).mapSpans unplaced)
    {scope : Scope} {before after : Progress} {root : Node}
    (h : found.lower.Makes scope before root after) :
    ∃ origin subject args targets,
      let call : Node := .call origin function (some subject) (some .string) args targets none
      call.FailsAfter subject (.invalidPattern text error) ∧
      (expr.isOpen = true → ∃ origin slot source fold,
        root = .quantifier origin slot source fold call ∧ fold.operands = []) ∧
      (expr.isOpen = false → root = call ∧ ∃ (front : Expression) (between : Progress),
        front.mapSpans unplaced = expr.mapSpans unplaced ∧
          front.lower.Makes scope before subject between) := by
  obtain ⟨front, last, rfl, hfront, hlast⟩ := Expression.followedBy_of_unplaced hfound
  have hreducer : Lower.isReducerCall last.plan = false := by
    obtain ⟨_, _, _, _, rfl, -⟩ := Function.applied_of_unplaced hlast
    rw [Lower.isReducerCall, Call.name_plan, Call.name, hf.name, Option.any_some, hf.reducer]
  have hisOpen : front.isOpen = expr.isOpen := by
    rw [← front.isOpen_mapSpans unplaced, hfront, expr.isOpen_mapSpans]
  rw [← hisOpen]
  obtain ⟨hopen, origin, slot, source, fold, body, subject, between, between', rfl, hfold, hbody⟩ |
    ⟨hclosed, subject, between, hsubject, hroot⟩ := makes_followedBy hreducer h
  · obtain ⟨callOrigin, first, rest, targets, rfl, hfirst⟩ :=
      makes_computedCall hf hlast hbody
    refine ⟨callOrigin, subject, _, _, Node.failsAfter_computed hf hread hfirst, fun _ =>
      ⟨origin, slot, source, fold, rfl, hfold⟩, fun hclosed => ?_⟩
    rw [hopen] at hclosed
    cases hclosed
  · obtain ⟨callOrigin, first, rest, targets, rfl, hfirst⟩ :=
      makes_computedCall hf hlast hroot
    refine ⟨callOrigin, subject, _, _, Node.failsAfter_computed hf hread hfirst, fun hopen => ?_,
      fun _ => ⟨rfl, front, between, hfront, hsubject⟩⟩
    rw [hclosed] at hopen
    cases hopen

namespace Compiled

variable {compiler : Compiler} {source : String} {compiled : Compiled}

theorem root_of_run_ok (h : compiler.compile source = .ok compiled) {attributes : Attributes}
    {clock : Instant} {value : Value} {after : State}
    (hrun : compiled.run attributes clock = (.ok value, after)) :
    ∃ value, compiled.root.eval (compiled.environment attributes clock) .fresh =
      (.ok value, after) := by
  rw [run_eq_root h] at hrun
  rcases hroot : compiled.root.eval (compiled.environment attributes clock) .fresh with
    ⟨error | value, state⟩
  · rw [hroot] at hrun
    cases hrun
  · rw [hroot] at hrun
    exact ⟨value, congrArg _ (Prod.mk.inj hrun).2⟩

/-- A call of a function on a regular expression which is a string literal in one source, and in
another is computed from that literal. When the second source compiles, either both do and agree on
all records, or the first is refused for its regular expression and the call in the second fails
for it: as soon as its subject has a value, and with nothing evaluated after that. The subject is
the whole expression before the call, unless that is a quantifier to whose body the call belongs; it
is then evaluated for one candidate after the other. -/
theorem pattern_arguments_agree (compiler : Compiler) (function : Function) (whole : Bool)
    (hfunction : (function, whole) ∈
      [(.matchesWhole, true), (.find, false), (.replaceFirst, false), (.replaceAll, false)])
    (expr : Expression) (text : String) (more : List Argument) (literal computed : String)
    (slow : Compiled)
    (hliteral : (expr.followedBy (function.applied (.written text :: more))).ReadFrom literal)
    (hcomputed : (expr.followedBy (function.applied (.computed text :: more))).ReadFrom computed)
    (hcompile : compiler.compile computed = .ok slow) :
    (∃ fast, compiler.compile literal = .ok fast ∧ fast.kind = slow.kind ∧
      fast.referenced = slow.referenced ∧
      ∀ (attributes : Attributes) (clock : Instant),
        (fast.run attributes clock).1.mapError EvalError.cause =
            (slow.run attributes clock).1.mapError EvalError.cause ∧
          (fast.run attributes clock).2 = (slow.run attributes clock).2) ∨
    ∃ error site, readPattern whole text = .error error ∧
      compiler.compile literal = .error (.located (.invalidPattern text error) site) ∧
      ∃ origin subject args targets,
        let call : Node := .call origin function (some subject) (some .string) args targets none
        let failure : EvalError := ⟨.invalidPattern text error, origin.token⟩
        call.FailsAfter subject (.invalidPattern text error) ∧
        (expr.isOpen = false → slow.root = call ∧
          ∀ source, expr.ReadFrom source → ∃ before, compiler.compile source = .ok before ∧
            ∀ (attributes : Attributes) (clock : Instant) (value : Value) (after : State),
              before.run attributes clock = (.ok value, after) →
                slow.run attributes clock = (.error failure, after)) ∧
        (expr.isOpen = true → ∃ origin slot source fold,
          slow.root = .quantifier origin slot source fold call ∧
          ∀ (attributes : Attributes) (clock : Instant) (candidate : Candidate)
            (following : List Candidate) (bound between : State) (value : Value),
            let env := slow.environment attributes clock
            (Node.evalSource source).candidates env .fresh =
                (.ok (candidate :: following), bound) →
              subject.eval env (bound.bind slot ⟨candidate, following⟩) = (.ok value, between) →
                slow.run attributes clock = (.error failure, between.release slot)) := by
  have hf : function.OnPattern whole := by
    refine Function.onPattern ?_
    simp only [List.mem_cons, Prod.mk.injEq, List.not_mem_nil, or_false] at hfunction
    obtain ⟨rfl, rfl⟩ | ⟨rfl, rfl⟩ | ⟨rfl, rfl⟩ | ⟨rfl, rfl⟩ := hfunction <;> rfl
  obtain ⟨found, hfound, hmakes⟩ := hcomputed.made hcompile
  let refused (e : CompileError) : Prop := ∃ error site,
    e = .located (.invalidPattern text error) site ∧ readPattern whole text = .error error
  obtain ⟨fast, hfast, hroot, -, hreferenced⟩ | ⟨_, hrefused, error, site, rfl, hread⟩ :=
    hliteral.carried refused hmakes fun found' hfound' =>
      .computedLast hf (fun _ _ => trivial) hfound hfound' fun error site hread =>
        ⟨error, site, rfl, hread⟩
  · exact .inl ⟨fast, hfast, hroot.kind, hreferenced, run_agrees hcompile hfast hroot.eval⟩
  · obtain ⟨origin, subject, args, targets, hfails, hopen, hclosed⟩ :=
      Lower.makes_refused hf hread hfound hmakes
    refine .inr ⟨error, site, hread, hrefused, origin, subject, args, targets, hfails,
      fun hisOpen => ?_, fun hisOpen => ?_⟩
    · obtain ⟨hroot, front, between, hfront, hsubject⟩ := hclosed hisOpen
      refine ⟨hroot, fun source hsource => ?_⟩
      -- alone, the expression is lowered to what agrees with the subject of the call
      obtain ⟨before, hbefore, hagrees, hformats, -⟩ | ⟨_, -, hnone⟩ :=
        hsource.carried (fun _ => False) hsubject fun found' hfound' =>
          Lower.Simulation.respelled_expression _ (fun _ _ => trivial) front found'
            (hfound'.trans hfront.symm)
      · refine ⟨before, hbefore, fun attributes clock value after hrun => ?_⟩
        obtain ⟨value, hvalue⟩ := root_of_run_ok hbefore hrun
        rw [environment, hformats, ← (Compiler.compile_ok_iff.mp hcompile).2.1] at hvalue
        have hsame := hagrees.eval (slow.environment attributes clock) .fresh
        have hsubject := Eval.outcome_eq_ok.mp (hsame.symm.trans (Eval.outcome_eq_ok.mpr hvalue))
        rw [run_eq_root hcompile, hroot, hfails _ _ _ _ hsubject]
        rfl
      · exact hnone.elim
    · obtain ⟨origin, slot, source, fold, hroot, hfold⟩ := hopen hisOpen
      refine ⟨origin, slot, source, fold, hroot, fun attributes clock candidate following bound
        between value hcandidates hvalue => ?_⟩
      rw [run_eq_root hcompile, hroot, hfails.quantifier hfold hcandidates hvalue]
      rfl

/-- The tree of `${a:replaceFirst(${literal('(')},${b})}`. -/
def replacedUnclosed : Compiled where
  source := "$\x7ba:replaceFirst($\x7bliteral('(')\x7d,$\x7bb\x7d)\x7d"
  root := .call ⟨.string, "replaceFirst($\x7bliteral('(')\x7d,$\x7bb\x7d)", ⟨4, 38⟩⟩ .replaceFirst
    (some (.attribute ⟨.string, "a", ⟨2, 3⟩⟩ "a")) (some .string)
    [.call ⟨.string, "literal('(')", ⟨19, 31⟩⟩ .literal none none
      [.literal ⟨.string, "'('", ⟨27, 30⟩⟩ (.string "(")] [none] none,
     .attribute ⟨.string, "b", ⟨35, 36⟩⟩ "b"] [some .string, some .string] none
  formats := .standard
  slots := 0
  referenced := ["a", "b"]

theorem compile_replacedUnclosed :
    Compiler.standard.compile replacedUnclosed.source = .ok replacedUnclosed := by
  cbv

/-- The tree of `${a}`. -/
def attributeAlone : Compiled :=
  ⟨"$\x7ba\x7d", .attribute ⟨.string, "a", ⟨2, 3⟩⟩ "a", .standard, 0, ["a"]⟩

theorem compile_attributeAlone :
    Compiler.standard.compile attributeAlone.source = .ok attributeAlone := by
  cbv

theorem compile_unclosed :
    (Compiler.standard.compile "$\x7ba:replaceFirst('(',$\x7bb\x7d)\x7d").isOk = false := by
  cbv

/-- A parenthesis that is not closed: the subject is looked up, and the replacement is not. -/
theorem pattern_arguments_agree_unclosed :
    let expr : Expression := .mk (.attribute "a" ⟨0, 0⟩) []
    let more : List Argument := [.expression (.mk (.attribute "b" ⟨0, 0⟩) []) ⟨0, 0⟩]
    let literal := "$\x7ba:replaceFirst('(',$\x7bb\x7d)\x7d"
    let record := Record.attributes ⟨[("a", "1"), ("b", "2")]⟩
    (expr.followedBy (Function.replaceFirst.applied (.written "(" :: more))).ReadFrom literal ∧
      (expr.followedBy (Function.replaceFirst.applied (.computed "(" :: more))).ReadFrom
        replacedUnclosed.source ∧
      Compiler.standard.compile replacedUnclosed.source = .ok replacedUnclosed ∧
      ∃ error site, readPattern false "(" = .error error ∧
        Compiler.standard.compile literal = .error (.located (.invalidPattern "(" error) site) ∧
        ∃ token, replacedUnclosed.run record .epoch =
          (.error ⟨.invalidPattern "(" error, token⟩, ⟨[], 0, ["a"]⟩) := by
  intro expr more literal record
  have hliteral : (expr.followedBy (Function.replaceFirst.applied
      (.written "(" :: more))).ReadFrom literal := ⟨_, _, by cbv, by cbv, by cbv⟩
  have hcomputed : (expr.followedBy (Function.replaceFirst.applied
      (.computed "(" :: more))).ReadFrom replacedUnclosed.source := ⟨_, _, by cbv, by cbv, by cbv⟩
  obtain ⟨fast, hfast, -⟩ | ⟨error, site, hread, hrefused, origin, _, _, _, -, hclosed, -⟩ :=
    pattern_arguments_agree .standard .replaceFirst false (by decide) expr "(" more literal _
      replacedUnclosed hliteral hcomputed compile_replacedUnclosed
  · have hnone := compile_unclosed
    rw [show Compiler.standard.compile _ = _ from hfast] at hnone
    cases hnone
  · obtain ⟨-, hbefore⟩ := hclosed rfl
    obtain ⟨before, hcompiles, hruns⟩ :=
      hbefore attributeAlone.source ⟨_, _, by cbv, by cbv, by cbv⟩
    obtain rfl : before = attributeAlone :=
      Except.ok.inj (hcompiles.symm.trans compile_attributeAlone)
    exact ⟨hliteral, hcomputed, compile_replacedUnclosed, error, site, hread, hrefused,
      origin.token, hruns record .epoch _ _ (by cbv)⟩

end Compiled

end AttrExpr
