import AttrExpr.Proofs.Agreement
import AttrExpr.Proofs.Respelling

/-! Calls whose first argument is a regular expression. It is read before anything is evaluated if
it is written as a string literal, and whenever the call is evaluated if it is computed. -/
set_option autoImplicit false

namespace AttrExpr

/-! Functions on regular expressions. -/

namespace Function

/-- What all functions on regular expressions have in common. -/
structure OnPattern (function : Function) (whole : Bool) : Prop where
  whole : function.patternWhole? = some whole
  subject : function.signature.subject = some (.kind .string)
  param : function.signature.param 0 = .kind .string
  family : function.family = .text
  name : ofName? function.name = some function
  reducer : function.isReducer = false

theorem onPattern {function : Function} {whole : Bool} (h : function.patternWhole? = some whole) :
    function.OnPattern whole := by
  cases function with
  | matchesWhole | find | replaceFirst | replaceAll => exact ⟨h, rfl, rfl, rfl, by decide, rfl⟩
  | _ => cases h

end Function

theorem Kind.resolve_string (kind : Kind) :
    (Expectation.kind .string).resolve? kind = some (some .string) := by
  cases kind <;> rfl

theorem Eval.coerceTo_string (token : String) (value : Value) :
    Eval.coerceTo token (some .string) value = pure (.string value.text) := by
  funext env state
  change Eval.ofExcept token ((value.coerce env.formats .string).mapError .coercion) env state = _
  rw [Value.coerce_string]
  rfl

namespace ActiveCall

variable {call : ActiveCall} {whole : Bool} {text : String}

/-- A call sees its regular expression only through the value of that, whether it was read before or
not. -/
theorem value_withPattern (hf : call.function.OnPattern whole) {pattern : Option Regex}
    (h : ({ call with pattern := pattern } : ActiveCall).patternValue = call.patternValue) :
    ({ call with pattern := pattern } : ActiveCall).value = call.value := by
  have hwhole := hf.whole
  obtain ⟨function, token, subject, args, old⟩ := call
  cases function with
  | matchesWhole | find | replaceFirst | replaceAll =>
    exact bind_congr fun subject => congrArg (· >>= _) h
  | _ => cases hwhole

/-- A computed regular expression is read when its text is known. -/
theorem patternValue_computed (hf : call.function.OnPattern whole) (hp : call.pattern = none)
    (ht : call.textArg 0 = pure text) :
    call.patternValue =
      Eval.ofExcept call.token ((readPattern whole text).mapError (.invalidPattern text)) := by
  rw [patternValue, hp]
  dsimp only
  rw [ht, pure_bind, hf.whole]
  rfl

/-- A call whose regular expression is refused fails with that once its subject has a value. -/
theorem value_refused (hf : call.function.OnPattern whole) {error : EvalCause}
    (hp : call.patternValue = Eval.fail error call.token) {env : Environment}
    {state after : State} {subject : String}
    (hs : call.subjectText env state = (.ok subject, after)) :
    call.value env state = (.error ⟨error, call.token⟩, after) := by
  have hwhole := hf.whole
  have htext : call.onText subject = Eval.fail error call.token := by
    unfold onText
    cases hc : call.function with
    | matchesWhole | find | replaceFirst | replaceAll =>
      simp only [hp]
      rfl
    | _ =>
      rw [hc] at hwhole
      cases hwhole
  rw [value, hf.family]
  dsimp only
  rw [Eval.bind_apply, hs]
  dsimp only
  rw [htext]
  rfl

theorem textArg_string {operand : Operand} {args : List Operand} (ha : call.args = operand :: args)
    (htarget : operand.target = some .string) (haction : operand.action = pure (.string text)) :
    call.textArg 0 = pure text := by
  rw [textArg, arg, ha, List.getElem?_cons_zero]
  dsimp only
  rw [Operand.value, haction, pure_bind, htarget, Eval.coerceTo_string, pure_bind]
  rfl

end ActiveCall

/-- A call with a computed regular expression agrees with the one that has it from the start. -/
theorem Node.SameOutcome.withPattern {origin : Origin} {function : Function} {subject : Option Node}
    {target : Option Kind} {first : Node} {args : List Node} {targets : List (Option Kind)}
    {whole : Bool} {text : String} {regex : Regex} (hf : function.OnPattern whole)
    (hfirst : first.eval = pure (.string text)) (hread : readPattern whole text = .ok regex) :
    Node.SameOutcome
      (.call origin function subject target (first :: args) (some .string :: targets) none)
      (.call origin function subject target (first :: args) (some .string :: targets)
        (some regex)) := by
  refine .of_eval rfl ?_ fun remaining => by rw [Node.pending, Node.pending]
  rw [Node.eval, Node.eval]
  let call : ActiveCall :=
    ⟨function, origin.token, Node.evalSubject target subject,
      Node.operands (Node.evalArgs (first :: args)) (some .string :: targets), none⟩
  have htext : call.textArg 0 = pure text := ActiveCall.textArg_string rfl rfl hfirst
  have hpattern : ({ call with pattern := some regex } : ActiveCall).patternValue =
      call.patternValue := by
    rw [ActiveCall.patternValue_computed hf rfl htext, hread]
    rfl
  rw [show ActiveCall.value _ = call.value from ActiveCall.value_withPattern hf hpattern]
  exact Eval.SameOutcome.refl call.value

namespace Lower.Simulation

variable {sim : Simulation (fun _ _ => True) Eval.SameOutcome id} {function : Function}
  {whole : Bool} {text : String} {arg arg' : PlannedArg} {args args' : List PlannedArg}

theorem Carries.computedArguments (hf : function.OnPattern whole)
    (harg : sim.Carries (fun node other => sim.Alike node other ∧ node.kind = .string ∧
      other.eval = pure (.string text)) arg.lower arg'.lower)
    (hargs : List.Forall₂ sim.ArgAlike args args') :
    sim.Carries (fun entries others =>
        List.Forall₂ (fun entry other => sim.Alike entry.1 other.1 ∧ other.2 = entry.2)
          entries others ∧
        ∃ node rest, others = (node, some .string) :: rest ∧ node.eval = pure (.string text))
      (Lower.arguments function 0 (arg :: args)) (Lower.arguments function 0 (arg' :: args')) := by
  refine harg.bind fun node other hnode => ?_
  obtain ⟨halike, hkind, heval⟩ := hnode
  dsimp only
  rw [halike.kind, hkind, hf.param, Kind.resolve_string]
  exact (arguments function (hargs.imp fun _ _ h => h.lower) 1).bind fun rest others hrest =>
    .pure ⟨.cons ⟨halike, rfl⟩ hrest, other, others, rfl, heval⟩

/-- A regular expression that is written as a string literal is read at once, and refused where it
is none. -/
theorem Carries.computedPattern (hf : function.OnPattern whole) (harg : arg.text = none)
    (harg' : arg'.text = some text)
    (hrefused : ∀ error site, readPattern whole text = .error error →
      sim.refused (.located (.invalidPattern text error) site)) :
    sim.Carries (fun pattern other => pattern = none ∧
        ∃ regex, other = some regex ∧ readPattern whole text = .ok regex)
      (Lower.literalPattern function (arg :: args))
      (Lower.literalPattern function (arg' :: args')) := by
  obtain ⟨_, span, lower⟩ := arg
  obtain ⟨_, span', lower'⟩ := arg'
  cases harg
  cases harg'
  simp only [Lower.literalPattern, hf.whole, Lower.readPatternAt]
  cases hread : readPattern whole text with
  | ok regex => exact .pure ⟨rfl, regex, rfl, rfl⟩
  | error error => exact .refuse (hrefused error _ hread)

/-- Calls of a function on regular expressions carry over from one that is computed to one that is
written as a string literal. -/
theorem LinkAlike.computed {planned planned' : PlannedCall} (hf : function.OnPattern whole)
    (hname : planned.name = function.name) (hname' : planned'.name = function.name)
    (hspan : sim.span planned.span planned'.span) (hplanned : planned.args = arg :: args)
    (hplanned' : planned'.args = arg' :: args') (htext : arg.text = none)
    (htext' : arg'.text = some text)
    (harg : sim.Carries (fun node other => sim.Alike node other ∧ node.kind = .string ∧
      other.eval = pure (.string text)) arg.lower arg'.lower)
    (hargs : List.Forall₂ sim.ArgAlike args args')
    (hrefused : ∀ error site, readPattern whole text = .error error →
      sim.refused (.located (.invalidPattern text error) site)) :
    sim.LinkAlike planned planned' := by
  have hlength : planned'.args.length = planned.args.length := by
    rw [hplanned, hplanned', List.length_cons, List.length_cons, hargs.length_eq]
  refine ⟨by rw [hname, hname'], hspan, fun found subject subject' hfound hsubject => ?_,
    .reducerFold_of (by rw [hname, hname']) hlength fun hjoin => ?_⟩
  · rw [hname, hf.name] at hfound
    cases hfound
    refine .call_of hsubject hlength hspan _ _
      (by rw [hplanned, hplanned']; exact .computedArguments hf harg hargs)
      (by rw [hplanned, hplanned']; exact .computedPattern hf htext htext' hrefused)
      (fun entries others h => ?_)
      fun origin origin' target entries others pattern pattern' horigin h hpattern => ?_
    · obtain ⟨halike, node, rest, rfl, -⟩ := h
      cases halike with
      | cons h _ => exact congrArg some h.1.kind
    · obtain ⟨halike, node, rest, rfl, heval⟩ := h
      obtain ⟨rfl, regex, rfl, hread⟩ := hpattern
      have hnodes : List.Forall₂ sim.Alike (entries.map (·.1))
          (((node, some .string) :: rest).map (·.1)) := by
        rw [List.forall₂_map_left_iff, List.forall₂_map_right_iff]
        exact halike.imp fun _ _ h => h.1
      rw [← forall₂_map_eq (halike.imp fun _ _ h => h.2)]
      exact Node.SameOutcome.trans (.call sim.congr horigin hsubject hnodes function target _ none)
        (.withPattern hf heval hread)
  · rw [hname, hf.name] at hjoin
    cases hjoin
    cases hf.whole

end Lower.Simulation

end AttrExpr
