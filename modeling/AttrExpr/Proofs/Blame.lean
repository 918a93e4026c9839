import AttrExpr.Proofs.Settled
import AttrExpr.Proofs.Results

/-! Who is to blame for a failure: the first visit that is not accepted, which is the evaluation of
the smallest tree that fails. -/
set_option autoImplicit false

namespace AttrExpr

open Eval (Ends)

namespace Settles

variable {α : Type} {env : Environment} {token : String} {place : Nat} {values : List Value}

theorem evalText (parts : List Node) {f : String → Eval α} (hf : ∀ text, Ends env token (f text)) :
    Settles env token asksAll place values (parts.map .plain) (Node.evalText parts >>= f) := by
  induction parts generalizing place values f with
  | nil =>
    rw [Node.evalText, pure_bind]
    exact finish (hf "")
  | cons part parts ih =>
    rw [Node.evalText, bind_assoc, List.map_cons]
    refine next rfl (Demand.performs_plain part) fun value _ => ?_
    simp only [bind_assoc, pure_bind]
    exact ih fun text => hf _

theorem fold (fold : Fold Node) {f : Fold String → Eval α}
    (hf : ∀ texts, Ends env token (f texts)) :
    Settles env token asksAll place values (fold.operands.map .plain)
      ((Node.evalFold fold).evaluated >>= f) := by
  cases fold with
  | any | all | count =>
    rw [Node.evalFold, Fold.evaluated, pure_bind]
    exact finish (hf _)
  | join separator =>
    rw [Node.evalFold, Fold.evaluated, bind_assoc]
    refine next rfl (Demand.performs_plain separator) fun value _ => finish ?_
    rw [pure_bind]
    exact hf _

/-- The operands of a quantifier are evaluated from left to right, those of its source first. -/
theorem operandTexts (source : CandidateSource Node) (fold : Fold Node) :
    Settles env token asksAll 0 [] ((source.operands ++ fold.operands).map .plain)
      (Node.operandTexts source fold) := by
  rw [Node.operandTexts]
  cases source with
  | named | matching =>
    rw [Node.evalSource, CandidateSource.evaluated, pure_bind]
    exact Settles.fold fold fun texts => .pure _
  | delineated value delimiter =>
    rw [Node.evalSource, CandidateSource.evaluated, bind_assoc]
    refine next rfl (Demand.performs_plain value) fun text _ => ?_
    simp only [bind_assoc, pure_bind]
    exact next rfl (Demand.performs_plain delimiter) fun other _ =>
      Settles.fold fold fun texts => .pure _

end Settles

namespace Node

variable {env : Environment} {token : String}

theorem settled_visit (slot : Nat) (body : Node) (decides : Value → Bool)
    (candidates : List Candidate) (state : State) :
    Settled env.formats token (bodyVisits env slot body decides candidates state)
      (Eval.visit slot body.eval decides candidates env state).1 := by
  induction candidates generalizing state with
  | nil => exact .gives [] (by simp [bodyVisits])
  | cons candidate following ih =>
    rw [Eval.visit_cons, bodyVisits, Demand.visitThen]
    rcases hr : body.eval env (state.bind slot ⟨candidate, following⟩) with ⟨error | value, after⟩
    · have htaken : ((Demand.plain body).visit env (state.bind slot ⟨candidate, following⟩)).taken
          env.formats = .error error := Demand.taken_visit_error hr
      rw [htaken]
      exact .stop htaken
    · have htaken : ((Demand.plain body).visit env (state.bind slot ⟨candidate, following⟩)).taken
          env.formats = .ok value := Demand.taken_visit_ok hr
      have hafter : ((Demand.plain body).visit env (state.bind slot ⟨candidate, following⟩)).after =
          after := by
        rw [Demand.visit, show (Demand.plain body).node.eval _ _ = _ from hr]
      rw [htaken, hafter]
      refine .cons ⟨value, htaken⟩ ?_
      dsimp only
      split
      · exact .gives _ (by simp)
      · have hrest := ih (Eval.counted (after.release slot))
        rw [Eval.bind_apply]
        rcases hv : Eval.visit slot body.eval decides following env
          (Eval.counted (after.release slot)) with ⟨error | values, final⟩ <;> rw [hv] at hrest
        · exact hrest.error
        · exact .gives _ hrest.accepted

theorem argumentDemands_getElem? (args : List Node) (targets : List (Option Kind)) (i : Nat) :
    (argumentDemands args targets)[i]? =
      args[i]?.map fun arg => ⟨arg, (targets[i]?).join, none⟩ := by
  simp [argumentDemands, Function.comp_def]

theorem CallSound.on {origin : Origin} {function : Function} {subject : Option Node}
    {target : Option Kind} {args : List Node} {targets : List (Option Kind)}
    (h : CallSound origin function subject target args targets) (pattern : Option Regex) :
    ActiveCall.On ⟨function, origin.token, evalSubject target subject,
      operands (evalArgs args) targets, pattern⟩ (subjectDemand? function subject target)
      (argumentDemands args targets) where
  onSubject expected he := by
    have he : function.signature.subject = some expected := he
    obtain ⟨child, rfl, hr⟩ := h.subject expected he
    refine ⟨⟨child, target, function.required?⟩, child.kind, ?_, ?_, rfl, hr⟩
    · rw [subjectDemand?, he]
      rfl
    · rw [evalSubject]
      rfl
  noSubject he := by
    have he : function.signature.subject = none := he
    rw [subjectDemand?, he]
    rfl
  count := by simpa [argumentDemands] using h.count
  operands := List.ext_getElem? fun i => by
    rw [getElem?_operands, List.getElem?_map, argumentDemands_getElem?, Option.map_map]
    rfl
  required demand hd := by
    obtain ⟨⟨arg, i⟩, -, rfl⟩ := List.mem_map.mp hd
    rfl
  params i demand hi := by
    rw [argumentDemands_getElem?, Option.map_eq_some_iff] at hi
    obtain ⟨arg, harg, rfl⟩ := hi
    obtain ⟨target, ht, hr⟩ := h.params i arg harg
    exact ⟨arg.kind, by simpa [ht] using hr⟩

/-- The operands of a call whose function has one argument. -/
theorem CallSound.two_operands {origin : Origin} {function : Function} {subject : Option Node}
    {target : Option Kind} {args : List Node} {targets : List (Option Kind)}
    (h : CallSound origin function subject target args targets) {expected param : Expectation}
    {returns : Kind}
    (hs : function.signature = Function.exactly (some expected) [param] returns) :
    ∃ left right, subject = some left ∧ args = [right] ∧
      ∃ kind, param.resolve? kind = some (targets[0]?).join := by
  obtain ⟨left, hleft, -⟩ := h.subject expected (by rw [hs]; rfl)
  obtain ⟨right, rfl⟩ : ∃ right, args = [right] := by
    have hcount := Signature.accepts_iff.mp h.count
    refine List.length_eq_one_iff.mp ?_
    simp [hs, Function.exactly] at hcount
    omega
  obtain ⟨target', ht, hr⟩ := h.params 0 right rfl
  refine ⟨left, right, hleft, rfl, right.kind, ?_⟩
  rw [ht]
  simpa [hs, Signature.param, Function.exactly] using hr

theorem QuantifierSound.settled {origin : Origin} {slot : Nat} {source : CandidateSource Node}
    {fold : Fold Node} {body : Node} (h : QuantifierSound origin slot source fold body)
    (hbody : body.WellFormed) (state : State) :
    Settled env.formats token (visits env state (.quantifier origin slot source fold body))
      (eval (.quantifier origin slot source fold body) env state).1 := by
  have hoperands : Settled env.formats token _ _ := Settles.operandTexts source fold state
  have hfolded : Eval.folded slot (evalSource source) (evalFold fold) body.eval
      (CandidateSource.listed env.attributes) = (do
        let (source, fold) ← operandTexts source fold
        let values ← Eval.visit slot body.eval fold.decides (source.listed env.attributes)
        pure (fold.combine values)) := by
    simp only [Eval.folded, operandTexts, bind_assoc, pure_bind]
  rw [h.eval_eq_folded hbody, hfolded, Eval.bind_apply, visits]
  rcases hr : operandTexts source fold env state with ⟨error | ⟨texts, fold⟩, after⟩ <;>
    rw [hr] at hoperands
  · rw [List.append_nil]
    exact hoperands.error
  · refine .append hoperands.accepted ?_
    have hvisit : Settled env.formats token _ _ :=
      settled_visit slot body fold.decides (texts.listed env.attributes) after
    dsimp only
    rw [Eval.bind_apply]
    rcases hv : Eval.visit slot body.eval fold.decides (texts.listed env.attributes) env after with
      ⟨error | values, final⟩ <;> rw [hv] at hvisit
    · exact hvisit.error
    · exact .gives _ hvisit.accepted

/-- What a well-formed tree gives is settled by the children that it visits. -/
theorem WellFormed.settled {node : Node} (h : node.WellFormed) (state : State) :
    Settled env.formats node.token (node.visits env state) (node.eval env state).1 := by
  have hself := h.self
  cases node with
  | literal origin value =>
    rw [eval]
    exact .gives value (by simp [visits])
  | «attribute» origin name =>
    rw [eval]
    exact (Ends.lookup name).settled state
  | loopVariable origin slot =>
    rw [eval]
    exact (Ends.variableOf slot).settled state
  | template origin parts =>
    rw [eval]
    exact Settles.evalText parts (fun text => .pure _) state
  | call origin function subject target args targets pattern =>
    rw [eval]
    exact (CallSound.on hself pattern).value (CallSound.evaluated hself) state
  | quantifier origin slot source fold body =>
    exact QuantifierSound.settled hself (h.child (by simp [children])) state

end Node

/-! The trace of an evaluation. -/

/-- A trace up to the visit that is to blame for an error: all visits before it were accepted. When
the child itself failed, it accepted all that it visited. -/
def Blames (env : Environment) (trace : List Visit) (error : EvalError) : Prop :=
  ∃ earlier blamed later, trace = earlier ++ blamed :: later ∧
    (∀ visit ∈ earlier, visit.Accepted env.formats) ∧
    blamed.taken env.formats = .error error ∧ blamed.node.token = error.token ∧
    (blamed.result = .error error →
      ∀ inner ∈ blamed.node.visits env blamed.before, inner.Accepted env.formats)

namespace Blames

variable {env : Environment} {trace more : List Visit} {error : EvalError}

theorem append (h : Blames env trace error) (more : List Visit) :
    Blames env (trace ++ more) error := by
  obtain ⟨earlier, blamed, later, rfl, hblamed⟩ := h
  exact ⟨earlier, blamed, later ++ more, by simp, hblamed⟩

theorem after (hmore : ∀ visit ∈ more, visit.Accepted env.formats) (h : Blames env trace error) :
    Blames env (more ++ trace) error := by
  obtain ⟨earlier, blamed, later, rfl, hearlier, hblamed⟩ := h
  refine ⟨more ++ earlier, blamed, later, by simp, fun visit hv => ?_, hblamed⟩
  exact (List.mem_append.mp hv).elim (hmore visit) (hearlier visit)

end Blames

theorem Value.coerceTo_error {formats : Formats} {target : Option Kind} {value : Value}
    {cause : EvalCause} (h : value.coerceTo formats target = .error cause) :
    ∃ kind failure, target = some kind ∧ value.coerce formats kind = .error failure ∧
      cause = .coercion failure := by
  cases target with
  | none => cases h
  | some kind =>
    rw [coerceTo] at h
    cases hc : value.coerce formats kind with
    | ok result =>
      rw [hc] at h
      cases h
    | error failure =>
      rw [hc] at h
      cases h
      exact ⟨kind, failure, rfl, hc, rfl⟩

/-- Why a value is rejected: it does not become one of the kind that is asked for, or it is missing
where it has to be set. -/
theorem Demand.take_error {formats : Formats} {demand : Demand} {value : Value} {cause : EvalCause}
    (h : demand.take formats value = .error cause) :
    (∃ target failure, demand.target = some target ∧ value.coerce formats target = .error failure ∧
      cause = .coercion failure) ∨
    ∃ kind, demand.required = some kind ∧ value = .unset ∧ cause = .unset kind := by
  unfold take at h
  split at h
  · next kind hk =>
    cases h
    exact .inr ⟨kind, hk, rfl, rfl⟩
  · exact .inl (Value.coerceTo_error h)

theorem Visit.taken_error_token {formats : Formats} {visit : Visit} {value : Value}
    {error : EvalError} (hv : visit.result = .ok value)
    (h : visit.taken formats = .error error) :
    error.token = visit.node.token ∧ visit.demand.take formats value = .error error.cause := by
  rw [taken_of_ok hv] at h
  cases ht : visit.demand.take formats value with
  | ok taken =>
    rw [ht] at h
    cases h
  | error cause =>
    rw [ht] at h
    cases h
    exact ⟨rfl, rfl⟩

namespace Demand

variable {env : Environment}

/-- What the trace of a visit shows: all is accepted when it is, and otherwise who is to blame. -/
def Shows (env : Environment) (trace : List Visit) (visit : Visit) : Prop :=
  match visit.taken env.formats with
  | .ok _ => ∀ other ∈ trace, other.Accepted env.formats
  | .error error => Blames env trace error

theorem Shows.accepted {trace : List Visit} {visit : Visit} (h : Shows env trace visit)
    (hv : visit.Accepted env.formats) : ∀ other ∈ trace, other.Accepted env.formats := by
  obtain ⟨value, hv⟩ := hv
  rwa [Shows, hv] at h

theorem Shows.blames {trace : List Visit} {visit : Visit} {error : EvalError}
    (h : Shows env trace visit) (hv : visit.taken env.formats = .error error) :
    Blames env trace error := by
  rwa [Shows, hv] at h

theorem trace_shows (node : Node) (h : node.WellFormed) (demand : Demand)
    (hd : demand.node = node) (state : State) :
    Shows env (demand.trace env state) (demand.visit env state) := by
  induction node using Node.induction generalizing demand state with
  | step node ih =>
    subst hd
    have hinner (inner : Visit) (hi : inner ∈ demand.node.visits env state) :
        Shows env (inner.demand.trace env inner.before) inner := by
      have hchild := Node.mem_children_of_visit hi
      have hvisit := (Node.visits_among env state demand.node inner hi).2
      have hshows := ih inner.node hchild (h.child hchild) inner.demand rfl inner.before
      rwa [← hvisit] at hshows
    have hbefore (visits : List Visit) (hv : ∀ inner ∈ visits, inner ∈ demand.node.visits env state)
        (hall : ∀ inner ∈ visits, inner.Accepted env.formats) :
        ∀ visit ∈ visits.flatMap (fun inner => inner.demand.trace env inner.before),
          visit.Accepted env.formats := by
      intro visit hvisit
      obtain ⟨inner, hi, hvisit⟩ := List.mem_flatMap.mp hvisit
      exact (hinner inner (hv inner hi)).accepted (hall inner hi) visit hvisit
    have hsettled : Settled env.formats _ _ _ := h.settled state
    have hresult : (demand.visit env state).result = (demand.node.eval env state).1 := rfl
    rw [trace_eq]
    generalize hvisits : demand.node.visits env state = visits at hsettled hinner hbefore
    generalize (demand.node.eval env state).1 = outcome at hsettled hresult
    cases hsettled with
    | gives value hall =>
      have hfirst := hbefore visits (fun _ hi => hi) hall
      rw [Shows]
      cases htaken : (demand.visit env state).taken env.formats with
      | ok taken =>
        intro visit hv
        rcases List.mem_append.mp hv with hv | hv
        · exact hfirst visit hv
        · rw [List.mem_singleton.mp hv]
          exact ⟨taken, htaken⟩
      | error error =>
        have htoken := (Visit.taken_error_token hresult htaken).1
        refine ⟨_, _, [], rfl, hfirst, htaken, htoken.symm, fun hr => ?_⟩
        rw [hresult] at hr
        cases hr
    | fails cause hall =>
      have htaken : (demand.visit env state).taken env.formats = _ := Visit.taken_of_error hresult
      rw [Shows, htaken]
      refine ⟨_, _, [], rfl, hbefore visits (fun _ hi => hi) hall, htaken, rfl, fun _ => ?_⟩
      change ∀ inner ∈ demand.node.visits env state, _
      rwa [hvisits]
    | @stops earlier last error hall hlast =>
      rw [Shows, Visit.taken_of_error hresult, List.flatMap_append]
      have hblames := (hinner last (by simp)).blames hlast
      refine Blames.append (Blames.after ?_ (by simpa using hblames)) _
      exact hbefore earlier (fun _ hi => List.mem_append_left _ hi) hall

/-- What is visited in a trace is either the whole or is visited in the course of another visit. -/
theorem mem_trace (env : Environment) (node : Node) (demand : Demand) (hd : demand.node = node)
    (state : State) :
    ∀ visit ∈ demand.trace env state, visit.node ∈ node.all ∧
      visit = visit.demand.visit env visit.before ∧ (visit = demand.visit env state ∨
        ∃ outer ∈ demand.trace env state, visit ∈ outer.node.visits env outer.before) := by
  induction node using Node.induction generalizing demand state with
  | step node ih =>
    subst hd
    intro visit hv
    rw [trace_eq] at hv ⊢
    rcases List.mem_append.mp hv with hv | hv
    · obtain ⟨inner, hi, hv⟩ := List.mem_flatMap.mp hv
      have hchild := Node.mem_children_of_visit hi
      have hvisit := (Node.visits_among env state demand.node inner hi).2
      obtain ⟨hmem, hself, hwhere⟩ := ih inner.node hchild inner.demand rfl inner.before visit hv
      refine ⟨Node.mem_all_of_child hchild hmem, hself, .inr ?_⟩
      rcases hwhere with rfl | ⟨outer, ho, hvisited⟩
      · exact ⟨demand.visit env state, by simp, hvisit ▸ hi⟩
      · exact ⟨outer, List.mem_append_left _ (List.mem_flatMap.mpr ⟨inner, hi, ho⟩), hvisited⟩
    · obtain rfl := List.mem_singleton.mp hv
      exact ⟨Node.mem_all_self _, rfl, .inl rfl⟩

end Demand

namespace Compiled

variable {compiler : Compiler} {source : String} {compiled : Compiled}

/-- A compiled source fails exactly as its tree does. -/
theorem evaluate_error_iff (h : compiler.compile source = .ok compiled) (attributes : Attributes)
    (clock : Instant) (error : EvalError) :
    compiled.evaluate attributes clock = .error error ↔
      (compiled.root.eval (compiled.environment attributes clock) .fresh).1 = .error error := by
  rw [evaluate, run_eq_root h]
  rcases compiled.root.eval (compiled.environment attributes clock) .fresh with
    ⟨cause | value, after⟩
  · rfl
  · simp [Except.map]

/-- The trace of a failing evaluation shows who is to blame: all visits before that one were
accepted. Either the child itself failed although it accepted all that it visited, or what it gave
was rejected by the node that visited it. -/
theorem failure_blames_smallest (compiler : Compiler) (source : String) (compiled : Compiled)
    (h : compiler.compile source = .ok compiled) (attributes : Attributes) (clock : Instant) :
    let env := compiled.environment attributes clock
    let trace := (Demand.plain compiled.root).trace env .fresh
    (∀ visit ∈ trace, visit.node ∈ compiled.root.all ∧
      visit.node.eval env visit.before = (visit.result, visit.after)) ∧
    (∀ error, compiled.evaluate attributes clock = .error error →
      ∃ earlier blamed later, trace = earlier ++ blamed :: later ∧
        (∀ visit ∈ earlier, visit.Accepted env.formats) ∧ blamed.node.token = error.token ∧
        ((blamed.result = .error error ∧
            ∀ inner ∈ blamed.node.visits env blamed.before, inner.Accepted env.formats) ∨
          ∃ value, blamed.result = .ok value ∧
            (∃ parent ∈ trace, blamed ∈ parent.node.visits env parent.before) ∧
            ((∃ target failure, blamed.demand.target = some target ∧
                value.coerce env.formats target = .error failure ∧
                error.cause = .coercion failure) ∨
              ∃ kind, blamed.demand.required = some kind ∧ value = .unset ∧
                error.cause = .unset kind))) ∧
    ∀ value, compiled.evaluate attributes clock = .ok value →
      ∀ visit ∈ trace, visit.Accepted env.formats := by
  intro env trace
  obtain ⟨hwell, -⟩ := Compiler.compile_wellFormed h
  have hshows : Demand.Shows env trace ((Demand.plain compiled.root).visit env .fresh) :=
    Demand.trace_shows compiled.root hwell _ rfl .fresh
  have hmem := Demand.mem_trace env compiled.root (.plain compiled.root) rfl .fresh
  refine ⟨fun visit hv => ?_, fun error he => ?_, fun value hv => ?_⟩
  · obtain ⟨hall, hself, -⟩ := hmem visit hv
    rw [hself]
    exact ⟨hall, rfl⟩
  · have hroot : ((Demand.plain compiled.root).visit env .fresh).result = .error error :=
      (evaluate_error_iff h attributes clock error).mp he
    obtain ⟨earlier, blamed, later, htrace, hearlier, htaken, htoken, hown⟩ :=
      hshows.blames (Visit.taken_of_error hroot)
    refine ⟨earlier, blamed, later, htrace, hearlier, htoken, ?_⟩
    cases hresult : blamed.result with
    | error other =>
      rw [Visit.taken_of_error hresult] at htaken
      cases htaken
      exact .inl ⟨rfl, hown hresult⟩
    | ok value =>
      have htake := (Visit.taken_error_token hresult htaken).2
      refine .inr ⟨value, rfl, ?_, Demand.take_error htake⟩
      have hblamed : blamed ∈ trace := by rw [htrace]; simp
      rcases (hmem blamed hblamed).2.2 with rfl | hparent
      · rw [hroot] at hresult
        cases hresult
      · exact hparent
  · refine hshows.accepted ?_
    cases hroot : ((Demand.plain compiled.root).visit env .fresh).result with
    | ok value => exact ⟨value, Visit.taken_of_ok hroot⟩
    | error error =>
      have he := (evaluate_error_iff h attributes clock error).mpr hroot
      rw [he] at hv
      cases hv

/-- A text that is no number is to blame for the failure of a sum. -/
theorem failure_blames_smallest_sizePlusOne :
    let attributes := Record.attributes ⟨[("size", "many")]⟩
    let env := sizePlusOne.environment attributes .epoch
    let error : EvalError := ⟨.coercion (.incompatible .string .number "many"), "size"⟩
    Compiler.standard.compile sizePlusOne.source = .ok sizePlusOne ∧
      sizePlusOne.evaluate attributes .epoch = .error error ∧
      ∃ earlier blamed later,
        (Demand.plain sizePlusOne.root).trace env .fresh = earlier ++ blamed :: later ∧
        (∀ visit ∈ earlier, visit.Accepted env.formats) ∧ blamed.node.token = "size" := by
  intro attributes env error
  have herror : sizePlusOne.evaluate attributes .epoch = .error error := by cbv
  obtain ⟨-, hblames, -⟩ :=
    failure_blames_smallest .standard _ _ compile_sizePlusOne attributes .epoch
  obtain ⟨earlier, blamed, later, htrace, hearlier, htoken, -⟩ := hblames error herror
  exact ⟨compile_sizePlusOne, herror, earlier, blamed, later, htrace, hearlier, htoken⟩

end Compiled

end AttrExpr
