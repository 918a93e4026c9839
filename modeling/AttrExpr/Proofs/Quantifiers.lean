import AttrExpr.Proofs.Candidates
import AttrExpr.Proofs.Isolation
import AttrExpr.Proofs.Lowering

/-! Quantifiers compute a fold over their candidates: the loop over a cursor agrees with a recursion
over the list of candidates. -/
set_option autoImplicit false

namespace AttrExpr

open Eval (Ensures Always)

/-! The fold that a quantifier stands for. -/

/-- Whether a value counts: a truth value when it is true, any other when it is set. -/
def Value.counts : Value → Bool
  | .boolean b => b
  | .unset => false
  | _ => true

namespace Fold

/-- Whether the value of a body decides the result. -/
def decides {α : Type} : Fold α → Value → Bool
  | .any, value => value = .boolean true
  | .all, value => value = .boolean false
  | .join _, _ | .count, _ => false

/-- The result for the values of the bodies that were evaluated. -/
def combine : Fold String → List Value → Value
  | .any, values => .boolean (values.contains (.boolean true))
  | .all, values => .boolean (!values.contains (.boolean false))
  | .join separator, values =>
    .string (separator.intercalate ((values.filter fun value => !value.isUnset).map Value.text))
  | .count, values => .number (.whole (Int64.ofNat (values.countP Value.counts)))

/-- The separator of a fold as a text. -/
def evaluated : Fold (Eval Value) → Eval (Fold String)
  | .any => pure .any
  | .all => pure .all
  | .join separator => do pure (.join (← separator).text)
  | .count => pure .count

end Fold

/-- The operands of a source as texts, the value before the delimiter. -/
def CandidateSource.evaluated : CandidateSource (Eval Value) → Eval (CandidateSource String)
  | .named names => pure (.named names)
  | .matching patterns => pure (.matching patterns)
  | .delineated value delimiter => do
    let text := (← value).text
    let delimiter := (← delimiter).text
    pure (.delineated text delimiter)

namespace Eval

/-- Evaluates with a slot bound, and releases it afterwards. -/
def binding {α : Type} (slot : Nat) (cursor : Cursor) (action : Eval α) : Eval α := do
  modify fun state => state.bind slot cursor
  releasing slot action

/-- The values of a body for candidates in order, with the slot bound to each in turn, up to the
first that decides. -/
def visit (slot : Nat) (body : Eval Value) (decides : Value → Bool) :
    List Candidate → Eval (List Value)
  | [] => pure []
  | candidate :: following => do
    let value ← binding slot ⟨candidate, following⟩ body
    modify fun state => { state with iterations := state.iterations + 1 }
    if decides value then pure [value]
    else do pure (value :: (← visit slot body decides following))

/-- The fold over candidates: operands are evaluated before any body. -/
def folded (slot : Nat) (source : CandidateSource (Eval Value)) (fold : Fold (Eval Value))
    (body : Eval Value) (candidates : CandidateSource String → List Candidate) : Eval Value := do
  let source ← source.evaluated
  let fold ← fold.evaluated
  let values ← visit slot body fold.decides (candidates source)
  pure (fold.combine values)

end Eval

/-! Accumulators, which take in one value after the other, agree with the fold over all values. -/

namespace Accumulator

/-- The fold that an accumulator is in the middle of. -/
def fold : Accumulator → Fold String
  | .any => .any
  | .all => .all
  | .join separator _ => .join separator
  | .count _ => .count

/-- The result once further values have been taken in. -/
def resume : Accumulator → List Value → Value
  | .any, values => .boolean (values.contains (.boolean true))
  | .all, values => .boolean (!values.contains (.boolean false))
  | .join separator joined, values =>
    .string (separator.intercalate
      (joined.toList ++ (values.filter fun value => !value.isUnset).map Value.text))
  | .count n, values => .number (.whole (Int64.ofNat (n + values.countP Value.counts)))

theorem finish_eq (acc : Accumulator) : acc.finish = acc.resume [] := by
  cases acc with
  | any => rfl
  | all => rfl
  | count n => rfl
  | join separator joined =>
    cases joined with
    | none => rfl
    | some text => rfl

/-- Taking in a value that decides gives the result. One that does not leaves the result to the
values after it. -/
theorem push_apply {acc : Accumulator} {body : Kind} (hacc : acc.Takes body) {value : Value}
    (hv : value.Fits body) (token : String) (env : Environment) (state : State) :
    if acc.fold.decides value then
      acc.push token value env state = (.ok (.inl (acc.resume [value])), state)
    else ∃ next : Accumulator, acc.push token value env state = (.ok (.inr next), state) ∧
      next.fold = acc.fold ∧ next.Takes body ∧
        ∀ values, acc.resume (value :: values) = next.resume values := by
  cases acc with
  | any =>
    obtain ⟨b, rfl⟩ := Value.Fits.boolean (hacc ▸ hv)
    cases b with
    | true => simp [fold, Fold.decides, push, resume]
    | false =>
      exact ⟨.any, rfl, rfl, hacc, fun values => by simp [resume]⟩
  | all =>
    obtain ⟨b, rfl⟩ := Value.Fits.boolean (hacc ▸ hv)
    cases b with
    | false => simp [fold, Fold.decides, push, resume]
    | true =>
      exact ⟨.all, rfl, rfl, hacc, fun values => by simp [resume]⟩
  | join separator joined =>
    cases hset : value.isUnset with
    | true =>
      refine ⟨.join separator joined, by simp [push, hset], rfl, hacc, fun values => ?_⟩
      simp [resume, hset]
    | false =>
      cases joined with
      | none =>
        refine ⟨.join separator (some value.text), by simp [push, hset], rfl, hacc,
          fun values => ?_⟩
        simp [resume, hset]
      | some text =>
        refine ⟨.join separator (some (text ++ separator ++ value.text)), by simp [push, hset], rfl,
          hacc, fun values => ?_⟩
        simp only [resume, hset, List.filter_cons_of_pos, Bool.not_false, List.map_cons]
        rfl
  | count n =>
    have counted (h : value.counts = true) (values : List Value) :
        (count n).resume (value :: values) = (count (n + 1)).resume values := by
      rw [resume, resume, List.countP_cons_of_pos h, ← Nat.add_assoc, Nat.add_right_comm]
    have passed (h : value.counts = false) (values : List Value) :
        (count n).resume (value :: values) = (count n).resume values := by
      rw [resume, resume, List.countP_cons_of_neg (by simp [h])]
    cases value with
    | unset => exact ⟨.count n, rfl, rfl, hacc, passed rfl⟩
    | boolean b =>
      cases b with
      | true => exact ⟨.count (n + 1), rfl, rfl, hacc, counted rfl⟩
      | false => exact ⟨.count n, rfl, rfl, hacc, passed rfl⟩
    | string | number | date | instant => exact ⟨.count (n + 1), rfl, rfl, hacc, counted rfl⟩

end Accumulator

namespace Eval

variable {env : Environment} {token : String} {slot : Nat} {body : Eval Value}
  {pending : (Nat → Nat) → Nat}

/-- A body that was evaluated is counted. -/
def counted (state : State) : State := { state with iterations := state.iterations + 1 }

theorem visit_cons (decides : Value → Bool) (candidate : Candidate) (following : List Candidate)
    (state : State) :
    visit slot body decides (candidate :: following) env state =
      match body env (state.bind slot ⟨candidate, following⟩) with
      | (.error error, after) => (.error error, after.release slot)
      | (.ok value, after) =>
        if decides value then (.ok [value], counted (after.release slot))
        else (do pure (value :: (← visit slot body decides following)) : Eval (List Value)) env
          (counted (after.release slot)) := by
  rw [visit, bind_apply, binding, modify_bind_apply, releasing_apply]
  rcases body env (state.bind slot ⟨candidate, following⟩) with ⟨error | value, after⟩
  · rfl
  · dsimp only
    rw [modify_bind_apply]
    split <;> rfl

theorem drive_succ (fuel : Nat) (acc : Accumulator) (state : State) :
    drive token slot body pending (fuel + 1) acc env state =
      match body env state with
      | (.error error, after) => (.error error, after)
      | (.ok value, after) =>
        match acc.push token value env (counted after) with
        | (.error error, final) => (.error error, final)
        | (.ok (.inl result), final) => (.ok result, final)
        | (.ok (.inr next), final) =>
          if pending final.remaining = 0 then (.ok next.finish, final)
          else
            match (final.cursor? slot).bind Cursor.advanced? with
            | some cursor => drive token slot body pending fuel next env (final.bind slot cursor)
            | none => (.ok next.finish, final.release slot) := by
  rw [drive, bind_apply]
  rcases body env state with ⟨error | value, after⟩
  · rfl
  · dsimp only
    have hcounted : { after with iterations := after.iterations + 1 } = counted after := rfl
    rw [modify_bind_apply, bind_apply, hcounted]
    rcases acc.push token value env (counted after) with ⟨error | result | next, final⟩
    · rfl
    · rfl
    · dsimp only
      rw [get_bind_apply]
      split
      · rfl
      · rw [bind_apply, advance_apply]
        cases (final.cursor? slot).bind Cursor.advanced? <;> rfl

theorem push_state (token : String) (value : Value) (acc : Accumulator) (env : Environment)
    (state : State) : (acc.push token value env state).2 = state :=
  (Follows.closed (R := fun before after => after = before) (fun _ => rfl)
    fun _ _ _ h₁ h₂ => h₂.trans h₁).push token value acc env state

/-- The loop over a cursor ends before its fuel does. The body may release its slot, but binds no
other candidates to it. -/
theorem drive_fuel
    (hbody : ∀ state, (body env state).2.cursor? slot = state.cursor? slot ∨
      (body env state).2.cursor? slot = none)
    (fuel : Nat) (following : List Candidate) (hfuel : following.length < fuel)
    (candidate : Candidate) (acc : Accumulator) (state : State) :
    drive token slot body pending fuel acc env (state.bind slot ⟨candidate, following⟩) =
      drive token slot body pending (following.length + 1) acc env
        (state.bind slot ⟨candidate, following⟩) := by
  induction fuel generalizing following candidate acc state with
  | zero => exact absurd hfuel (Nat.not_lt_zero _)
  | succ fuel ih =>
    have hcursor := hbody (state.bind slot ⟨candidate, following⟩)
    rw [drive_succ, drive_succ]
    rcases hrun : body env (state.bind slot ⟨candidate, following⟩) with ⟨error | value, after⟩
    · rfl
    · dsimp only
      have hstate := push_state token value acc env (counted after)
      rcases hpush : acc.push token value env (counted after) with ⟨error | result | next, final⟩
      · rfl
      · rfl
      · rw [hpush] at hstate
        rw [hrun, State.cursor?_bind_self] at hcursor
        have hfinal : final.cursor? slot = some ⟨candidate, following⟩ ∨
            final.cursor? slot = none := by
          rw [show final = counted after from hstate]
          exact hcursor
        dsimp only
        rcases hfinal with hfinal | hfinal
        · rw [hfinal]
          cases following with
          | nil => rfl
          | cons other rest =>
            have hrest := ih rest (Nat.lt_of_succ_lt_succ hfuel) other next final
            simp only [Option.bind_some, Cursor.advanced?, Cursor.start?]
            rw [hrest, List.length_cons]
        · rw [hfinal]
          rfl

/-- The loop over a cursor visits the candidates that it started with. The body has to leave the
cursor of its slot alone, and it is pending as long as candidates are left. -/
theorem drive_eq_visit {kind : Kind}
    (hkeeps : ∀ state, (body env state).2.cursor? slot = state.cursor? slot)
    (hpending : ∀ remaining, pending remaining = remaining slot)
    (hbody : Ensures env (fun state => (state.cursor? slot).isSome) body fun value =>
      value.Fits kind)
    (following : List Candidate) (candidate : Candidate) (acc : Accumulator) (hacc : acc.Takes kind)
    (state : State) :
    releasing slot (drive token slot body pending (following.length + 1) acc) env
        (state.bind slot ⟨candidate, following⟩) =
      (do pure (acc.resume (← visit slot body acc.fold.decides (candidate :: following))) :
        Eval Value) env state := by
  have hcursor := hkeeps (state.bind slot ⟨candidate, following⟩)
  have hvalue := hbody (state.bind slot ⟨candidate, following⟩) (by simp)
  rw [releasing_apply, drive_succ, bind_apply, visit_cons]
  rcases hrun : body env (state.bind slot ⟨candidate, following⟩) with ⟨error | value, after⟩
  · rfl
  · rw [hrun, State.cursor?_bind_self] at hcursor
    rw [hrun] at hvalue
    have hafter : (counted after).cursor? slot = some ⟨candidate, following⟩ := hcursor
    have hremaining : pending (counted after).remaining = following.length := by
      rw [hpending, State.remaining, hafter]
      rfl
    have hpush := Accumulator.push_apply hacc hvalue token env (counted after)
    -- a value that decides ends both; any other is followed by what is left of the candidates
    split at hpush
    · next hdecides =>
      simp only [hpush, hdecides, if_true]
      rfl
    · next hdecides =>
      obtain ⟨next, hnext, hsame, htakes, hresume⟩ := hpush
      simp only [hnext, hdecides, hremaining, hafter, Option.bind_some]
      cases following with
      | nil =>
        simp only [List.length_nil, if_true]
        rw [Accumulator.finish_eq, ← hresume]
        rfl
      | cons other rest =>
        have ih := drive_eq_visit hkeeps hpending hbody rest other next htakes
          (counted (after.release slot))
        -- the loop moves the cursor on, where a visit releases the slot and binds it again
        have hbind : (counted (after.release slot)).bind slot ⟨other, rest⟩ =
            (counted after).bind slot ⟨other, rest⟩ := State.bind_release (counted after) _
        rw [hbind, hsame, bind_apply] at ih
        simp only [Bool.false_eq_true, if_false, bind_apply]
        change releasing slot (drive token slot body pending (rest.length + 1) next) env
          ((counted after).bind slot ⟨other, rest⟩) = _
        rw [ih]
        rcases visit slot body acc.fold.decides (other :: rest) env (counted (after.release slot))
          with ⟨error | values, final⟩
        · rfl
        · simp only [pure_apply, hresume]
termination_by following.length

end Eval

theorem CandidateSource.candidates_eq (source : CandidateSource (Eval Value)) (env : Environment)
    (state : State) :
    source.candidates env state =
      (do pure ((← source.evaluated).listed env.attributes) : Eval (List Candidate)) env state := by
  cases source with
  | named names => rfl
  | matching patterns => rfl
  | delineated value delimiter =>
    simp only [candidates, evaluated, bind_assoc, pure_bind]
    rfl

namespace Fold

/-- The accumulator that a fold starts with. -/
def start : Fold String → Accumulator
  | .any => .any
  | .all => .all
  | .join separator => .join separator none
  | .count => .count 0

theorem accumulator_eq (fold : Fold (Eval Value)) :
    fold.accumulator = (do pure (← fold.evaluated).start : Eval Accumulator) := by
  cases fold with
  | any => rfl
  | all => rfl
  | count => rfl
  | join separator =>
    simp only [accumulator, evaluated, bind_assoc, pure_bind]
    rfl

theorem fold_start (fold : Fold String) : fold.start.fold = fold := by
  cases fold <;> rfl

theorem resume_start (fold : Fold String) (values : List Value) :
    fold.start.resume values = fold.combine values := by
  cases fold with
  | any => rfl
  | all => rfl
  | join separator => rfl
  | count => simp [start, combine, Accumulator.resume]

theorem evaluated_takes {body result : Kind} {fold : Fold Node} (h : fold.Gives body result)
    (env : Environment) (state : State) :
    match ((Node.evalFold fold).evaluated env state).1 with
    | .ok fold => fold.start.Takes body
    | .error _ => True := by
  cases fold with
  | any => exact h.1
  | all => exact h.1
  | count => trivial
  | join separator =>
    rw [Node.evalFold, evaluated, Eval.bind_apply]
    rcases separator.eval env state with ⟨error | value, after⟩
    · trivial
    · trivial

end Fold

namespace Node

theorem kept_or_released_trans {first second third : Option Cursor}
    (h : second = first ∨ second = none) (h' : third = second ∨ third = none) :
    third = first ∨ third = none := by
  rcases h' with rfl | h'
  · exact h
  · exact .inr h'

/-- After an evaluation a slot has the cursor that it had before, or none. -/
theorem eval_keeps_or_releases (node : Node) (slot : Nat) :
    Eval.Follows (fun before after : State => after.cursor? slot = before.cursor? slot ∨
      after.cursor? slot = none) node.eval :=
  node.eval_cursor? (r := fun before after => after = before ∨ after = none)
    (fun _ => .inl rfl) (fun _ _ _ => kept_or_released_trans) slot fun _ _ => .inr rfl

/-- The loop of a quantifier never runs out of fuel, whatever its body does. -/
theorem drive_eval_fuel (body : Node) (token : String) (slot : Nat)
    (pending : (Nat → Nat) → Nat) (fuel : Nat) (following : List Candidate)
    (hfuel : following.length < fuel) (candidate : Candidate) (acc : Accumulator)
    (env : Environment) (state : State) :
    Eval.drive token slot body.eval pending fuel acc env (state.bind slot ⟨candidate, following⟩) =
      Eval.drive token slot body.eval pending (following.length + 1) acc env
        (state.bind slot ⟨candidate, following⟩) :=
  Eval.drive_fuel (body.eval_keeps_or_releases slot env) fuel following hfuel candidate acc state

/-- A tree that sees one loop variable is that variable, or a call on a tree that sees it. -/
theorem WellFormed.cases_of_free {node : Node} (h : node.WellFormed) {slot : Nat}
    (hfree : node.freeSlots = [slot]) :
    (∃ origin, node = .loopVariable origin slot) ∨
      ∃ origin function child target args targets pattern,
        node = .call origin function (some child) target args targets pattern ∧
          child.WellFormed ∧ child.freeSlots = [slot] ∧ ∀ arg ∈ args, arg.freeSlots = [] := by
  have hself := h.self
  cases node with
  | literal origin value => simp [freeSlots] at hfree
  | «attribute» origin name => simp [freeSlots] at hfree
  | loopVariable origin other =>
    obtain rfl : other = slot := by simpa [freeSlots] using hfree
    exact .inl ⟨origin, rfl⟩
  | template origin parts =>
    have hnone : parts.flatMap freeSlots = [] := List.flatMap_eq_nil_iff.mpr hself.2
    simp [freeSlots, freeSlotsOfList_eq, hnone] at hfree
  | quantifier origin other source fold body =>
    simp [QuantifierSound.freeSlots_eq hself] at hfree
  | call origin function subject target args targets pattern =>
    have hclosed := CallSound.closed hself
    have hnone : args.flatMap freeSlots = [] := List.flatMap_eq_nil_iff.mpr hclosed
    rw [freeSlots, freeSlotsOfList_eq, hnone, List.append_nil] at hfree
    cases subject with
    | none => simp [freeSlotsOfOption] at hfree
    | some child =>
      exact .inr ⟨origin, function, child, target, args, targets, pattern, rfl,
        h.child (by simp [children]), hfree, hclosed⟩

/-- What is pending in a tree that sees one loop variable is what is left for it. -/
theorem WellFormed.pending_eq {node : Node} (h : node.WellFormed) {slot : Nat}
    (hfree : node.freeSlots = [slot]) (remaining : Nat → Nat) :
    node.pending remaining = remaining slot := by
  induction node using induction with
  | step node ih =>
    obtain ⟨origin, rfl⟩ | ⟨origin, function, child, target, args, targets, pattern, rfl, hchild,
      hfree, hclosed⟩ := h.cases_of_free hfree
    · rw [pending]
    · have hargs : pendingOfList remaining args = 0 :=
        pendingOfList_eq_zero remaining args fun arg ha =>
          arg.pending_eq_zero remaining fun other ho => by simp [hclosed arg ha] at ho
      rw [pending, hargs, pendingOfOption, Nat.max_zero]
      exact ih child (by simp [children]) hchild hfree

/-- A well-formed quantifier evaluates to the fold over its candidates. -/
theorem QuantifierSound.eval_eq_folded {origin : Origin} {slot : Nat}
    {source : CandidateSource Node} {fold : Fold Node} {body : Node}
    (h : QuantifierSound origin slot source fold body) (hbody : body.WellFormed)
    (env : Environment) (state : State) :
    eval (.quantifier origin slot source fold body) env state =
      Eval.folded slot (evalSource source) (evalFold fold) body.eval
        (CandidateSource.listed env.attributes) env state := by
  have hkeeps := body.eval_keeps_cursor slot h.unbound env
  have hpending := hbody.pending_eq h.free
  have hvalue : Ensures env (fun state => (state.cursor? slot).isSome) body.eval fun value =>
      value.Fits body.kind :=
    hbody.evaluates.weaken fun state hstate => by simpa [Bound, h.free] using hstate
  rw [eval, Eval.quantify, Eval.folded]
  simp only [Eval.bind_apply, CandidateSource.candidates_eq, Fold.accumulator_eq]
  rcases (evalSource source).evaluated env state with ⟨error | texts, between⟩
  · rfl
  · have htakes := Fold.evaluated_takes h.kind env between
    dsimp only [Eval.pure_apply]
    rcases hfold : (evalFold fold).evaluated env between with ⟨error | fold, after⟩
    · rfl
    · rw [hfold] at htakes
      dsimp only [Eval.pure_apply]
      have hdecides := congrArg Fold.decides fold.fold_start
      simp only [← hdecides, ← Fold.resume_start]
      cases texts.listed env.attributes with
      | nil => exact congrArg (fun value => (Except.ok value, after)) fold.start.finish_eq
      | cons candidate following =>
        exact (Eval.drive_eq_visit hkeeps hpending hvalue following candidate fold.start htakes
          after).trans (Eval.bind_apply _ _ _ _)

end Node

namespace Compiled

/-- Every quantifier in a compiled source is the fold over its candidates, with the same result and
the same state after it. -/
theorem quantifiers_are_folds (compiler : Compiler) (text : String) (compiled : Compiled)
    (h : compiler.compile text = .ok compiled) (origin : Origin) (slot : Nat)
    (source : CandidateSource Node) (fold : Fold Node) (body : Node)
    (hq : .quantifier origin slot source fold body ∈ compiled.root.all) (env : Environment) :
    ∃ candidates : CandidateSource String → List Candidate,
      (∀ texts : CandidateSource String, texts.Lists env.attributes (candidates texts)) ∧
      ∀ state, (Node.quantifier origin slot source fold body).eval env state =
        Eval.folded slot (Node.evalSource source) (Node.evalFold fold) body.eval candidates env
          state := by
  obtain ⟨hwell, _⟩ := Compiler.compile_wellFormed h
  have hself : Node.QuantifierSound origin slot source fold body := hwell _ hq
  have hbody : body.WellFormed := fun other ho =>
    hwell other (Node.mem_all_trans hq (Node.mem_all_of_child (by simp [Node.children]) ho))
  exact ⟨CandidateSource.listed env.attributes, CandidateSource.listed_lists env.attributes,
    hself.eval_eq_folded hbody env⟩

theorem quantifiers_are_folds_anyAboveOne :
    let env : Environment := ⟨Record.attributes ⟨[("a", "0"), ("b", "2")]⟩, .standard, .epoch⟩
    Compiler.standard.compile anyAboveOne.source = .ok anyAboveOne ∧
      anyAboveOne.root ∈ anyAboveOne.root.all ∧
      (anyAboveOne.root.eval env .fresh).1 = .ok (.boolean true) ∧
      ∃ candidates : CandidateSource String → List Candidate,
        (∀ texts : CandidateSource String, texts.Lists env.attributes (candidates texts)) ∧
        ∀ state, anyAboveOne.root.eval env state =
          Eval.folded 0 (.named ["a", "b"]) .any aboveOne.eval candidates env state := by
  intro env
  have hroot := Node.mem_all_self anyAboveOne.root
  obtain ⟨candidates, hlists, heval⟩ :=
    quantifiers_are_folds .standard _ _ compile_anyAboveOne _ _ _ _ _ hroot env
  rw [Node.evalSource, Node.evalFold] at heval
  exact ⟨compile_anyAboveOne, hroot, by cbv, candidates, hlists, heval⟩

end Compiled

end AttrExpr
