import AttrExpr.Compiled
import AttrExpr.Proofs.Slots
import Mathlib

/-! Evaluations that share a state. Each leaves all slots unbound, and none sees what those before
it counted and read. -/
set_option autoImplicit false

namespace AttrExpr

/-- A state with what was counted and read before it on top. -/
def State.onto (earlier state : State) : State :=
  ⟨state.cursors, earlier.iterations + state.iterations, state.reads ++ earlier.reads⟩

theorem State.onto_fresh (state : State) (h : state.Unbound) : state.onto .fresh = state := by
  obtain ⟨cursors, iterations, reads⟩ := state
  obtain rfl : cursors = [] := (State.unbound_iff _).mp h
  rfl

theorem State.fresh_onto (state : State) : State.fresh.onto state = state := by
  simp [onto, fresh]

namespace Eval

/-- What an evaluation counts and reads adds to what was counted and read before, which it does not
see. -/
def Accumulates {α : Type} (x : Eval α) : Prop :=
  ∀ env (earlier state : State),
    x env (earlier.onto state) = ((x env state).1, earlier.onto (x env state).2)

namespace Accumulates

variable {α β : Type}

theorem bind {x : Eval α} {f : α → Eval β} (hx : Accumulates x) (hf : ∀ a, Accumulates (f a)) :
    Accumulates (x >>= f) := by
  intro env earlier state
  rw [bind_apply, bind_apply, hx env earlier state]
  rcases x env state with ⟨error | a, after⟩
  · rfl
  · exact hf a env earlier after

theorem closed : Closed Accumulates where
  pure _ := fun _ _ _ => rfl
  fail _ _ := fun _ _ _ => rfl
  bind hx hf := bind hx hf
  settings _ hf := fun env earlier state => hf env env earlier state

theorem modify {change : State → State}
    (h : ∀ earlier state : State, change (earlier.onto state) = earlier.onto (change state)) :
    Accumulates (modify change : Eval Unit) :=
  fun _ earlier state =>
    congrArg (fun state => ((.ok () : Except EvalError Unit), state)) (h earlier state)

/-- An evaluation that looks at the cursors alone. -/
theorem ofCursors {f : State → Eval α} (hf : ∀ state, Accumulates (f state))
    (h : ∀ earlier state : State, f (earlier.onto state) = f state) :
    Accumulates (get >>= f) := by
  intro env earlier state
  rw [get_bind_apply, get_bind_apply, h]
  exact hf state env earlier state

theorem lookup (name : String) : Accumulates (lookup name) := by
  refine bind (modify fun _ _ => rfl) fun _ env earlier state => ?_
  rw [read_bind_apply, read_bind_apply]
  cases env.attributes.lookup name <;> rfl

theorem variableOf (token : String) (slot : Nat) : Accumulates (variableOf token slot) := by
  refine ofCursors (fun state => ?_) fun _ _ => rfl
  split
  · split
    · exact lookup _
    · exact closed.pure _
  · exact closed.fail _ _

theorem advance (slot : Nat) : Accumulates (advance slot) := by
  refine ofCursors (fun state => ?_) fun _ _ => rfl
  split
  · exact bind (modify fun _ _ => rfl) fun _ => closed.pure _
  · exact bind (modify fun _ _ => rfl) fun _ => closed.pure _

theorem releasing {slot : Nat} {x : Eval α} (hx : Accumulates x) :
    Accumulates (releasing slot x) := by
  intro env earlier state
  rw [releasing_apply, releasing_apply, hx env earlier state]
  rfl

theorem drive {token : String} {slot : Nat} {body : Eval Value} {pending : (Nat → Nat) → Nat}
    (hbody : Accumulates body) (fuel : Nat) (acc : Accumulator) :
    Accumulates (drive token slot body pending fuel acc) := by
  refine closed.drive hbody (modify fun earlier state => ?_) (fun hx hy => ?_) (advance slot) fuel
    acc
  · simp [State.onto, Nat.add_assoc]
  · refine ofCursors (fun state => ?_) fun _ _ => rfl
    split
    · exact hx
    · exact hy

end Accumulates

end Eval

/-- The evaluation of a tree adds to what was counted and read before. -/
theorem Node.eval_accumulates (node : Node) : Eval.Accumulates node.eval := by
  have closed := Eval.Accumulates.closed
  refine eval_closed closed node (fun _ name _ => Eval.Accumulates.lookup name)
    (fun origin slot _ => Eval.Accumulates.variableOf origin.token slot) ?_
  intro origin slot source fold body _ hchildren
  rw [eval]
  refine closed.quantify _ _ _ _ _ _ ?_ (fun patterns _ _ _ _ => rfl) fun cursor fuel acc => ?_
  · intro x hx
    rw [operands_evalSource, operands_evalFold, ← List.map_append, List.mem_map] at hx
    obtain ⟨child, hc, rfl⟩ := hx
    exact hchildren child (List.mem_append_left _ hc)
  · have hbody := hchildren body (by simp)
    exact Eval.Accumulates.bind (Eval.Accumulates.modify fun _ _ => rfl) fun _ =>
      (Eval.Accumulates.drive hbody fuel acc).releasing

namespace Compiled

/-- The state after sources that are evaluated one after the other, whether or not they fail. -/
def stateAfter (env : Environment) (start : State) (before : List Compiled) : State :=
  before.foldl (fun state compiled => (compiled.eval env state).2) start

theorem eval_state (compiled : Compiled) (env : Environment) (state : State) :
    (compiled.eval env state).2 = (compiled.root.eval env state).2 := by
  rw [eval, Eval.bind_apply]
  rcases compiled.root.eval env state with ⟨error | value, after⟩
  · rfl
  · simp only [Eval.get_bind_apply]
    split
    · rfl
    · split <;> rfl

theorem eval_unbound (compiled : Compiled) (env : Environment) (state : State)
    (h : state.Unbound) : (compiled.eval env state).2.Unbound := by
  rw [eval_state]
  exact compiled.root.eval_unbound env state h

theorem stateAfter_unbound (env : Environment) (start : State) (before : List Compiled)
    (h : start.Unbound) : (stateAfter env start before).Unbound := by
  induction before generalizing start with
  | nil => exact h
  | cons compiled before ih =>
    rw [stateAfter, List.foldl_cons]
    exact ih _ (compiled.eval_unbound env start h)

theorem eval_accumulates (compiled : Compiled) : Eval.Accumulates compiled.eval := by
  rw [eval]
  refine compiled.root.eval_accumulates.bind fun value => ?_
  refine Eval.Accumulates.ofCursors (fun state => ?_) fun _ _ => rfl
  dsimp only
  split
  · exact Eval.Accumulates.closed.fail _ _
  · split <;> exact Eval.Accumulates.closed.pure _

/-- Trees leave no slot bound and nothing pending. So an evaluation gives the same result, looks up
the same names and counts as many bodies after any others as it does on its own. -/
theorem evaluations_isolated :
    (∀ (node : Node) (env : Environment) (state : State), state.Unbound →
      (node.eval env state).2.Unbound ∧
        node.pending (node.eval env state).2.remaining = 0) ∧
    ∀ (env : Environment) (start : State) (before : List Compiled) (compiled : Compiled),
      start.Unbound →
        let state := stateAfter env start before
        let alone := compiled.eval env .fresh
        let shared := compiled.eval env state
        shared.1 = alone.1 ∧ shared.2.reads = alone.2.reads ++ state.reads ∧
          shared.2.iterations = state.iterations + alone.2.iterations ∧ shared.2.Unbound := by
  refine ⟨fun node env state h => ?_, fun env start before compiled h => ?_⟩
  · have hafter := node.eval_unbound env state h
    exact ⟨hafter, node.pending_eq_zero _ fun slot _ => by rw [hafter.remaining]⟩
  · intro state alone shared
    have hstate : state.Unbound := stateAfter_unbound env start before h
    have hrun : shared = (alone.1, state.onto alone.2) := by
      have hacc := compiled.eval_accumulates env state .fresh
      rwa [State.onto_fresh state hstate] at hacc
    refine ⟨by rw [hrun], by rw [hrun]; rfl, by rw [hrun]; rfl, ?_⟩
    rw [show shared.2 = (compiled.root.eval env state).2 from compiled.eval_state env state]
    exact compiled.root.eval_unbound env state hstate

end Compiled

/-- The instant that time stamps count from. -/
def Instant.epoch : Instant := ⟨⟨1970, 1, 1, by decide⟩, .midnight, .zero, by decide⟩

namespace Compiled

/-- The body in `${anyAttribute('a','b'):gt(1)}`. -/
def aboveOne : Node :=
  .call ⟨.boolean, "gt(1)", ⟨24, 29⟩⟩ .gt
    (some (.loopVariable ⟨.string, "anyAttribute('a','b')", ⟨2, 23⟩⟩ 0)) (some .number)
    [.literal ⟨.whole, "1", ⟨27, 28⟩⟩ (.number (.whole 1))] [some .number] none

/-- The tree of `${anyAttribute('a','b'):gt(1)}`. -/
def anyAboveOne : Compiled where
  source := "$\x7banyAttribute('a','b'):gt(1)\x7d"
  root := .quantifier ⟨.boolean, "anyAttribute('a','b'):gt(1)", ⟨2, 29⟩⟩ 0 (.named ["a", "b"]) .any
    aboveOne
  formats := .standard
  slots := 1
  referenced := ["a", "b"]

theorem compile_anyAboveOne : Compiler.standard.compile anyAboveOne.source = .ok anyAboveOne := by
  cbv

/-- An evaluation after one that failed in its second body, with the variable of its slot bound. -/
theorem evaluations_isolated_anyAboveOne :
    let env : Environment := ⟨Record.attributes ⟨[("a", "0"), ("b", "many")]⟩, .standard, .epoch⟩
    let failed := stateAfter env .fresh [anyAboveOne]
    let again := anyAboveOne.eval env failed
    Compiler.standard.compile anyAboveOne.source = .ok anyAboveOne ∧ State.fresh.Unbound ∧
      (anyAboveOne.eval env .fresh).1 =
        .error ⟨.coercion (.incompatible .string .number "many"), "anyAttribute('a','b')"⟩ ∧
      again.1 = (anyAboveOne.eval env .fresh).1 ∧ again.2.reads = ["b", "a", "b", "a"] ∧
      failed.Unbound ∧ anyAboveOne.root.pending failed.remaining = 0 := by
  intro env failed again
  have htree := evaluations_isolated.1 anyAboveOne.root env .fresh State.unbound_fresh
  have hagain := evaluations_isolated.2 env .fresh [anyAboveOne] anyAboveOne State.unbound_fresh
  refine ⟨compile_anyAboveOne, State.unbound_fresh, by cbv, hagain.1, ?_, ?_, ?_⟩
  · rw [show again.2.reads = _ from hagain.2.1]
    cbv
  · rw [show failed = _ from anyAboveOne.eval_state env .fresh]
    exact htree.1
  · rw [show failed = _ from anyAboveOne.eval_state env .fresh]
    exact htree.2

end Compiled

end AttrExpr
