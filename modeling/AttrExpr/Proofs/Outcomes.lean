import AttrExpr.Proofs.Alike

/-! Evaluations that give the same and leave the same behind, but for the tokens that they blame for
failures. How these may differ is a parameter. -/
set_option autoImplicit false

namespace AttrExpr

namespace Eval

variable {α β : Type} {T : String → String → Prop}

/-- One value, or one cause of a failure with related tokens. -/
inductive Agreeing (T : String → String → Prop) :
    Except EvalError α → Except EvalError α → Prop
  | ok (a : α) : Agreeing T (.ok a) (.ok a)
  | error (cause : EvalCause) {token token' : String} (h : T token token') :
    Agreeing T (.error ⟨cause, token⟩) (.error ⟨cause, token'⟩)

/-- Evaluations whose results agree, and which leave the same behind. -/
def RunsAlike (T : String → String → Prop) {α : Type} (x y : Eval α) : Prop :=
  ∀ (env : Environment) (state : State),
    Agreeing T (x env state).1 (y env state).1 ∧ (y env state).2 = (x env state).2

theorem Agreeing.refl (hT : ∀ token, T token token) (a : Except EvalError α) :
    Agreeing T a a := by
  cases a with
  | ok a => exact .ok a
  | error error => exact .error error.cause (hT error.token)

theorem Agreeing.eq {a b : Except EvalError α} (h : Agreeing Eq a b) : b = a := by
  cases h with
  | ok a => rfl
  | error cause h => rw [h]

namespace RunsAlike

theorem refl (hT : ∀ token, T token token) (x : Eval α) : RunsAlike T x x :=
  fun _ _ => ⟨.refl hT _, rfl⟩

/-- Evaluations that blame the same are the same. -/
theorem eq {x y : Eval α} (h : RunsAlike Eq x y) : y = x := by
  funext env state
  obtain ⟨hresult, hstate⟩ := h env state
  exact Prod.ext hresult.eq hstate

theorem bind {x y : Eval α} {f g : α → Eval β} (hx : RunsAlike T x y)
    (hf : ∀ a, RunsAlike T (f a) (g a)) : RunsAlike T (x >>= f) (y >>= g) := by
  intro env state
  have hrun := hx env state
  rw [bind_apply, bind_apply]
  generalize x env state = run, y env state = run' at hrun ⊢
  obtain ⟨result, after⟩ := run
  obtain ⟨result', after'⟩ := run'
  obtain ⟨hresult, rfl⟩ := hrun
  cases hresult with
  | ok a => exact hf a env after'
  | error cause h => exact ⟨.error cause h, rfl⟩

theorem congruence : Congruence T (RunsAlike T) where
  pure a := fun _ _ => ⟨.ok a, rfl⟩
  fail cause _ _ h := fun _ _ => ⟨.error cause h, rfl⟩
  bind hx hf := bind hx hf
  settings _ _ h := fun env state => h env env state

theorem get {f g : State → Eval α} (h : ∀ state : State, RunsAlike T (f state) (g state)) :
    RunsAlike T (get >>= f) (get >>= g) := fun env state => h state env state

theorem releasing {x y : Eval α} (h : RunsAlike T x y) (slot : Nat) :
    RunsAlike T (releasing slot x) (releasing slot y) := by
  intro env state
  rw [releasing_apply, releasing_apply]
  obtain ⟨hresult, hstate⟩ := h env state
  exact ⟨hresult, congrArg (State.release · slot) hstate⟩

section

variable (hT : ∀ token, T token token)
include hT

theorem drive {token token' : String} (htoken : T token token') {body body' : Eval Value}
    (hbody : RunsAlike T body body') (slot : Nat) (pending : (Nat → Nat) → Nat) (fuel : Nat)
    (acc : Accumulator) :
    RunsAlike T (drive token slot body pending fuel acc)
      (drive token' slot body' pending fuel acc) := by
  refine congruence.drive (congruence.round htoken hbody (refl hT _)) (fun hx hy => ?_)
    (refl hT _) fuel acc
  refine get fun state => ?_
  split
  · exact hx
  · exact hy

theorem variableOf {token token' : String} (htoken : T token token') (slot : Nat) :
    RunsAlike T (variableOf token slot) (variableOf token' slot) := by
  refine get fun state => ?_
  split
  · exact refl hT _
  · exact congruence.fail _ htoken

theorem loops : LoopCongruence T (RunsAlike T) id where
  toCongruence := congruence
  lookup name := refl hT (lookup name)
  variableOf slot h := variableOf hT h slot
  matching patterns := refl hT _
  loop slot htoken hbody hpending cursor fuel acc := by
    obtain rfl := funext hpending
    exact bind (refl hT _) fun _ => (drive hT htoken hbody slot _ fuel acc).releasing slot

end

end RunsAlike

end Eval

end AttrExpr
