import AttrExpr.Proofs.Outcomes

/-! Evaluations that agree: they run alike, whatever tokens they blame for failures. -/
set_option autoImplicit false

namespace AttrExpr

namespace Eval

variable {α β : Type}

/-- What an evaluation gives and leaves behind, whatever token is to blame for a failure. -/
def outcome (x : Eval α) (env : Environment) (state : State) : Except EvalCause α × State :=
  ((x env state).1.mapError EvalError.cause, (x env state).2)

theorem outcome_eq_ok {x : Eval α} {env : Environment} {state after : State} {a : α} :
    x.outcome env state = (.ok a, after) ↔ x env state = (.ok a, after) := by
  unfold outcome
  rcases x env state with ⟨error | b, last⟩
  · exact iff_of_false (fun h => by cases h) (fun h => by cases h)
  · constructor <;> intro h <;> cases h <;> rfl

def SameOutcome (x y : Eval α) : Prop :=
  ∀ (env : Environment) (state : State), y.outcome env state = x.outcome env state

theorem agreeing_iff {a b : Except EvalError α} :
    Agreeing (fun _ _ => True) a b ↔ b.mapError EvalError.cause = a.mapError EvalError.cause := by
  constructor
  · intro h
    cases h <;> rfl
  · intro h
    obtain ⟨cause, token⟩ | value := a <;> obtain ⟨cause', token'⟩ | value' := b <;> cases h
    · exact .error cause trivial
    · exact .ok value

theorem sameOutcome_iff {x y : Eval α} : SameOutcome x y ↔ RunsAlike (fun _ _ => True) x y := by
  refine forall₂_congr fun env state => ?_
  rw [agreeing_iff, ← Prod.mk.injEq]
  rfl

namespace SameOutcome

theorem refl (x : Eval α) : SameOutcome x x := fun _ _ => rfl

theorem symm {x y : Eval α} (h : SameOutcome x y) : SameOutcome y x :=
  fun env state => (h env state).symm

theorem trans {x y z : Eval α} (h : SameOutcome x y) (h' : SameOutcome y z) : SameOutcome x z :=
  fun env state => (h' env state).trans (h env state)

theorem ok_iff {x y : Eval α} (h : SameOutcome x y) (env : Environment) (state : State) (a : α) :
    (y env state).1 = .ok a ↔ (x env state).1 = .ok a := by
  have hagreeing := (sameOutcome_iff.mp h env state).1
  generalize (x env state).1 = result, (y env state).1 = result' at hagreeing ⊢
  cases hagreeing with
  | ok value => exact Iff.rfl
  | error cause _ => exact iff_of_false (fun h => by cases h) fun h => by cases h

theorem bind {x y : Eval α} {f g : α → Eval β} (hx : SameOutcome x y)
    (hf : ∀ a, SameOutcome (f a) (g a)) : SameOutcome (x >>= f) (y >>= g) :=
  sameOutcome_iff.mpr (RunsAlike.bind (sameOutcome_iff.mp hx) fun a => sameOutcome_iff.mp (hf a))

theorem loops : LoopCongruence (fun _ _ => True) SameOutcome id := by
  have hsame : @SameOutcome = @RunsAlike fun _ _ => True := by
    funext α x y
    exact propext sameOutcome_iff
  rw [hsame]
  exact RunsAlike.loops fun _ => trivial

end SameOutcome

end Eval

/-- Trees of one kind that give the same, whatever tokens they blame for failures. -/
abbrev Node.SameOutcome : Node → Node → Prop := Node.Alike (fun _ _ => True) Eval.SameOutcome id

theorem Node.SameOutcome.of_eval {node other : Node} (hkind : other.kind = node.kind)
    (heval : Eval.SameOutcome node.eval other.eval)
    (hpending : ∀ remaining, other.pending remaining = node.pending remaining) :
    node.SameOutcome other :=
  ⟨⟨hkind, trivial⟩, heval, hpending⟩

theorem Node.SameOutcome.trans {first second third : Node} (h : first.SameOutcome second)
    (h' : second.SameOutcome third) : first.SameOutcome third :=
  ⟨⟨h'.kind.trans h.kind, trivial⟩, h.eval.trans h'.eval,
    fun remaining => (h'.pending remaining).trans (h.pending remaining)⟩

end AttrExpr
