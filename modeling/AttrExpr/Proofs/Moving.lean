import AttrExpr.Proofs.Alike
import AttrExpr.Proofs.Isolation

/-! Trees that differ in their spans and in the numbers of their slots. They evaluate alike, in
states whose cursors stand in other slots. -/
set_option autoImplicit false

namespace AttrExpr

namespace State

/-- The state with every cursor `d` slots further on. -/
def moved (d : Nat) (state : State) : State :=
  { state with cursors := state.cursors.map fun entry => (entry.1 + d, entry.2) }

variable (d slot : Nat) (state : State)

@[simp] theorem cursor?_moved : (state.moved d).cursor? (slot + d) = state.cursor? slot := by
  unfold cursor? moved
  dsimp only
  induction state.cursors with
  | nil => rfl
  | cons entry entries ih =>
    obtain ⟨bound, cursor⟩ := entry
    have hslot : (slot + d == bound + d) = (slot == bound) := by simp [Bool.beq_eq_decide_eq]
    simp only [List.map_cons, List.lookup_cons, ih, hslot]

theorem moved_release : (state.release slot).moved d = (state.moved d).release (slot + d) := by
  have hslot (entry : Nat × Cursor) : (entry.1 + d != slot + d) = (entry.1 != slot) := by
    simp [bne]
  simp [moved, release, List.filter_map, Function.comp_def, hslot]

theorem moved_bind (cursor : Cursor) :
    (state.bind slot cursor).moved d = (state.moved d).bind (slot + d) cursor := by
  have h := state.moved_release d slot
  simp only [moved, release, State.mk.injEq] at h
  simp [bind, moved, release, h.1]

theorem Unbound.moved {state : State} (h : state.Unbound) : state.moved d = state := by
  obtain ⟨cursors, iterations, reads⟩ := state
  obtain rfl : cursors = [] := (unbound_iff _).mp h
  rfl

theorem remaining_moved :
    (fun slot => (state.moved d).remaining (slot + d)) = state.remaining := by
  funext slot
  simp [remaining]

end State

namespace Eval

variable {α β : Type} {d : Nat}

/-- An evaluation breaks an invariant. -/
def Breaks (x : Eval α) (env : Environment) (state : State) : Prop :=
  ∃ error, (x env state).1 = .error error ∧ error.isInternal = true

/-- What two evaluations give and leave behind is the same, but for the slots of the cursors. This
is not asked where an invariant is broken: the slot of a variable that is not bound would show. -/
def Moves (d : Nat) {α : Type} (x y : Eval α) : Prop :=
  ∀ env (state : State),
    x.Breaks env state ∨ y env (state.moved d) = ((x env state).1, (x env state).2.moved d)

namespace Moves

theorem bind {x y : Eval α} {f g : α → Eval β} (hx : Moves d x y) (hf : ∀ a, Moves d (f a) (g a)) :
    Moves d (x >>= f) (y >>= g) := by
  intro env state
  have hrun := hx env state
  unfold Breaks at hrun ⊢
  rw [bind_apply, bind_apply]
  generalize x env state = run at hrun ⊢
  obtain ⟨error | a, after⟩ := run
  · rcases hrun with hbreaks | hsame
    · obtain ⟨_, he, hinternal⟩ := hbreaks
      cases he
      exact .inl ⟨error, rfl, hinternal⟩
    · rw [hsame]
      exact .inr rfl
  · rcases hrun with ⟨_, he, _⟩ | hsame
    · cases he
    · rw [hsame]
      exact hf a env after

theorem congruence : Congruence Eq (Moves d) where
  pure _ := fun _ _ => .inr rfl
  fail _ _ _ h := fun _ _ => .inr (by rw [h]; rfl)
  bind hx hf := bind hx hf
  settings _ _ h := fun env state => h env env state

theorem modify {change other : State → State}
    (h : ∀ state : State, other (state.moved d) = (change state).moved d) :
    Moves d (modify change : Eval Unit) (modify other) :=
  fun _ state => .inr (congrArg (fun state => ((.ok () : Except EvalError Unit), state)) (h state))

theorem get {f g : State → Eval α} (h : ∀ state : State, Moves d (f state) (g (state.moved d))) :
    Moves d (get >>= f) (get >>= g) := fun env state => h state env state

theorem lookup (name : String) : Moves d (lookup name) (lookup name) := by
  refine bind (modify fun _ => rfl) fun _ env state => .inr ?_
  rw [read_bind_apply]
  cases hv : env.attributes.lookup name <;> simp [read_bind_apply, hv]

theorem variableOf (token : String) (slot : Nat) :
    Moves d (variableOf token slot) (variableOf token (slot + d)) := by
  refine get fun state => ?_
  rw [State.cursor?_moved]
  split
  · split
    · exact lookup _
    · exact congruence.pure _
  · exact fun _ _ => .inl ⟨_, rfl, rfl⟩

theorem advance (slot : Nat) : Moves d (advance slot) (advance (slot + d)) := by
  refine get fun state => ?_
  rw [State.cursor?_moved]
  split
  · exact bind (modify fun state => (state.moved_bind d slot _).symm) fun _ => congruence.pure _
  · exact bind (modify fun state => (state.moved_release d slot).symm) fun _ => congruence.pure _

theorem releasing {slot : Nat} {x y : Eval α} (h : Moves d x y) :
    Moves d (releasing slot x) (releasing (slot + d) y) := by
  intro env state
  unfold Breaks
  rw [releasing_apply, releasing_apply, State.moved_release]
  rcases h env state with hbreaks | hsame
  · exact .inl hbreaks
  · rw [hsame]
    exact .inr rfl

theorem drive {token : String} {slot : Nat} {body body' : Eval Value}
    {pending pending' : (Nat → Nat) → Nat} (hbody : Moves d body body')
    (hpending : ∀ remaining, pending' remaining = pending fun slot => remaining (slot + d))
    (fuel : Nat) (acc : Accumulator) :
    Moves d (drive token slot body pending fuel acc)
      (drive token (slot + d) body' pending' fuel acc) := by
  refine congruence.drive (congruence.round rfl hbody (modify fun _ => rfl)) (fun hx hy => ?_)
    (advance slot) fuel acc
  refine get fun state => ?_
  rw [hpending, State.remaining_moved]
  split
  · exact hx
  · exact hy

theorem loops : LoopCongruence Eq (Moves d) (· + d) where
  toCongruence := congruence
  lookup := lookup
  variableOf slot htoken := htoken ▸ variableOf _ slot
  matching _ := fun _ _ => .inr rfl
  loop slot htoken hbody hpending cursor fuel acc :=
    htoken ▸ bind (modify fun state => (state.moved_bind d slot cursor).symm)
      fun _ => (drive hbody hpending fuel acc).releasing

end Moves

end Eval

/-- Trees that say the same, in slots that are `d` further on in the second. -/
abbrev Node.Moved (d : Nat) : Node → Node → Prop := Node.Alike Eq (Eval.Moves d) (· + d)

end AttrExpr
