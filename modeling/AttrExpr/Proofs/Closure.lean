import AttrExpr.Proofs.Congruence

/-! Properties of evaluations that sequences of steps keep. What holds of the operands of a call
then holds of the call, whatever its function does with them, and likewise for quantifiers. -/
set_option autoImplicit false

namespace AttrExpr

namespace Eval

/-- A property that single steps have and that steps one after the other keep. Such steps do not see
the attributes of a record. -/
structure Closed (P : ∀ {α : Type}, Eval α → Prop) : Prop where
  pure : ∀ {α : Type} (a : α), P (pure a : Eval α)
  fail : ∀ {α : Type} (cause : EvalCause) (token : String), P (fail cause token : Eval α)
  bind : ∀ {α β : Type} {x : Eval α} {f : α → Eval β}, P x → (∀ a, P (f a)) → P (x >>= f)
  settings : ∀ {α : Type} {f : Environment → Eval α},
    (∀ env env', env.formats = env'.formats → env.clock = env'.clock → f env = f env') →
      (∀ env, P (f env)) → P (read >>= f)

/-- A property of single evaluations is a relation between equal ones. -/
theorem Closed.congruence {P : ∀ {α : Type}, Eval α → Prop} (closed : Closed @P) :
    Congruence Eq fun x y => x = y ∧ P x where
  pure a := ⟨rfl, closed.pure a⟩
  fail cause _ _ h := ⟨by rw [h], closed.fail cause _⟩
  bind := by
    rintro _ _ x _ f g ⟨rfl, hx⟩ hf
    obtain rfl : f = g := funext fun a => (hf a).1
    exact ⟨rfl, closed.bind hx fun a => (hf a).2⟩
  settings := by
    intro _ f g hf _ h
    obtain rfl : f = g := funext fun env => (h env).1
    exact ⟨rfl, closed.settings hf fun env => (h env).2⟩

end Eval

/-- Subject and arguments of a call are evaluated by actions with a property. -/
structure ActiveCall.Operands (P : Eval Value → Prop) (call : ActiveCall) : Prop where
  subject : ∀ operand ∈ call.subject, P operand.action
  args : ∀ operand ∈ call.args, P operand.action

/-- A call has every closed property that its operands have. -/
theorem ActiveCall.Operands.value {P : ∀ {α : Type}, Eval α → Prop} (closed : Eval.Closed @P)
    {call : ActiveCall} (operands : call.Operands P) : P call.value := by
  have alike (operand : Operand) (h : P operand.action) :
      operand.Alike Eq (fun x y => x = y ∧ P x) operand := ⟨rfl, rfl, rfl, h⟩
  have hcall : call.Alike Eq (fun x y => x = y ∧ P x) call := by
    refine ⟨rfl, rfl, ?_, ?_, rfl⟩
    · have hsubject := operands.subject
      cases hs : call.subject with
      | none => exact .none
      | some subject => exact .some (alike subject (hsubject subject hs))
    · exact List.forall₂_same.mpr fun operand ho => alike operand (operands.args operand ho)
  exact (hcall.value closed.congruence).2

def CandidateSource.operands {α : Type} : CandidateSource α → List α
  | .delineated value delimiter => [value, delimiter]
  | .named _ | .matching _ => []

def Fold.operands {α : Type} : Fold α → List α
  | .join separator => [separator]
  | .any | .all | .count => []

theorem CandidateSource.rel_self {α : Type} {r : α → α → Prop} (source : CandidateSource α)
    (h : ∀ x ∈ source.operands, r x x) : source.Rel r source := by
  cases source with
  | named names => exact .named names
  | matching patterns => exact .matching patterns
  | delineated value delimiter =>
    exact .delineated (h value (by simp [operands])) (h delimiter (by simp [operands]))

theorem Fold.rel_self {α : Type} {r : α → α → Prop} (fold : Fold α)
    (h : ∀ x ∈ fold.operands, r x x) : fold.Rel r fold := by
  cases fold with
  | join separator => exact .join (h separator (by simp [operands]))
  | any => exact .any
  | all => exact .all
  | count => exact .count

namespace Eval.Closed

variable {P : ∀ {α : Type}, Eval α → Prop} (closed : Closed @P)
include closed

theorem push (token : String) (value : Value) (acc : Accumulator) : P (acc.push token value) :=
  (closed.congruence.push rfl value acc).2

theorem accumulator (fold : Fold (Eval Value)) (h : ∀ x ∈ fold.operands, P x) :
    P fold.accumulator :=
  (closed.congruence.accumulator (fold.rel_self fun x hx => ⟨rfl, h x hx⟩)).2

theorem candidates (source : CandidateSource (Eval Value)) (h : ∀ x ∈ source.operands, P x)
    (hmatching : ∀ patterns, source = .matching patterns →
      P (CandidateSource.candidates (.matching patterns))) : P source.candidates :=
  (closed.congruence.candidates (source.rel_self fun x hx => ⟨rfl, h x hx⟩)
    fun patterns hs => ⟨rfl, hmatching patterns hs⟩).2

/-- The loop of a quantifier has every closed property that its body has, if counting a body, asking
what remains and moving on have it. -/
theorem drive {token : String} {slot : Nat} {body : Eval Value} {pending : (Nat → Nat) → Nat}
    (hbody : P body)
    (hcount : P (modify fun state : State =>
      { state with iterations := state.iterations + 1 } : Eval PUnit))
    (hpending : ∀ {x y : Eval Value}, P x → P y →
      P (get >>= fun state : State => if pending state.remaining = 0 then x else y))
    (hadvance : P (advance slot)) (fuel : Nat) (acc : Accumulator) :
    P (Eval.drive token slot body pending fuel acc) := by
  have congr := closed.congruence
  have hround (acc : Accumulator) :
      Eval.round token body acc = Eval.round token body acc ∧ P (Eval.round token body acc) :=
    congr.round rfl ⟨rfl, hbody⟩ ⟨rfl, hcount⟩ acc
  have hask {x y x' y' : Eval Value} (hx : x = x' ∧ P x) (hy : y = y' ∧ P y) :
      (get >>= fun state : State => if pending state.remaining = 0 then x else y) =
          (get >>= fun state : State => if pending state.remaining = 0 then x' else y') ∧
        P (get >>= fun state : State => if pending state.remaining = 0 then x else y) :=
    ⟨by rw [hx.1, hy.1], hpending hx.2 hy.2⟩
  exact (congr.drive hround hask ⟨rfl, hadvance⟩ fuel acc).2

/-- A quantifier has every closed property that its operands have, if the loop over its candidates
has it. -/
theorem quantify (token : String) (slot : Nat) (source : CandidateSource (Eval Value))
    (fold : Fold (Eval Value)) (body : Eval Value) (pending : (Nat → Nat) → Nat)
    (h : ∀ x ∈ source.operands ++ fold.operands, P x)
    (hmatching : ∀ patterns, source = .matching patterns →
      P (CandidateSource.candidates (.matching patterns)))
    (hloop : ∀ (cursor : Cursor) (fuel : Nat) (acc : Accumulator), P (do
      modify fun state : State => state.bind slot cursor
      releasing slot (Eval.drive token slot body pending fuel acc))) :
    P (quantify token slot source fold body pending) := by
  have hcandidates := closed.candidates source (fun x hx => h x (by simp [hx])) hmatching
  have hfold := closed.accumulator fold fun x hx => h x (by simp [hx])
  exact (closed.congruence.quantify ⟨rfl, hcandidates⟩ ⟨rfl, hfold⟩
    fun cursor fuel acc => ⟨rfl, hloop cursor fuel acc⟩).2

end Eval.Closed

end AttrExpr
