import AttrExpr.Proofs.EmptyText
import AttrExpr.Proofs.Closure

/-! Evaluations side by side: wherever one finds an unset value, the other may find the empty text.
Coercions and most functions and folds do not tell the two apart. -/
set_option autoImplicit false

namespace AttrExpr

/-- A value in which unset may have become the empty text. -/
inductive Value.Filled : Value → Value → Prop
  | same (value : Value) : Filled value value
  | empty : Filled .unset (.string "")

namespace Value.Filled

variable {value filled : Value} (h : value.Filled filled)
include h

theorem text_eq : filled.text = value.text := by
  cases h <;> rfl

theorem number?_eq : filled.number? = value.number? := by
  cases h <;> rfl

theorem isBlank_eq : filled.isBlank = value.isBlank := by
  cases h <;> rfl

end Value.Filled

/-- Attributes some of whose missing values may have become empty. -/
def Attributes.Filled (attributes filled : Attributes) : Prop :=
  ∀ name, filled.lookup name = attributes.lookup name ∨
    attributes.lookup name = none ∧ filled.lookup name = some ""

namespace Eval

/-- What two evaluations come to when both succeed, with related values and in the same state, or
both fail. -/
inductive Outcomes {α β : Type} (related : α → β → Prop) :
    Except EvalError α × State → Except EvalError β × State → Prop
  | success {a : α} {b : β} (h : related a b) (state : State) :
    Outcomes related (.ok a, state) (.ok b, state)
  | failure (error error' : EvalError) (state state' : State) :
    Outcomes related (.error error, state) (.error error', state')

theorem Outcomes.mono {α β : Type} {related weaker : α → β → Prop}
    (hweaker : ∀ a b, related a b → weaker a b) {first : Except EvalError α × State}
    {second : Except EvalError β × State} (h : Outcomes related first second) :
    Outcomes weaker first second := by
  cases h with
  | success h state => exact .success (hweaker _ _ h) state
  | failure => exact .failure ..

/-- Evaluations that fail in every state. -/
def Fails {α : Type} (env : Environment) (x : Eval α) : Prop :=
  ∀ state, ∃ error after, x env state = (.error error, after)

namespace Fails

variable {α β : Type} {env : Environment}

theorem fail (cause : EvalCause) (token : String) : Fails env (fail cause token : Eval α) :=
  fun _ => ⟨_, _, rfl⟩

theorem bind {x : Eval α} (h : Fails env x) (f : α → Eval β) : Fails env (x >>= f) := by
  intro state
  obtain ⟨error, after, hx⟩ := h state
  exact ⟨error, after, by rw [bind_apply, hx]⟩

/-- A step fails when what comes after it does, whatever it gives. -/
theorem bind_right {x : Eval α} {f : α → Eval β}
    (h : ∀ state a after, x env state = (.ok a, after) → Fails env (f a)) :
    Fails env (x >>= f) := by
  intro state
  rw [bind_apply]
  rcases hx : x env state with ⟨error | a, after⟩
  · exact ⟨error, after, rfl⟩
  · exact h state a after hx after

theorem read {f : Environment → Eval α} (h : Fails env (f env)) : Fails env (read >>= f) := h

theorem ofExcept {token : String} {result : Except EvalCause α}
    (h : ∃ cause, result = .error cause) : Fails env (ofExcept token result) := by
  obtain ⟨cause, rfl⟩ := h
  exact fail cause token

theorem coerce {token : String} {target : Kind} {value : Value}
    (h : ∃ error, value.coerce env.formats target = .error error) :
    Fails env (coerce token target value) := by
  obtain ⟨error, h⟩ := h
  exact read (ofExcept ⟨.coercion error, by rw [h]; rfl⟩)

end Fails

/-- Evaluations side by side, one for the attributes of an environment and one for others. -/
def Lockstep (env : Environment) (filled : Attributes) {α β : Type} (related : α → β → Prop)
    (x : Eval α) (y : Eval β) : Prop :=
  ∀ state, Outcomes related (x env state) (y { env with attributes := filled } state)

namespace Lockstep

variable {α β γ δ : Type} {env : Environment} {filled : Attributes}

theorem pure {related : α → β → Prop} {a : α} {b : β} (h : related a b) :
    Lockstep env filled related (pure a) (pure b) :=
  fun state => .success h state

theorem failing {related : α → β → Prop} {x : Eval α} {y : Eval β} (hx : Fails env x)
    (hy : Fails { env with attributes := filled } y) : Lockstep env filled related x y := by
  intro state
  obtain ⟨error, after, hx⟩ := hx state
  obtain ⟨error', after', hy⟩ := hy state
  rw [hx, hy]
  exact .failure ..

theorem mono {related weaker : α → β → Prop} (hweaker : ∀ a b, related a b → weaker a b)
    {x : Eval α} {y : Eval β} (h : Lockstep env filled related x y) :
    Lockstep env filled weaker x y :=
  fun state => (h state).mono hweaker

theorem filled_of_eq {x y : Eval Value} (h : Lockstep env filled Eq x y) :
    Lockstep env filled Value.Filled x y :=
  h.mono fun value _ h => h ▸ .same value

theorem bind {related : α → β → Prop} {related' : γ → δ → Prop} {x : Eval α} {y : Eval β}
    {f : α → Eval γ} {g : β → Eval δ} (hx : Lockstep env filled related x y)
    (hf : ∀ a b, related a b → Lockstep env filled related' (f a) (g b)) :
    Lockstep env filled related' (x >>= f) (y >>= g) := by
  intro state
  have hstep := hx state
  rw [bind_apply, bind_apply]
  generalize x env state = first, y { env with attributes := filled } state = second at hstep
  cases hstep with
  | success h after => exact hf _ _ h after
  | failure => exact .failure ..

theorem congruence : Congruence (fun _ _ => True) fun x y => Lockstep env filled Eq x y where
  pure _ := pure rfl
  fail cause _ _ _ := failing (.fail cause _) (.fail cause _)
  bind hx hf := hx.bind fun a _ h => h ▸ hf a
  settings hf hg h := by
    intro state
    rw [read_bind_apply, read_bind_apply, hg { env with attributes := filled } env rfl rfl]
    exact h env state

theorem get {related : α → β → Prop} {f : State → Eval α} {g : State → Eval β}
    (h : ∀ state, Lockstep env filled related (f state) (g state)) :
    Lockstep env filled related (get >>= f) (get >>= g) :=
  fun state => h state state

theorem modify (change : State → State) :
    Lockstep env filled Eq (modify change : Eval Unit) (modify change) :=
  fun state => .success rfl (change state)

theorem releasing {related : α → β → Prop} {slot : Nat} {x : Eval α} {y : Eval β}
    (h : Lockstep env filled related x y) :
    Lockstep env filled related (releasing slot x) (releasing slot y) := by
  intro state
  have hstep := h state
  rw [releasing_apply, releasing_apply]
  generalize x env state = first, y { env with attributes := filled } state = second at hstep
  cases hstep with
  | success h after => exact .success h _
  | failure => exact .failure ..

theorem advance (slot : Nat) : Lockstep env filled Eq (advance slot) (advance slot) := by
  refine get fun state => ?_
  split
  · exact (modify _).bind fun _ _ _ => pure rfl
  · exact (modify _).bind fun _ _ _ => pure rfl

theorem lookup (hfilled : env.attributes.Filled filled) (name : String) :
    Lockstep env filled Value.Filled (lookup name) (lookup name) := by
  refine (modify _).bind fun _ _ _ state => ?_
  rw [read_bind_apply, read_bind_apply]
  dsimp only
  rcases hfilled name with h | ⟨hmissing, hempty⟩
  · rw [h]
    cases env.attributes.lookup name with
    | none => exact .success (.same _) state
    | some text => exact .success (.same _) state
  · rw [hmissing, hempty]
    exact .success .empty state

theorem variableOf (hfilled : env.attributes.Filled filled) (token : String) (slot : Nat) :
    Lockstep env filled Value.Filled (variableOf token slot) (variableOf token slot) := by
  refine get fun state => ?_
  split
  · split
    · exact lookup hfilled _
    · exact pure (.same _)
  · exact failing (.fail _ _) (.fail _ _)

/-- Unset and the empty text become strings and nothing else. -/
theorem coerceTo (token : String) (target : Option Kind) {value other : Value}
    (h : value.Filled other) :
    Lockstep env filled Value.Filled (coerceTo token target value)
      (coerceTo token target other) := by
  cases h with
  | same => exact (congruence.coerceTo trivial target value).filled_of_eq
  | empty =>
    cases target with
    | none => exact pure .empty
    | some target =>
      -- to a string both become the empty text, and to any other kind both are refused
      rcases coerceText_empty env.formats target with rfl | ⟨error, hempty⟩
      · exact fun state => .success (.same _) state
      · have hunset : ∃ error, Value.unset.coerce env.formats target = .error error := by
          cases target with
          | string => cases hempty
          | boolean | number | whole | date | instant => exact ⟨_, rfl⟩
        exact failing (.coerce hunset) (.coerce ⟨error, hempty⟩)

end Lockstep

/-- All that the empty text becomes is itself. -/
theorem coerceTo_empty {token : String} {target : Option Kind} {env : Environment}
    {state after : State} {value : Value}
    (h : coerceTo token target (.string "") env state = (.ok value, after)) :
    value = .string "" := by
  cases target with
  | none =>
    cases h
    rfl
  | some target =>
    rcases coerceText_empty env.formats target with rfl | hempty
    · cases h
      rfl
    · have hfails : Fails env (coerceTo token (some target) (.string "")) := Fails.coerce hempty
      obtain ⟨error, after', hfail⟩ := hfails state
      cases hfail.symm.trans h

end Eval

/-- Functions that tell an unset subject from an empty one. -/
def Function.isNullAware : Function → Bool
  | .isNull | .notNull | .replaceNull | .equals | .equalsIgnoreCase => true
  | _ => false

theorem Function.eq_of_nullable {function : Function} (h : function.family = .nullable)
    (hunaware : function.isNullAware = false) :
    function = .isEmpty ∨ function = .replaceEmpty := by
  cases function <;> simp [family, isNullAware] at h hunaware ⊢

namespace ActiveCall

open Eval (Lockstep Fails)

variable {env : Environment} {filled : Attributes} {call : ActiveCall}

theorem coerceSubject_lockstep (call : ActiveCall) {value other : Value}
    (h : value.Filled other) :
    Lockstep env filled Value.Filled (call.coerceSubject value) (call.coerceSubject other) := by
  unfold coerceSubject
  cases call.subject with
  | none => exact .pure h
  | some subject => exact .coerceTo subject.token subject.target h

theorem coerceSubject_empty {env : Environment} {state after : State} {value : Value}
    (h : call.coerceSubject (.string "") env state = (.ok value, after)) :
    value = .string "" := by
  unfold coerceSubject at h
  cases hs : call.subject with
  | none =>
    rw [hs] at h
    cases h
    rfl
  | some subject =>
    rw [hs] at h
    exact Eval.coerceTo_empty h

theorem numberOf_lockstep (call : ActiveCall) {value other : Value} (h : value.Filled other) :
    Lockstep env filled Eq (call.numberOf value) (call.numberOf other) := by
  cases h with
  | same => exact Lockstep.congruence.numberOf trivial value
  | empty => exact .failing (.fail _ _) (.fail _ _)

theorem booleanOf_lockstep (call : ActiveCall) {value other : Value} (h : value.Filled other) :
    Lockstep env filled Eq (call.booleanOf value) (call.booleanOf other) := by
  cases h with
  | same => exact Lockstep.congruence.booleanOf trivial value
  | empty => exact .failing (.fail _ _) (.fail _ _)

namespace Operands

variable (operands : call.Operands fun x => Lockstep env filled Value.Filled x x)
include operands

theorem rawSubject_lockstep :
    Lockstep env filled Value.Filled call.rawSubject call.rawSubject := by
  unfold rawSubject
  cases hs : call.subject with
  | none => exact .failing (.fail _ _) (.fail _ _)
  | some subject => exact operands.subject subject hs

theorem subjectValue_lockstep :
    Lockstep env filled Value.Filled call.subjectValue call.subjectValue :=
  operands.rawSubject_lockstep.bind fun _ _ h => call.coerceSubject_lockstep h

theorem arg_lockstep (index : Nat) :
    Lockstep env filled Value.Filled (call.arg index) (call.arg index) := by
  unfold arg
  split
  · next operand ho =>
    exact (operands.args operand (List.mem_of_getElem? ho)).bind fun _ _ h =>
      .coerceTo operand.token operand.target h
  · exact .pure (.same .unset)

theorem arguments_lockstep :
    call.ArgumentsAlike (fun _ _ => True) (fun x y => Lockstep env filled Eq x y) call where
  function := rfl
  token := trivial
  pattern := rfl
  length_args := rfl
  textArg index := (operands.arg_lockstep index).bind fun _ _ h => .pure h.text_eq.symm
  wholeArg index := by
    refine (operands.arg_lockstep index).bind fun value other h => ?_
    rw [h.number?_eq]
    cases value.number?.bind Number.toWhole? with
    | some n => exact .pure rfl
    | none => exact .failing (.fail _ _) (.fail _ _)
  numberArg := (operands.arg_lockstep 0).bind fun _ _ h => call.numberOf_lockstep h
  booleanArg := (operands.arg_lockstep 0).bind fun _ _ h =>
    (call.booleanOf_lockstep h).bind fun b _ h => h ▸ .pure rfl

/-- A text that is read as a date or an instant: unset is refused, and so is the empty text. -/
theorem parse_lockstep (expected : Kind)
    {make : String → Formats → Option Pattern → Except EvalCause Value}
    (hempty : ∀ formats pattern, ∃ cause, make "" formats pattern = .error cause) :
    Lockstep env filled Eq (do call.parse (make (← call.temporalText expected)))
      (do call.parse (make (← call.temporalText expected))) := by
  unfold temporalText
  rw [bind_assoc]
  refine operands.rawSubject_lockstep.bind fun subject other h => ?_
  cases h with
  | same =>
    refine Lockstep.congruence.bind ?_ fun text =>
      operands.arguments_lockstep.parse Lockstep.congruence _
    split
    · exact .failing (.fail _ _) (.fail _ _)
    · exact (call.coerceSubject_lockstep (.same subject)).bind fun _ _ h => .pure h.text_eq.symm
  | empty =>
    -- unset is refused at once, and the empty text when it has been read
    refine .failing ((Fails.fail _ _).bind _) ?_
    change Fails _ ((call.coerceSubject (.string "") >>= fun value => pure value.text) >>= _)
    rw [bind_assoc]
    refine .bind_right fun state value after h => ?_
    obtain rfl := coerceSubject_empty h
    rw [pure_bind]
    exact .bind_right fun _ _ _ _ => .read (.ofExcept (hempty _ _))

theorem write_lockstep :
    Lockstep env filled Eq (do call.write (← call.subjectValue))
      (do call.write (← call.subjectValue)) := by
  refine operands.subjectValue_lockstep.bind fun subject other h => ?_
  cases h with
  | same => exact operands.arguments_lockstep.write Lockstep.congruence subject
  | empty =>
    exact .failing (.bind_right fun _ _ _ _ => .fail _ _) (.bind_right fun _ _ _ _ => .fail _ _)

theorem onNullable_lockstep (hfamily : call.function.family = .nullable)
    (hunaware : call.function.isNullAware = false) {subject other : Value}
    (h : subject.Filled other) :
    Lockstep env filled Eq (call.onNullable subject) (call.onNullable other) := by
  unfold onNullable
  rcases Function.eq_of_nullable hfamily hunaware with hf | hf
  · rw [hf]
    dsimp only
    rw [h.isBlank_eq]
    exact .pure rfl
  · rw [hf]
    dsimp only [textOr]
    rw [h.isBlank_eq, h.text_eq]
    split
    · exact Lockstep.congruence.bind (operands.arguments_lockstep.textArg 0) fun text => .pure rfl
    · exact .pure rfl

/-- A call whose function does not tell unset from empty subjects goes side by side with itself when
its operands do. -/
theorem value_lockstep (hunaware : call.function.isNullAware = false) :
    Lockstep env filled Value.Filled call.value call.value := by
  have congr : Eval.Congruence (fun _ _ => True) fun x y => Lockstep env filled Eq x y :=
    Lockstep.congruence
  have arguments := operands.arguments_lockstep
  unfold ActiveCall.value
  split
  · exact operands.arg_lockstep 0
  · exact (congr.settings (fun _ _ _ hc => by rw [hc]) (fun _ _ _ hc => by rw [hc])
      fun _ => congr.pure _).filled_of_eq
  · have htext : Lockstep env filled Eq call.subjectText call.subjectText :=
      operands.subjectValue_lockstep.bind fun _ _ h => .pure h.text_eq.symm
    exact (congr.bind htext fun subject => arguments.onText congr subject).filled_of_eq
  · next hfamily =>
    exact operands.rawSubject_lockstep.bind fun _ _ h =>
      (operands.onNullable_lockstep hfamily hunaware h).filled_of_eq
  · refine operands.subjectValue_lockstep.bind fun _ _ h => Lockstep.filled_of_eq ?_
    exact congr.bind (call.numberOf_lockstep h) fun subject => arguments.onNumber congr subject
  · refine operands.subjectValue_lockstep.bind fun _ _ h => Lockstep.filled_of_eq ?_
    exact congr.bind (call.booleanOf_lockstep h) fun subject => arguments.onBoolean congr subject
  · rw [toDateValue_eq, toInstantValue_eq, formatValue_eq]
    apply Lockstep.filled_of_eq
    split
    · exact operands.parse_lockstep .date fun formats pattern =>
        ⟨_, by rw [dateOf, formats.readDate?_empty]⟩
    · exact operands.parse_lockstep .instant fun formats pattern =>
        ⟨_, by rw [instantOf, formats.readInstant?_empty]⟩
    · exact operands.write_lockstep
  · exact .failing (.fail _ _) (.fail _ _)

end Operands

end ActiveCall

/-- Whether a source lists the attributes that there are. -/
def CandidateSource.isMatching {α : Type} : CandidateSource α → Bool
  | .matching _ => true
  | .named _ | .delineated _ _ => false

/-- Folds that tell unset values from empty ones. -/
def Fold.isNullAware {α : Type} : Fold α → Bool
  | .join _ | .count => true
  | .any | .all => false

/-- Whether an accumulator takes truth values and nothing else. -/
def Accumulator.TakesTruth (acc : Accumulator) : Prop := acc = .any ∨ acc = .all

/-- Accumulators that took in the same: the result is known to both, or both go on alike. -/
inductive Accumulator.Pushed : Value ⊕ Accumulator → Value ⊕ Accumulator → Prop
  | known (result : Value) : Pushed (.inl result) (.inl result)
  | onward {acc : Accumulator} (h : acc.TakesTruth) : Pushed (.inr acc) (.inr acc)

namespace Eval.Lockstep

variable {env : Environment} {filled : Attributes}

theorem push (token : String) {value other : Value} (h : value.Filled other) {acc : Accumulator}
    (hacc : acc.TakesTruth) :
    Lockstep env filled Accumulator.Pushed (acc.push token value) (acc.push token other) := by
  cases h with
  | empty => rcases hacc with rfl | rfl <;> exact failing (.fail _ _) (.fail _ _)
  | same =>
    cases value with
    | boolean b =>
      rcases hacc with rfl | rfl
      · cases b
        · exact pure (.onward (.inl rfl))
        · exact pure (.known _)
      · cases b
        · exact pure (.known _)
        · exact pure (.onward (.inr rfl))
    | unset | string | number | date | instant =>
      rcases hacc with rfl | rfl <;> exact failing (.fail _ _) (.fail _ _)

/-- A loop goes side by side with itself when its body does, as unset and the empty text are no
truth values. -/
theorem drive {token : String} {slot : Nat} {body : Eval Value} {pending : (Nat → Nat) → Nat}
    (hbody : Lockstep env filled Value.Filled body body) (fuel : Nat) {acc : Accumulator}
    (hacc : acc.TakesTruth) :
    Lockstep env filled Eq (drive token slot body pending fuel acc)
      (drive token slot body pending fuel acc) := by
  induction fuel generalizing acc with
  | zero => exact pure rfl
  | succ fuel ih =>
    rw [drive_round]
    have hround := hbody.bind fun _ _ h => (modify fun state : State =>
      { state with iterations := state.iterations + 1 }).bind fun _ _ _ => push token h hacc
    refine hround.bind fun pushed pushed' hpushed => ?_
    cases hpushed with
    | known result => exact pure rfl
    | onward hnext =>
      refine get fun state => ?_
      split
      · exact pure rfl
      · refine congruence.bind (advance slot) fun moved => ?_
        split
        · exact ih hnext
        · exact pure rfl

theorem candidates {source : CandidateSource (Eval Value)}
    (h : ∀ x ∈ source.operands, Lockstep env filled Value.Filled x x)
    (hmatching : source.isMatching = false) :
    Lockstep env filled Eq source.candidates source.candidates := by
  cases source with
  | named names => exact pure rfl
  | matching patterns => cases hmatching
  | delineated value delimiter =>
    refine (h value (by simp [CandidateSource.operands])).bind fun _ _ hvalue =>
      (h delimiter (by simp [CandidateSource.operands])).bind fun _ _ hdelimiter => ?_
    rw [hvalue.text_eq, hdelimiter.text_eq]
    exact pure rfl

theorem quantify {token : String} {slot : Nat} {source : CandidateSource (Eval Value)}
    {fold : Fold (Eval Value)} {body : Eval Value} {pending : (Nat → Nat) → Nat}
    (hcandidates : Lockstep env filled Eq source.candidates source.candidates)
    (hfold : fold.isNullAware = false) (hbody : Lockstep env filled Value.Filled body body) :
    Lockstep env filled Eq (quantify token slot source fold body pending)
      (quantify token slot source fold body pending) := by
  obtain ⟨acc, hacc, haccumulator⟩ :
      ∃ acc : Accumulator, acc.TakesTruth ∧ fold.accumulator = Pure.pure acc := by
    cases fold with
    | any => exact ⟨.any, .inl rfl, rfl⟩
    | all => exact ⟨.all, .inr rfl, rfl⟩
    | join | count => cases hfold
  unfold Eval.quantify
  rw [haccumulator]
  refine congruence.bind hcandidates fun candidates => ?_
  rw [pure_bind]
  split
  · exact pure rfl
  · exact congruence.bind (modify _) fun _ => (drive hbody _ hacc).releasing

end Eval.Lockstep

end AttrExpr
