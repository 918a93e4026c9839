import AttrExpr.Proofs.Kinds
import AttrExpr.Proofs.Slots

/-! Well-formed calls and trees: their values are of the kinds that they were compiled for, and they
fail in expected ways only. -/
set_option autoImplicit false

namespace AttrExpr

namespace Eval

variable {α β : Type}

/-- From certain states an evaluation gives a good value or fails in an expected way. -/
def Ensures (env : Environment) (start : State → Prop) (x : Eval α) (good : α → Prop) : Prop :=
  ∀ state, start state →
    match (x env state).1 with
    | .ok a => good a
    | .error error => error.cause.Expected env.formats

/-- From all states an evaluation gives a good value or fails in an expected way. -/
abbrev Always (env : Environment) (x : Eval α) (good : α → Prop) : Prop :=
  Ensures env (fun _ => True) x good

namespace Ensures

variable {env : Environment} {start : State → Prop} {good : α → Prop}

theorem pure {a : α} (h : good a) : Ensures env start (pure a) good := fun _ _ => h

theorem fail {cause : EvalCause} {token : String} (h : cause.Expected env.formats) :
    Ensures env start (fail cause token) good := fun _ _ => h

/-- Only the first step starts in a known state. -/
theorem bind {x : Eval α} {f : α → Eval β} {Q : α → Prop} {good : β → Prop}
    (hx : Ensures env start x Q) (hf : ∀ a, Q a → Always env (f a) good) :
    Ensures env start (x >>= f) good := by
  intro state hs
  have h := hx state hs
  rw [bind_apply]
  rcases hr : x env state with ⟨error | a, after⟩
  · simpa [hr] using h
  · rw [hr] at h
    exact hf a h after trivial

theorem mono {x : Eval α} {weaker : α → Prop} (h : Ensures env start x good)
    (hw : ∀ a, good a → weaker a) : Ensures env start x weaker := by
  intro state hs
  have h := h state hs
  rcases hr : (x env state).1 with error | a
  · simpa [hr] using h
  · rw [hr] at h
    exact hw a h

theorem of_always {x : Eval α} (h : Always env x good) : Ensures env start x good :=
  fun state _ => h state trivial

theorem read {f : Environment → Eval α} (h : Ensures env start (f env) good) :
    Ensures env start (read >>= f) good := fun state hs => h state hs

theorem ofExcept {token : String} {result : Except EvalCause α}
    (hok : ∀ a, result = .ok a → good a)
    (herror : ∀ cause, result = .error cause → cause.Expected env.formats) :
    Ensures env start (ofExcept token result) good := by
  cases result with
  | ok a => exact pure (hok a rfl)
  | error cause => exact fail (herror cause rfl)

/-- As `ofExcept`, for errors that are causes in another form. -/
theorem ofMapped {ε : Type} {token : String} {result : Except ε α} {wrap : ε → EvalCause}
    (hok : ∀ a, result = .ok a → good a)
    (herror : ∀ error, result = .error error → (wrap error).Expected env.formats) :
    Ensures env start (Eval.ofExcept token (result.mapError wrap)) good := by
  cases result with
  | ok a => exact pure (hok a rfl)
  | error error => exact fail (herror error rfl)

/-- A value becomes what an expectation resolved its kind to. -/
theorem coerceTo {token : String} {expected : Expectation} {kind : Kind} {target : Option Kind}
    {value : Value} (hv : value.Fits kind) (hr : expected.resolve? kind = some target) :
    Ensures env start (coerceTo token target value) expected.Admits := by
  cases target with
  | none =>
    obtain rfl := Expectation.resolve?_none hr
    exact pure trivial
  | some target =>
    obtain ⟨hk, hadmits⟩ := Expectation.resolve?_some hr
    exact read (ofMapped (fun result h => hadmits result (Value.coerce_is h))
      fun error h => Value.coerce_error hv hk h)

end Ensures

end Eval

open Eval (Ensures Always)

/-- An operand whose kind an expectation accepts, with the target that it asks for. -/
def Operand.Meets (env : Environment) (start : State → Prop) (expected : Expectation)
    (operand : Operand) : Prop :=
  ∃ kind, expected.resolve? kind = some operand.target ∧
    Ensures env start operand.action fun value => value.Fits kind

theorem Operand.Meets.value {env : Environment} {start : State → Prop} {expected : Expectation}
    {operand : Operand} (h : operand.Meets env start expected) :
    Ensures env start operand.value expected.Admits := by
  obtain ⟨kind, hr, ha⟩ := h
  exact ha.bind fun value hv => .coerceTo hv hr

/-- A call with the operands that the signature of its function asks for. Its subject is evaluated
first. -/
structure ActiveCall.WellFormed (env : Environment) (start : State → Prop) (call : ActiveCall) :
    Prop where
  subject : ∀ expected, call.function.signature.subject = some expected →
    ∃ operand, call.subject = some operand ∧ operand.Meets env start expected
  count : call.function.signature.accepts call.args.length = true
  args : ∀ (i : Nat) (operand : Operand), call.args[i]? = some operand →
    operand.Meets env (fun _ => True) (call.function.signature.param i)

/-- A value of the kind that a function gives. -/
def ActiveCall.Returns (call : ActiveCall) (value : Value) : Prop :=
  ∃ kind, call.function.signature.returns = some kind ∧ value.Is kind

namespace ActiveCall.WellFormed

variable {env : Environment} {start : State → Prop} {call : ActiveCall}
  (wf : call.WellFormed env start)
include wf

theorem arg (i : Nat) : Always env (call.arg i) fun value =>
    i < call.args.length → (call.function.signature.param i).Admits value := by
  unfold ActiveCall.arg
  split
  · next operand h => exact (wf.args i operand h).value.mono fun value hv _ => hv
  · next h => exact .pure fun hi => absurd hi (by simpa using h)

theorem textArg (i : Nat) : Always env (call.textArg i) fun _ => True :=
  (wf.arg i).bind fun _ _ => .pure trivial

theorem optionalTextArg (i : Nat) : Always env (call.optionalTextArg i) fun _ => True := by
  unfold ActiveCall.optionalTextArg
  split
  · exact (wf.textArg i).bind fun _ _ => .pure trivial
  · exact .pure trivial

theorem args_pos (h : 0 < call.function.signature.minArgs) : 0 < call.args.length := by
  have hc := wf.count
  simp only [Signature.accepts, Bool.and_eq_true, decide_eq_true_eq] at hc
  exact Nat.lt_of_lt_of_le h hc.1

/-- A whole argument that is there is a whole number. -/
theorem wholeArg {i : Nat} (hi : i < call.args.length)
    (hp : call.function.signature.param i = .kind .whole) :
    Always env (call.wholeArg i) fun _ => True := by
  refine (wf.arg i).bind fun value hv => ?_
  have hv := hv hi
  rw [hp] at hv
  obtain ⟨k, rfl⟩ := Value.Is.whole hv
  exact .pure trivial

theorem patternValue : Always env call.patternValue fun _ => True := by
  unfold ActiveCall.patternValue
  split
  · exact .pure trivial
  · exact (wf.textArg 0).bind fun text _ => .ofMapped (fun _ _ => trivial) fun error _ =>
      .ofCode .invalidComputedPattern rfl (by decide) (by decide)

/-- The subject as it is. It becomes what is expected of it. -/
theorem rawSubject {expected : Expectation}
    (hs : call.function.signature.subject = some expected) :
    Ensures env start call.rawSubject fun value =>
      Always env (call.coerceSubject value) expected.Admits := by
  obtain ⟨operand, ho, kind, hr, ha⟩ := wf.subject expected hs
  unfold ActiveCall.rawSubject
  rw [ho]
  refine ha.mono fun value hv => ?_
  unfold ActiveCall.coerceSubject
  rw [ho]
  exact .coerceTo hv hr

theorem subjectValue {expected : Expectation}
    (hs : call.function.signature.subject = some expected) :
    Ensures env start call.subjectValue expected.Admits :=
  (wf.rawSubject hs).bind fun _ h => h

omit wf in
theorem returns_string (h : call.function.signature.returns = some .string) (text : String) :
    Always env (pure (.string text)) call.Returns :=
  .pure ⟨.string, h, Value.is_string text⟩

omit wf in
theorem returns_boolean (h : call.function.signature.returns = some .boolean) (b : Bool) :
    Always env (pure (.boolean b)) call.Returns :=
  .pure ⟨.boolean, h, Value.is_boolean b⟩

omit wf in
theorem returns_number (h : call.function.signature.returns = some .number) (n : Number) :
    Always env (pure (.number n)) call.Returns :=
  .pure ⟨.number, h, Value.is_number n⟩

omit wf in
theorem returns_whole (h : call.function.signature.returns = some .whole) (n : Int) :
    Always env (pure (wholeValue n)) call.Returns :=
  .pure ⟨.whole, h, Value.is_whole _⟩

omit wf in
theorem substring_error {cs : List Char} {first : Int64} {stop : Option Int64} {cause : EvalCause}
    (h : AttrExpr.substring cs first stop = .error cause) : cause.code = .arithmetic := by
  unfold AttrExpr.substring at h
  split at h
  · cases h
    rfl
  · split at h
    · cases h
    · split at h
      · split at h <;> cases h
        rfl
      · cases h
        rfl

theorem fill (hi : 0 < call.args.length)
    (hp : call.function.signature.param 0 = .kind .whole) (cs : List Char) :
    Always env (call.fill cs) fun _ => True := by
  refine (wf.wholeArg hi hp).bind fun width _ => (wf.optionalTextArg 1).bind fun pad _ =>
    .ofExcept (fun _ _ => trivial) fun cause h => .ofCode .arithmetic ?_ (by decide) (by decide)
  unfold padding at h
  split at h <;> cases h
  rfl

theorem cut (cs : List Char) (find : List Char → List Char → Option (List Char × List Char)) :
    Always env (call.cut cs find) fun _ => True :=
  (wf.textArg 0).bind fun _ _ => .pure trivial

theorem texts (count index : Nat) : Always env (call.texts count index) fun _ => True := by
  induction count generalizing index with
  | zero => exact .pure trivial
  | succ count ih =>
    exact (wf.textArg index).bind fun text _ => (ih (index + 1)).bind fun rest _ => .pure trivial

theorem onText (hf : call.function.family = .text) (subject : String) :
    Always env (call.onText subject) call.Returns := by
  unfold ActiveCall.onText
  split
  case h_1 hc | h_2 hc | h_3 hc => exact returns_string (by rw [hc]; rfl) _
  case h_4 hc => exact returns_whole (by rw [hc]; rfl) _
  case h_5 hc =>
    have part (start : Int64) (stop : Option Int64) :
        Always env (do
          pure (textValue (← Eval.ofExcept call.token
            (AttrExpr.substring subject.toList start stop)))) call.Returns :=
      .bind (Q := fun _ => True)
        (.ofExcept (fun _ _ => trivial) fun cause h =>
          .ofCode .arithmetic (substring_error h) (by decide) (by decide))
        fun cs _ => returns_string (by rw [hc]; rfl) _
    have hfirst := wf.args_pos (by rw [hc]; decide)
    refine (wf.wholeArg hfirst (by rw [hc]; rfl)).bind fun start _ => ?_
    split
    · next hsecond =>
      refine .bind (Q := fun _ => True) ?_ fun stop _ => part start stop
      rw [← bind_pure_comp]
      exact (wf.wholeArg hsecond (by rw [hc]; rfl)).bind fun stop _ => .pure trivial
    · exact .bind (Q := fun _ => True) (.pure trivial) fun stop _ => part start stop
  case h_6 hc | h_7 hc | h_8 hc | h_9 hc =>
    exact (wf.cut _ _).bind fun found _ => returns_string (by rw [hc]; rfl) _
  case h_10 hc | h_11 hc =>
    exact (wf.textArg 0).bind fun other _ => returns_string (by rw [hc]; rfl) _
  case h_12 hc =>
    exact (wf.textArg 0).bind fun search _ => (wf.textArg 1).bind fun replacement _ =>
      returns_string (by rw [hc]; rfl) _
  case h_13 hc | h_14 hc =>
    exact wf.patternValue.bind fun regex _ => (wf.textArg 1).bind fun replacement _ =>
      returns_string (by rw [hc]; rfl) _
  case h_15 hc | h_16 hc =>
    have hfirst := wf.args_pos (by rw [hc]; decide)
    exact (wf.fill hfirst (by rw [hc]; rfl) _).bind fun filling _ =>
      returns_string (by rw [hc]; rfl) _
  case h_17 hc | h_18 hc =>
    refine (wf.cut _ _).bind fun found _ => ?_
    cases found with
    | none => exact returns_whole (by rw [hc]; rfl) _
    | some parts => exact returns_whole (by rw [hc]; rfl) _
  case h_19 hc | h_20 hc =>
    exact (wf.textArg 0).bind fun other _ => returns_boolean (by rw [hc]; rfl) _
  case h_21 hc => exact (wf.cut _ _).bind fun found _ => returns_boolean (by rw [hc]; rfl) _
  case h_22 hc | h_23 hc =>
    exact wf.patternValue.bind fun regex _ => returns_boolean (by rw [hc]; rfl) _
  case h_24 =>
    have hc : call.function = .isIn := by
      cases hc : call.function <;> simp_all [Function.family]
    exact (wf.texts _ 0).bind fun others _ => returns_boolean (by rw [hc]; rfl) _

theorem onNullable (hf : call.function.family = .nullable) (subject : Value) :
    Always env (call.onNullable subject) call.Returns := by
  have textOr (replaced : Bool) (h : call.function.signature.returns = some .string) :
      Always env (call.textOr subject replaced) call.Returns := by
    unfold ActiveCall.textOr
    split
    · exact (wf.textArg 0).bind fun text _ => returns_string h _
    · exact returns_string h _
  unfold ActiveCall.onNullable
  split
  case h_1 hc | h_2 hc | h_3 hc => exact returns_boolean (by rw [hc]; rfl) _
  case h_4 hc | h_5 hc => exact textOr _ (by rw [hc]; rfl)
  case h_6 hc => exact (wf.arg 0).bind fun other _ => returns_boolean (by rw [hc]; rfl) _
  case h_7 =>
    have hc : call.function = .equalsIgnoreCase := by
      cases hc : call.function <;> simp_all [Function.family]
    exact (wf.arg 0).bind fun other _ => returns_boolean (by rw [hc]; rfl) _

theorem numberArg (hmin : 0 < call.function.signature.minArgs)
    (hp : call.function.signature.param 0 = .kind .number) :
    Always env call.numberArg fun _ => True := by
  refine (wf.arg 0).bind fun value hv => ?_
  have hv := hv (wf.args_pos hmin)
  rw [hp] at hv
  obtain ⟨n, rfl⟩ := Value.Is.number hv (.inl rfl)
  exact .pure trivial

theorem onNumber (hf : call.function.family = .numeric) (subject : Number) :
    Always env (call.onNumber subject) call.Returns := by
  have operation (symbol : String) (compute : Number → Number → Except ArithmeticError Number)
      (hmin : 0 < call.function.signature.minArgs)
      (hp : call.function.signature.param 0 = .kind .number)
      (hr : call.function.signature.returns = some .number) :
      Always env (call.operation symbol compute subject) call.Returns :=
    (wf.numberArg hmin hp).bind fun other _ => .bind (Q := fun _ => True)
      (.ofMapped (fun _ _ => trivial) fun error _ =>
        .ofCode .arithmetic rfl (by decide) (by decide))
      fun result _ => returns_number hr result
  have comparison (orders : List Ordering) (hmin : 0 < call.function.signature.minArgs)
      (hp : call.function.signature.param 0 = .kind .number)
      (hr : call.function.signature.returns = some .boolean) :
      Always env (call.comparison orders subject) call.Returns :=
    (wf.numberArg hmin hp).bind fun other _ => returns_boolean hr _
  unfold ActiveCall.onNumber
  split
  case h_1 hc | h_2 hc | h_3 hc => exact returns_number (by rw [hc]; rfl) _
  case h_4 hc | h_5 hc | h_6 hc | h_7 hc | h_8 hc =>
    exact operation _ _ (by rw [hc]; decide) (by rw [hc]; rfl) (by rw [hc]; rfl)
  case h_9 hc | h_10 hc | h_11 hc =>
    exact comparison _ (by rw [hc]; decide) (by rw [hc]; rfl) (by rw [hc]; rfl)
  case h_12 =>
    have hc : call.function = .le := by
      cases hc : call.function <;> simp_all [Function.family]
    exact comparison _ (by rw [hc]; decide) (by rw [hc]; rfl) (by rw [hc]; rfl)

theorem booleanArg (hmin : 0 < call.function.signature.minArgs)
    (hp : call.function.signature.param 0 = .kind .boolean)
    (hr : call.function.signature.returns = some .boolean) :
    Always env call.booleanArg call.Returns := by
  refine (wf.arg 0).bind fun value hv => ?_
  have hv := hv (wf.args_pos hmin)
  rw [hp] at hv
  obtain ⟨b, rfl⟩ := Value.Is.boolean hv
  exact returns_boolean hr b

theorem onBoolean (hf : call.function.family = .logical) (subject : Bool) :
    Always env (call.onBoolean subject) call.Returns := by
  unfold ActiveCall.onBoolean
  split
  case h_1 hc => exact returns_boolean (by rw [hc]; rfl) _
  case h_2 hc =>
    split
    · exact wf.booleanArg (by rw [hc]; decide) (by rw [hc]; rfl) (by rw [hc]; rfl)
    · exact returns_boolean (by rw [hc]; rfl) _
  case h_3 hc =>
    split
    · exact returns_boolean (by rw [hc]; rfl) _
    · exact wf.booleanArg (by rw [hc]; decide) (by rw [hc]; rfl) (by rw [hc]; rfl)
  case h_4 =>
    have hc : call.function = .ifElse := by
      cases hc : call.function <;> simp_all [Function.family]
    exact (wf.textArg _).bind fun text _ => returns_string (by rw [hc]; rfl) _

theorem temporalText {expected : Expectation}
    (hs : call.function.signature.subject = some expected) (kind : Kind) :
    Ensures env start (call.temporalText kind) fun _ => True := by
  refine (wf.rawSubject hs).bind fun subject hcoerce => ?_
  split
  · exact .fail (.ofCode .unsetValue rfl (by decide) (by decide))
  · exact hcoerce.bind fun value _ => .pure trivial

theorem toDateValue (hc : call.function = .toDate) :
    Ensures env start call.toDateValue call.Returns := by
  refine (wf.temporalText (by rw [hc]; rfl) .date).bind fun text _ =>
    (wf.optionalTextArg 0).bind fun pattern _ => .read ?_
  dsimp only
  split
  · exact .pure ⟨.date, by rw [hc]; rfl, .inl rfl⟩
  · exact .fail (.ofCode .malformedLiteral rfl (by decide) (by decide))

theorem toInstantValue (hc : call.function = .toInstant) :
    Ensures env start call.toInstantValue call.Returns := by
  refine (wf.temporalText (by rw [hc]; rfl) .instant).bind fun text _ =>
    (wf.optionalTextArg 0).bind fun pattern _ => .read ?_
  dsimp only
  split
  · exact .pure ⟨.instant, by rw [hc]; rfl, .inl rfl⟩
  · exact .fail (.ofCode .malformedLiteral rfl (by decide) (by decide))

theorem formatValue (hc : call.function = .format) :
    Ensures env start call.formatValue call.Returns := by
  have hs : call.function.signature.subject = some (.oneOf [.instant, .date]) := by rw [hc]; rfl
  refine (wf.subjectValue hs).bind fun subject hsubject =>
    (wf.textArg 0).bind fun pattern _ => ?_
  obtain ⟨kind, hk, his⟩ := hsubject
  have hk : kind = .date ∨ kind = .instant := by simpa [or_comm] using hk
  rcases his.moment hk with ⟨date, rfl⟩ | ⟨instant, rfl⟩
  all_goals
    dsimp only
    split
    · exact returns_string (by rw [hc]; rfl) _
    · exact .fail (.ofCode .malformedLiteral rfl (by decide) (by decide))

/-- A well-formed call gives a value of the kind of its function. -/
theorem value (hl : call.function.family ≠ .lowered) (ha : call.function.family ≠ .literal) :
    Ensures env start call.value call.Returns := by
  unfold ActiveCall.value
  split
  · next hf => exact absurd hf ha
  · next hf =>
    have hc : call.function = .now := by
      cases hc : call.function <;> simp_all [Function.family]
    exact .read (.pure ⟨.instant, by rw [hc]; rfl, .inl rfl⟩)
  · next hf =>
    have hs : call.function.signature.subject = some (.kind .string) := by
      cases hc : call.function <;> rw [hc] at hf <;> cases hf <;> rfl
    exact (Ensures.bind (wf.subjectValue hs) fun _ _ => .pure trivial).bind
      (Q := fun _ => True) fun subject _ => wf.onText hf subject
  · next hf =>
    obtain ⟨expected, hs⟩ : ∃ expected, call.function.signature.subject = some expected := by
      cases hc : call.function <;> rw [hc] at hf <;> cases hf <;> exact ⟨_, rfl⟩
    exact (wf.rawSubject hs).bind fun subject _ => wf.onNullable hf subject
  · next hf =>
    have hs : call.function.signature.subject = some (.kind .number) := by
      cases hc : call.function <;> rw [hc] at hf <;> cases hf <;> rfl
    refine (wf.subjectValue hs).bind fun value hv => ?_
    obtain ⟨n, rfl⟩ := Value.Is.number hv (.inl rfl)
    exact Ensures.bind (Q := fun _ => True) (.pure trivial) fun subject _ =>
      wf.onNumber hf subject
  · next hf =>
    have hs : call.function.signature.subject = some (.kind .boolean) := by
      cases hc : call.function <;> rw [hc] at hf <;> cases hf <;> rfl
    refine (wf.subjectValue hs).bind fun value hv => ?_
    obtain ⟨b, rfl⟩ := Value.Is.boolean hv
    exact Ensures.bind (Q := fun _ => True) (.pure trivial) fun subject _ =>
      wf.onBoolean hf subject
  · next hf =>
    split
    · next hc => exact wf.toDateValue hc
    · next hc => exact wf.toInstantValue hc
    · have hc : call.function = .format := by
        cases hc : call.function <;> simp_all [Function.family]
      exact wf.formatValue hc
  · next hf => exact absurd hf hl

end ActiveCall.WellFormed

end AttrExpr
