import AttrExpr.Evaluation.Node
import Mathlib.Data.List.Forall2

/-! Relations between evaluations that sequences of steps keep. Calls whose operands are related are
related themselves, whatever their function does with them, and likewise quantifiers. -/
set_option autoImplicit false

namespace AttrExpr

namespace Eval

variable {α β : Type}

@[simp] theorem pure_apply (a : α) (env : Environment) (state : State) :
    (pure a : Eval α) env state = (.ok a, state) := rfl

theorem bind_apply (x : Eval α) (f : α → Eval β) (env : Environment) (state : State) :
    (x >>= f) env state =
      match x env state with
      | (.ok a, after) => f a env after
      | (.error error, after) => (.error error, after) := by
  change ExceptT.bindCont (m := StateM State) (fun a => f a env) (x env state).1 (x env state).2 = _
  rcases x env state with ⟨error | a, after⟩
  · rfl
  · rfl

theorem map_apply (f : α → β) (x : Eval α) (env : Environment) (state : State) :
    (f <$> x) env state = ((x env state).1.map f, (x env state).2) := by
  rw [← bind_pure_comp, bind_apply]
  rcases x env state with ⟨error | a, after⟩
  · rfl
  · rfl

theorem modify_bind_apply (change : State → State) (f : Unit → Eval β) (env : Environment)
    (state : State) : ((modify change : Eval Unit) >>= f) env state = f () env (change state) := rfl

theorem get_bind_apply (f : State → Eval β) (env : Environment) (state : State) :
    ((get : Eval State) >>= f) env state = f state env state := rfl

theorem read_bind_apply (f : Environment → Eval β) (env : Environment) (state : State) :
    ((read : Eval Environment) >>= f) env state = f env env state := rfl

theorem releasing_apply (slot : Nat) (x : Eval α) (env : Environment) (state : State) :
    releasing slot x env state = ((x env state).1, (x env state).2.release slot) := rfl

/-- A step that sees the settings of an environment, but not the attributes of its record. -/
def IgnoresAttributes (f : Environment → Eval α) : Prop :=
  ∀ env env' : Environment, env.formats = env'.formats → env.clock = env'.clock → f env = f env'

/-- A relation that holds between single steps, whose failures blame tokens related by `T`, and that
steps one after the other keep. -/
structure Congruence (T : String → String → Prop) (R : ∀ {α : Type}, Eval α → Eval α → Prop) :
    Prop where
  pure : ∀ {α : Type} (a : α), R (pure a : Eval α) (pure a)
  fail : ∀ {α : Type} (cause : EvalCause) {token token' : String}, T token token' →
    R (fail cause token : Eval α) (fail cause token')
  bind : ∀ {α β : Type} {x y : Eval α} {f g : α → Eval β}, R x y → (∀ a, R (f a) (g a)) →
    R (x >>= f) (y >>= g)
  settings : ∀ {α : Type} {f g : Environment → Eval α}, IgnoresAttributes f →
    IgnoresAttributes g → (∀ env, R (f env) (g env)) → R (read >>= f) (read >>= g)

namespace Congruence

variable {T : String → String → Prop} {R : ∀ {α : Type}, Eval α → Eval α → Prop}
variable (congr : Congruence T @R) {token token' : String}
include congr

theorem map {x y : Eval α} (f : α → β) (h : R x y) : R (f <$> x) (f <$> y) := by
  rw [← bind_pure_comp, ← bind_pure_comp]
  exact congr.bind h fun a => congr.pure (f a)

theorem ofExcept (htoken : T token token') (result : Except EvalCause α) :
    R (Eval.ofExcept token result) (Eval.ofExcept token' result) := by
  cases result with
  | ok a => exact congr.pure a
  | error cause => exact congr.fail cause htoken

theorem coerceTo (htoken : T token token') (target : Option Kind) (value : Value) :
    R (Eval.coerceTo token target value) (Eval.coerceTo token' target value) := by
  cases target with
  | none => exact congr.pure value
  | some target =>
    exact congr.settings (fun env env' hf _ => by rw [hf]) (fun env env' hf _ => by rw [hf])
      fun env => congr.ofExcept htoken _

end Congruence

end Eval

/-- Operands with related tokens and evaluations. -/
structure Operand.Alike (T : String → String → Prop) (R : Eval Value → Eval Value → Prop)
    (operand other : Operand) : Prop where
  token : T operand.token other.token
  target : other.target = operand.target
  action : R operand.action other.action

/-- Calls of one function on operands that are alike. -/
structure ActiveCall.Alike (T : String → String → Prop) (R : Eval Value → Eval Value → Prop)
    (call other : ActiveCall) : Prop where
  function : other.function = call.function
  token : T call.token other.token
  subject : Option.Rel (Operand.Alike T R) call.subject other.subject
  args : List.Forall₂ (Operand.Alike T R) call.args other.args
  pattern : other.pattern = call.pattern

theorem forall₂_getElem? {α β : Type} {r : α → β → Prop} {as : List α} {bs : List β}
    (h : List.Forall₂ r as bs) (i : Nat) : Option.Rel r as[i]? bs[i]? := by
  induction h generalizing i with
  | nil => exact .none
  | cons hfirst _ ih =>
    cases i with
    | zero => exact .some hfirst
    | succ i => exact ih i

namespace ActiveCall

/-- Text read as a date, after a pattern if there is one. -/
def dateOf (text : String) (formats : Formats) (pattern : Option Pattern) :
    Except EvalCause Value :=
  match formats.readDate? pattern text with
  | some date => .ok (.date date)
  | none => .error (.malformedDate text (pattern.getD formats.date).text)

/-- Text read as an instant, after a pattern if there is one. -/
def instantOf (text : String) (formats : Formats) (pattern : Option Pattern) :
    Except EvalCause Value :=
  match formats.readInstant? pattern text with
  | some instant => .ok (.instant instant)
  | none => .error (.malformedInstant text (formats.instantPattern pattern))

/-- Reads after the pattern that is the first argument, if there is one. -/
def parse (call : ActiveCall) (make : Formats → Option Pattern → Except EvalCause Value) :
    Eval Value := do
  let pattern := (← call.optionalTextArg 0).map Pattern.mk
  Eval.ofExcept call.token (make (← read).formats pattern)

theorem toDateValue_eq (call : ActiveCall) :
    call.toDateValue = (do call.parse (dateOf (← call.temporalText .date))) := by
  refine bind_congr fun text => bind_congr fun pattern => bind_congr fun env => ?_
  dsimp only [dateOf]
  cases env.formats.readDate? (pattern.map Pattern.mk) text with
  | none => rfl
  | some date => rfl

theorem toInstantValue_eq (call : ActiveCall) :
    call.toInstantValue = (do call.parse (instantOf (← call.temporalText .instant))) := by
  refine bind_congr fun text => bind_congr fun pattern => bind_congr fun env => ?_
  dsimp only [instantOf]
  cases env.formats.readInstant? (pattern.map Pattern.mk) text with
  | none => rfl
  | some instant => rfl

/-- A date or an instant written after the pattern that is the first argument. -/
def write (call : ActiveCall) (subject : Value) : Eval Value := do
  let pattern ← call.textArg 0
  let write (moment : Moment) : Eval Value :=
    match (Pattern.mk pattern).write? moment with
    | some cs => pure (.string (.ofList cs))
    | none => Eval.fail (.malformedFormat pattern subject.text) call.token
  match subject with
  | .date date => write (.ofDate date)
  | .instant instant => write (.ofInstant instant)
  | other => Eval.internal (.notTemporal other) call.token

theorem formatValue_eq (call : ActiveCall) :
    call.formatValue = (do call.write (← call.subjectValue)) := rfl

end ActiveCall

namespace Eval.Congruence

variable {T : String → String → Prop} {R : ∀ {α : Type}, Eval α → Eval α → Prop}
variable (congr : Congruence T @R) {call other : ActiveCall} (htoken : T call.token other.token)
include congr htoken

theorem numberOf (value : Value) : R (call.numberOf value) (other.numberOf value) := by
  unfold ActiveCall.numberOf
  split
  · exact congr.pure _
  · exact congr.fail _ htoken

theorem booleanOf (value : Value) : R (call.booleanOf value) (other.booleanOf value) := by
  unfold ActiveCall.booleanOf
  split
  · exact congr.pure _
  · exact congr.fail _ htoken

end Eval.Congruence

/-- Calls of one function to which their arguments give the same, in whatever kind they are read. -/
structure ActiveCall.ArgumentsAlike (T : String → String → Prop)
    (R : ∀ {α : Type}, Eval α → Eval α → Prop) (call other : ActiveCall) : Prop where
  function : other.function = call.function
  token : T call.token other.token
  pattern : other.pattern = call.pattern
  length_args : other.args.length = call.args.length
  textArg : ∀ index, R (call.textArg index) (other.textArg index)
  wholeArg : ∀ index, R (call.wholeArg index) (other.wholeArg index)
  numberArg : R call.numberArg other.numberArg
  booleanArg : R call.booleanArg other.booleanArg

namespace ActiveCall.ArgumentsAlike

open Eval (Congruence)

variable {T : String → String → Prop} {R : ∀ {α : Type}, Eval α → Eval α → Prop}
variable (congr : Congruence T @R) {call other : ActiveCall}
variable (alike : call.ArgumentsAlike T @R other)
include congr alike

theorem optionalTextArg (index : Nat) :
    R (call.optionalTextArg index) (other.optionalTextArg index) := by
  unfold ActiveCall.optionalTextArg
  rw [alike.length_args]
  split
  · exact congr.bind (alike.textArg index) fun text => congr.pure (some text)
  · exact congr.pure none

theorem patternValue : R call.patternValue other.patternValue := by
  unfold ActiveCall.patternValue
  rw [alike.pattern, alike.function]
  split
  · exact congr.pure _
  · exact congr.bind (alike.textArg 0) fun text => congr.ofExcept alike.token _

theorem texts (count index : Nat) : R (call.texts count index) (other.texts count index) := by
  induction count generalizing index with
  | zero => exact congr.pure []
  | succ count ih =>
    exact congr.bind (alike.textArg index) fun text =>
      congr.bind (ih (index + 1)) fun rest => congr.pure (text :: rest)

theorem fill (cs : List Char) : R (call.fill cs) (other.fill cs) :=
  congr.bind (alike.wholeArg 0) fun _ =>
    congr.bind (alike.optionalTextArg congr 1) fun _ => congr.ofExcept alike.token _

theorem cut (cs : List Char) (find : List Char → List Char → Option (List Char × List Char)) :
    R (call.cut cs find) (other.cut cs find) :=
  congr.bind (alike.textArg 0) fun _ => congr.pure _

theorem onText (subject : String) : R (call.onText subject) (other.onText subject) := by
  have text := alike.textArg
  have whole := alike.wholeArg
  have cut := alike.cut congr subject.toList
  have fill := alike.fill congr subject.toList
  have pattern := alike.patternValue congr
  unfold ActiveCall.onText
  rw [alike.function, alike.length_args]
  split
  case h_1 | h_2 | h_3 | h_4 => exact congr.pure _
  case h_5 =>
    have part (start : Int64) (stop : Option Int64) :
        R (do
          pure (textValue (← Eval.ofExcept call.token (substring subject.toList start stop))))
          (do
            pure (textValue (← Eval.ofExcept other.token (substring subject.toList start stop)))) :=
      congr.bind (congr.ofExcept alike.token _) fun part => congr.pure _
    refine congr.bind (whole 0) fun start => ?_
    split
    · exact congr.bind (congr.map some (whole 1)) fun stop => part start stop
    · exact congr.bind (congr.pure none) fun stop => part start stop
  case h_6 | h_7 | h_8 | h_9 | h_17 | h_18 | h_21 =>
    exact congr.bind (cut _) fun found => congr.pure _
  case h_10 | h_11 | h_19 | h_20 => exact congr.bind (text 0) fun other => congr.pure _
  case h_12 =>
    exact congr.bind (text 0) fun search => congr.bind (text 1) fun replacement => congr.pure _
  case h_13 | h_14 =>
    exact congr.bind pattern fun regex => congr.bind (text 1) fun replacement => congr.pure _
  case h_15 | h_16 => exact congr.bind fill fun filling => congr.pure _
  case h_22 | h_23 => exact congr.bind pattern fun regex => congr.pure _
  case h_24 => exact congr.bind (alike.texts congr _ 0) fun others => congr.pure _

theorem onNumber (subject : Number) : R (call.onNumber subject) (other.onNumber subject) := by
  have operation (symbol : String) (compute : Number → Number → Except ArithmeticError Number) :
      R (call.operation symbol compute subject) (other.operation symbol compute subject) :=
    congr.bind alike.numberArg fun _ =>
      congr.bind (congr.ofExcept alike.token _) fun _ => congr.pure _
  have comparison (orders : List Ordering) :
      R (call.comparison orders subject) (other.comparison orders subject) :=
    congr.bind alike.numberArg fun _ => congr.pure _
  unfold ActiveCall.onNumber
  rw [alike.function]
  split
  case h_1 | h_2 | h_3 => exact congr.pure _
  case h_4 | h_5 | h_6 | h_7 | h_8 => exact operation _ _
  case h_9 | h_10 | h_11 | h_12 => exact comparison _

theorem onBoolean (subject : Bool) : R (call.onBoolean subject) (other.onBoolean subject) := by
  unfold ActiveCall.onBoolean
  rw [alike.function]
  split
  · exact congr.pure _
  · split
    · exact alike.booleanArg
    · exact congr.pure _
  · split
    · exact congr.pure _
    · exact alike.booleanArg
  · exact congr.bind (alike.textArg _) fun text => congr.pure _

theorem parse (make : Formats → Option Pattern → Except EvalCause Value) :
    R (call.parse make) (other.parse make) :=
  congr.bind (alike.optionalTextArg congr 0) fun _ =>
    congr.settings (fun _ _ hf _ => by rw [hf]) (fun _ _ hf _ => by rw [hf]) fun _ =>
      congr.ofExcept alike.token _

theorem write (subject : Value) : R (call.write subject) (other.write subject) := by
  refine congr.bind (alike.textArg 0) fun pattern => ?_
  dsimp only
  split
  case h_1 | h_2 =>
    split
    · exact congr.pure _
    · exact congr.fail _ alike.token
  case h_3 => exact congr.fail _ alike.token

end ActiveCall.ArgumentsAlike

namespace ActiveCall.Alike

open Eval (Congruence)

variable {T : String → String → Prop} {R : ∀ {α : Type}, Eval α → Eval α → Prop}
variable (congr : Congruence T @R) {call other : ActiveCall} (alike : call.Alike T R other)
include congr alike

theorem rawSubject : R call.rawSubject other.rawSubject := by
  have hsubject := alike.subject
  unfold ActiveCall.rawSubject
  rw [alike.function]
  generalize call.subject = subject, other.subject = subject' at hsubject
  cases hsubject with
  | some h => exact h.action
  | none => exact congr.fail _ alike.token

theorem coerceSubject (value : Value) :
    R (call.coerceSubject value) (other.coerceSubject value) := by
  have hsubject := alike.subject
  unfold ActiveCall.coerceSubject
  generalize call.subject = subject, other.subject = subject' at hsubject
  cases hsubject with
  | some h =>
    dsimp only
    rw [h.target]
    exact congr.coerceTo h.token _ value
  | none => exact congr.pure value

theorem subjectValue : R call.subjectValue other.subjectValue :=
  congr.bind (alike.rawSubject congr) fun value => alike.coerceSubject congr value

theorem subjectText : R call.subjectText other.subjectText :=
  congr.bind (alike.subjectValue congr) fun value => congr.pure value.text

theorem arg (index : Nat) : R (call.arg index) (other.arg index) := by
  have harg := forall₂_getElem? alike.args index
  unfold ActiveCall.arg
  generalize call.args[index]? = operand, other.args[index]? = operand' at harg
  cases harg with
  | some h =>
    refine congr.bind h.action fun value => ?_
    rw [h.target]
    exact congr.coerceTo h.token _ value
  | none => exact congr.pure _

theorem textArg (index : Nat) : R (call.textArg index) (other.textArg index) :=
  congr.bind (alike.arg congr index) fun value => congr.pure value.text

theorem arguments : call.ArgumentsAlike T @R other where
  function := alike.function
  token := alike.token
  pattern := alike.pattern
  length_args := alike.args.length_eq.symm
  textArg index := alike.textArg congr index
  wholeArg index := by
    refine congr.bind (alike.arg congr index) fun value => ?_
    split
    · exact congr.pure _
    · exact congr.fail _ alike.token
  numberArg := congr.bind (alike.arg congr 0) fun value => congr.numberOf alike.token value
  booleanArg := congr.bind (alike.arg congr 0) fun value =>
    congr.bind (congr.booleanOf alike.token value) fun b => congr.pure _

theorem onNullable (subject : Value) : R (call.onNullable subject) (other.onNullable subject) := by
  have textOr (replaced : Bool) :
      R (call.textOr subject replaced) (other.textOr subject replaced) := by
    unfold ActiveCall.textOr
    split
    · exact congr.bind (alike.textArg congr 0) fun text => congr.pure _
    · exact congr.pure _
  unfold ActiveCall.onNullable
  rw [alike.function]
  split
  case h_1 | h_2 | h_3 => exact congr.pure _
  case h_4 | h_5 => exact textOr _
  case h_6 | h_7 => exact congr.bind (alike.arg congr 0) fun other => congr.pure _

omit congr in
theorem subjectToken : T call.subjectToken other.subjectToken := by
  have hsubject := alike.subject
  unfold ActiveCall.subjectToken
  generalize call.subject = subject, other.subject = subject' at hsubject
  cases hsubject with
  | some h => exact h.token
  | none => exact alike.token

theorem temporalText (expected : Kind) :
    R (call.temporalText expected) (other.temporalText expected) := by
  refine congr.bind (alike.rawSubject congr) fun subject => ?_
  split
  · exact congr.fail _ alike.subjectToken
  · exact congr.bind (alike.coerceSubject congr subject) fun value => congr.pure _

/-- Calls are related when their operands are. -/
theorem value : R call.value other.value := by
  have arguments := alike.arguments congr
  unfold ActiveCall.value
  rw [alike.function]
  split
  · exact alike.arg congr 0
  · exact congr.settings (fun env env' _ hc => by rw [hc]) (fun env env' _ hc => by rw [hc])
      fun env => congr.pure _
  · exact congr.bind (alike.subjectText congr) fun subject => arguments.onText congr subject
  · exact congr.bind (alike.rawSubject congr) fun subject => alike.onNullable congr subject
  · exact congr.bind (alike.subjectValue congr) fun value =>
      congr.bind (congr.numberOf alike.token value) fun subject => arguments.onNumber congr subject
  · exact congr.bind (alike.subjectValue congr) fun value =>
      congr.bind (congr.booleanOf alike.token value) fun subject =>
        arguments.onBoolean congr subject
  · rw [toDateValue_eq, toDateValue_eq, toInstantValue_eq, toInstantValue_eq, formatValue_eq,
      formatValue_eq]
    split
    · exact congr.bind (alike.temporalText congr .date) fun text => arguments.parse congr _
    · exact congr.bind (alike.temporalText congr .instant) fun text => arguments.parse congr _
    · exact congr.bind (alike.subjectValue congr) fun value => arguments.write congr value
  · exact congr.fail _ alike.token

end ActiveCall.Alike

/-- Sources of candidates that differ in their operands only. -/
inductive CandidateSource.Rel {α β : Type} (r : α → β → Prop) :
    CandidateSource α → CandidateSource β → Prop
  | named (names : List String) : Rel r (.named names) (.named names)
  | matching (patterns : List Regex) : Rel r (.matching patterns) (.matching patterns)
  | delineated {value delimiter : α} {value' delimiter' : β} (hvalue : r value value')
    (hdelimiter : r delimiter delimiter') :
    Rel r (.delineated value delimiter) (.delineated value' delimiter')

inductive Fold.Rel {α β : Type} (r : α → β → Prop) : Fold α → Fold β → Prop
  | any : Rel r .any .any
  | all : Rel r .all .all
  | join {separator : α} {separator' : β} (h : r separator separator') :
    Rel r (.join separator) (.join separator')
  | count : Rel r .count .count

namespace Eval

/-- One round of a loop: the body is evaluated and counted, and its value is taken in. -/
def round (token : String) (body : Eval Value) (acc : Accumulator) :
    Eval (Value ⊕ Accumulator) := do
  let value ← body
  modify fun state => { state with iterations := state.iterations + 1 }
  acc.push token value

theorem drive_round (token : String) (slot : Nat) (body : Eval Value)
    (pending : (Nat → Nat) → Nat) (fuel : Nat) (acc : Accumulator) :
    drive token slot body pending (fuel + 1) acc = (do
      match ← round token body acc with
      | .inl result => pure result
      | .inr acc => do
        if pending (← get).remaining = 0 then pure acc.finish
        else if ← advance slot then drive token slot body pending fuel acc
        else pure acc.finish) := by
  rw [drive, round, bind_assoc]
  exact bind_congr fun value => (bind_assoc _ _ _).symm

end Eval

namespace Eval.Congruence

variable {T : String → String → Prop} {R : ∀ {α : Type}, Eval α → Eval α → Prop}
variable (congr : Congruence T @R) {token token' : String}
include congr

theorem push (htoken : T token token') (value : Value) (acc : Accumulator) :
    R (acc.push token value) (acc.push token' value) := by
  cases acc with
  | any =>
    cases value with
    | boolean b => exact congr.pure _
    | unset | string | number | date | instant => exact congr.fail _ htoken
  | all =>
    cases value with
    | boolean b => cases b <;> exact congr.pure _
    | unset | string | number | date | instant => exact congr.fail _ htoken
  | join separator joined =>
    cases joined <;> simp only [Accumulator.push] <;> split <;> exact congr.pure _
  | count n =>
    cases value with
    | boolean b => cases b <;> exact congr.pure _
    | unset | string | number | date | instant => exact congr.pure _

theorem accumulator {fold other : Fold (Eval Value)} (h : fold.Rel R other) :
    R fold.accumulator other.accumulator := by
  cases h with
  | join hseparator => exact congr.bind hseparator fun value => congr.pure _
  | any => exact congr.pure _
  | all => exact congr.pure _
  | count => exact congr.pure _

theorem candidates {source other : CandidateSource (Eval Value)} (h : source.Rel R other)
    (hmatching : ∀ patterns, source = .matching patterns →
      R (CandidateSource.candidates (.matching patterns))
        (CandidateSource.candidates (.matching patterns))) :
    R source.candidates other.candidates := by
  cases h with
  | named names => exact congr.pure _
  | matching patterns => exact hmatching patterns rfl
  | delineated hvalue hdelimiter =>
    exact congr.bind hvalue fun value => congr.bind hdelimiter fun delimiter => congr.pure _

theorem round (htoken : T token token') {body body' : Eval Value} (hbody : R body body')
    (hcount : R (modify fun state : State => { state with iterations := state.iterations + 1 } :
        Eval PUnit)
      (modify fun state => { state with iterations := state.iterations + 1 })) (acc : Accumulator) :
    R (Eval.round token body acc) (Eval.round token' body' acc) :=
  congr.bind hbody fun value => congr.bind hcount fun _ => congr.push htoken value acc

/-- Loops are related when their rounds are, and when asking what remains and moving on are. -/
theorem drive {slot slot' : Nat} {body body' : Eval Value} {pending pending' : (Nat → Nat) → Nat}
    (hround : ∀ acc, R (Eval.round token body acc) (Eval.round token' body' acc))
    (hpending : ∀ {x y x' y' : Eval Value}, R x x' → R y y' →
      R (get >>= fun state : State => if pending state.remaining = 0 then x else y)
        (get >>= fun state : State => if pending' state.remaining = 0 then x' else y'))
    (hadvance : R (advance slot) (advance slot')) (fuel : Nat) (acc : Accumulator) :
    R (Eval.drive token slot body pending fuel acc)
      (Eval.drive token' slot' body' pending' fuel acc) := by
  induction fuel generalizing acc with
  | zero => exact congr.pure _
  | succ fuel ih =>
    rw [drive_round, drive_round]
    refine congr.bind (hround acc) fun pushed => ?_
    cases pushed with
    | inl result => exact congr.pure _
    | inr acc =>
      refine hpending (congr.pure _) (congr.bind hadvance fun moved => ?_)
      split
      · exact ih acc
      · exact congr.pure _

/-- Quantifiers are related when their candidates, their folds and the loops over their candidates
are. -/
theorem quantify {slot slot' : Nat} {source source' : CandidateSource (Eval Value)}
    {fold fold' : Fold (Eval Value)} {body body' : Eval Value}
    {pending pending' : (Nat → Nat) → Nat} (hcandidates : R source.candidates source'.candidates)
    (hfold : R fold.accumulator fold'.accumulator)
    (hloop : ∀ (cursor : Cursor) (fuel : Nat) (acc : Accumulator),
      R (do
        modify fun state : State => state.bind slot cursor
        releasing slot (Eval.drive token slot body pending fuel acc))
        (do
          modify fun state : State => state.bind slot' cursor
          releasing slot' (Eval.drive token' slot' body' pending' fuel acc))) :
    R (quantify token slot source fold body pending)
      (quantify token' slot' source' fold' body' pending') := by
  refine congr.bind hcandidates fun candidates => congr.bind hfold fun acc => ?_
  cases Cursor.start? candidates with
  | none => exact congr.pure _
  | some cursor => exact hloop cursor candidates.length acc

end Eval.Congruence

end AttrExpr
