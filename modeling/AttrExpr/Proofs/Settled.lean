import AttrExpr.Proofs.Visits

/-! Evaluations are settled by the children that they visit: when all of them are accepted, a node
gives a value or fails with its own token; otherwise the last visit is the only one that is not
accepted, and its error is passed on. -/
set_option autoImplicit false

namespace AttrExpr

/-- What comes of visits in a node with a token. -/
inductive Settled {α : Type} (formats : Formats) (token : String) :
    List Visit → Except EvalError α → Prop
  | gives {visits : List Visit} (a : α) (h : ∀ visit ∈ visits, visit.Accepted formats) :
      Settled formats token visits (.ok a)
  | fails {visits : List Visit} (cause : EvalCause)
      (h : ∀ visit ∈ visits, visit.Accepted formats) :
      Settled formats token visits (.error ⟨cause, token⟩)
  | stops {visits : List Visit} {last : Visit} {error : EvalError}
      (h : ∀ visit ∈ visits, visit.Accepted formats) (hlast : last.taken formats = .error error) :
      Settled formats token (visits ++ [last]) (.error error)

namespace Settled

variable {α β : Type} {formats : Formats} {token : String} {visits more : List Visit}

theorem stop {last : Visit} {error : EvalError} (h : last.taken formats = .error error) :
    Settled formats token [last] (.error error : Except EvalError α) :=
  show Settled formats token ([] ++ [last]) _ from stops (by simp) h

/-- Visits that are accepted may come before. -/
theorem append {outcome : Except EvalError α} (h : ∀ visit ∈ visits, visit.Accepted formats)
    (hmore : Settled formats token more outcome) :
    Settled formats token (visits ++ more) outcome := by
  have both {others : List Visit} (ho : ∀ visit ∈ others, visit.Accepted formats) :
      ∀ visit ∈ visits ++ others, visit.Accepted formats :=
    fun visit hv => (List.mem_append.mp hv).elim (h visit) (ho visit)
  cases hmore with
  | gives a hall => exact gives a (both hall)
  | fails cause hall => exact fails cause (both hall)
  | stops hall hlast =>
    rw [← List.append_assoc]
    exact stops (both hall) hlast

theorem cons {visit : Visit} {outcome : Except EvalError α} (h : visit.Accepted formats)
    (hmore : Settled formats token more outcome) : Settled formats token (visit :: more) outcome :=
  show Settled formats token ([visit] ++ more) outcome from append (by simpa using h) hmore

theorem accepted {a : α} (h : Settled formats token visits (.ok a)) :
    ∀ visit ∈ visits, visit.Accepted formats := by
  cases h with
  | gives _ hall => exact hall

/-- An error stays the error of what is made of it. -/
theorem error {error : EvalError}
    (h : Settled formats token visits (.error error : Except EvalError α)) :
    Settled formats token visits (.error error : Except EvalError β) := by
  cases h with
  | fails cause hall => exact fails cause hall
  | stops hall hlast => exact stops hall hlast

end Settled

namespace Eval

variable {α β : Type} {env : Environment} {token : String}

/-- Steps that visit no child fail with the token of the node. -/
def Ends (env : Environment) (token : String) (x : Eval α) : Prop :=
  ∀ state error, (x env state).1 = .error error → error.token = token

namespace Ends

theorem pure (a : α) : Ends env token (pure a) := fun _ _ h => by cases h

theorem fail (cause : EvalCause) : Ends env token (fail cause token : Eval α) :=
  fun _ _ h => by cases h; rfl

/-- Nothing comes after a failure. -/
theorem fail_bind (cause : EvalCause) (f : α → Eval β) :
    Ends env token (Eval.fail cause token >>= f) := fun _ _ h => by cases h; rfl

theorem bind {x : Eval α} {f : α → Eval β} (hx : Ends env token x)
    (hf : ∀ a, Ends env token (f a)) : Ends env token (x >>= f) := by
  intro state error h
  rw [bind_apply] at h
  rcases hr : x env state with ⟨cause | a, after⟩
  · rw [hr] at h
    cases h
    exact hx state _ (by rw [hr])
  · rw [hr] at h
    exact hf a after error h

theorem read {f : Environment → Eval α} (h : Ends env token (f env)) :
    Ends env token (read >>= f) := fun state error he => h state error he

theorem ofExcept (result : Except EvalCause α) : Ends env token (ofExcept token result) := by
  cases result with
  | ok a => exact pure a
  | error cause => exact fail cause

theorem lookup (name : String) : Ends env token (lookup name) := by
  intro state error h
  rw [Eval.lookup, modify_bind_apply, read_bind_apply] at h
  cases hn : env.attributes.lookup name with
  | none =>
    rw [hn] at h
    cases h
  | some text =>
    rw [hn] at h
    cases h

theorem variableOf (slot : Nat) : Ends env token (variableOf token slot) := by
  intro state error h
  rw [Eval.variableOf, get_bind_apply] at h
  cases hc : state.cursor? slot with
  | none =>
    rw [hc] at h
    cases h
    rfl
  | some cursor =>
    rw [hc] at h
    dsimp only at h
    cases hcurrent : cursor.current with
    | «attribute» name =>
      rw [hcurrent] at h
      exact lookup name state error h
    | value text =>
      rw [hcurrent] at h
      cases h

end Ends

theorem coerceTo_apply (token : String) (target : Option Kind) (value : Value) (env : Environment)
    (state : State) :
    coerceTo token target value env state =
      ((value.coerceTo env.formats target).mapError (⟨·, token⟩), state) := by
  cases target with
  | none => rfl
  | some target =>
    rw [coerceTo, coerce, read_bind_apply, Value.coerceTo]
    cases value.coerce env.formats target <;> rfl

end Eval

open Eval (Ends)

namespace Demand

variable {env : Environment} {demand : Demand}

/-- The operand that a call makes of a child. -/
def operand (demand : Demand) : Operand := ⟨demand.node.token, demand.target, demand.node.eval⟩

/-- An evaluation that visits a child, and gives what is taken of its value. -/
def Performs (env : Environment) (demand : Demand) (x : Eval Value) : Prop :=
  ∀ state, x env state =
    ((demand.visit env state).taken env.formats, (demand.visit env state).after)

/-- What is taken is of the kind that is asked for. -/
def Gives (demand : Demand) (value : Value) : Prop :=
  ∀ kind, demand.target = some kind → value.Is kind

theorem coerceTo_gives {formats : Formats} {value taken : Value}
    (h : value.coerceTo formats demand.target = .ok taken) : demand.Gives taken := by
  intro kind hk
  rw [hk, Value.coerceTo] at h
  cases hv : value.coerce formats kind with
  | error error =>
    rw [hv] at h
    cases h
  | ok result =>
    rw [hv] at h
    cases h
    exact Value.coerce_is hv

theorem take_gives {formats : Formats} {value taken : Value}
    (h : demand.take formats value = .ok taken) : demand.Gives taken := by
  unfold take at h
  split at h
  · cases h
  · exact coerceTo_gives h

theorem take_of_required_none {formats : Formats} {value : Value} (h : demand.required = none) :
    demand.take formats value = value.coerceTo formats demand.target := by
  unfold take
  rw [h]

theorem taken_visit_ok {state after : State} {value : Value}
    (h : demand.node.eval env state = (.ok value, after)) :
    (demand.visit env state).taken env.formats =
      (demand.take env.formats value).mapError (⟨·, demand.node.token⟩) :=
  Visit.taken_of_ok (by rw [visit, h])

theorem taken_visit_error {state after : State} {error : EvalError}
    (h : demand.node.eval env state = (.error error, after)) :
    (demand.visit env state).taken env.formats = .error error :=
  Visit.taken_of_error (by rw [visit, h])

theorem taken_gives {state : State} {value : Value}
    (h : (demand.visit env state).taken env.formats = .ok value) : demand.Gives value := by
  rcases hr : demand.node.eval env state with ⟨error | raw, after⟩
  · rw [taken_visit_error hr] at h
    cases h
  · rw [taken_visit_ok hr] at h
    cases ht : demand.take env.formats raw with
    | error cause =>
      rw [ht] at h
      cases h
    | ok taken =>
      rw [ht] at h
      cases h
      exact take_gives ht

/-- An evaluation of the child, followed by a step that takes its value, performs a demand. -/
theorem performs_of_take {f : Value → Eval Value}
    (h : ∀ value state, f value env state =
      ((demand.take env.formats value).mapError (⟨·, demand.node.token⟩), state)) :
    demand.Performs env (demand.node.eval >>= f) := by
  intro state
  rw [Eval.bind_apply]
  rcases hr : demand.node.eval env state with ⟨error | value, after⟩
  · rw [taken_visit_error hr, visit, hr]
  · rw [taken_visit_ok hr, visit, hr]
    exact h value after

theorem performs_value (hrequired : demand.required = none) :
    demand.Performs env demand.operand.value := by
  refine performs_of_take fun value state => ?_
  rw [take_of_required_none hrequired]
  exact Eval.coerceTo_apply _ _ _ _ _

/-- What is asked for as text is the text of the value. -/
theorem Performs.text {x : Eval Value} (hx : demand.Performs env x)
    (htarget : demand.target = some .string) (hrequired : demand.required = none)
    {state after : State} {value : Value} (hv : demand.node.eval env state = (.ok value, after)) :
    x env state = (.ok (.string value.text), after) := by
  rw [hx state, taken_visit_ok hv, take_of_required_none hrequired, htarget, Value.coerceTo,
    Value.coerce_string, visit]
  dsimp only
  rw [hv]
  rfl

theorem performs_plain (node : Node) : (plain node).Performs env node.eval := by
  have h : (plain node).Performs env (node.eval >>= pure) := performs_of_take fun _ _ => rfl
  rwa [bind_pure] at h

end Demand

section Settles

variable {α : Type} {env : Environment} {token : String} {demand : Demand}

/-- Evaluating a child and going on with what is taken of its value. -/
theorem Demand.Performs.settled {x : Eval Value} (hx : demand.Performs env x)
    {f : Value → Eval α} {following : Value → State → List Visit}
    (h : ∀ value, demand.Gives value → ∀ state,
      Settled env.formats token (following value state) (f value env state).1) (state : State) :
    Settled env.formats token (demand.visitThen env state following) ((x >>= f) env state).1 := by
  rw [Eval.bind_apply, hx state, Demand.visitThen]
  cases htaken : (demand.visit env state).taken env.formats with
  | error error => exact .stop htaken
  | ok value => exact .cons ⟨value, htaken⟩ (h value (Demand.taken_gives htaken) _)

/-- Evaluating a child and going on with its value as it is. -/
theorem Demand.settled_raw (htake : ∀ value, ∃ taken, demand.take env.formats value = .ok taken)
    {f : Value → Eval α} {following : Value → State → List Visit}
    (h : ∀ value taken, demand.take env.formats value = .ok taken → ∀ state,
      Settled env.formats token (following taken state) (f value env state).1) (state : State) :
    Settled env.formats token (demand.visitThen env state following)
      ((demand.node.eval >>= f) env state).1 := by
  rw [Eval.bind_apply]
  rcases hr : demand.node.eval env state with ⟨error | value, after⟩
  · have htaken := Demand.taken_visit_error hr
    rw [Demand.visitThen, htaken]
    exact .stop htaken
  · obtain ⟨taken, ht⟩ := htake value
    have htaken : (demand.visit env state).taken env.formats = .ok taken := by
      rw [Demand.taken_visit_ok hr, ht]
      rfl
    have hafter : (demand.visit env state).after = after := by rw [Demand.visit, hr]
    rw [Demand.visitThen, htaken, hafter]
    exact .cons ⟨taken, htaken⟩ (h value taken ht after)

theorem Eval.Ends.settled {x : Eval α} (h : Ends env token x) (state : State) :
    Settled env.formats token [] (x env state).1 := by
  cases hr : (x env state).1 with
  | ok a => exact .gives a (by simp)
  | error error =>
    obtain rfl : error.token = token := h state error hr
    exact .fails error.cause (by simp)

/-- The children from a place on settle an evaluation, in all states. -/
def Settles (env : Environment) (token : String) (asks : List Value → Nat → Bool) (place : Nat)
    (values : List Value) (demands : List Demand) (x : Eval α) : Prop :=
  ∀ state, Settled env.formats token (visitsInOrder env asks place values demands state)
    (x env state).1

namespace Settles

variable {asks : List Value → Nat → Bool} {place : Nat} {values : List Value}
  {demands : List Demand}

theorem finish {x : Eval α} (h : Ends env token x) :
    Settles env token asks place values [] x := fun state => h.settled state

theorem skip {x : Eval α} (hask : asks values place = false)
    (h : Settles env token asks (place + 1) values demands x) :
    Settles env token asks place values (demand :: demands) x := by
  intro state
  rw [visitsInOrder, if_neg (by simp [hask])]
  exact h state

theorem next {x : Eval Value} {f : Value → Eval α} (hask : asks values place = true)
    (hx : demand.Performs env x)
    (h : ∀ value, demand.Gives value →
      Settles env token asks (place + 1) (values ++ [value]) demands (f value)) :
    Settles env token asks place values (demand :: demands) (x >>= f) := by
  intro state
  rw [visitsInOrder, if_pos hask]
  exact hx.settled h state

theorem text {call : ActiveCall} {i : Nat} {f : String → Eval α} (hask : asks values place = true)
    (hx : demand.Performs env (call.arg i))
    (h : ∀ value, Settles env token asks (place + 1) (values ++ [value]) demands (f value.text)) :
    Settles env token asks place values (demand :: demands) (call.textArg i >>= f) := by
  rw [ActiveCall.textArg, bind_assoc]
  exact next hask hx fun value _ => by simpa using h value

/-- A text that is the last thing to be evaluated. -/
theorem lastText {call : ActiveCall} {i : Nat} {f : String → Eval α}
    (hask : asks values place = true) (hx : demand.Performs env (call.arg i))
    (h : ∀ text, Ends env token (f text)) :
    Settles env token asks place values [demand] (call.textArg i >>= f) :=
  text hask hx fun _ => finish (h _)

theorem whole {call : ActiveCall} {i : Nat} {f : Int64 → Eval α} (hask : asks values place = true)
    (hx : demand.Performs env (call.arg i)) (htarget : demand.target = some .whole)
    (h : ∀ value n, Settles env token asks (place + 1) (values ++ [value]) demands (f n)) :
    Settles env token asks place values (demand :: demands) (call.wholeArg i >>= f) := by
  rw [ActiveCall.wholeArg, bind_assoc]
  refine next hask hx fun value hv => ?_
  obtain ⟨n, rfl⟩ := (hv _ htarget).whole
  exact h _ n

end Settles

end Settles

namespace Signature

theorem accepts_iff {signature : Signature} {count : Nat} :
    signature.accepts count = true ↔ signature.params.length - signature.optional ≤ count ∧
      (signature.variadic = true ∨ count ≤ signature.params.length) := by
  cases h : signature.variadic <;> simp [accepts, minArgs, maxArgs?, h]

end Signature

theorem Function.subject_of_numeric {function : Function} (hf : function.family = .numeric) :
    function.signature.subject = some (.kind .number) ∧ function.required? = none := by
  cases function <;> cases hf <;> exact ⟨rfl, rfl⟩

/-- A call of a function on children. -/
structure ActiveCall.On (call : ActiveCall) (subject : Option Demand) (args : List Demand) :
    Prop where
  onSubject : ∀ expected, call.function.signature.subject = some expected →
    ∃ demand kind, subject = some demand ∧ call.subject = some demand.operand ∧
      demand.required = call.function.required? ∧ expected.resolve? kind = some demand.target
  noSubject : call.function.signature.subject = none → subject = none
  count : call.function.signature.accepts args.length = true
  operands : call.args = args.map Demand.operand
  required : ∀ demand ∈ args, demand.required = none
  params : ∀ (i : Nat) (demand : Demand), args[i]? = some demand →
    ∃ kind, (call.function.signature.param i).resolve? kind = some demand.target

/-- An evaluation that the children of a call settle. -/
def ActiveCall.SettledBy (env : Environment) (call : ActiveCall) (subject : Option Demand)
    (args : List Demand) (x : Eval Value) : Prop :=
  ∀ state, Settled env.formats call.token
    (Node.callVisits env call.function call.pattern subject args state) (x env state).1

theorem Expectation.resolve?_kind {wanted actual : Kind} {target : Option Kind}
    (h : (Expectation.kind wanted).resolve? actual = some target) : target = some wanted := by
  rw [resolve?] at h
  split at h <;> cases h
  rfl

theorem Expectation.resolve?_any {actual : Kind} {target : Option Kind}
    (h : Expectation.any.resolve? actual = some target) : target = none :=
  (Option.some.inj h).symm

namespace ActiveCall.On

variable {α : Type} {env : Environment} {token : String} {call : ActiveCall}
  {subject : Option Demand} {args demands : List Demand} (h : call.On subject args)
include h

theorem arg {i : Nat} {demand : Demand} (hi : args[i]? = some demand) :
    demand.Performs env (call.arg i) := by
  rw [ActiveCall.arg, h.operands, List.getElem?_map, hi]
  exact Demand.performs_value (h.required demand (List.mem_of_getElem? hi))

theorem length_args : call.args.length = args.length := by rw [h.operands, List.length_map]

theorem param {i : Nat} {demand : Demand} {kind : Kind} (hi : args[i]? = some demand)
    (hk : call.function.signature.param i = .kind kind) : demand.target = some kind := by
  obtain ⟨actual, hr⟩ := h.params i demand hi
  exact Expectation.resolve?_kind (hk ▸ hr)

/-- The number of arguments where all parameters count. -/
theorem length_of_exactly {expected : Option Expectation} {params : List Expectation}
    {returns : Kind} (hs : call.function.signature = Function.exactly expected params returns) :
    args.length = params.length := by
  have hc := Signature.accepts_iff.mp h.count
  simp [hs, Function.exactly] at hc
  omega

theorem length_of_withOptional {expected : Option Expectation} {params : List Expectation}
    {returns : Kind}
    (hs : call.function.signature = Function.withOptional expected params returns) :
    params.length - 1 ≤ args.length ∧ args.length ≤ params.length := by
  have hc := Signature.accepts_iff.mp h.count
  simpa [hs, Function.withOptional] using hc

theorem none_of {expected : Option Expectation} {returns : Kind}
    (hs : call.function.signature = Function.exactly expected [] returns) : args = [] :=
  List.length_eq_zero_iff.mp (h.length_of_exactly hs)

theorem one_of {expected : Option Expectation} {param : Expectation} {returns : Kind}
    (hs : call.function.signature = Function.exactly expected [param] returns) :
    ∃ demand, args = [demand] := List.length_eq_one_iff.mp (h.length_of_exactly hs)

theorem two_of {expected : Option Expectation} {param other : Expectation} {returns : Kind}
    (hs : call.function.signature = Function.exactly expected [param, other] returns) :
    ∃ first second, args = [first, second] := List.length_eq_two.mp (h.length_of_exactly hs)

/-- The arguments of a function whose second parameter may be left out. -/
theorem one_or_two_of {expected : Option Expectation} {param other : Expectation} {returns : Kind}
    (hs : call.function.signature = Function.withOptional expected [param, other] returns) :
    (∃ demand, args = [demand]) ∨ ∃ first second, args = [first, second] := by
  obtain ⟨hmin, hmax⟩ := h.length_of_withOptional hs
  rw [← List.length_eq_one_iff, ← List.length_eq_two]
  simp only [List.length_cons, List.length_nil] at hmin hmax
  omega

/-- The arguments of a function whose only parameter may be left out. -/
theorem none_or_one_of {expected : Option Expectation} {param : Expectation} {returns : Kind}
    (hs : call.function.signature = Function.withOptional expected [param] returns) :
    args = [] ∨ ∃ demand, args = [demand] := by
  obtain ⟨-, hmax⟩ := h.length_of_withOptional hs
  rw [← List.length_eq_zero_iff, ← List.length_eq_one_iff]
  simp only [List.length_cons, List.length_nil] at hmax
  omega

/-- An optional text that is the last thing to be evaluated. -/
theorem optionalText {asks : List Value → Nat → Bool} {place i : Nat} {values : List Value}
    {f : Option String → Eval α} (hask : ∀ values place, asks values place = true)
    (hdemands : args.drop i = [] ∨ ∃ demand, args.drop i = [demand])
    (hf : ∀ text, Ends env token (f text)) :
    Settles env token asks place values (args.drop i) (call.optionalTextArg i >>= f) := by
  rw [ActiveCall.optionalTextArg, h.length_args]
  rcases hdemands with hd | ⟨demand, hd⟩
  · have hi : args.length ≤ i := List.drop_eq_nil_iff.mp hd
    rw [hd, if_neg (Nat.not_lt.mpr hi), pure_bind]
    exact .finish (hf none)
  · have hi : args[i]? = some demand := by
      have hfirst := @List.getElem?_drop _ args i 0
      simpa [hd] using hfirst.symm
    obtain ⟨hlt, -⟩ := List.getElem?_eq_some_iff.mp hi
    rw [hd, if_pos hlt, bind_assoc]
    exact .lastText (hask values place) (h.arg hi) fun text => by
      rw [pure_bind]
      exact hf (some text)

/-- Texts of arguments from a place on. -/
theorem texts {asks : List Value → Nat → Bool} (hask : ∀ values place, asks values place = true)
    {index place : Nat} {values : List Value} {f : List String → Eval α}
    (hdemands : demands = args.drop index) (hf : ∀ texts, Ends env token (f texts)) :
    Settles env token asks place values demands (call.texts demands.length index >>= f) := by
  induction demands generalizing index place values f with
  | nil =>
    rw [List.length_nil, ActiveCall.texts, pure_bind]
    exact .finish (hf [])
  | cons demand demands ih =>
    have hi : args[index]? = some demand := by
      have hfirst := @List.getElem?_drop _ args index 0
      simpa [← hdemands] using hfirst.symm
    rw [List.length_cons, ActiveCall.texts, bind_assoc]
    refine .text (hask values place) (h.arg hi) fun value => ?_
    rw [bind_assoc]
    refine ih ?_ fun texts => ?_
    · rw [← List.drop_drop, ← hdemands, List.drop_one, List.tail_cons]
    · rw [pure_bind]
      exact hf _

/-- The pattern of a call whose only argument it is. -/
theorem patternAlone {demand : Demand} {place : Nat} {f : Regex → Eval α}
    (hargs : args = [demand]) (hf : ∀ regex, Ends env call.token (f regex)) :
    Settles env call.token (fun _ _ => call.pattern.isNone) place [] args
      (call.patternValue >>= f) := by
  subst hargs
  unfold ActiveCall.patternValue
  cases hp : call.pattern with
  | some regex =>
    rw [pure_bind]
    exact .skip rfl (.finish (hf regex))
  | none =>
    rw [bind_assoc]
    exact .lastText rfl (h.arg rfl) fun text => (Ends.ofExcept _).bind hf

/-- The pattern of a call and the argument after it. -/
theorem patternFirst {value : Value} {first second : Demand} {f : Regex → String → Eval α}
    (hc : call.function = .replaceFirst ∨ call.function = .replaceAll)
    (hargs : args = [first, second]) (hf : ∀ regex text, Ends env call.token (f regex text)) :
    Settles env call.token (call.function.asks call.pattern value) 0 [] args
      (do let regex ← call.patternValue
          let text ← call.textArg 1
          f regex text) := by
  subst hargs
  have hasks (values : List Value) (place : Nat) :
      call.function.asks call.pattern value values place =
        if call.pattern.isSome then decide (place = 1)
        else values.all fun text => (readPattern false text.text).isOk := by
    rcases hc with hc | hc <;> simp [hc, Function.asks]
  have hwhole : call.function.patternWhole?.getD false = false := by
    rcases hc with hc | hc <;> rw [hc] <;> rfl
  unfold ActiveCall.patternValue
  cases hp : call.pattern with
  | some regex =>
    rw [hp] at hasks
    rw [pure_bind]
    exact .skip (by simp [hasks]) (.lastText (by simp [hasks]) (h.arg rfl) (hf regex))
  | none =>
    rw [hp] at hasks
    rw [bind_assoc, hwhole]
    refine .text (by simp [hasks]) (h.arg rfl) fun text => ?_
    cases hr : readPattern false text.text with
    | error error =>
      exact .skip (by simp [hasks, hr, Except.isOk, Except.toBool]) (.finish (Ends.fail_bind _ _))
    | ok regex =>
      exact .lastText (by simp [hasks, hr, Except.isOk, Except.toBool]) (h.arg rfl) (hf regex)

/-- The filling of a text, the last thing to be evaluated. -/
theorem fill {place : Nat} {cs : List Char} {f : List Char → Eval α}
    (hs : call.function.signature =
      Function.withOptional (some (.kind .string)) [.kind .whole, .kind .string] .string)
    (hf : ∀ cs, Ends env call.token (f cs)) :
    Settles env call.token asksAll place [] args (call.fill cs >>= f) := by
  have hparam : call.function.signature.param 0 = .kind .whole := by rw [hs]; rfl
  have rest (width : Int64) (pad : List Char) :
      Ends env call.token (Eval.ofExcept call.token (padding cs width pad) >>= f) :=
    (Ends.ofExcept _).bind hf
  rw [ActiveCall.fill, bind_assoc]
  rcases h.one_or_two_of hs with ⟨first, rfl⟩ | ⟨first, second, rfl⟩
  · refine .whole rfl (h.arg rfl) (h.param rfl hparam) fun value width => ?_
    rw [bind_assoc]
    exact h.optionalText (i := 1) (fun _ _ => rfl) (.inl rfl) fun _ => rest width _
  · refine .whole rfl (h.arg rfl) (h.param rfl hparam) fun value width => ?_
    rw [bind_assoc]
    exact h.optionalText (i := 1) (fun _ _ => rfl) (.inr ⟨second, rfl⟩) fun _ => rest width _

theorem cut {demand : Demand} {asks : List Value → Nat → Bool} {place : Nat} {values : List Value}
    {cs : List Char} {find : List Char → List Char → Option (List Char × List Char)}
    {f : Option (List Char × List Char) → Eval α} (hask : asks values place = true)
    (hargs : args = [demand]) (hf : ∀ found, Ends env token (f found)) :
    Settles env token asks place values args (call.cut cs find >>= f) := by
  subst hargs
  rw [ActiveCall.cut, bind_assoc]
  exact .lastText hask (h.arg rfl) fun text => by
    rw [pure_bind]
    exact hf _

theorem onText (hf : call.function.family = .text) (value : Value) (subject : String) :
    Settles env call.token (call.function.asks call.pattern value) 0 [] args
      (call.onText subject) := by
  unfold ActiveCall.onText
  split
  case h_1 hc | h_2 hc | h_3 hc | h_4 hc =>
    obtain rfl := h.none_of (by rw [hc]; rfl)
    exact .finish (.pure _)
  case h_5 hc =>
    have hfirst : call.function.signature.param 0 = .kind .whole := by rw [hc]; rfl
    have hsecond : call.function.signature.param 1 = .kind .whole := by rw [hc]; rfl
    have hask (values : List Value) (place : Nat) :
        call.function.asks call.pattern value values place = true := by rw [hc]; rfl
    rcases h.one_or_two_of (by rw [hc]; rfl) with ⟨first, rfl⟩ | ⟨first, second, rfl⟩
    · refine .whole (hask _ _) (h.arg rfl) (h.param rfl hfirst) fun value start => .finish ?_
      rw [if_neg (by simp [h.length_args]), pure_bind]
      exact (Ends.ofExcept _).bind fun cs => .pure _
    · refine .whole (hask _ _) (h.arg rfl) (h.param rfl hfirst) fun value start => ?_
      rw [if_pos (by simp [h.length_args]), map_eq_bind_pure_comp, bind_assoc]
      refine .whole (hask _ _) (h.arg rfl) (h.param rfl hsecond) fun other stop => .finish ?_
      exact (Ends.ofExcept _).bind fun cs => .pure _
  case h_6 hc | h_7 hc | h_8 hc | h_9 hc | h_17 hc | h_18 hc | h_21 hc =>
    obtain ⟨demand, hargs⟩ := h.one_of (by rw [hc]; rfl)
    exact h.cut (by rw [hc]; rfl) hargs fun found => .pure _
  case h_10 hc | h_11 hc | h_19 hc | h_20 hc =>
    obtain ⟨demand, rfl⟩ := h.one_of (by rw [hc]; rfl)
    exact .lastText (by rw [hc]; rfl) (h.arg rfl) fun text => .pure _
  case h_12 hc =>
    obtain ⟨first, second, rfl⟩ := h.two_of (by rw [hc]; rfl)
    exact .text (by rw [hc]; rfl) (h.arg rfl) fun search =>
      .lastText (by rw [hc]; rfl) (h.arg rfl) fun replacement => .pure _
  case h_13 hc =>
    obtain ⟨first, second, hargs⟩ := h.two_of (by rw [hc]; rfl)
    exact h.patternFirst (.inl hc) hargs fun regex text => .pure _
  case h_14 hc =>
    obtain ⟨first, second, hargs⟩ := h.two_of (by rw [hc]; rfl)
    exact h.patternFirst (.inr hc) hargs fun regex text => .pure _
  case h_15 hc | h_16 hc =>
    have hask : call.function.asks call.pattern value = asksAll := by rw [hc]; rfl
    rw [hask]
    exact h.fill (by rw [hc]; rfl) fun cs => .pure _
  case h_22 hc | h_23 hc =>
    have hask : call.function.asks call.pattern value = fun _ _ => call.pattern.isNone := by
      rw [hc]; rfl
    obtain ⟨demand, hargs⟩ := h.one_of (by rw [hc]; rfl)
    rw [hask]
    exact h.patternAlone hargs fun regex => .pure _
  case h_24 =>
    have hc : call.function = .isIn := by
      cases hc : call.function <;> simp_all [Function.family]
    rw [h.length_args]
    exact h.texts (fun _ _ => by rw [hc]; rfl) rfl fun texts => .pure _

theorem numberArg {demand : Demand} {asks : List Value → Nat → Bool} {place : Nat}
    {values : List Value} {f : Number → Eval α} (hask : asks values place = true)
    (hargs : args = [demand]) (hf : ∀ n, Ends env call.token (f n)) :
    Settles env call.token asks place values args (call.numberArg >>= f) := by
  subst hargs
  rw [ActiveCall.numberArg, bind_assoc]
  refine .next hask (h.arg rfl) fun value _ => .finish (.bind ?_ hf)
  cases value with
  | number n => exact .pure n
  | unset | string | boolean | date | instant => exact .fail _

theorem onNumber (hf : call.function.family = .numeric) (value : Value) (subject : Number) :
    Settles env call.token (call.function.asks call.pattern value) 0 [] args
      (call.onNumber subject) := by
  have operation (symbol : String) (compute : Number → Number → Except ArithmeticError Number)
      (hask : call.function.asks call.pattern value [] 0 = true)
      (hs : call.function.signature =
        Function.exactly (some (.kind .number)) [.kind .number] .number) :
      Settles env call.token (call.function.asks call.pattern value) 0 [] args
        (call.operation symbol compute subject) := by
    obtain ⟨demand, hargs⟩ := h.one_of hs
    exact h.numberArg hask hargs fun other => (Ends.ofExcept _).bind fun result => .pure _
  have comparison (orders : List Ordering)
      (hask : call.function.asks call.pattern value [] 0 = true)
      (hs : call.function.signature =
        Function.exactly (some (.kind .number)) [.kind .number] .boolean) :
      Settles env call.token (call.function.asks call.pattern value) 0 [] args
        (call.comparison orders subject) := by
    obtain ⟨demand, hargs⟩ := h.one_of hs
    exact h.numberArg hask hargs fun other => .pure _
  unfold ActiveCall.onNumber
  split
  case h_1 hc | h_2 hc | h_3 hc =>
    obtain rfl := h.none_of (by rw [hc]; rfl)
    exact .finish (.pure _)
  case h_4 hc | h_5 hc | h_6 hc | h_7 hc | h_8 hc =>
    exact operation _ _ (by rw [hc]; rfl) (by rw [hc]; rfl)
  case h_9 hc | h_10 hc | h_11 hc => exact comparison _ (by rw [hc]; rfl) (by rw [hc]; rfl)
  case h_12 =>
    have hc : call.function = .le := by
      cases hc : call.function <;> simp_all [Function.family]
    exact comparison _ (by rw [hc]; rfl) (by rw [hc]; rfl)

theorem booleanArg {demand : Demand} {asks : List Value → Nat → Bool} {place : Nat}
    {values : List Value} (hask : asks values place = true) (hargs : args = [demand]) :
    Settles env call.token asks place values args call.booleanArg := by
  subst hargs
  rw [ActiveCall.booleanArg]
  refine .next hask (h.arg rfl) fun value _ => .finish (.bind ?_ fun b => .pure _)
  cases value with
  | boolean b => exact .pure b
  | unset | string | number | date | instant => exact .fail _

theorem onBoolean (hf : call.function.family = .logical) (subject : Bool) :
    Settles env call.token (call.function.asks call.pattern (.boolean subject)) 0 [] args
      (call.onBoolean subject) := by
  unfold ActiveCall.onBoolean
  split
  case h_1 hc =>
    obtain rfl := h.none_of (by rw [hc]; rfl)
    exact .finish (.pure _)
  case h_2 hc =>
    obtain ⟨demand, rfl⟩ := h.one_of (by rw [hc]; rfl)
    cases subject with
    | true => exact h.booleanArg (by rw [hc]; rfl) rfl
    | false => exact .skip (by rw [hc]; rfl) (.finish (.pure _))
  case h_3 hc =>
    obtain ⟨demand, rfl⟩ := h.one_of (by rw [hc]; rfl)
    cases subject with
    | true => exact .skip (by rw [hc]; rfl) (.finish (.pure _))
    | false => exact h.booleanArg (by rw [hc]; rfl) rfl
  case h_4 =>
    have hc : call.function = .ifElse := by
      cases hc : call.function <;> simp_all [Function.family]
    obtain ⟨first, second, rfl⟩ := h.two_of (by rw [hc]; rfl)
    cases subject with
    | true =>
      exact .text (by rw [hc]; rfl) (h.arg rfl) fun text =>
        .skip (by rw [hc]; rfl) (.finish (.pure _))
    | false =>
      exact .skip (by rw [hc]; rfl)
        (.lastText (by rw [hc]; rfl) (h.arg rfl) fun text => .pure _)

/-- `taken` is what the subject counts as for the arguments; only functions that take it as it is
look at it. -/
theorem onNullable (hf : call.function.family = .nullable) {subject taken : Value}
    (htaken : call.function.signature.subject = some .any → taken = subject) :
    Settles env call.token (call.function.asks call.pattern taken) 0 [] args
      (call.onNullable subject) := by
  have textOr (replaced : Bool)
      (hs : call.function.signature =
        Function.exactly (some .any) [.kind .string] .string)
      (hask : ∀ values place, call.function.asks call.pattern subject values place = replaced) :
      Settles env call.token (call.function.asks call.pattern taken) 0 [] args
        (call.textOr subject replaced) := by
    obtain ⟨demand, rfl⟩ := h.one_of hs
    obtain rfl := htaken (by rw [hs]; rfl)
    cases replaced with
    | true => exact .lastText (hask _ _) (h.arg rfl) fun text => .pure _
    | false => exact .skip (hask _ _) (.finish (.pure _))
  unfold ActiveCall.onNullable
  split
  case h_1 hc | h_2 hc | h_3 hc =>
    obtain rfl := h.none_of (by rw [hc]; rfl)
    exact .finish (.pure _)
  case h_4 hc | h_5 hc => exact textOr _ (by rw [hc]; rfl) fun _ _ => by rw [hc]; rfl
  case h_6 hc =>
    obtain ⟨demand, rfl⟩ := h.one_of (by rw [hc]; rfl)
    exact .next (by rw [hc]; rfl) (h.arg rfl) fun other _ => .finish (.pure _)
  case h_7 =>
    have hc : call.function = .equalsIgnoreCase := by
      cases hc : call.function <;> simp_all [Function.family]
    obtain ⟨demand, rfl⟩ := h.one_of (by rw [hc]; rfl)
    exact .next (by rw [hc]; rfl) (h.arg rfl) fun other _ => .finish (.pure _)

theorem parse {asks : List Value → Nat → Bool} (hask : ∀ values place, asks values place = true)
    {returns : Kind}
    (hs : call.function.signature =
      Function.withOptional (some (.kind .string)) [.kind .string] returns)
    (make : Formats → Option Pattern → Except EvalCause Value) :
    Settles env call.token asks 0 [] args (call.parse make) :=
  h.optionalText (i := 0) hask (h.none_or_one_of hs) fun _ => .read (.ofExcept _)

theorem write {asks : List Value → Nat → Bool} (hask : asks [] 0 = true)
    (hs : call.function.signature =
      Function.exactly (some (.oneOf [.instant, .date])) [.kind .string] .string)
    (subject : Value) : Settles env call.token asks 0 [] args (call.write subject) := by
  obtain ⟨demand, rfl⟩ := h.one_of hs
  refine .lastText hask (h.arg rfl) fun pattern => ?_
  dsimp only
  split
  case h_1 | h_2 =>
    split
    · exact .pure _
    · exact .fail _
  case h_3 => exact .fail _

/-- The subject of a function that has one. -/
theorem rawSubject {expected : Expectation}
    (hs : call.function.signature.subject = some expected) :
    ∃ demand kind, subject = some demand ∧ call.rawSubject = demand.node.eval ∧
      (∀ value, call.coerceSubject value =
        Eval.coerceTo demand.node.token demand.target value) ∧
      call.subjectToken = demand.node.token ∧
      demand.required = call.function.required? ∧ expected.resolve? kind = some demand.target := by
  obtain ⟨demand, kind, hd, ho, hrequired, hr⟩ := h.onSubject expected hs
  refine ⟨demand, kind, hd, ?_, fun value => ?_, ?_, hrequired, hr⟩
  · rw [ActiveCall.rawSubject, ho]
    rfl
  · rw [ActiveCall.coerceSubject, ho]
    rfl
  · rw [ActiveCall.subjectToken, ho]
    rfl

/-- The subject of a function that does not see whether it is missing. -/
theorem subjectValue (env : Environment) {expected : Expectation}
    (hs : call.function.signature.subject = some expected)
    (hrequired : call.function.required? = none) :
    ∃ demand kind, subject = some demand ∧ demand.Performs env call.subjectValue ∧
      expected.resolve? kind = some demand.target := by
  obtain ⟨demand, kind, hd, hraw, hcoerce, -, hreq, hr⟩ := h.rawSubject hs
  refine ⟨demand, kind, hd, ?_, hr⟩
  rw [ActiveCall.subjectValue, hraw]
  refine Demand.performs_of_take fun value state => ?_
  rw [hcoerce, Demand.take_of_required_none (hreq.trans hrequired)]
  exact Eval.coerceTo_apply _ _ _ _ _

/-- The text of a subject that has to be set, and what is made of it. -/
theorem temporalText (env : Environment) {expected : Kind}
    (hs : call.function.signature.subject = some (.kind .string))
    (hrequired : call.function.required? = some expected) :
    ∃ demand x, subject = some demand ∧ demand.Performs env x ∧
      ∀ f : String → Eval Value,
        (call.temporalText expected >>= f) = x >>= fun value => f value.text := by
  obtain ⟨demand, kind, hd, hraw, hcoerce, htoken, hreq, hr⟩ := h.rawSubject hs
  have htarget := Expectation.resolve?_kind hr
  refine ⟨demand, demand.node.eval >>= fun value =>
    if value.isUnset then Eval.fail (.unset expected) demand.node.token
    else Eval.coerceTo demand.node.token demand.target value, hd, ?_, fun f => ?_⟩
  · refine Demand.performs_of_take fun value state => ?_
    unfold Demand.take
    rw [hreq, hrequired]
    cases value with
    | unset => rfl
    | string | boolean | number | date | instant => exact Eval.coerceTo_apply _ _ _ _ _
  · rw [ActiveCall.temporalText, hraw, bind_assoc, bind_assoc]
    refine bind_congr fun value => ?_
    rw [htoken, hcoerce]
    split
    · rfl
    · rw [bind_assoc]
      simp only [pure_bind]

omit h in
theorem settles_of_subject {demand : Demand} {x : Eval Value} {f : Value → Eval Value}
    (hd : subject = some demand) (hx : demand.Performs env x)
    (hf : ∀ value, demand.Gives value →
      Settles env call.token (call.function.asks call.pattern value) 0 [] args (f value)) :
    call.SettledBy env subject args (x >>= f) := by
  subst hd
  exact fun state => hx.settled hf state

omit h in
theorem settles_of_noSubject {x : Eval Value} (hd : subject = none)
    (hx : Settles env call.token (call.function.asks call.pattern .unset) 0 [] args x) :
    call.SettledBy env subject args x := by
  subst hd
  exact hx

theorem literal (hc : call.function = .literal) :
    call.SettledBy env subject args (call.arg 0) := by
  obtain ⟨demand, rfl⟩ : ∃ demand, args = [demand] := by
    have hcount := Signature.accepts_iff.mp h.count
    refine List.length_eq_one_iff.mp ?_
    simp [hc, Function.signature] at hcount
    omega
  refine settles_of_noSubject (h.noSubject (by rw [hc]; rfl)) ?_
  rw [← bind_pure (call.arg 0)]
  exact .next (by rw [hc]; rfl) (h.arg rfl) fun value _ => .finish (.pure value)

theorem now (hc : call.function = .now) :
    call.SettledBy env subject args (do pure (.instant (← read).clock)) := by
  refine settles_of_noSubject (h.noSubject (by rw [hc]; rfl)) ?_
  obtain rfl := h.none_of (by rw [hc]; rfl)
  exact .finish (.read (.pure _))

theorem text (hf : call.function.family = .text) :
    call.SettledBy env subject args (do call.onText (← call.subjectText)) := by
  have hs : call.function.signature.subject = some (.kind .string) := by
    cases hc : call.function <;> rw [hc] at hf <;> cases hf <;> rfl
  have hrequired : call.function.required? = none := by
    cases hc : call.function <;> rw [hc] at hf <;> cases hf <;> rfl
  obtain ⟨demand, -, hd, hx, -⟩ := h.subjectValue env hs hrequired
  rw [ActiveCall.subjectText, bind_assoc]
  refine settles_of_subject hd hx fun value _ => ?_
  rw [pure_bind]
  exact h.onText hf value _

theorem numeric (hf : call.function.family = .numeric) :
    call.SettledBy env subject args (do call.onNumber (← call.numberOf (← call.subjectValue))) := by
  obtain ⟨hs, hrequired⟩ := Function.subject_of_numeric hf
  obtain ⟨demand, kind, hd, hx, hr⟩ := h.subjectValue env hs hrequired
  refine settles_of_subject hd hx fun value hv => ?_
  obtain ⟨n, rfl⟩ := (hv _ (Expectation.resolve?_kind hr)).number (.inl rfl)
  exact h.onNumber hf _ n

theorem logical (hf : call.function.family = .logical) :
    call.SettledBy env subject args
      (do call.onBoolean (← call.booleanOf (← call.subjectValue))) := by
  have hs : call.function.signature.subject = some (.kind .boolean) := by
    cases hc : call.function <;> rw [hc] at hf <;> cases hf <;> rfl
  have hrequired : call.function.required? = none := by
    cases hc : call.function <;> rw [hc] at hf <;> cases hf <;> rfl
  obtain ⟨demand, kind, hd, hx, hr⟩ := h.subjectValue env hs hrequired
  refine settles_of_subject hd hx fun value hv => ?_
  obtain ⟨b, rfl⟩ := (hv _ (Expectation.resolve?_kind hr)).boolean
  exact h.onBoolean hf b

theorem nullable (hf : call.function.family = .nullable) :
    call.SettledBy env subject args (do call.onNullable (← call.rawSubject)) := by
  obtain ⟨expected, hs, hany⟩ : ∃ expected, call.function.signature.subject = some expected ∧
      (expected = .any ∨ expected = .kind .string) := by
    cases hc : call.function <;> rw [hc] at hf <;> cases hf <;>
      simp [Function.signature, Function.exactly]
  obtain ⟨demand, kind, rfl, hraw, -, -, hreq, hr⟩ := h.rawSubject hs
  have hrequired : demand.required = none := by
    rw [hreq]
    cases hc : call.function <;> rw [hc] at hf <;> cases hf <;> rfl
  intro state
  rw [hraw]
  refine Demand.settled_raw (fun value => ?_) (fun value taken ht => h.onNullable hf fun hs' => ?_)
    state
  · rw [Demand.take_of_required_none hrequired]
    rcases hany with rfl | rfl
    · rw [Expectation.resolve?_any hr]
      exact ⟨value, rfl⟩
    · rw [Expectation.resolve?_kind hr]
      exact ⟨.string value.text, by rw [Value.coerceTo, Value.coerce_string]; rfl⟩
  · rw [Demand.take_of_required_none hrequired] at ht
    obtain rfl : expected = .any := Option.some.inj (hs.symm.trans hs')
    rw [Expectation.resolve?_any hr] at ht
    exact (Except.ok.inj ht).symm

theorem temporal (hf : call.function.family = .temporal) :
    call.SettledBy env subject args
      (match call.function with
      | .toDate => call.toDateValue
      | .toInstant => call.toInstantValue
      | _ => call.formatValue) := by
  split
  case h_1 hc =>
    obtain ⟨demand, x, hd, hx, heq⟩ :=
      h.temporalText env (by rw [hc]; rfl) (by rw [hc]; rfl)
    rw [ActiveCall.toDateValue_eq, heq]
    exact settles_of_subject hd hx fun value _ =>
      h.parse (fun _ _ => by rw [hc]; rfl) (by rw [hc]; rfl) _
  case h_2 hc =>
    obtain ⟨demand, x, hd, hx, heq⟩ :=
      h.temporalText env (by rw [hc]; rfl) (by rw [hc]; rfl)
    rw [ActiveCall.toInstantValue_eq, heq]
    exact settles_of_subject hd hx fun value _ =>
      h.parse (fun _ _ => by rw [hc]; rfl) (by rw [hc]; rfl) _
  case h_3 =>
    have hc : call.function = .format := by
      cases hc : call.function <;> simp_all [Function.family]
    have hs : call.function.signature.subject = some (.oneOf [.instant, .date]) := by rw [hc]; rfl
    obtain ⟨demand, -, hd, hx, -⟩ := h.subjectValue env hs (by rw [hc]; rfl)
    rw [ActiveCall.formatValue_eq]
    exact settles_of_subject hd hx fun value _ =>
      h.write (by rw [hc]; rfl) (by rw [hc]; rfl) value

/-- The children of a call settle it. -/
theorem value (hl : call.function.family ≠ .lowered) :
    call.SettledBy env subject args call.value := by
  unfold ActiveCall.value
  cases hf : call.function.family with
  | literal => exact h.literal (by cases hc : call.function <;> simp_all [Function.family])
  | now => exact h.now (by cases hc : call.function <;> simp_all [Function.family])
  | text => exact h.text hf
  | nullable => exact h.nullable hf
  | numeric => exact h.numeric hf
  | logical => exact h.logical hf
  | temporal => exact h.temporal hf
  | lowered => exact absurd hf hl

end ActiveCall.On
end AttrExpr
