import AttrExpr.Proofs.Typing

/-! Trees as compilation makes them, and what their evaluation gives. -/
set_option autoImplicit false

namespace AttrExpr

open Eval (Ensures Always)

/-- The kind of what a quantifier gives, given the kind of its body. -/
def Fold.Gives {α : Type} (body result : Kind) : Fold α → Prop
  | .any | .all => body = .boolean ∧ result = .boolean
  | .join _ => result = .string
  | .count => result = .whole

namespace Node

/-- Function, operands and targets of a call agree with the signature of the function. Arguments see
no variables of quantifiers around them. -/
structure CallSound (origin : Origin) (function : Function) (subject : Option Node)
    (target : Option Kind) (args : List Node) (targets : List (Option Kind)) : Prop where
  evaluated : function.family ≠ .lowered
  subject : ∀ expected, function.signature.subject = some expected →
    ∃ node, subject = some node ∧ expected.resolve? node.kind = some target
  count : function.signature.accepts args.length = true
  closed : ∀ arg ∈ args, arg.freeSlots = []
  params : ∀ (i : Nat) (arg : Node), args[i]? = some arg →
    ∃ target, targets[i]? = some target ∧
      (function.signature.param i).resolve? arg.kind = some target
  kind : origin.kind =
    (function.signature.returns.or (args.head?.map Node.kind)).getD .string

/-- Only the body of a quantifier sees its variable, and nothing in the body binds its slot
again. -/
structure QuantifierSound (origin : Origin) (slot : Nat) (source : CandidateSource Node)
    (fold : Fold Node) (body : Node) : Prop where
  closed : ∀ child ∈ source.operands ++ fold.operands, child.freeSlots = []
  free : body.freeSlots = [slot]
  unbound : slot ∉ body.boundSlots
  kind : fold.Gives body.kind origin.kind

theorem QuantifierSound.freeSlots_eq {origin : Origin} {slot : Nat} {source : CandidateSource Node}
    {fold : Fold Node} {body : Node} (h : QuantifierSound origin slot source fold body) :
    (quantifier origin slot source fold body).freeSlots = [] := by
  have hsource : source.operands.flatMap freeSlots = [] :=
    List.flatMap_eq_nil_iff.mpr fun child hc => h.closed child (by simp [hc])
  have hfold : fold.operands.flatMap freeSlots = [] :=
    List.flatMap_eq_nil_iff.mpr fun child hc => h.closed child (by simp [hc])
  simp [freeSlots, freeSlotsOfSource_eq, freeSlotsOfFold_eq, hsource, hfold, h.free]

/-- What compilation promises of a node. -/
def Sound : Node → Prop
  | .literal origin value => value.Is origin.kind
  | .attribute origin _ => origin.kind = .string
  | .loopVariable origin _ => origin.kind = .string
  | .template origin parts => origin.kind = .string ∧ ∀ part ∈ parts, part.freeSlots = []
  | .call origin function subject target args targets _ =>
    CallSound origin function subject target args targets
  | .quantifier origin slot source fold body => QuantifierSound origin slot source fold body

/-- What compilation promises of all nodes of a tree. -/
def WellFormed (node : Node) : Prop := ∀ other ∈ node.all, other.Sound

theorem WellFormed.self {node : Node} (h : node.WellFormed) : node.Sound :=
  h node (mem_all_self node)

theorem WellFormed.child {node child : Node} (h : node.WellFormed) (hc : child ∈ node.children) :
    child.WellFormed := fun other ho => h other (mem_all_of_child hc ho)

end Node

namespace Eval

variable {α β : Type}

theorem advance_apply (slot : Nat) (env : Environment) (state : State) :
    advance slot env state =
      match (state.cursor? slot).bind Cursor.advanced? with
      | some cursor => (.ok true, state.bind slot cursor)
      | none => (.ok false, state.release slot) := by
  unfold advance
  rw [get_bind_apply]
  cases (state.cursor? slot).bind Cursor.advanced? <;> rfl

namespace Ensures

variable {env : Environment} {start : State → Prop} {good : α → Prop}

theorem weaken {x : Eval α} {stronger : State → Prop} (h : Ensures env start x good)
    (hs : ∀ state, stronger state → start state) : Ensures env stronger x good :=
  fun state hstate => h state (hs state hstate)

theorem modify {change : State → State} {f : Unit → Eval α} {S : State → Prop}
    (h : Ensures env S (f ()) good) (hs : ∀ state, start state → S (change state)) :
    Ensures env start (modify change >>= f) good :=
  fun state hstate => h (change state) (hs state hstate)

theorem get {f : State → Eval α} (h : ∀ state, Ensures env start (f state) good) :
    Ensures env start (get >>= f) good := fun state hstate => h state state hstate

end Ensures

end Eval

namespace Accumulator

def kind : Accumulator → Kind
  | .any | .all => .boolean
  | .join _ _ => .string
  | .count _ => .whole

/-- Whether a body of a kind may be folded: a predicate is a truth value. -/
def Takes (body : Kind) : Accumulator → Prop
  | .any | .all => body = .boolean
  | .join _ _ | .count _ => True

theorem finish_is (acc : Accumulator) : acc.finish.Is acc.kind := by
  cases acc with
  | any => exact Value.is_boolean false
  | all => exact Value.is_boolean true
  | join separator joined => exact Value.is_string _
  | count n => exact Value.is_whole _

theorem push_ensures {env : Environment} {token : String} {value : Value} {body : Kind}
    {acc : Accumulator} (hacc : acc.Takes body) (hv : value.Fits body) :
    Always env (acc.push token value) fun pushed =>
      match pushed with
      | .inl result => result.Is acc.kind
      | .inr next => next.kind = acc.kind ∧ next.Takes body := by
  cases acc with
  | any =>
    obtain rfl : body = .boolean := hacc
    obtain ⟨b, rfl⟩ := hv.boolean
    cases b with
    | true => exact .pure (Value.is_boolean true)
    | false => exact .pure ⟨rfl, rfl⟩
  | all =>
    obtain rfl : body = .boolean := hacc
    obtain ⟨b, rfl⟩ := hv.boolean
    cases b with
    | true => exact .pure ⟨rfl, rfl⟩
    | false => exact .pure (Value.is_boolean false)
  | join separator joined =>
    cases joined <;> simp only [push] <;> split <;> exact .pure ⟨rfl, trivial⟩
  | count n =>
    cases value with
    | boolean b => cases b <;> exact .pure ⟨rfl, trivial⟩
    | unset | string | number | date | instant => exact .pure ⟨rfl, trivial⟩

end Accumulator

/-- The loop of a quantifier gives a value of the kind of its fold when the body gives values that
the fold takes. -/
theorem Eval.drive_ensures {env : Environment} {token : String} {slot : Nat} {body : Eval Value}
    {pending : (Nat → Nat) → Nat} {kind : Kind}
    (hbody : Ensures env (fun state => (state.cursor? slot).isSome) body fun value =>
      value.Fits kind) (fuel : Nat) (acc : Accumulator) (hacc : acc.Takes kind) :
    Ensures env (fun state => (state.cursor? slot).isSome)
      (Eval.drive token slot body pending fuel acc) fun value => value.Is acc.kind := by
  induction fuel generalizing acc with
  | zero => exact .pure acc.finish_is
  | succ fuel ih =>
    refine hbody.bind fun value hv => .modify (S := fun _ => True) ?_ fun _ _ => trivial
    refine (Accumulator.push_ensures hacc hv).bind fun pushed hp => ?_
    cases pushed with
    | inl result => exact .pure hp
    | inr next =>
      obtain ⟨hkind, htakes⟩ := hp
      rw [← hkind]
      refine .get fun state => ?_
      split
      · exact .pure next.finish_is
      · -- the slot is bound again exactly when the cursor moves on
        intro state _
        rw [Eval.bind_apply, Eval.advance_apply]
        cases (state.cursor? slot).bind Cursor.advanced? with
        | none => exact next.finish_is
        | some cursor => exact ih next htakes _ (by simp)

namespace Eval

variable {env : Environment}

theorem lookup_ensures (name : String) :
    Always env (lookup name) fun value => value.Fits .string := by
  refine .modify (S := fun _ => True) (.read ?_) fun _ _ => trivial
  split
  · exact .pure (.inl (Value.is_string _))
  · exact .pure (.inr ⟨rfl, rfl⟩)

theorem variableOf_ensures (token : String) (slot : Nat) :
    Ensures env (fun state => (state.cursor? slot).isSome) (variableOf token slot) fun value =>
      value.Fits .string := by
  intro state hs
  obtain ⟨cursor, hc⟩ := Option.isSome_iff_exists.mp hs
  unfold variableOf
  rw [get_bind_apply, hc]
  dsimp only
  cases cursor.current with
  | «attribute» name => exact lookup_ensures name state trivial
  | value text => exact .inl (Value.is_string text)

theorem candidates_ensures (source : CandidateSource (Eval Value))
    (h : ∀ x ∈ source.operands, Always env x fun _ => True) :
    Always env source.candidates fun _ => True := by
  cases source with
  | named names => exact .pure trivial
  | matching patterns => exact .read (.pure trivial)
  | delineated value delimiter =>
    exact (h value (by simp [CandidateSource.operands])).bind fun _ _ =>
      (h delimiter (by simp [CandidateSource.operands])).bind fun _ _ => .pure trivial

end Eval

namespace Node

variable {env : Environment}

theorem accumulator_ensures {body result : Kind} {fold : Fold Node} (hfold : fold.Gives body result)
    (h : ∀ child ∈ fold.operands, Always env child.eval fun _ => True) :
    Always env (evalFold fold).accumulator fun acc => acc.Takes body ∧ acc.kind = result := by
  cases fold with
  | any =>
    obtain ⟨hbody, rfl⟩ := hfold
    exact .pure ⟨hbody, rfl⟩
  | all =>
    obtain ⟨hbody, rfl⟩ := hfold
    exact .pure ⟨hbody, rfl⟩
  | join separator =>
    obtain rfl : result = .string := hfold
    exact (h separator (by simp [Fold.operands])).bind fun _ _ => .pure ⟨trivial, rfl⟩
  | count =>
    obtain rfl : result = .whole := hfold
    exact .pure ⟨trivial, rfl⟩

/-- The loop variables that a tree sees are bound. -/
def Bound (node : Node) (state : State) : Prop :=
  ∀ slot ∈ node.freeSlots, (state.cursor? slot).isSome

/-- A tree gives a value of its kind where its loop variables are bound. -/
def Evaluates (env : Environment) (node : Node) : Prop :=
  Ensures env node.Bound node.eval fun value => value.Fits node.kind

/-- It does not matter what is bound for a tree that sees no loop variables. -/
theorem Evaluates.of_closed {node : Node} (h : node.Evaluates env) (hc : node.freeSlots = []) :
    Always env node.eval fun value => value.Fits node.kind :=
  h.weaken fun state _ slot hs => absurd hs (by simp [hc])

theorem evalText_ensures (parts : List Node)
    (h : ∀ part ∈ parts, Always env part.eval fun value => value.Fits part.kind) :
    Always env (evalText parts) fun _ => True := by
  induction parts with
  | nil =>
    rw [evalText]
    exact .pure trivial
  | cons part parts ih =>
    rw [evalText]
    exact (h part (by simp)).bind fun value _ =>
      (ih fun other ho => h other (by simp [ho])).bind fun text _ => .pure trivial

/-- A call node whose operands evaluate is a well-formed call. -/
theorem CallSound.wellFormed {origin : Origin} {function : Function} {subject : Option Node}
    {target : Option Kind} {args : List Node} {targets : List (Option Kind)}
    (h : CallSound origin function subject target args targets)
    (hsubject : ∀ child ∈ subject, child.Evaluates env)
    (hargs : ∀ child ∈ args, child.Evaluates env) (pattern : Option Regex) :
    ActiveCall.WellFormed env (fun state => ∀ child ∈ subject, child.Bound state)
      ⟨function, origin.token, evalSubject target subject, operands (evalArgs args) targets,
        pattern⟩ where
  subject expected he := by
    obtain ⟨child, rfl, hr⟩ := h.subject expected he
    refine ⟨⟨child.token, target, child.eval⟩, by rw [evalSubject], child.kind, hr, ?_⟩
    exact (hsubject child rfl).weaken fun state hstate => hstate child rfl
  count := by simpa using h.count
  args i operand ho := by
    rw [getElem?_operands, Option.map_eq_some_iff] at ho
    obtain ⟨arg, harg, rfl⟩ := ho
    obtain ⟨target, ht, hr⟩ := h.params i arg harg
    have hmem := List.mem_of_getElem? harg
    exact ⟨arg.kind, by simpa [ht] using hr, (hargs arg hmem).of_closed (h.closed arg hmem)⟩

theorem arg_evaluates {args : List Node} {targets : List (Option Kind)} {call : ActiveCall}
    {i : Nat} {arg : Node} (hcall : call.args = operands (evalArgs args) targets)
    (hi : args[i]? = some arg) (ht : targets[i]? = some none)
    (h : Always env arg.eval fun value => value.Fits arg.kind) :
    Always env (call.arg i) fun value => value.Fits arg.kind := by
  unfold ActiveCall.arg
  rw [hcall, getElem?_operands, hi, ht]
  exact h.bind fun value hv => .pure hv

theorem CallSound.evaluates {origin : Origin} {function : Function} {subject : Option Node}
    {target : Option Kind} {args : List Node} {targets : List (Option Kind)}
    (h : CallSound origin function subject target args targets)
    (hsubject : ∀ child ∈ subject, child.Evaluates env)
    (hargs : ∀ child ∈ args, child.Evaluates env) (pattern : Option Regex) :
    Ensures env (fun state => ∀ child ∈ subject, child.Bound state)
      (eval (.call origin function subject target args targets pattern)) fun value =>
        value.Fits origin.kind := by
  have wf := h.wellFormed hsubject hargs pattern
  rw [eval]
  by_cases hf : function.family = .literal
  · -- the value of the one argument as it is, so it may be missing as well
    obtain rfl : function = .literal := by
      cases function <;> simp_all [Function.family]
    have hc := h.count
    obtain ⟨arg, rfl⟩ : ∃ arg, args = [arg] := by
      refine List.length_eq_one_iff.mp ?_
      simp [Signature.accepts, Signature.minArgs, Signature.maxArgs?, Function.signature] at hc
      omega
    obtain ⟨target', ht, hr⟩ := h.params 0 arg rfl
    cases hr
    have hkind : origin.kind = arg.kind := h.kind
    rw [hkind]
    exact .of_always (arg_evaluates rfl rfl ht
      ((hargs arg (by simp)).of_closed (h.closed arg (by simp))))
  · refine (wf.value h.evaluated hf).mono fun value hv => .inl ?_
    obtain ⟨kind, hk, hv⟩ := hv
    have hkind : origin.kind = kind := by rw [h.kind, hk]; rfl
    rwa [hkind]

theorem QuantifierSound.evaluates {origin : Origin} {slot : Nat} {source : CandidateSource Node}
    {fold : Fold Node} {body : Node} (h : QuantifierSound origin slot source fold body)
    (hoperands : ∀ child ∈ source.operands ++ fold.operands, child.Evaluates env)
    (hbody : body.Evaluates env) :
    Always env (eval (.quantifier origin slot source fold body)) fun value =>
      value.Fits origin.kind := by
  have operand (child : Node) (hc : child ∈ source.operands ++ fold.operands) :
      Always env child.eval fun _ => True :=
    ((hoperands child hc).of_closed (h.closed child hc)).mono fun _ _ => trivial
  have hloop : Ensures env (fun state => (state.cursor? slot).isSome) body.eval fun value =>
      value.Fits body.kind :=
    hbody.weaken fun state hstate => by simpa [Bound, h.free] using hstate
  rw [eval]
  refine (Eval.candidates_ensures _ ?_).bind fun candidates _ =>
    (accumulator_ensures h.kind fun child hc => operand child (by simp [hc])).bind
      fun acc hacc => ?_
  · intro x hx
    rw [operands_evalSource, List.mem_map] at hx
    obtain ⟨child, hc, rfl⟩ := hx
    exact operand child (by simp [hc])
  · obtain ⟨htakes, hkind⟩ := hacc
    rw [← hkind]
    cases Cursor.start? candidates with
    | none => exact .pure (.inl acc.finish_is)
    | some cursor =>
      refine .modify (S := fun state => (state.cursor? slot).isSome) ?_ fun state _ => by simp
      exact (Eval.drive_ensures hloop candidates.length acc htakes).mono fun value hv => .inl hv

/-- A well-formed tree gives a value of its kind where its loop variables are bound, or fails in an
expected way. -/
theorem WellFormed.evaluates {node : Node} (h : node.WellFormed) : node.Evaluates env := by
  induction node using induction with
  | step node ih =>
    have below (child : Node) (hc : child ∈ node.children) : child.Evaluates env :=
      ih child hc (h.child hc)
    have hself := h.self
    cases node with
    | literal origin value =>
      rw [Evaluates, eval]
      exact .pure (.inl hself)
    | «attribute» origin name =>
      have hkind : kind (.attribute origin name) = .string := hself
      rw [Evaluates, hkind, eval]
      exact .of_always (Eval.lookup_ensures name)
    | loopVariable origin slot =>
      have hkind : kind (.loopVariable origin slot) = .string := hself
      rw [Evaluates, hkind, eval]
      exact (Eval.variableOf_ensures origin.token slot).weaken fun state hstate =>
        hstate slot (by simp [freeSlots])
    | template origin parts =>
      obtain ⟨hkind, hclosed⟩ := hself
      have hkind : kind (.template origin parts) = .string := hkind
      rw [Evaluates, hkind, eval]
      exact (Ensures.of_always (evalText_ensures parts fun part hp =>
        (below part hp).of_closed (hclosed part hp))).bind fun text _ =>
          .pure (.inl (Value.is_string text))
    | call origin function subject target args targets pattern =>
      refine (CallSound.evaluates hself ?_ ?_ pattern).weaken ?_
      · intro child hc
        exact below child (by simpa [children] using .inl hc)
      · intro child hc
        exact below child (by simp [children, hc])
      · intro state hstate child hc slot hs
        obtain rfl := Option.mem_def.mp hc
        exact hstate slot (by simp [freeSlots, freeSlotsOfOption, hs])
    | quantifier origin slot source fold body =>
      refine .of_always (QuantifierSound.evaluates hself ?_ (below body (by simp [children])))
      intro child hc
      exact below child (List.mem_append_left _ hc)

end Node

end AttrExpr
