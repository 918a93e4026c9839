import AttrExpr.Proofs.Quantifiers

/-! The course of an evaluation: which children a node evaluates, in which order and from which
states, and whether it takes what they give. -/
set_option autoImplicit false

namespace AttrExpr

/-- A value turned into a kind when there is one. -/
def Value.coerceTo (formats : Formats) (target : Option Kind) (value : Value) :
    Except EvalCause Value :=
  match target with
  | none => .ok value
  | some target => (value.coerce formats target).mapError .coercion

/-- A child that a node evaluates, and what the node wants of its value: the kind that it is turned
into, if any, and the kind to name when a missing value is refused. -/
structure Demand where
  node : Node
  target : Option Kind
  required : Option Kind

namespace Demand

/-- A child whose value is taken as it is. -/
def plain (node : Node) : Demand := ⟨node, none, none⟩

/-- What a value of the child is taken as, or why it is rejected. -/
def take (formats : Formats) (demand : Demand) (value : Value) : Except EvalCause Value :=
  match demand.required, value with
  | some kind, .unset => .error (.unset kind)
  | _, value => value.coerceTo formats demand.target

end Demand

/-- One evaluation of a child, with the states before and after it. -/
structure Visit where
  demand : Demand
  before : State
  result : Except EvalError Value
  after : State

namespace Visit

def node (visit : Visit) : Node := visit.demand.node

/-- What the node above takes. A value that it rejects is blamed on the child. -/
def taken (formats : Formats) (visit : Visit) : Except EvalError Value :=
  match visit.result with
  | .ok value => (visit.demand.take formats value).mapError (⟨·, visit.node.token⟩)
  | .error error => .error error

theorem taken_of_ok {formats : Formats} {visit : Visit} {value : Value}
    (h : visit.result = .ok value) :
    visit.taken formats = (visit.demand.take formats value).mapError (⟨·, visit.node.token⟩) := by
  simp only [taken, h]

theorem taken_of_error {formats : Formats} {visit : Visit} {error : EvalError}
    (h : visit.result = .error error) : visit.taken formats = .error error := by
  simp only [taken, h]

/-- The child gave a value that was accepted. -/
def Accepted (formats : Formats) (visit : Visit) : Prop :=
  ∃ value, visit.taken formats = .ok value

end Visit

def Demand.visit (env : Environment) (demand : Demand) (state : State) : Visit :=
  ⟨demand, state, (demand.node.eval env state).1, (demand.node.eval env state).2⟩

/-- A visit and those that follow when its value is accepted. -/
def Demand.visitThen (env : Environment) (demand : Demand) (state : State)
    (following : Value → State → List Visit) : List Visit :=
  let visit := demand.visit env state
  visit :: match visit.taken env.formats with
    | .ok value => following value visit.after
    | .error _ => []

/-- The evaluations of children one after the other, up to the first that is not accepted. `asks`
tells from the values taken so far whether the child at a place is evaluated at all. -/
def visitsInOrder (env : Environment) (asks : List Value → Nat → Bool) :
    Nat → List Value → List Demand → State → List Visit
  | _, _, [], _ => []
  | place, values, demand :: demands, state =>
    if asks values place then
      demand.visitThen env state fun value =>
        visitsInOrder env asks (place + 1) (values ++ [value]) demands
    else visitsInOrder env asks (place + 1) values demands state

/-- Every child is evaluated. -/
def asksAll (_ : List Value) (_ : Nat) : Bool := true

namespace Function

/-- The kind to name when the subject is missing, for functions that refuse it. -/
def required? : Function → Option Kind
  | .toDate => some .date
  | .toInstant => some .instant
  | _ => none

/-- Whether the argument at a place is evaluated, given the values of the subject and of the
arguments before it. -/
def asks (function : Function) (pattern : Option Regex) (subject : Value) (values : List Value)
    (place : Nat) : Bool :=
  match function with
  | .and => subject = .boolean true
  | .or => subject = .boolean false
  | .ifElse => place = if subject = .boolean true then 0 else 1
  | .replaceNull => subject.isUnset
  | .replaceEmpty => subject.isBlank
  | .matchesWhole | .find => pattern.isNone
  | .replaceFirst | .replaceAll =>
    if pattern.isSome then place = 1
    else values.all fun text => (readPattern false text.text).isOk
  | _ => true

end Function

namespace Node

/-- The subject of a call, unless its function has none. -/
def subjectDemand? (function : Function) (subject : Option Node) (target : Option Kind) :
    Option Demand :=
  function.signature.subject.bind fun _ =>
    subject.map fun node => ⟨node, target, function.required?⟩

def argumentDemands (args : List Node) (targets : List (Option Kind)) : List Demand :=
  args.zipIdx.map fun (arg, i) => ⟨arg, (targets[i]?).join, none⟩

/-- The children that a node may evaluate, the subject first and the arguments from left to
right. -/
def demands : Node → List Demand
  | .template _ parts => parts.map .plain
  | .call _ function subject target args targets _ =>
    (subjectDemand? function subject target).toList ++ argumentDemands args targets
  | .quantifier _ _ source fold body =>
    (source.operands ++ fold.operands ++ [body]).map .plain
  | .literal _ _ | .attribute _ _ | .loopVariable _ _ => []

/-- The evaluations of a subject, if there is one, and of the arguments after it. -/
def callVisits (env : Environment) (function : Function) (pattern : Option Regex)
    (subject : Option Demand) (args : List Demand) (state : State) : List Visit :=
  match subject with
  | none => visitsInOrder env (function.asks pattern .unset) 0 [] args state
  | some demand =>
    demand.visitThen env state fun value =>
      visitsInOrder env (function.asks pattern value) 0 [] args

/-- The evaluations of a body for candidates in order, up to the first value that decides. -/
def bodyVisits (env : Environment) (slot : Nat) (body : Node) (decides : Value → Bool) :
    List Candidate → State → List Visit
  | [], _ => []
  | candidate :: following, state =>
    (Demand.plain body).visitThen env (state.bind slot ⟨candidate, following⟩) fun value after =>
      if decides value then []
      else bodyVisits env slot body decides following (Eval.counted (after.release slot))

/-- The operands of a quantifier as texts. -/
def operandTexts (source : CandidateSource Node) (fold : Fold Node) :
    Eval (CandidateSource String × Fold String) := do
  let texts ← (evalSource source).evaluated
  pure (texts, ← (evalFold fold).evaluated)

/-- The evaluations of children in the course of an evaluation of a node, in order. -/
def visits (env : Environment) (state : State) : Node → List Visit
  | .template _ parts => visitsInOrder env asksAll 0 [] (parts.map .plain) state
  | .call _ function subject target args targets pattern =>
    callVisits env function pattern (subjectDemand? function subject target)
      (argumentDemands args targets) state
  | .quantifier _ slot source fold body =>
    visitsInOrder env asksAll 0 [] ((source.operands ++ fold.operands).map .plain) state ++
      match operandTexts source fold env state with
      | (.ok (texts, fold), after) =>
        bodyVisits env slot body fold.decides (texts.listed env.attributes) after
      | (.error _, _) => []
  | .literal _ _ | .attribute _ _ | .loopVariable _ _ => []

end Node

/-! What is visited are children, and a visit is an evaluation. -/

/-- A visit that took place, to a child from a list. -/
def Visit.Among (env : Environment) (demands : List Demand) (visit : Visit) : Prop :=
  visit.demand ∈ demands ∧ visit = visit.demand.visit env visit.before

namespace Visit

variable {env : Environment} {demands more : List Demand} {visit : Visit}

theorem Among.mono (h : visit.Among env demands) (hmore : ∀ demand ∈ demands, demand ∈ more) :
    visit.Among env more := ⟨hmore _ h.1, h.2⟩

end Visit

theorem Demand.visitThen_among {env : Environment} {demand : Demand} {state : State}
    {following : Value → State → List Visit} {demands : List Demand} (hself : demand ∈ demands)
    (hfollowing : ∀ value after, ∀ visit ∈ following value after, visit.Among env demands) :
    ∀ visit ∈ demand.visitThen env state following, visit.Among env demands := by
  intro visit hv
  rcases List.mem_cons.mp hv with rfl | hv
  · exact ⟨hself, rfl⟩
  · split at hv
    · exact hfollowing _ _ visit hv
    · exact absurd hv List.not_mem_nil

theorem visitsInOrder_among (env : Environment) (asks : List Value → Nat → Bool) (place : Nat)
    (values : List Value) (demands : List Demand) (state : State) :
    ∀ visit ∈ visitsInOrder env asks place values demands state, visit.Among env demands := by
  induction demands generalizing place values state with
  | nil => simp [visitsInOrder]
  | cons demand demands ih =>
    have later {visit : Visit} (h : visit.Among env demands) :
        visit.Among env (demand :: demands) := h.mono fun _ hd => List.mem_cons_of_mem _ hd
    rw [visitsInOrder]
    split
    · exact Demand.visitThen_among (by simp) fun _ _ visit hv => later (ih _ _ _ visit hv)
    · exact fun visit hv => later (ih _ _ _ visit hv)

namespace Node

theorem callVisits_among (env : Environment) (function : Function) (pattern : Option Regex)
    (subject : Option Demand) (args : List Demand) (state : State) :
    ∀ visit ∈ callVisits env function pattern subject args state,
      visit.Among env (subject.toList ++ args) := by
  cases subject with
  | none => exact visitsInOrder_among _ _ _ _ _ _
  | some demand =>
    exact Demand.visitThen_among (by simp) fun _ _ visit hv =>
      (visitsInOrder_among _ _ _ _ _ _ visit hv).mono (by simp +contextual)

theorem bodyVisits_among (env : Environment) (slot : Nat) (body : Node) (decides : Value → Bool)
    (candidates : List Candidate) (state : State) :
    ∀ visit ∈ bodyVisits env slot body decides candidates state, visit.Among env [.plain body] := by
  induction candidates generalizing state with
  | nil => simp [bodyVisits]
  | cons candidate following ih =>
    refine Demand.visitThen_among (List.mem_singleton_self _) fun value after visit hv => ?_
    split at hv
    · exact absurd hv List.not_mem_nil
    · exact ih _ visit hv

theorem visits_among (env : Environment) (state : State) (node : Node) :
    ∀ visit ∈ node.visits env state, visit.Among env node.demands := by
  intro visit hv
  cases node with
  | literal origin value => exact absurd hv List.not_mem_nil
  | «attribute» origin name => exact absurd hv List.not_mem_nil
  | loopVariable origin slot => exact absurd hv List.not_mem_nil
  | template origin parts => exact visitsInOrder_among _ _ _ _ _ _ visit hv
  | call origin function subject target args targets pattern =>
    exact callVisits_among _ _ _ _ _ _ visit hv
  | quantifier origin slot source fold body =>
    rw [visits, List.mem_append] at hv
    rcases hv with hv | hv
    · refine (visitsInOrder_among _ _ _ _ _ _ visit hv).mono fun demand hd => ?_
      rw [demands, List.map_append]
      exact List.mem_append_left _ hd
    · split at hv
      · exact (bodyVisits_among _ _ _ _ _ _ visit hv).mono (by simp [demands])
      · exact absurd hv List.not_mem_nil

theorem mem_children_of_demand {node : Node} {demand : Demand} (h : demand ∈ node.demands) :
    demand.node ∈ node.children := by
  cases node with
  | literal origin value => exact absurd h List.not_mem_nil
  | «attribute» origin name => exact absurd h List.not_mem_nil
  | loopVariable origin slot => exact absurd h List.not_mem_nil
  | template origin parts =>
    obtain ⟨part, hp, rfl⟩ := List.mem_map.mp h
    exact hp
  | quantifier origin slot source fold body =>
    obtain ⟨child, hc, rfl⟩ := List.mem_map.mp h
    exact hc
  | call origin function subject target args targets pattern =>
    rw [children, List.mem_append]
    rcases List.mem_append.mp h with h | h
    · obtain ⟨_, _, hs⟩ := Option.bind_eq_some_iff.mp (Option.mem_toList.mp h)
      obtain ⟨child, hc, rfl⟩ := Option.map_eq_some_iff.mp hs
      exact .inl (Option.mem_toList.mpr hc)
    · obtain ⟨⟨arg, i⟩, ha, rfl⟩ := List.mem_map.mp h
      exact .inr (List.fst_mem_of_mem_zipIdx ha)

theorem mem_children_of_visit {env : Environment} {state : State} {node : Node} {visit : Visit}
    (h : visit ∈ node.visits env state) : visit.node ∈ node.children :=
  mem_children_of_demand (visits_among env state node visit h).1

end Node

/-- All evaluations in the course of an evaluation, in the order in which they end. The last one is
the evaluation itself. -/
def Demand.trace (env : Environment) (demand : Demand) (state : State) : List Visit :=
  (demand.node.visits env state).attach.flatMap
    (fun inner => inner.1.demand.trace env inner.1.before) ++ [demand.visit env state]
termination_by sizeOf demand.node
decreasing_by exact Node.sizeOf_children _ _ (Node.mem_children_of_visit inner.2)

theorem Demand.trace_eq (env : Environment) (demand : Demand) (state : State) :
    demand.trace env state =
      (demand.node.visits env state).flatMap (fun inner => inner.demand.trace env inner.before) ++
        [demand.visit env state] := by
  rw [trace, List.flatMap_subtype (g := fun inner => inner.demand.trace env inner.before)
    fun _ _ => rfl, List.unattach_attach]

end AttrExpr
