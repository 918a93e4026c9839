import AttrExpr.Proofs.Tree

/-! Slots and their cursors: which slots a tree binds, which ones it leaves to the tree around it,
and what an evaluation does to the cursors that it finds. -/
set_option autoImplicit false

namespace AttrExpr

namespace State

variable (state : State) (cursor : Cursor) {slot slot' : Nat}

@[simp] theorem cursor?_release_self : (state.release slot).cursor? slot = none := by
  simp only [cursor?, release, List.lookup_eq_none_iff, List.mem_filter]
  intro entry he
  simpa only [beq_eq_false_iff_ne, ne_comm, bne_iff_ne] using he.2

theorem lookup_filter_ne (h : slot' ≠ slot) (entries : List (Nat × Cursor)) :
    (entries.filter fun entry => entry.1 != slot).lookup slot' = entries.lookup slot' := by
  induction entries with
  | nil => rfl
  | cons entry entries ih =>
    obtain ⟨bound, cursor⟩ := entry
    by_cases hb : bound = slot
    · have hs : (slot' == slot) = false := by simpa using h
      simp [hb, ih, List.lookup_cons, hs]
    · simp [hb, ih, List.lookup_cons]

theorem cursor?_release_of_ne (h : slot' ≠ slot) :
    (state.release slot).cursor? slot' = state.cursor? slot' :=
  lookup_filter_ne h state.cursors

@[simp] theorem cursor?_bind_self : (state.bind slot cursor).cursor? slot = some cursor := by
  simp [cursor?, bind]

theorem cursor?_bind_of_ne (h : slot' ≠ slot) :
    (state.bind slot cursor).cursor? slot' = state.cursor? slot' := by
  have hs : (slot' == slot) = false := by simpa using h
  have hr := cursor?_release_of_ne state h
  simp only [cursor?] at hr
  simp [cursor?, bind, List.lookup_cons, hs, hr]

@[simp] theorem bind_release : (state.release slot).bind slot cursor = state.bind slot cursor := by
  simp [release, bind]

/-- No slot is bound. -/
def Unbound (state : State) : Prop := ∀ slot, state.cursor? slot = none

theorem unbound_iff : state.Unbound ↔ state.cursors = [] := by
  constructor
  · intro h
    cases hc : state.cursors with
    | nil => rfl
    | cons entry entries =>
      have he := h entry.1
      simp [cursor?, hc] at he
  · intro h slot
    simp [cursor?, h]

theorem unbound_fresh : fresh.Unbound := fun _ => rfl

theorem Unbound.remaining {state : State} (h : state.Unbound) : state.remaining = fun _ => 0 := by
  funext slot
  simp [State.remaining, h slot]

end State

namespace Eval

variable {α : Type}

/-- An evaluation relates the state before it to the state after it, also when it fails. -/
def Follows (R : State → State → Prop) {α : Type} (x : Eval α) : Prop :=
  ∀ env state, R state (x env state).2

namespace Follows

variable {R : State → State → Prop} (refl : ∀ state, R state state)
  (trans : ∀ first second third, R first second → R second third → R first third)

theorem modify {f : State → State} (h : ∀ state, R state (f state)) :
    Follows R (modify f : Eval Unit) := fun _ state => h state

include trans in
theorem bind {β : Type} {x : Eval α} {f : α → Eval β} (hx : Follows R x)
    (hf : ∀ a, Follows R (f a)) : Follows R (x >>= f) := by
  intro env state
  have h := hx env state
  rw [bind_apply]
  rcases hr : x env state with ⟨error | a, after⟩
  · simpa [hr] using h
  · rw [hr] at h
    exact trans _ _ _ h (hf a env after)

include trans in
theorem releasing {slot : Nat} {x : Eval α} (hx : Follows R x)
    (h : ∀ state : State, R state (state.release slot)) : Follows R (Eval.releasing slot x) :=
  fun env state => trans _ _ _ (hx env state) (h _)

include refl trans

theorem closed : Closed (Follows R) where
  pure _ := fun _ state => refl state
  fail _ _ := fun _ state => refl state
  bind hx hf := bind trans hx hf
  settings _ hf := fun env state => hf env env state

theorem lookup {name : String}
    (h : ∀ state : State, R state { state with reads := name :: state.reads }) :
    Follows R (lookup name) := by
  refine bind trans (modify h) fun _ => bind trans (fun _ state => refl state) fun env => ?_
  split <;> exact fun _ state => refl state

theorem variableOf {token : String} {slot : Nat}
    (h : ∀ (state : State) name, R state { state with reads := name :: state.reads }) :
    Follows R (variableOf token slot) := by
  refine bind trans (fun _ state => refl state) fun state => ?_
  split
  · split
    · next name _ => exact lookup refl trans fun state => h state name
    · exact fun _ state => refl state
  · exact fun _ state => refl state

theorem advance {slot : Nat} (hbind : ∀ (state : State) cursor, R state (state.bind slot cursor))
    (hrelease : ∀ state : State, R state (state.release slot)) : Follows R (advance slot) := by
  refine bind trans (fun _ state => refl state) fun state => ?_
  split
  · next cursor _ =>
    exact bind trans (modify fun state => hbind state cursor) fun _ _ state => refl state
  · exact bind trans (modify hrelease) fun _ _ state => refl state

/-- The loop of a quantifier relates states as its body does, as counting and moving its own cursor
do. -/
theorem drive {token : String} {slot : Nat} {body : Eval Value} {pending : (Nat → Nat) → Nat}
    (hbody : Follows R body)
    (hcount : ∀ state : State, R state { state with iterations := state.iterations + 1 })
    (hbind : ∀ (state : State) cursor, R state (state.bind slot cursor))
    (hrelease : ∀ state : State, R state (state.release slot)) (fuel : Nat) (acc : Accumulator) :
    Follows R (drive token slot body pending fuel acc) := by
  refine (closed refl trans).drive hbody (modify hcount) (fun hx hy => ?_)
    (advance refl trans hbind hrelease) fuel acc
  refine bind trans (fun _ state => refl state) fun state => ?_
  split
  · exact hx
  · exact hy

end Follows

end Eval

namespace Node

/-- The slot that a node binds. -/
def slot? : Node → Option Nat
  | .quantifier _ slot _ _ _ => some slot
  | _ => none

/-- The slots that the quantifiers of a tree bind. -/
def boundSlots (node : Node) : List Nat := node.all.filterMap slot?

theorem mem_boundSlots {node : Node} {origin : Origin} {slot : Nat}
    {source : CandidateSource Node} {fold : Fold Node} {body : Node}
    (h : .quantifier origin slot source fold body ∈ node.all) : slot ∈ node.boundSlots :=
  List.mem_filterMap.mpr ⟨_, h, rfl⟩

mutual

/-- The slots of the variables of a tree that are not inside the body of a quantifier that binds
them, each as often as it occurs. -/
def freeSlots : Node → List Nat
  | .loopVariable _ slot => [slot]
  | .template _ parts => freeSlotsOfList parts
  | .call _ _ subject _ args _ _ => freeSlotsOfOption subject ++ freeSlotsOfList args
  | .quantifier _ slot source fold body =>
    freeSlotsOfSource source ++ freeSlotsOfFold fold ++ (freeSlots body).filter (· != slot)
  | .literal _ _ => []
  | .attribute _ _ => []

def freeSlotsOfList : List Node → List Nat
  | [] => []
  | node :: nodes => freeSlots node ++ freeSlotsOfList nodes

def freeSlotsOfOption : Option Node → List Nat
  | none => []
  | some node => freeSlots node

def freeSlotsOfSource : CandidateSource Node → List Nat
  | .delineated value delimiter => freeSlots value ++ freeSlots delimiter
  | .named _ => []
  | .matching _ => []

def freeSlotsOfFold : Fold Node → List Nat
  | .join separator => freeSlots separator
  | .any => []
  | .all => []
  | .count => []

end

theorem freeSlotsOfList_eq (nodes : List Node) :
    freeSlotsOfList nodes = nodes.flatMap freeSlots := by
  induction nodes with
  | nil => simp [freeSlotsOfList]
  | cons node nodes ih => simp [freeSlotsOfList, ih]

theorem freeSlotsOfSource_eq (source : CandidateSource Node) :
    freeSlotsOfSource source = source.operands.flatMap freeSlots := by
  cases source <;> simp [freeSlotsOfSource, CandidateSource.operands]

theorem freeSlotsOfFold_eq (fold : Fold Node) :
    freeSlotsOfFold fold = fold.operands.flatMap freeSlots := by
  cases fold <;> simp [freeSlotsOfFold, Fold.operands]

theorem pendingOfList_eq_zero (remaining : Nat → Nat) (nodes : List Node)
    (h : ∀ node ∈ nodes, node.pending remaining = 0) : pendingOfList remaining nodes = 0 := by
  induction nodes with
  | nil => rw [pendingOfList]
  | cons node nodes ih =>
    rw [pendingOfList, h node (by simp), ih fun other ho => h other (by simp [ho])]
    rfl

/-- Nothing is pending in a tree when nothing is left for the variables that are free in it. -/
theorem pending_eq_zero (remaining : Nat → Nat) (node : Node)
    (h : ∀ slot ∈ node.freeSlots, remaining slot = 0) : node.pending remaining = 0 := by
  induction node using induction with
  | step node ih =>
    cases node with
    | literal origin value => rw [pending]
    | «attribute» origin name => rw [pending]
    | quantifier origin slot source fold body => rw [pending]
    | loopVariable origin slot =>
      rw [pending]
      exact h slot (by simp [freeSlots])
    | template origin parts =>
      rw [freeSlots, freeSlotsOfList_eq] at h
      rw [pending]
      refine pendingOfList_eq_zero remaining parts fun part hp => ih part hp fun slot hs => ?_
      exact h slot (List.mem_flatMap.mpr ⟨part, hp, hs⟩)
    | call origin function subject target args targets pattern =>
      rw [freeSlots, freeSlotsOfList_eq] at h
      have hargs : pendingOfList remaining args = 0 := by
        refine pendingOfList_eq_zero remaining args fun arg ha =>
          ih arg (by simp [children, ha]) fun slot hs => ?_
        exact h slot (List.mem_append_right _ (List.mem_flatMap.mpr ⟨arg, ha, hs⟩))
      rw [pending, hargs]
      cases subject with
      | none => simp [pendingOfOption]
      | some child =>
        simp only [pendingOfOption, Nat.max_zero]
        exact ih child (by simp [children]) fun slot hs =>
          h slot (by simp [freeSlotsOfOption, hs])

/-- What an evaluation does to the cursor of a slot. When a quantifier of the tree binds the slot,
it may be unbound afterwards. -/
theorem eval_cursor? {r : Option Cursor → Option Cursor → Prop} (refl : ∀ a, r a a)
    (trans : ∀ a b c, r a b → r b c → r a c) (node : Node) (slot : Nat)
    (h : slot ∈ node.boundSlots → ∀ a, r a none) :
    Eval.Follows (fun before after => r (before.cursor? slot) (after.cursor? slot)) node.eval := by
  let R (before after : State) : Prop := r (before.cursor? slot) (after.cursor? slot)
  have hrefl (state : State) : R state state := refl _
  have htrans (first second third : State) : R first second → R second third → R first third :=
    trans _ _ _
  have closed := Eval.Follows.closed hrefl htrans
  refine eval_closed closed node ?_ ?_ ?_
  · intro origin name _
    exact Eval.Follows.lookup hrefl htrans fun state => refl _
  · intro origin slot' _
    exact Eval.Follows.variableOf hrefl htrans fun state name => refl _
  · intro origin slot' source fold body hq hchildren
    rw [eval]
    refine closed.quantify _ _ _ _ _ _ ?_ (fun patterns _ _ state => hrefl state) ?_
    · intro x hx
      rw [operands_evalSource, operands_evalFold, ← List.map_append, List.mem_map] at hx
      obtain ⟨child, hc, rfl⟩ := hx
      exact hchildren child (List.mem_append_left _ hc)
    · intro cursor fuel acc
      by_cases hs : slot = slot'
      · subst hs
        intro env state
        simp only [R, Eval.modify_bind_apply, Eval.releasing_apply, State.cursor?_release_self]
        exact h (mem_boundSlots hq) (state.cursor? slot)
      · have hbody := hchildren body (by simp)
        have hbind (state : State) (cursor : Cursor) : R state (state.bind slot' cursor) := by
          simp only [R, State.cursor?_bind_of_ne state cursor hs]
          exact refl _
        have hrelease (state : State) : R state (state.release slot') := by
          simp only [R, State.cursor?_release_of_ne state hs]
          exact refl _
        exact Eval.Follows.bind htrans (Eval.Follows.modify fun state => hbind state cursor)
          fun _ => Eval.Follows.releasing htrans
            (Eval.Follows.drive hrefl htrans hbody (fun state => refl _) hbind hrelease fuel acc)
            hrelease

/-- A slot that no quantifier of a tree binds keeps its cursor. -/
theorem eval_keeps_cursor (node : Node) (slot : Nat) (h : slot ∉ node.boundSlots)
    (env : Environment) (state : State) :
    (node.eval env state).2.cursor? slot = state.cursor? slot :=
  (eval_cursor? (r := fun a b => b = a) (fun _ => rfl) (fun _ _ _ h₁ h₂ => h₂.trans h₁)
    node slot (fun hs => absurd hs h)) env state

/-- No evaluation leaves a slot bound that was not bound before. -/
theorem eval_unbound (node : Node) (env : Environment) (state : State) (h : state.Unbound) :
    (node.eval env state).2.Unbound := fun slot =>
  (eval_cursor? (r := fun a b => a = none → b = none) (fun _ h => h)
    (fun _ _ _ h₁ h₂ h => h₂ (h₁ h)) node slot (fun _ _ _ => rfl)) env state (h slot)

end Node

end AttrExpr
