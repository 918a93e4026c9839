import AttrExpr.Proofs.Congruence
import AttrExpr.Proofs.Quantifiers
import Mathlib.Data.Finset.Lattice.Fold

/-! What a tree still has to see of the candidates for its variables, and for how long a quantifier
goes on to the next one. -/
set_option autoImplicit false

namespace AttrExpr

@[simp] theorem State.release_release (state : State) (slot : Nat) :
    (state.release slot).release slot = state.release slot := by
  simp [release]

namespace Eval

/-- The fold over candidates in order, with the slot bound to each in turn. It goes on from one to
the next until it is decided, and as long as the state lets it. -/
def visitWhile (token : String) (slot : Nat) (body : Eval Value) (goesOn : State → Bool) :
    List Candidate → Accumulator → Eval Value
  | [], acc => pure acc.finish
  | candidate :: following, acc => do
    modify fun state => state.bind slot ⟨candidate, following⟩
    match ← round token body acc with
    | .inl result => pure result
    | .inr next =>
      if goesOn (← get) then visitWhile token slot body goesOn following next
      else pure next.finish

/-- The value of a quantifier that goes on to the next candidate as long as the state lets it. -/
def quantifyWhile (token : String) (slot : Nat) (source : CandidateSource (Eval Value))
    (fold : Fold (Eval Value)) (body : Eval Value) (goesOn : State → Bool) : Eval Value := do
  let candidates ← source.candidates
  let acc ← fold.accumulator
  if candidates.isEmpty then pure acc.finish
  else releasing slot (visitWhile token slot body goesOn candidates acc)

variable {env : Environment} {token : String} {slot : Nat} {body : Eval Value}

theorem visitWhile_cons (goesOn : State → Bool) (candidate : Candidate)
    (following : List Candidate) (acc : Accumulator) (state : State) :
    visitWhile token slot body goesOn (candidate :: following) acc env state =
      match round token body acc env (state.bind slot ⟨candidate, following⟩) with
      | (.error error, after) => (.error error, after)
      | (.ok (.inl result), after) => (.ok result, after)
      | (.ok (.inr next), after) =>
        if goesOn after then visitWhile token slot body goesOn following next env after
        else (.ok next.finish, after) := by
  rw [visitWhile, modify_bind_apply, bind_apply]
  rcases round token body acc env (state.bind slot ⟨candidate, following⟩) with
    ⟨error | result | next, after⟩
  · rfl
  · rfl
  · dsimp only
    rw [get_bind_apply]
    split <;> rfl

theorem drive_round_apply (pending : (Nat → Nat) → Nat) (fuel : Nat) (acc : Accumulator)
    (state : State) :
    drive token slot body pending (fuel + 1) acc env state =
      match round token body acc env state with
      | (.error error, after) => (.error error, after)
      | (.ok (.inl result), after) => (.ok result, after)
      | (.ok (.inr next), after) =>
        if pending after.remaining = 0 then (.ok next.finish, after)
        else
          match (after.cursor? slot).bind Cursor.advanced? with
          | some cursor => drive token slot body pending fuel next env (after.bind slot cursor)
          | none => (.ok next.finish, after.release slot) := by
  rw [drive_round, bind_apply]
  rcases round token body acc env state with ⟨error | result | next, after⟩
  · rfl
  · rfl
  · dsimp only
    rw [get_bind_apply]
    split
    · rfl
    · rw [bind_apply, advance_apply]
      cases (after.cursor? slot).bind Cursor.advanced? <;> rfl

theorem Follows.round (token : String) {R : State → State → Prop} (refl : ∀ state, R state state)
    (trans : ∀ first second third, R first second → R second third → R first third)
    (hcount : ∀ state : State, R state { state with iterations := state.iterations + 1 })
    (hbody : Follows R body) (acc : Accumulator) : Follows R (Eval.round token body acc) :=
  Follows.bind trans hbody fun value => Follows.bind trans (Follows.modify hcount) fun _ =>
    (Follows.closed refl trans).push token value acc

/-- Only the states after a round with candidates left decide how a visit goes on. -/
theorem visitWhile_congr {goesOn goesOn' : State → Bool}
    (h : ∀ candidate other rest acc (state : State) next after,
      round token body acc env (state.bind slot ⟨candidate, other :: rest⟩) =
        (.ok (.inr next), after) → goesOn after = goesOn' after)
    (candidates : List Candidate) (acc : Accumulator) (state : State) :
    visitWhile token slot body goesOn candidates acc env state =
      visitWhile token slot body goesOn' candidates acc env state := by
  induction candidates generalizing acc state with
  | nil => rfl
  | cons candidate following ih =>
    rw [visitWhile_cons, visitWhile_cons]
    rcases hround : round token body acc env (state.bind slot ⟨candidate, following⟩) with
      ⟨error | result | next, after⟩
    · rfl
    · rfl
    · dsimp only
      cases following with
      | nil => cases goesOn after <;> cases goesOn' after <;> rfl
      | cons other rest => rw [h candidate other rest acc state next after hround, ih]

/-- The loop over a cursor goes on as long as its slot is bound and something is pending. -/
theorem drive_eq_visitWhile (pending : (Nat → Nat) → Nat)
    (hround : ∀ acc state, (round token body acc env state).2.cursor? slot = state.cursor? slot ∨
      (round token body acc env state).2.cursor? slot = none)
    (following : List Candidate) (candidate : Candidate) (acc : Accumulator) (state : State) :
    releasing slot (drive token slot body pending (following.length + 1) acc) env
        (state.bind slot ⟨candidate, following⟩) =
      releasing slot (visitWhile token slot body
        (fun state => (state.cursor? slot).isSome && 0 < pending state.remaining)
        (candidate :: following) acc) env state := by
  have hcursor := hround acc (state.bind slot ⟨candidate, following⟩)
  rw [releasing_apply, releasing_apply, drive_round_apply, visitWhile_cons]
  rcases hrun : round token body acc env (state.bind slot ⟨candidate, following⟩) with
    ⟨error | result | next, after⟩
  · rfl
  · rfl
  · rw [hrun, State.cursor?_bind_self] at hcursor
    dsimp only at hcursor ⊢
    by_cases hpending : pending after.remaining = 0
    · simp [hpending]
    · have hpositive : 0 < pending after.remaining := Nat.pos_of_ne_zero hpending
      rcases hcursor with hkept | hreleased
      · simp only [hkept, hpending, hpositive, Option.bind_some]
        cases following with
        | nil => simp [Cursor.advanced?, Cursor.start?, visitWhile]
        | cons other rest =>
          have ih := drive_eq_visitWhile pending hround rest other next after
          rw [releasing_apply, releasing_apply] at ih
          simpa [Cursor.advanced?, Cursor.start?] using ih
      · simp [hreleased, hpending]
termination_by following.length

end Eval

namespace Node

mutual

/-- The slots of the variables of a tree that are inside no quantifier of it, each as often as it
occurs. -/
def directSlots : Node → List Nat
  | .loopVariable _ slot => [slot]
  | .template _ parts => directSlotsOfList parts
  | .call _ _ subject _ args _ _ => directSlotsOfOption subject ++ directSlotsOfList args
  | .quantifier _ _ _ _ _ => []
  | .literal _ _ => []
  | .attribute _ _ => []

def directSlotsOfList : List Node → List Nat
  | [] => []
  | node :: nodes => directSlots node ++ directSlotsOfList nodes

def directSlotsOfOption : Option Node → List Nat
  | none => []
  | some node => directSlots node

end

theorem directSlotsOfList_eq (nodes : List Node) :
    directSlotsOfList nodes = nodes.flatMap directSlots := by
  induction nodes with
  | nil => simp [directSlotsOfList]
  | cons node nodes ih => simp [directSlotsOfList, ih]

theorem free_of_direct {slot : Nat} (node : Node) (h : slot ∈ node.directSlots) :
    slot ∈ node.freeSlots := by
  induction node using induction with
  | step node ih =>
    cases node with
    | literal | «attribute» | quantifier => simp [directSlots] at h
    | loopVariable origin other => simpa [directSlots, freeSlots] using h
    | template origin parts =>
      rw [directSlots, directSlotsOfList_eq] at h
      obtain ⟨part, hpart, h⟩ := List.mem_flatMap.mp h
      rw [freeSlots, freeSlotsOfList_eq]
      exact List.mem_flatMap.mpr ⟨part, hpart, ih part hpart h⟩
    | call origin function subject target args targets pattern =>
      rw [directSlots, directSlotsOfList_eq] at h
      rw [freeSlots, freeSlotsOfList_eq]
      rcases List.mem_append.mp h with h | h
      · cases subject with
        | none => simp [directSlotsOfOption] at h
        | some child => exact List.mem_append_left _ (ih child (by simp [children]) h)
      · obtain ⟨arg, harg, h⟩ := List.mem_flatMap.mp h
        have hfree := ih arg (by simp [children, harg]) h
        exact List.mem_append_right _ (List.mem_flatMap.mpr ⟨arg, harg, hfree⟩)

theorem pendingOfList_eq_sup (remaining : Nat → Nat) (nodes : List Node)
    (h : ∀ node ∈ nodes, node.pending remaining = node.directSlots.toFinset.sup remaining) :
    pendingOfList remaining nodes = (directSlotsOfList nodes).toFinset.sup remaining := by
  induction nodes with
  | nil => rw [pendingOfList, directSlotsOfList]; rfl
  | cons node nodes ih =>
    rw [pendingOfList, directSlotsOfList, List.toFinset_append, Finset.sup_union,
      h node (by simp), ih fun other ho => h other (by simp [ho])]

/-- Variables inside quantifiers are left out of what is pending, those of slots that are bound
around the quantifier too. -/
theorem pending_eq_sup (remaining : Nat → Nat) (node : Node) :
    node.pending remaining = node.directSlots.toFinset.sup remaining := by
  induction node using induction with
  | step node ih =>
    cases node with
    | literal | «attribute» | quantifier => simp [pending, directSlots]
    | loopVariable origin slot => simp [pending, directSlots]
    | template origin parts =>
      rw [pending, directSlots]
      exact pendingOfList_eq_sup remaining parts ih
    | call origin function subject target args targets pattern =>
      have hargs := pendingOfList_eq_sup remaining args fun arg ha =>
        ih arg (by simp [children, ha])
      rw [pending, directSlots, List.toFinset_append, Finset.sup_union, hargs]
      cases subject with
      | none => simp [pendingOfOption, directSlotsOfOption]
      | some child =>
        rw [pendingOfOption, directSlotsOfOption, ih child (by simp [children])]

/-- What is pending is what is left for the variables that a tree sees, provided that it sees each
of them outside its quantifiers too. -/
theorem pending_eq_sup_free_iff (node : Node) :
    (∀ state : State, node.pending state.remaining = node.freeSlots.toFinset.sup state.remaining) ↔
      ∀ slot ∈ node.freeSlots, slot ∈ node.directSlots := by
  constructor
  · intro h slot hfree
    by_contra hdirect
    -- one more candidate for that slot only
    let state := State.fresh.bind slot ⟨.value "", [.value ""]⟩
    have hleft : state.remaining slot = 1 := by simp [state, State.remaining, Cursor.remaining]
    have hnone (other : Nat) (hother : other ∈ node.directSlots) : state.remaining other = 0 := by
      have hne : other ≠ slot := fun heq => hdirect (heq ▸ hother)
      simp [state, State.remaining, State.cursor?_bind_of_ne _ _ hne, State.unbound_fresh other]
    have hzero : node.pending state.remaining = 0 := by
      rw [pending_eq_sup, ← Nat.bot_eq_zero, Finset.sup_eq_bot_iff]
      exact fun other hother => hnone other (List.mem_toFinset.mp hother)
    have hle : state.remaining slot ≤ node.freeSlots.toFinset.sup state.remaining :=
      Finset.le_sup (List.mem_toFinset.mpr hfree)
    rw [hleft, ← h state, hzero] at hle
    exact absurd hle (by decide)
  · intro h state
    have hsame : node.directSlots.toFinset = node.freeSlots.toFinset := by
      ext slot
      rw [List.mem_toFinset, List.mem_toFinset]
      exact ⟨node.free_of_direct, h slot⟩
    rw [pending_eq_sup, hsame]

variable (origin : Origin) {slot : Nat} (source : CandidateSource Node) (fold : Fold Node)

/-- A quantifier goes on as long as its slot is bound and its body has candidates left for a
variable outside quantifiers. -/
theorem eval_eq_quantifyWhile (slot : Nat) (body : Node) :
    (Node.quantifier origin slot source fold body).eval =
      Eval.quantifyWhile origin.token slot (evalSource source) (evalFold fold) body.eval
        fun state => (state.cursor? slot).isSome &&
          0 < body.directSlots.toFinset.sup state.remaining := by
  funext env state
  rw [eval, Eval.quantify, Eval.quantifyWhile]
  simp only [Eval.bind_apply]
  rcases (evalSource source).candidates env state with ⟨error | candidates, between⟩
  · rfl
  · dsimp only
    rcases (evalFold fold).accumulator env between with ⟨error | acc, after⟩
    · rfl
    · cases candidates with
      | nil => rfl
      | cons candidate following =>
        have hround (acc : Accumulator) := Eval.Follows.round origin.token
          (R := fun before after => after.cursor? slot = before.cursor? slot ∨
            after.cursor? slot = none) (fun _ => .inl rfl)
          (fun _ _ _ => kept_or_released_trans) (fun _ => .inl rfl)
          (body.eval_keeps_or_releases slot) acc env
        have hloop := Eval.drive_eq_visitWhile (fun remaining => body.pending remaining) hround
          following candidate acc after
        simp only [pending_eq_sup] at hloop ⊢
        exact hloop

/-- A quantifier whose body sees its variable outside quantifiers, and does not bind its slot, goes
on to the last candidate. -/
theorem eval_eq_quantifyAll {body : Node} (hdirect : slot ∈ body.directSlots)
    (hbound : slot ∉ body.boundSlots) :
    (Node.quantifier origin slot source fold body).eval =
      Eval.quantifyWhile origin.token slot (evalSource source) (evalFold fold) body.eval
        fun _ => true := by
  rw [eval_eq_quantifyWhile, Eval.quantifyWhile, Eval.quantifyWhile]
  congr 1
  funext candidates
  congr 1
  funext acc
  congr 2
  funext env state
  refine Eval.visitWhile_congr ?_ candidates acc state
  intro candidate other rest acc state next after hround
  have hcursor := Eval.Follows.round origin.token
    (R := fun before after => after.cursor? slot = before.cursor? slot) (fun _ => rfl)
    (fun _ _ _ h₁ h₂ => h₂.trans h₁) (fun _ => rfl) (body.eval_keeps_cursor slot hbound) acc env
    (state.bind slot ⟨candidate, other :: rest⟩)
  rw [hround, State.cursor?_bind_self] at hcursor
  have hleft : after.remaining slot = (other :: rest).length := by
    simp only [State.remaining]
    rw [show after.cursor? slot = _ from hcursor]
    rfl
  have hpending : 0 < body.directSlots.toFinset.sup after.remaining :=
    Nat.lt_of_lt_of_le (hleft ▸ Nat.succ_pos _) (Finset.le_sup (List.mem_toFinset.mpr hdirect))
  simp [show after.cursor? slot = _ from hcursor, hpending]

/-- In a compiled source, a tree sees no variable only from within its quantifiers. -/
theorem WellFormed.direct_of_free {node : Node} (h : node.WellFormed)
    (hfree : slot ∈ node.freeSlots) : slot ∈ node.directSlots := by
  induction node using induction with
  | step node ih =>
    have hself := h.self
    cases node with
    | literal | «attribute» => simp [freeSlots] at hfree
    | loopVariable origin other => simpa [directSlots, freeSlots] using hfree
    | template origin parts =>
      rw [freeSlots, freeSlotsOfList_eq, List.flatMap_eq_nil_iff.mpr hself.2] at hfree
      exact absurd hfree List.not_mem_nil
    | quantifier origin other source fold body =>
      rw [QuantifierSound.freeSlots_eq hself] at hfree
      exact absurd hfree List.not_mem_nil
    | call origin function subject target args targets pattern =>
      rw [freeSlots, freeSlotsOfList_eq, List.flatMap_eq_nil_iff.mpr (CallSound.closed hself),
        List.append_nil] at hfree
      cases subject with
      | none => simp [freeSlotsOfOption] at hfree
      | some child =>
        have hchild : child ∈ (call origin function (some child) target args targets
          pattern).children := by simp [children]
        exact List.mem_append_left _ (ih child hchild (h.child hchild) hfree)

/-- What is pending in a tree is the most that is left for a variable outside its quantifiers. That
is the most that is left for any variable that the tree sees just when it sees each of them there. A
quantifier over the tree goes on as long as its slot is bound and something is pending: to the last
candidate where its variable is in the tree outside quantifiers and nothing else binds its slot,
which holds in compiled sources. -/
theorem pending_counts_direct_variables (body : Node) :
    (∀ state : State,
      body.pending state.remaining = body.directSlots.toFinset.sup state.remaining) ∧
    ((∀ state : State,
        body.pending state.remaining = body.freeSlots.toFinset.sup state.remaining) ↔
      ∀ slot ∈ body.freeSlots, slot ∈ body.directSlots) ∧
    (∀ (origin : Origin) (slot : Nat) (source : CandidateSource Node) (fold : Fold Node),
      (Node.quantifier origin slot source fold body).eval =
        Eval.quantifyWhile origin.token slot (evalSource source) (evalFold fold) body.eval
          (fun state => (state.cursor? slot).isSome &&
            0 < body.directSlots.toFinset.sup state.remaining) ∧
      (slot ∈ body.directSlots → slot ∉ body.boundSlots →
        (Node.quantifier origin slot source fold body).eval =
          Eval.quantifyWhile origin.token slot (evalSource source) (evalFold fold) body.eval
            fun _ => true)) ∧
    ∀ (compiler : Compiler) (text : String) (compiled : Compiled),
      compiler.compile text = .ok compiled →
        (body ∈ compiled.root.all → ∀ slot ∈ body.freeSlots, slot ∈ body.directSlots) ∧
        ∀ origin slot source fold,
          .quantifier origin slot source fold body ∈ compiled.root.all →
            slot ∈ body.directSlots ∧ slot ∉ body.boundSlots := by
  refine ⟨fun state => body.pending_eq_sup state.remaining, body.pending_eq_sup_free_iff,
    fun origin slot source fold => ⟨eval_eq_quantifyWhile origin source fold slot body,
      eval_eq_quantifyAll origin source fold⟩, fun compiler text compiled h => ?_⟩
  obtain ⟨hwell, -⟩ := Compiler.compile_wellFormed h
  have within (node : Node) (hn : node ∈ compiled.root.all) : node.WellFormed :=
    fun other ho => hwell other (mem_all_trans hn ho)
  refine ⟨fun hn slot hfree => (within body hn).direct_of_free hfree, ?_⟩
  intro origin slot source fold hq
  have hself : QuantifierSound origin slot source fold body := hwell _ hq
  have hbody : body.WellFormed := (within _ hq).child (by simp [children])
  exact ⟨hbody.direct_of_free (by simp [hself.free]), hself.unbound⟩

/-- Counts the candidates `a` and `b` for which a tree is set. -/
def countOver (body : Node) : Node :=
  .quantifier ⟨.whole, "", ⟨0, 0⟩⟩ 0 (.named ["a", "b"]) .count body

/-- The variable of the slot that `countOver` binds. -/
def ofOuter : Node := .loopVariable ⟨.string, "", ⟨0, 0⟩⟩ 0

/-- Counts the pieces of the value of that variable. -/
def countPieces : Node :=
  .quantifier ⟨.whole, "", ⟨0, 0⟩⟩ 1
    (.delineated ofOuter (.literal ⟨.string, "", ⟨0, 0⟩⟩ (.string ","))) .count
    (.loopVariable ⟨.string, "", ⟨0, 0⟩⟩ 1)

/-- Counts the attribute `c` by a quantifier that binds the same slot as `countOver`. -/
def countRebound : Node :=
  .quantifier ⟨.whole, "", ⟨0, 0⟩⟩ 0 (.named ["c"]) .count ofOuter

open Compiled (anyAboveOne compile_anyAboveOne) in
/-- The variable is read by the nested quantifier, and next to it. -/
theorem pending_counts_direct_variables_countOver :
    let body := Node.template ⟨.string, "", ⟨0, 0⟩⟩ [ofOuter, countPieces]
    let env : Environment := ⟨Record.attributes ⟨[("a", "x"), ("b", "y")]⟩, .standard, .epoch⟩
    0 ∈ body.directSlots ∧ 0 ∉ body.boundSlots ∧
      (countOver body).eval =
        Eval.quantifyWhile "" 0 (.named ["a", "b"]) .count body.eval (fun _ => true) ∧
      (countOver body).eval env .fresh =
        (.ok (.number (.whole 2)), ⟨[], 4, ["b", "b", "a", "a"]⟩) ∧
      Compiler.standard.compile anyAboveOne.source = .ok anyAboveOne ∧
      ∀ node ∈ anyAboveOne.root.all, ∀ slot ∈ node.freeSlots, slot ∈ node.directSlots := by
  intro body env
  have hdirect : 0 ∈ body.directSlots := by decide
  have hbound : 0 ∉ body.boundSlots := by decide
  obtain ⟨-, -, hquantifiers, -⟩ := pending_counts_direct_variables body
  have hall := (hquantifiers ⟨.whole, "", ⟨0, 0⟩⟩ 0 (.named ["a", "b"]) .count).2 hdirect hbound
  rw [evalSource, evalFold] at hall
  refine ⟨hdirect, hbound, hall, by cbv, compile_anyAboveOne, fun node hn => ?_⟩
  obtain ⟨-, -, -, hcompiled⟩ := pending_counts_direct_variables node
  exact (hcompiled .standard anyAboveOne.source anyAboveOne compile_anyAboveOne).1 hn

/-- A variable that only a nested quantifier reads is not pending, and one whose slot a nested
quantifier binds again is released by it: in both bodies the candidate `b` is never bound. -/
theorem candidates_dropped :
    let env : Environment :=
      ⟨Record.attributes ⟨[("a", "x"), ("b", "y"), ("c", "z")]⟩, .standard, .epoch⟩
    let bound := State.fresh.bind 0 ⟨.attribute "a", [.attribute "b"]⟩
    let rebinding := Node.template ⟨.string, "", ⟨0, 0⟩⟩ [ofOuter, countRebound]
    countPieces.freeSlots.toFinset.sup bound.remaining = 1 ∧
      countPieces.pending bound.remaining = 0 ∧
      (countOver countPieces).eval env .fresh = (.ok (.number (.whole 1)), ⟨[], 2, ["a"]⟩) ∧
      Eval.quantifyWhile "" 0 (.named ["a", "b"]) .count countPieces.eval (fun _ => true) env
        .fresh = (.ok (.number (.whole 2)), ⟨[], 4, ["b", "a"]⟩) ∧
      0 ∈ rebinding.freeSlots ∧
      (countOver rebinding).eval env .fresh =
        (.ok (.number (.whole 1)), ⟨[], 2, ["c", "a"]⟩) ∧
      Eval.quantifyWhile "" 0 (.named ["a", "b"]) .count rebinding.eval (fun _ => true) env
        .fresh = (.ok (.number (.whole 2)), ⟨[], 4, ["c", "b", "c", "a"]⟩) := by
  intro env bound rebinding
  exact ⟨by decide, by decide, by cbv, by cbv, by decide, by cbv, by cbv⟩

end Node

end AttrExpr
