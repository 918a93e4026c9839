import AttrExpr.Proofs.Isolation
import AttrExpr.Proofs.Lockstep

/-! Missing attributes and empty ones. A tree in which nothing asks which of the two an attribute is
comes to the same value with either, or fails with both. -/
set_option autoImplicit false

namespace AttrExpr

namespace Node

open Eval (Lockstep)

/-- Whether a node itself can tell a missing attribute from an empty one. -/
def isNullAware : Node → Bool
  | .call _ function _ _ _ _ _ => function.isNullAware
  | .quantifier _ _ source fold _ => source.isMatching || fold.isNullAware
  | .literal _ _ | .attribute _ _ | .template _ _ | .loopVariable _ _ => false

variable {env : Environment} {filled : Attributes}

theorem evalText_lockstep (parts : List Node)
    (h : ∀ part ∈ parts, Lockstep env filled Value.Filled part.eval part.eval) :
    Lockstep env filled Eq (evalText parts) (evalText parts) := by
  induction parts with
  | nil =>
    rw [evalText]
    exact .pure rfl
  | cons part parts ih =>
    rw [evalText]
    refine (h part (by simp)).bind fun value other hvalue => ?_
    rw [hvalue.text_eq]
    exact Lockstep.congruence.bind (ih fun other ho => h other (by simp [ho])) fun _ => .pure rfl

/-- Trees without a node that tells a missing attribute from an empty one go side by side. -/
theorem eval_lockstep (hfilled : env.attributes.Filled filled) (node : Node)
    (h : ∀ other ∈ node.all, other.isNullAware = false) :
    Lockstep env filled Value.Filled node.eval node.eval := by
  induction node using induction with
  | step node ih =>
    obtain ⟨hself, hbelow⟩ := (forall_all_iff node).mp h
    have below (child : Node) (hc : child ∈ node.children) :
        Lockstep env filled Value.Filled child.eval child.eval := ih child hc (hbelow child hc)
    cases node with
    | literal origin value =>
      rw [eval]
      exact .pure (.same value)
    | «attribute» origin name =>
      rw [eval]
      exact .lookup hfilled name
    | loopVariable origin slot =>
      rw [eval]
      exact .variableOf hfilled origin.token slot
    | template origin parts =>
      rw [eval]
      have htext := evalText_lockstep parts below
      exact (Lockstep.congruence.bind htext fun _ => .pure rfl).filled_of_eq
    | call origin function subject target args targets pattern =>
      rw [eval]
      exact (call_operands below).value_lockstep hself
    | quantifier origin slot source fold body =>
      obtain ⟨hmatching, hfold⟩ := Bool.or_eq_false_iff.mp hself
      rw [eval]
      refine (Lockstep.quantify (Lockstep.candidates (fun x hx => ?_) ?_) ?_
        (below body (by simp [children]))).filled_of_eq
      · rw [operands_evalSource, List.mem_map] at hx
        obtain ⟨child, hc, rfl⟩ := hx
        exact below child (by simp [children, hc])
      · cases source <;> exact hmatching
      · cases fold <;> exact hfold

end Node

theorem lookup_cons_ite (name value other : String) (entries : List (String × String)) :
    ((name, value) :: entries).lookup other =
      if other = name then some value else entries.lookup other := by
  rw [List.lookup_cons]
  split
  · next h => rw [if_pos (beq_iff_eq.mp h)]
  · next h => rw [if_neg (beq_eq_false_iff_ne.mp h)]

theorem Record.get?_insert (record : Record) (name value other : String) :
    (record.insert name value).get? other =
      if other = name then some value else record.get? other := by
  obtain ⟨entries⟩ := record
  change (insertEntry name value entries).lookup other =
    if other = name then some value else entries.lookup other
  induction entries with
  | nil => exact lookup_cons_ite name value other []
  | cons entry entries ih =>
    obtain ⟨first, old⟩ := entry
    rw [insertEntry, lookup_cons_ite first]
    by_cases hfirst : first = name
    · subst hfirst
      rw [if_pos rfl, lookup_cons_ite]
      split <;> rfl
    · rw [if_neg hfirst, lookup_cons_ite, ih]
      by_cases hother : other = first
      · rw [if_pos hother, if_neg (hother ▸ hfirst), if_pos hother]
      · rw [if_neg hother, if_neg hother]

/-- A record without an attribute becomes filled when it gets that attribute with an empty value. -/
theorem Record.filled_insert {record : Record} {name : String} (h : record.get? name = none) :
    record.attributes.Filled (record.insert name "").attributes := by
  intro other
  change (record.insert name "").get? other = record.get? other ∨ _
  rw [get?_insert]
  split
  · next hname =>
    subst hname
    exact .inr ⟨h, by simp [attributes, get?_insert]⟩
  · exact .inl rfl

namespace Compiled

theorem eval_lockstep {compiled : Compiled} {env : Environment} {filled : Attributes}
    (h : ∀ node ∈ compiled.root.all, node.isNullAware = false)
    (hfilled : env.attributes.Filled filled) :
    Eval.Lockstep env filled Eq compiled.eval compiled.eval := by
  refine (compiled.root.eval_lockstep hfilled h).bind fun value other hvalue => .get fun state => ?_
  dsimp only
  split
  · exact .failing (.fail _ _) (.fail _ _)
  · cases hvalue with
    | empty => exact .pure rfl
    | same => split <;> exact .pure rfl

/-- A missing attribute and an empty one are the same to an expression that has no function, fold or
source of candidates that tells them apart. It gives the same value with the same look-ups after as
many bodies, or it fails, whichever of the two an attribute is. -/
theorem missing_as_empty (compiled : Compiled)
    (h : ∀ node ∈ compiled.root.all, node.isNullAware = false) :
    (∀ (env : Environment) (filled : Attributes), env.attributes.Filled filled →
      ∀ state : State, Eval.Outcomes Eq (compiled.eval env state)
        (compiled.eval { env with attributes := filled } state)) ∧
    ∀ (record : Record) (name : String), record.get? name = none → ∀ clock : Instant,
      let missing := record.attributes
      let empty := (record.insert name "").attributes
      Eval.Outcomes Eq (compiled.run missing clock) (compiled.run empty clock) ∧
        (compiled.evaluateBoolean empty clock).toOption =
          (compiled.evaluateBoolean missing clock).toOption ∧
        (compiled.evaluateString empty clock).toOption =
          (compiled.evaluateString missing clock).toOption := by
  refine ⟨fun env filled hfilled => eval_lockstep h hfilled, fun record name hname clock => ?_⟩
  intro missing empty
  have hrun : Eval.Outcomes Eq (compiled.run missing clock) (compiled.run empty clock) :=
    eval_lockstep h (Record.filled_insert hname) State.fresh
  refine ⟨hrun, ?_⟩
  unfold evaluateBoolean evaluateString evaluate
  generalize compiled.run missing clock = first, compiled.run empty clock = second at hrun
  cases hrun with
  | success h state =>
    cases h
    exact ⟨rfl, rfl⟩
  | failure =>
    refine ⟨?_, rfl⟩
    split <;> rfl

/-- The tree of `${allAttributes('a','b'):trim():length():lt(2)}`. -/
def allShort : Compiled where
  source := "$\x7ballAttributes('a','b'):trim():length():lt(2)\x7d"
  root := .quantifier ⟨.boolean, "allAttributes('a','b'):trim():length():lt(2)", ⟨2, 46⟩⟩ 0
    (.named ["a", "b"]) .all
    (.call ⟨.boolean, "lt(2)", ⟨41, 46⟩⟩ .lt
      (some (.call ⟨.whole, "length()", ⟨32, 40⟩⟩ .length
        (some (.call ⟨.string, "trim()", ⟨25, 31⟩⟩ .trim
          (some (.loopVariable ⟨.string, "allAttributes('a','b')", ⟨2, 24⟩⟩ 0)) (some .string)
          [] [] none))
        (some .string) [] [] none))
      (some .number) [.literal ⟨.whole, "2", ⟨44, 45⟩⟩ (.number (.whole 2))] [some .number] none)
  formats := .standard
  slots := 1
  referenced := ["a", "b"]

/-- A missing attribute is as short as an empty one. -/
theorem missing_as_empty_allShort :
    let record : Record := ⟨[("b", " 1")]⟩
    Compiler.standard.compile allShort.source = .ok allShort ∧ record.get? "a" = none ∧
      (∀ node ∈ allShort.root.all, node.isNullAware = false) ∧
      allShort.run record.attributes .epoch = (.ok (.boolean true), ⟨[], 2, ["b", "a"]⟩) ∧
      Eval.Outcomes Eq (allShort.run record.attributes .epoch)
        (allShort.run (record.insert "a" "").attributes .epoch) := by
  intro record
  have hunaware : ∀ node ∈ allShort.root.all, node.isNullAware = false := by
    simp [allShort, Node.all, Node.allOfSource, Node.allOfFold, Node.allOfOption, Node.allOfList,
      Node.isNullAware, Function.isNullAware, CandidateSource.isMatching, Fold.isNullAware]
  have hmissing : record.get? "a" = none := by decide
  exact ⟨by cbv, hmissing, hunaware, by cbv,
    ((missing_as_empty allShort hunaware).2 record "a" hmissing .epoch).1⟩

end Compiled

end AttrExpr
