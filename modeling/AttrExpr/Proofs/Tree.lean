import AttrExpr.Proofs.Closure

/-! Trees by their children, and the evaluation of a tree as a sequence of steps. -/
set_option autoImplicit false

namespace AttrExpr

namespace Node

/-- The nodes right under a node, in the order of evaluation. -/
def children : Node → List Node
  | .template _ parts => parts
  | .call _ _ subject _ args _ _ => subject.toList ++ args
  | .quantifier _ _ source fold body => source.operands ++ fold.operands ++ [body]
  | .literal _ _ | .attribute _ _ | .loopVariable _ _ => []

theorem sizeOf_operands_source (source : CandidateSource Node) (child : Node)
    (h : child ∈ source.operands) : sizeOf child < sizeOf source := by
  cases source with
  | named names => exact absurd h List.not_mem_nil
  | matching patterns => exact absurd h List.not_mem_nil
  | delineated value delimiter =>
    simp only [CandidateSource.operands, List.mem_cons, List.not_mem_nil, or_false] at h
    rw [CandidateSource.delineated.sizeOf_spec]
    rcases h with rfl | rfl
    · omega
    · omega

theorem sizeOf_operands_fold (fold : Fold Node) (child : Node) (h : child ∈ fold.operands) :
    sizeOf child < sizeOf fold := by
  cases fold with
  | join separator =>
    obtain rfl := List.mem_singleton.mp h
    rw [Fold.join.sizeOf_spec]
    omega
  | any => exact absurd h List.not_mem_nil
  | all => exact absurd h List.not_mem_nil
  | count => exact absurd h List.not_mem_nil

theorem sizeOf_children (node child : Node) (h : child ∈ node.children) :
    sizeOf child < sizeOf node := by
  cases node with
  | literal origin value => exact absurd h List.not_mem_nil
  | «attribute» origin name => exact absurd h List.not_mem_nil
  | loopVariable origin slot => exact absurd h List.not_mem_nil
  | template origin parts =>
    have hp := List.sizeOf_lt_of_mem (show child ∈ parts from h)
    rw [template.sizeOf_spec]
    omega
  | call origin function subject target args targets pattern =>
    rw [call.sizeOf_spec]
    simp only [children, List.mem_append, Option.mem_toList] at h
    rcases h with h | h
    · obtain rfl := h
      rw [Option.some.sizeOf_spec]
      omega
    · have ha := List.sizeOf_lt_of_mem h
      omega
  | quantifier origin slot source fold body =>
    rw [quantifier.sizeOf_spec]
    simp only [children, List.mem_append, List.mem_singleton] at h
    rcases h with (h | h) | rfl
    · have hs := sizeOf_operands_source source child h
      omega
    · have hf := sizeOf_operands_fold fold child h
      omega
    · omega

/-- What holds of each node whose children it holds of holds of all nodes. -/
theorem induction {motive : Node → Prop}
    (step : ∀ node : Node, (∀ child ∈ node.children, motive child) → motive node)
    (node : Node) : motive node :=
  step node fun child _ => induction step child
termination_by sizeOf node
decreasing_by exact sizeOf_children node child ‹_›

theorem allOfList_eq (nodes : List Node) : allOfList nodes = nodes.flatMap all := by
  induction nodes with
  | nil => simp [allOfList]
  | cons node nodes ih => simp [allOfList, ih]

theorem all_eq (node : Node) : node.all = node :: node.children.flatMap all := by
  cases node with
  | literal origin value => simp [all, children]
  | «attribute» origin name => simp [all, children]
  | loopVariable origin slot => simp [all, children]
  | template origin parts => simp [all, children, allOfList_eq]
  | call origin function subject target args targets pattern =>
    cases subject <;> simp [all, children, allOfList_eq, allOfOption]
  | quantifier origin slot source fold body =>
    cases source <;> cases fold <;>
      simp [all, children, allOfSource, allOfFold, CandidateSource.operands, Fold.operands]

theorem mem_all_self (node : Node) : node ∈ node.all := by simp [all_eq node]

theorem mem_all_of_child {node child other : Node} (hc : child ∈ node.children)
    (h : other ∈ child.all) : other ∈ node.all := by
  rw [all_eq node]
  exact List.mem_cons_of_mem _ (List.mem_flatMap.mpr ⟨child, hc, h⟩)

theorem mem_all_trans {node middle other : Node} (hm : middle ∈ node.all)
    (ho : other ∈ middle.all) : other ∈ node.all := by
  induction node using induction with
  | step node ih =>
    rw [all_eq node, List.mem_cons, List.mem_flatMap] at hm
    rcases hm with rfl | ⟨child, hc, hm⟩
    · exact ho
    · exact mem_all_of_child hc (ih child hc hm)

/-- What holds of all nodes of a tree holds of the root and of all nodes under it. -/
theorem forall_all_iff {p : Node → Prop} (node : Node) :
    (∀ other ∈ node.all, p other) ↔
      p node ∧ ∀ child ∈ node.children, ∀ other ∈ child.all, p other := by
  rw [all_eq node]
  simp only [List.mem_cons, List.mem_flatMap, forall_eq_or_imp, forall_exists_index, and_imp]
  exact and_congr_right fun _ => ⟨fun h child hc other ho => h other child hc ho,
    fun h other child hc ho => h child hc other ho⟩

/-! Evaluation of a tree in terms of its children. -/

theorem evalArgs_eq (args : List Node) :
    evalArgs args = args.map fun arg => (arg.token, arg.eval) := by
  induction args with
  | nil => simp [evalArgs]
  | cons arg args ih => simp [evalArgs, ih]

theorem getElem?_operands (args : List Node) (targets : List (Option Kind)) (i : Nat) :
    (operands (evalArgs args) targets)[i]? =
      args[i]?.map fun arg => ⟨arg.token, (targets[i]?).join, arg.eval⟩ := by
  simp [operands, evalArgs_eq, Function.comp_def]

@[simp] theorem length_operands (args : List Node) (targets : List (Option Kind)) :
    (operands (evalArgs args) targets).length = args.length := by
  simp [operands, evalArgs_eq]

theorem operands_evalSource (source : CandidateSource Node) :
    (evalSource source).operands = source.operands.map eval := by
  cases source <;> simp [evalSource, CandidateSource.operands]

theorem operands_evalFold (fold : Fold Node) :
    (evalFold fold).operands = fold.operands.map eval := by
  cases fold <;> simp [evalFold, Fold.operands]

/-- The operands of a call have a property that its children have. -/
theorem call_operands {P : Eval Value → Prop} {origin : Origin} {function : Function}
    {subject : Option Node} {target : Option Kind} {args : List Node}
    {targets : List (Option Kind)} {pattern : Option Regex}
    (h : ∀ child ∈ children (.call origin function subject target args targets pattern),
      P child.eval) :
    ActiveCall.Operands P ⟨function, origin.token, evalSubject target subject,
      operands (evalArgs args) targets, pattern⟩ := by
  refine ⟨fun operand ho => ?_, fun operand ho => ?_⟩
  · cases subject with
    | none => simp [evalSubject] at ho
    | some child =>
      simp only [evalSubject, Option.mem_def, Option.some.injEq] at ho
      subst ho
      exact h child (by simp [children])
  · obtain ⟨i, hi⟩ := List.mem_iff_getElem?.mp ho
    rw [getElem?_operands, Option.map_eq_some_iff] at hi
    obtain ⟨arg, harg, rfl⟩ := hi
    exact h arg (by simp [children, List.mem_of_getElem? harg])

section Closed

variable {P : ∀ {α : Type}, Eval α → Prop} (closed : Eval.Closed @P)
include closed

theorem evalText_closed (parts : List Node) (h : ∀ part ∈ parts, P part.eval) :
    P (evalText parts) := by
  induction parts with
  | nil =>
    rw [evalText]
    exact closed.pure ""
  | cons part parts ih =>
    rw [evalText]
    refine closed.bind (h part (by simp)) fun value => closed.bind (ih ?_) fun text =>
      closed.pure _
    intro other ho
    exact h other (by simp [ho])

/-- A tree has every closed property that its leaves have and its quantifiers keep. -/
theorem eval_closed (node : Node)
    (hattribute : ∀ origin name, .attribute origin name ∈ node.all → P (Eval.lookup name))
    (hvariable : ∀ origin slot, .loopVariable origin slot ∈ node.all →
      P (Eval.variableOf origin.token slot))
    (hquantifier : ∀ origin slot source fold body,
      .quantifier origin slot source fold body ∈ node.all →
      (∀ child ∈ source.operands ++ fold.operands ++ [body], P child.eval) →
      P (eval (.quantifier origin slot source fold body))) : P node.eval := by
  induction node using induction with
  | step node ih =>
    have below (child : Node) (hc : child ∈ node.children) : P child.eval :=
      ih child hc (fun origin name h => hattribute origin name (mem_all_of_child hc h))
        (fun origin slot h => hvariable origin slot (mem_all_of_child hc h))
        fun origin slot source fold body h =>
          hquantifier origin slot source fold body (mem_all_of_child hc h)
    cases node with
    | literal origin value =>
      rw [eval]
      exact closed.pure value
    | «attribute» origin name =>
      rw [eval]
      exact hattribute origin name (mem_all_self _)
    | loopVariable origin slot =>
      rw [eval]
      exact hvariable origin slot (mem_all_self _)
    | template origin parts =>
      rw [eval]
      exact closed.bind (evalText_closed closed parts below) fun text => closed.pure _
    | call origin function subject target args targets pattern =>
      rw [eval]
      exact (call_operands below).value closed
    | quantifier origin slot source fold body =>
      exact hquantifier origin slot source fold body (mem_all_self _) below

end Closed

end Node

end AttrExpr
