import AttrExpr.Proofs.Accounts
import AttrExpr.Proofs.Lowering

/-! What holds of every node of a compiled tree, from what holds of each node when it is made. -/
set_option autoImplicit false

namespace AttrExpr

namespace Node

/-- Something holds of all nodes of a tree. -/
def Everywhere (Good : Node → Prop) (node : Node) : Prop := ∀ other ∈ node.all, Good other

theorem Everywhere.of_children {Good : Node → Prop} {node : Node} (hself : Good node)
    (hchildren : ∀ child ∈ node.children, child.Everywhere Good) : node.Everywhere Good :=
  (forall_all_iff node).mpr ⟨hself, hchildren⟩

/-- The text of a string literal. -/
def literalText? : Node → Option String
  | .literal _ (.string text) => some text
  | _ => none

end Node

namespace Lower

variable {scope : Scope} {before after : Progress} {Good : Node → Prop}

/-- The text of what an action makes, if that is a string literal. -/
def MakesText (text : Option String) (x : Lower Node) : Prop :=
  ∀ (scope : Scope) (before after : Progress) (node : Node), Makes x scope before node after →
    node.literalText? = text

/-- Something holds of all nodes that an action makes. -/
def MakesEverywhere (Good : Node → Prop) (x : Lower Node) : Prop :=
  ∀ (scope : Scope) (before after : Progress) (node : Node), Makes x scope before node after →
    node.Everywhere Good

/-- An argument that is lowered to a string literal when it has a text, and to good nodes. -/
def MakesArgument (Good : Node → Prop) (text : Option String) (x : Lower Node) : Prop :=
  MakesText text x ∧ MakesEverywhere Good x

theorem literal_text (value : Literal) (span : Span) :
    MakesText value.string? (literal value span) := by
  intro scope before after node h
  cases value with
  | string | number | boolean =>
    simp only [literal, makes_bind, makes_pure] at h
    obtain ⟨_, _, -, rfl, -⟩ := h
    rfl

theorem call_text {function : Function} {subject : Option Node} {planned : PlannedCall}
    {span : Span} {node : Node}
    (h : Makes (call function subject planned span) scope before node after) :
    node.literalText? = none := by
  simp only [call, makes_bind, makes_pure] at h
  obtain ⟨_, _, -, _, _, -, _, _, -, _, _, -, _, _, -, rfl, -⟩ := h
  rfl

theorem chain_text {calls : List PlannedCall} {node result : Node}
    (hnode : node.literalText? = none) (h : Makes (chain node calls) scope before result after) :
    result.literalText? = none := by
  induction calls generalizing node before with
  | nil =>
    obtain ⟨rfl, -⟩ := makes_pure.mp h
    exact hnode
  | cons planned calls ih =>
    rw [chain, makes_bind] at h
    obtain ⟨function, _, -, h⟩ := h
    split at h
    · exact absurd h makes_fail
    · split at h
      · exact absurd h makes_fail
      · obtain ⟨called, between, hcall, h⟩ := makes_bind.mp h
        exact ih (call_text hcall) h

theorem quantifier_text {function : Function} {kind : CandidateKind} {all : Bool}
    {planned : PlannedCall} {calls : List PlannedCall} :
    MakesText none (quantifier function kind all planned calls) := by
  intro scope before after node h
  simp only [quantifier, makes_bind, makes_origin] at h
  obtain ⟨_, _, -, _, _, -, _, _, -, _, _, -, _, _, -, h⟩ := h
  split at h
  · simp only [makes_bind, makes_pure] at h
    obtain ⟨_, _, -, _, _, -, rfl, -⟩ := h
    rfl
  · simp only [makes_bind] at h
    obtain ⟨_, _, -, _, _, -, h⟩ := h
    exact chain_text rfl h

theorem callExpression_text {planned : PlannedCall} {calls : List PlannedCall} :
    MakesText none (callExpression planned calls) := by
  intro scope before after node h
  rw [callExpression, makes_bind] at h
  obtain ⟨function, _, -, h⟩ := h
  split at h
  · exact quantifier_text _ _ _ _ h
  · split at h
    · exact absurd h makes_fail
    · split at h
      · exact absurd h makes_fail
      · rw [makes_bind] at h
        obtain ⟨called, _, hcall, h⟩ := h
        exact chain_text (call_text hcall) h

theorem attributeExpression_text {name : String} {span : Span} {calls : List PlannedCall} :
    MakesText none (expression (.attribute name span) calls) := by
  intro scope before after node h
  simp only [expression, makes_bind] at h
  obtain ⟨_, _, -, _, _, -, h⟩ := h
  exact chain_text rfl h

/-- What holds of nodes when they are made: of literals that are read, of calls whose arguments are
lowered as they are planned, and of quantifiers over candidates from a source. -/
structure Locally (Q : Literal → Prop) (Good : Node → Prop) : Prop where
  literal : ∀ {value : Literal} {span : Span} {scope : Scope} {before after : Progress}
    {node : Node}, Q value → Makes (literal value span) scope before node after → Good node
  «attribute» : ∀ (origin : Origin) (name : String), Good (.attribute origin name)
  template : ∀ (origin : Origin) (parts : List Node), Good (.template origin parts)
  loopVariable : ∀ (origin : Origin) (slot : Nat), Good (.loopVariable origin slot)
  call : ∀ {function : Function} {subject : Option Node} {planned : PlannedCall} {span : Span}
    {scope : Scope} {before after : Progress} {node : Node},
    (∀ arg ∈ planned.args, MakesText arg.text arg.lower) →
      Makes (call function subject planned span) scope before node after → Good node
  quantifier : ∀ {function : Function} {kind : CandidateKind} {args : List PlannedArg}
    {source : CandidateSource Node} {scope : Scope} {before after : Progress},
    Makes (candidateSource function kind args) scope before source after →
      ∀ (origin : Origin) (slot : Nat) (fold : Fold Node) (body : Node),
        Good (.quantifier origin slot source fold body)

theorem arguments_everywhere {function : Function} {args : List PlannedArg}
    (hargs : ∀ arg ∈ args, MakesArgument Good arg.text arg.lower) {index : Nat}
    {result : List (Node × Option Kind)}
    (h : Makes (arguments function index args) scope before result after) :
    ∀ entry ∈ result, entry.1.Everywhere Good := by
  induction args generalizing index before result with
  | nil =>
    obtain ⟨rfl, -⟩ := makes_pure.mp h
    simp
  | cons arg args ih =>
    obtain ⟨node, between, hnode, h⟩ := makes_bind.mp h
    dsimp only at h
    split at h
    · exact absurd h makes_fail
    · simp only [makes_bind, makes_pure] at h
      obtain ⟨rest, _, hrest, rfl, rfl⟩ := h
      rw [List.forall_mem_cons]
      exact ⟨(hargs arg (by simp)).2 _ _ _ _ hnode,
        ih (fun other ho => hargs other (by simp [ho])) hrest⟩

theorem candidateSource_everywhere {function : Function} {kind : CandidateKind}
    {args : List PlannedArg} (hargs : ∀ arg ∈ args, MakesArgument Good arg.text arg.lower)
    {source : CandidateSource Node}
    (h : Makes (candidateSource function kind args) scope before source after) :
    ∀ child ∈ source.operands, child.Everywhere Good := by
  unfold candidateSource at h
  split at h
  · simp only [makes_bind, makes_pure] at h
    obtain ⟨texts, _, -, _, _, -, rfl, -⟩ := h
    simp [CandidateSource.operands]
  · simp only [makes_bind, makes_pure] at h
    obtain ⟨texts, _, -, patterns, _, -, rfl, -⟩ := h
    simp [CandidateSource.operands]
  · next value delimiter rest =>
    simp only [makes_bind, makes_pure] at h
    obtain ⟨left, _, hleft, right, _, hright, rfl, -⟩ := h
    simpa [CandidateSource.operands] using
      ⟨(hargs value (by simp)).2 _ _ _ _ hleft, (hargs delimiter (by simp)).2 _ _ _ _ hright⟩
  · obtain ⟨rfl, -⟩ := makes_pure.mp h
    simp [CandidateSource.operands]

theorem reducerFold_everywhere {function : Function} {all : Bool} {planned : PlannedCall}
    (hargs : ∀ arg ∈ planned.args, MakesArgument Good arg.text arg.lower)
    {result : Fold Node × Kind}
    (h : Makes (reducerFold function all planned) scope before result after) :
    ∀ child ∈ result.1.operands, child.Everywhere Good := by
  rw [reducerFold, makes_bind] at h
  obtain ⟨reducer, _, -, h⟩ := h
  split at h
  · exact absurd h makes_fail
  · rw [makes_bind] at h
    obtain ⟨_, _, -, h⟩ := h
    split at h
    · next separator rest hplanned =>
      simp only [makes_bind, makes_pure] at h
      obtain ⟨child, _, hchild, rfl, -⟩ := h
      simpa [Fold.operands] using (hargs separator (by simp [hplanned])).2 _ _ _ _ hchild
    · obtain ⟨rfl, -⟩ := makes_pure.mp h
      simp [Fold.operands]

namespace Locally

variable {Q : Literal → Prop} (locally : Locally Q Good)
include locally

theorem everywhere_call {function : Function} {subject : Option Node} {planned : PlannedCall}
    {span : Span} {node : Node}
    (hargs : ∀ arg ∈ planned.args, MakesArgument Good arg.text arg.lower)
    (hsubject : ∀ child ∈ subject, child.Everywhere Good)
    (h : Makes (Lower.call function subject planned span) scope before node after) :
    node.Everywhere Good := by
  have hself := locally.call (fun arg ha => (hargs arg ha).1) h
  simp only [Lower.call, makes_bind, makes_pure] at h
  obtain ⟨_, _, _, _, _, _, args, _, hlowered, _, _, _, _, _, _, rfl, -⟩ := h
  have hlowered := arguments_everywhere hargs hlowered
  refine .of_children hself fun child hc => ?_
  simp only [Node.children, List.mem_append, Option.mem_toList, List.mem_map] at hc
  rcases hc with hc | ⟨entry, he, rfl⟩
  · exact hsubject child hc
  · exact hlowered entry he

theorem everywhere_chain {calls : List PlannedCall}
    (hcalls : ∀ planned ∈ calls, ∀ arg ∈ planned.args, MakesArgument Good arg.text arg.lower)
    {node result : Node} (hnode : node.Everywhere Good)
    (h : Makes (chain node calls) scope before result after) : result.Everywhere Good := by
  induction calls generalizing node before with
  | nil =>
    obtain ⟨rfl, -⟩ := makes_pure.mp h
    exact hnode
  | cons planned calls ih =>
    rw [chain, makes_bind] at h
    obtain ⟨function, _, -, h⟩ := h
    split at h
    · exact absurd h makes_fail
    · split at h
      · exact absurd h makes_fail
      · obtain ⟨called, between, hcall, h⟩ := makes_bind.mp h
        have hcalled :=
          locally.everywhere_call (hcalls planned (by simp)) (by simpa using hnode) hcall
        exact ih (fun other ho => hcalls other (by simp [ho])) hcalled h

theorem everywhere_quantifier {function : Function} {kind : CandidateKind} {all : Bool}
    {planned : PlannedCall} {calls : List PlannedCall}
    (hargs : ∀ arg ∈ planned.args, MakesArgument Good arg.text arg.lower)
    (hcalls : ∀ other ∈ calls, ∀ arg ∈ other.args, MakesArgument Good arg.text arg.lower) :
    MakesEverywhere Good (Lower.quantifier function kind all planned calls) := by
  intro scope before after node h
  simp only [Lower.quantifier, makes_bind, makes_origin] at h
  obtain ⟨_, _, -, source, _, hsource, slot, _, -, origin, _, -, body, _, hbody, h⟩ := h
  have hself := locally.quantifier hsource
  have hsource := candidateSource_everywhere hargs hsource
  have hvariable : (Node.loopVariable origin slot).Everywhere Good :=
    .of_children (locally.loopVariable _ _) fun _ hc => absurd hc List.not_mem_nil
  have hbody := locally.everywhere_chain
    (fun other ho => hcalls other ((List.takeWhile_sublist _).subset ho)) hvariable hbody
  have hnode (origin : Origin) (fold : Fold Node)
      (hfold : ∀ child ∈ fold.operands, child.Everywhere Good) :
      (Node.quantifier origin slot source fold body).Everywhere Good := by
    refine .of_children (hself _ _ _ _) fun child hc => ?_
    simp only [Node.children, List.mem_append, List.mem_singleton] at hc
    rcases hc with (hc | hc) | rfl
    · exact hsource child hc
    · exact hfold child hc
    · exact hbody
  split at h
  · simp only [makes_bind, makes_pure] at h
    obtain ⟨fold, _, hfold, _, _, -, rfl, -⟩ := h
    have hoperands := (makes_predicateFold hfold).1
    exact hnode _ _ (by simp [hoperands])
  · next reducer rest hdrop =>
    have hrest (other : PlannedCall) (ho : other ∈ reducer :: rest) : other ∈ calls :=
      (List.dropWhile_sublist _).subset (hdrop ▸ ho)
    simp only [makes_bind] at h
    obtain ⟨⟨fold, result⟩, _, hfold, _, _, -, h⟩ := h
    have hfold := reducerFold_everywhere (hcalls reducer (hrest reducer (by simp))) hfold
    exact locally.everywhere_chain (fun other ho => hcalls other (hrest other (by simp [ho])))
      (hnode _ _ hfold) h

theorem everywhere_callExpression {planned : PlannedCall} {calls : List PlannedCall}
    (hargs : ∀ arg ∈ planned.args, MakesArgument Good arg.text arg.lower)
    (hcalls : ∀ other ∈ calls, ∀ arg ∈ other.args, MakesArgument Good arg.text arg.lower) :
    MakesEverywhere Good (callExpression planned calls) := by
  intro scope before after node h
  rw [callExpression, makes_bind] at h
  obtain ⟨function, _, -, h⟩ := h
  split at h
  · exact locally.everywhere_quantifier hargs hcalls _ _ _ _ h
  · split at h
    · exact absurd h makes_fail
    · split at h
      · exact absurd h makes_fail
      · rw [makes_bind] at h
        obtain ⟨called, _, hcall, h⟩ := h
        exact locally.everywhere_chain hcalls (locally.everywhere_call hargs (by simp) hcall) h

theorem everywhere_attribute {name : String} {span : Span} {calls : List PlannedCall}
    (hcalls : ∀ other ∈ calls, ∀ arg ∈ other.args, MakesArgument Good arg.text arg.lower) :
    MakesEverywhere Good (expression (.attribute name span) calls) := by
  intro scope before after node h
  simp only [expression, makes_bind] at h
  obtain ⟨_, _, -, origin, _, -, h⟩ := h
  have hattribute : (Node.attribute origin name).Everywhere Good :=
    .of_children (locally.attribute _ _) fun _ hc => absurd hc List.not_mem_nil
  exact locally.everywhere_chain hcalls hattribute h

theorem everywhere_literal {value : Literal} {span : Span} (hvalue : Q value) :
    MakesEverywhere Good (Lower.literal value span) := by
  intro scope before after node h
  refine .of_children (locally.literal hvalue h) fun child hc => ?_
  cases value with
  | string | number | boolean =>
    simp only [Lower.literal, makes_bind, makes_pure] at h
    obtain ⟨_, _, -, rfl, -⟩ := h
    exact absurd hc List.not_mem_nil

theorem keptFor : KeptFor Q (MakesArgument Good) where
  literal value span hvalue := ⟨literal_text value span, locally.everywhere_literal hvalue⟩
  attributeExpression _ _ _ hcalls :=
    ⟨attributeExpression_text, locally.everywhere_attribute hcalls⟩
  callExpression _ _ hargs hcalls :=
    ⟨callExpression_text, locally.everywhere_callExpression hargs hcalls⟩

theorem everywhere_segments {segments : List Segment}
    (hsegments : ∀ segment ∈ segments, ∀ value ∈ segment.literals, Q value)
    {parts : List Node} (h : Makes (segments.mapM Segment.lower) scope before parts after) :
    ∀ part ∈ parts, part.Everywhere Good := by
  induction segments generalizing before parts with
  | nil =>
    obtain ⟨rfl, -⟩ := makes_pure.mp h
    simp
  | cons segment segments ih =>
    rw [List.forall_mem_cons] at hsegments
    simp only [List.mapM_cons, makes_bind, makes_pure] at h
    obtain ⟨part, _, hpart, rest, _, hrest, rfl, rfl⟩ := h
    obtain ⟨_, -, hsegment⟩ := locally.keptFor.segment segment hsegments.1
    rw [List.forall_mem_cons]
    exact ⟨hsegment _ _ _ _ hpart, ih hsegments.2 hrest⟩

/-- What holds of nodes when they are made holds everywhere in what a template is lowered to. -/
theorem everywhere_template {template : Template}
    (htemplate : ∀ segment ∈ template.segments, ∀ value ∈ segment.literals, Q value) :
    MakesEverywhere Good template.lower := by
  intro scope before after node hmakes
  unfold Template.lower at hmakes
  split at hmakes
  · next expr honly =>
    unfold Template.only? at honly
    split at honly
    · next expr' span hsegments =>
      cases honly
      rw [hsegments] at htemplate
      exact (locally.keptFor.expression expr (htemplate (.expression expr span) (by simp))).2
        _ _ _ _ hmakes
    · cases honly
  · simp only [Lower.source, makes_bind, makes_pure] at hmakes
    obtain ⟨parts, _, hparts, _, _, -, _, _, -, rfl, -⟩ := hmakes
    exact .of_children (locally.template _ _) (locally.everywhere_segments htemplate hparts)

/-- As `everywhere_template`, for what compiles. -/
theorem everywhere_compiled
    (htemplate : ∀ (template : Template) (source : List Char), template.Spelled source →
      ∀ segment ∈ template.segments, ∀ value ∈ segment.literals, Q value)
    {compiler : Compiler} {source : String} {compiled : Compiled}
    (h : compiler.compile source = .ok compiled) : compiled.root.Everywhere Good := by
  obtain ⟨-, -, template, hread, hlower⟩ := Compiler.compile_ok_iff.mp h
  exact locally.everywhere_template
    (htemplate template _ (Template.read_eq_ok_iff.mp hread)) _ _ _ _ hlower

end Locally

end Lower

end AttrExpr
