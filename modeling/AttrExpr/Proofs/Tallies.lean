import AttrExpr.Proofs.Lowering

/-! What lowering adds up on its way, such as the names that are referred to and the slots that are
handed out. It is what the tree that comes out has of the same. -/
set_option autoImplicit false

namespace AttrExpr

namespace Lower

/-- Something that lowering adds up. It counts certain things for a name that is referred to and for
a slot that is handed out. -/
structure Tally (β : Type) where
  named : String → List β
  slotted : Nat → List β
  /-- Things are added between two states of lowering. -/
  Adds : Scope → Progress → Progress → List β → Prop
  refl : ∀ (scope : Scope) (progress : Progress), Adds scope progress progress []
  trans : ∀ {scope : Scope} {first second third : Progress} {xs ys : List β},
    Adds scope first second xs → Adds scope second third ys → Adds scope first third (xs ++ ys)
  perm : ∀ {scope : Scope} {first second : Progress} {xs ys : List β},
    Adds scope first second xs → xs.Perm ys → Adds scope first second ys
  reference : ∀ {name : String} {span : Span} {scope : Scope} {before after : Progress}
    {result : Unit}, Makes (reference name span) scope before result after →
      Adds scope before after (named name)
  newSlot : ∀ (scope : Scope) (progress : Progress),
    Adds scope progress { progress with slots := progress.slots + 1 } (slotted progress.slots)

namespace Tally

variable {β : Type} (tally : Tally β)

/-- What the candidates of a source count for. -/
def ofCandidates : CandidateSource Node → List β
  | .named names => names.flatMap tally.named
  | .matching _ | .delineated _ _ => []

/-- What a node counts for on its own. -/
def own : Node → List β
  | .attribute _ name => tally.named name
  | .quantifier _ slot source _ _ => tally.ofCandidates source ++ tally.slotted slot
  | .literal _ _ | .loopVariable _ _ | .template _ _ | .call _ _ _ _ _ _ _ => []

/-- What all nodes of a tree count for. -/
def total (node : Node) : List β := node.all.flatMap tally.own

theorem total_eq (node : Node) :
    tally.total node = tally.own node ++ node.children.flatMap tally.total := by
  unfold total
  rw [Node.all_eq node, List.flatMap_cons, List.flatMap_assoc]

/-- What a source counts for with its operands. -/
def ofSource (source : CandidateSource Node) : List β :=
  tally.ofCandidates source ++ source.operands.flatMap tally.total

/-- A quantifier counts for what is lowered before its slot, for the slot, and for what is lowered
after it. -/
theorem total_quantifier (origin : Origin) (slot : Nat) (source : CandidateSource Node)
    (fold : Fold Node) (body : Node) :
    (tally.ofSource source ++ (tally.slotted slot ++ tally.total body) ++
      fold.operands.flatMap tally.total).Perm
        (tally.total (.quantifier origin slot source fold body)) := by
  rw [tally.total_eq (.quantifier origin slot source fold body)]
  simp only [own, ofSource, Node.children, List.flatMap_append, List.flatMap_cons,
    List.flatMap_nil, List.append_nil, List.append_assoc]
  refine .append_left _ ((List.perm_append_comm_assoc _ _ _).trans ?_)
  exact .append_left _ (.append_left _ List.perm_append_comm)

/-- What an action adds is what the tree that it makes counts for. -/
def Counts (x : Lower Node) : Prop :=
  ∀ (scope : Scope) (before after : Progress) (node : Node), Makes x scope before node after →
    tally.Adds scope before after (tally.total node)

variable {tally} {scope : Scope} {start before after : Progress}

theorem arguments_adds {function : Function} {args : List PlannedArg}
    (hargs : ∀ arg ∈ args, tally.Counts arg.lower) {index : Nat}
    {result : List (Node × Option Kind)}
    (h : Makes (arguments function index args) scope before result after) :
    tally.Adds scope before after ((result.map (·.1)).flatMap tally.total) := by
  induction args generalizing index before result with
  | nil =>
    obtain ⟨rfl, rfl⟩ := makes_pure.mp h
    exact tally.refl _ _
  | cons arg args ih =>
    obtain ⟨node, between, hnode, h⟩ := makes_bind.mp h
    dsimp only at h
    split at h
    · exact absurd h makes_fail
    · simp only [makes_bind, makes_pure] at h
      obtain ⟨rest, _, hrest, rfl, rfl⟩ := h
      exact tally.trans (hargs arg (by simp) _ _ _ _ hnode)
        (ih (fun other ho => hargs other (by simp [ho])) hrest)

theorem call_adds {function : Function} {subject : Option Node} {planned : PlannedCall}
    {span : Span} {node : Node} (hargs : ∀ arg ∈ planned.args, tally.Counts arg.lower)
    (hsubject : tally.Adds scope start before (subject.toList.flatMap tally.total))
    (h : Makes (call function subject planned span) scope before node after) :
    tally.Adds scope start after (tally.total node) := by
  simp only [call, makes_bind, makes_origin, makes_pure] at h
  obtain ⟨_, _, harity, target, _, htarget, args, between, hlowered, pattern, _, hpattern, origin,
    _, ⟨rfl, rfl⟩, rfl, rfl⟩ := h
  obtain ⟨-, rfl⟩ := makes_checkArity harity
  obtain ⟨-, rfl⟩ := makes_subjectTarget htarget
  obtain rfl := makes_literalPattern hpattern
  have hadds := tally.trans hsubject (arguments_adds hargs hlowered)
  rwa [tally.total_eq, own, List.nil_append, Node.children, List.flatMap_append]

theorem chain_adds {calls : List PlannedCall}
    (hcalls : ∀ planned ∈ calls, ∀ arg ∈ planned.args, tally.Counts arg.lower)
    {node result : Node} (hnode : tally.Adds scope start before (tally.total node))
    (h : Makes (chain node calls) scope before result after) :
    tally.Adds scope start after (tally.total result) := by
  induction calls generalizing node before with
  | nil =>
    obtain ⟨rfl, rfl⟩ := makes_pure.mp h
    exact hnode
  | cons planned calls ih =>
    rw [chain, makes_bind] at h
    obtain ⟨function, _, hresolve, h⟩ := h
    obtain rfl := makes_resolve hresolve
    split at h
    · exact absurd h makes_fail
    · split at h
      · exact absurd h makes_fail
      · obtain ⟨called, between, hcall, h⟩ := makes_bind.mp h
        have hcalled := call_adds (hcalls planned (by simp)) (by simpa using hnode) hcall
        exact ih (fun other ho => hcalls other (by simp [ho])) hcalled h

theorem references_adds {texts : List (String × Span)} {result : PUnit}
    (h : Makes (forIn texts PUnit.unit fun entry _ => do
      Lower.reference entry.1 entry.2
      pure (.yield PUnit.unit)) scope before result after) :
    tally.Adds scope before after ((texts.map (·.1)).flatMap tally.named) := by
  induction texts generalizing before with
  | nil =>
    obtain ⟨_, rfl⟩ := makes_pure.mp h
    exact tally.refl _ _
  | cons entry texts ih =>
    simp only [List.forIn_cons, bind_assoc, pure_bind, makes_bind] at h
    obtain ⟨_, between, href, h⟩ := h
    exact tally.trans (tally.reference href) (ih h)

theorem candidateSource_adds {function : Function} {kind : CandidateKind} {args : List PlannedArg}
    (hargs : ∀ arg ∈ args, tally.Counts arg.lower) {source : CandidateSource Node}
    (h : Makes (candidateSource function kind args) scope before source after) :
    tally.Adds scope before after (tally.ofSource source) := by
  unfold candidateSource at h
  split at h
  · simp only [makes_bind, makes_pure] at h
    obtain ⟨texts, _, htexts, _, _, hrefs, rfl, rfl⟩ := h
    obtain rfl := makes_literalTexts htexts
    rw [ofSource, ofCandidates, CandidateSource.operands, List.flatMap_nil, List.append_nil]
    exact references_adds hrefs
  · simp only [makes_bind, makes_pure] at h
    obtain ⟨texts, _, htexts, patterns, _, hpatterns, rfl, rfl⟩ := h
    obtain rfl := makes_literalTexts htexts
    obtain rfl := makes_patterns hpatterns
    exact tally.refl _ _
  · next value delimiter rest =>
    simp only [makes_bind, makes_pure] at h
    obtain ⟨left, between, hleft, right, _, hright, rfl, rfl⟩ := h
    simpa [ofSource, ofCandidates, CandidateSource.operands] using
      tally.trans (hargs value (by simp) _ _ _ _ hleft)
        (hargs delimiter (by simp) _ _ _ _ hright)
  · obtain ⟨rfl, rfl⟩ := makes_pure.mp h
    exact tally.refl _ _

theorem reducerFold_adds {function : Function} {all : Bool} {planned : PlannedCall}
    (hargs : ∀ arg ∈ planned.args, tally.Counts arg.lower) {result : Fold Node × Kind}
    (h : Makes (reducerFold function all planned) scope before result after) :
    tally.Adds scope before after (result.1.operands.flatMap tally.total) := by
  rw [reducerFold, makes_bind] at h
  obtain ⟨reducer, _, hresolve, h⟩ := h
  obtain rfl := makes_resolve hresolve
  split at h
  · exact absurd h makes_fail
  · rw [makes_bind] at h
    obtain ⟨_, _, harity, h⟩ := h
    obtain rfl := (makes_checkArity harity).2
    split at h
    · next separator rest hplanned =>
      simp only [makes_bind, makes_pure] at h
      obtain ⟨child, _, hchild, rfl, rfl⟩ := h
      simpa [Fold.operands] using hargs separator (by simp [hplanned]) _ _ _ _ hchild
    · obtain ⟨rfl, rfl⟩ := makes_pure.mp h
      exact tally.refl _ _

theorem quantifier_counts {function : Function} {kind : CandidateKind} {all : Bool}
    {planned : PlannedCall} {calls : List PlannedCall}
    (hargs : ∀ arg ∈ planned.args, tally.Counts arg.lower)
    (hcalls : ∀ other ∈ calls, ∀ arg ∈ other.args, tally.Counts arg.lower) :
    tally.Counts (quantifier function kind all planned calls) := by
  intro scope before after node h
  rw [quantifier, makes_bind] at h
  obtain ⟨_, _, harity, h⟩ := h
  obtain rfl := (makes_checkArity harity).2
  simp only [makes_bind, makes_newSlot, makes_origin] at h
  obtain ⟨source, opened, hsource, slot, _, ⟨rfl, rfl⟩, origin, _, ⟨rfl, rfl⟩, body, between,
    hbody, h⟩ := h
  -- the loop variable counts for nothing, so that the body adds to the slot what its calls do
  have hvariable (origin : Origin) : tally.total (.loopVariable origin opened.slots) = [] := by
    simp [total_eq, own, Node.children]
  have hopened := chain_adds (fun other ho => hcalls other ((List.takeWhile_sublist _).subset ho))
    (hvariable _ ▸ tally.refl _ _) hbody
  have hbefore := tally.trans (candidateSource_adds hargs hsource)
    (tally.trans (tally.newSlot scope opened) hopened)
  split at h
  · simp only [makes_bind, makes_origin, makes_pure] at h
    obtain ⟨fold, _, hfold, _, _, ⟨rfl, rfl⟩, rfl, rfl⟩ := h
    obtain ⟨hoperands, -, rfl⟩ := makes_predicateFold hfold
    refine tally.perm hbefore (.trans (.of_eq ?_) (tally.total_quantifier _ _ _ _ _))
    rw [hoperands, List.flatMap_nil, List.append_nil]
  · next reducer rest hdrop =>
    have hrest (other : PlannedCall) (ho : other ∈ reducer :: rest) : other ∈ calls :=
      (List.dropWhile_sublist _).subset (hdrop ▸ ho)
    simp only [makes_bind, makes_origin] at h
    obtain ⟨⟨fold, result⟩, closed, hfold, _, _, ⟨rfl, rfl⟩, h⟩ := h
    have hfold := tally.trans hbefore
      (reducerFold_adds (hcalls reducer (hrest reducer (by simp))) hfold)
    exact chain_adds (fun other ho => hcalls other (hrest other (by simp [ho])))
      (tally.perm hfold (tally.total_quantifier _ _ _ _ _)) h

theorem callExpression_counts {planned : PlannedCall} {calls : List PlannedCall}
    (hargs : ∀ arg ∈ planned.args, tally.Counts arg.lower)
    (hcalls : ∀ other ∈ calls, ∀ arg ∈ other.args, tally.Counts arg.lower) :
    tally.Counts (callExpression planned calls) := by
  intro scope before after node h
  rw [callExpression, makes_bind] at h
  obtain ⟨function, _, hresolve, h⟩ := h
  obtain rfl := makes_resolve hresolve
  split at h
  · exact quantifier_counts hargs hcalls scope _ _ _ h
  · split at h
    · exact absurd h makes_fail
    · split at h
      · exact absurd h makes_fail
      · rw [makes_bind] at h
        obtain ⟨called, between, hcall, h⟩ := h
        exact chain_adds hcalls (call_adds hargs (tally.refl _ _) hcall) h

theorem literal_counts (value : Literal) (span : Span) : tally.Counts (literal value span) := by
  intro scope before after node h
  cases value <;> simp only [literal, makes_bind, makes_origin, makes_pure] at h
  all_goals
    obtain ⟨_, _, ⟨rfl, rfl⟩, rfl, rfl⟩ := h
    exact tally.refl _ _

theorem expression_counts {name : String} {span : Span} {calls : List PlannedCall}
    (hcalls : ∀ other ∈ calls, ∀ arg ∈ other.args, tally.Counts arg.lower) :
    tally.Counts (expression (.attribute name span) calls) := by
  intro scope before after node h
  simp only [expression, makes_bind, makes_origin] at h
  obtain ⟨_, _, href, _, _, ⟨rfl, rfl⟩, h⟩ := h
  have hleaf (origin : Origin) : tally.total (.attribute origin name) = tally.named name := by
    simp [total_eq, own, Node.children]
  exact chain_adds hcalls (hleaf _ ▸ tally.reference href) h

theorem counts_kept (tally : Tally β) : Kept tally.Counts where
  literal value span _ := literal_counts value span
  attributeExpression _ _ _ := expression_counts
  callExpression _ _ := callExpression_counts

theorem segments_adds {segments : List Segment} {parts : List Node}
    (h : Makes (segments.mapM Segment.lower) scope before parts after) :
    tally.Adds scope before after (parts.flatMap tally.total) := by
  induction segments generalizing before parts with
  | nil =>
    obtain ⟨rfl, rfl⟩ := makes_pure.mp h
    exact tally.refl _ _
  | cons segment segments ih =>
    simp only [List.mapM_cons, makes_bind, makes_pure] at h
    obtain ⟨part, between, hpart, rest, _, hrest, rfl, rfl⟩ := h
    exact tally.trans (tally.counts_kept.segment segment _ _ _ _ hpart) (ih hrest)

/-- What the lowering of a template adds is what its tree counts for. -/
theorem template_counts (tally : Tally β) (template : Template) :
    tally.Counts template.lower := by
  intro scope before after node h
  unfold Template.lower at h
  split at h
  · next expr _ => exact tally.counts_kept.expression expr scope _ _ _ h
  · simp only [Lower.source, makes_bind, makes_read, makes_origin, makes_pure] at h
    obtain ⟨parts, _, hparts, _, _, ⟨_, _, ⟨rfl, rfl⟩, rfl, rfl⟩, _, _, ⟨rfl, rfl⟩, rfl, rfl⟩ := h
    rw [total_eq, own, List.nil_append, Node.children]
    exact segments_adds hparts

end Tally

end Lower

end AttrExpr
