import AttrExpr.Compiled
import AttrExpr.Proofs.Soundness

/-! What lowering makes of a source: a well-formed tree that sees no loop variables from outside and
whose quantifiers bind the slots that were handed out on the way. -/
set_option autoImplicit false

namespace AttrExpr

namespace Node

theorem wellFormed_iff (node : Node) :
    node.WellFormed ↔ node.Sound ∧ ∀ child ∈ node.children, child.WellFormed :=
  forall_all_iff node

theorem boundSlots_eq (node : Node) :
    node.boundSlots = node.slot?.toList ++ node.children.flatMap boundSlots := by
  unfold boundSlots
  rw [all_eq node, List.filterMap_cons]
  cases node.slot? <;> simp [List.filterMap_flatMap]

/-- A well-formed tree whose quantifiers bind slots from a range. -/
structure Within (first last : Nat) (node : Node) : Prop where
  wellFormed : node.WellFormed
  slots : ∀ slot ∈ node.boundSlots, first ≤ slot ∧ slot < last

theorem Within.of_children {first last : Nat} {node : Node} (hself : node.Sound)
    (hslot : ∀ slot ∈ node.slot?, first ≤ slot ∧ slot < last)
    (h : ∀ child ∈ node.children, child.Within first last) : node.Within first last where
  wellFormed := (wellFormed_iff node).mpr ⟨hself, fun child hc => (h child hc).wellFormed⟩
  slots slot hs := by
    rw [boundSlots_eq, List.mem_append, List.mem_flatMap, Option.mem_toList] at hs
    rcases hs with hs | ⟨child, hc, hs⟩
    · exact hslot slot hs
    · exact (h child hc).slots slot hs

theorem Within.mono {first last first' last' : Nat} {node : Node} (h : node.Within first last)
    (hfirst : first' ≤ first) (hlast : last ≤ last') : node.Within first' last' where
  wellFormed := h.wellFormed
  slots slot hs := by
    have hslot := h.slots slot hs
    omega

/-- A quantifier is well-formed when its operands see no loop variables and its body sees the one of
its slot alone, which was handed out between the operands and the body. -/
theorem within_quantifier {origin : Origin} {first slot between last : Nat}
    {source : CandidateSource Node} {fold : Fold Node} {body : Node}
    (hsource : ∀ child ∈ source.operands, child.Within first slot ∧ child.freeSlots = [])
    (hfold : ∀ child ∈ fold.operands, child.Within between last ∧ child.freeSlots = [])
    (hbody : body.Within (slot + 1) between) (hfree : body.freeSlots = [slot])
    (hkind : fold.Gives body.kind origin.kind) (hfirst : first ≤ slot) (hslot : slot < between)
    (hlast : between ≤ last) :
    (quantifier origin slot source fold body).Within first last ∧
      (quantifier origin slot source fold body).freeSlots = [] := by
  have hself : QuantifierSound origin slot source fold body := by
    refine ⟨fun child hc => ?_, hfree, fun hs => ?_, hkind⟩
    · rcases List.mem_append.mp hc with hc | hc
      · exact (hsource child hc).2
      · exact (hfold child hc).2
    · have hbound := (hbody.slots slot hs).1
      omega
  refine ⟨.of_children hself ?_ ?_, hself.freeSlots_eq⟩
  · intro bound hb
    obtain rfl : slot = bound := Option.some.inj hb
    omega
  · intro child hc
    simp only [children, List.mem_append, List.mem_singleton] at hc
    rcases hc with (hc | hc) | rfl
    · exact (hsource child hc).1.mono (Nat.le_refl _) (by omega)
    · exact (hfold child hc).1.mono (by omega) (Nat.le_refl _)
    · exact hbody.mono (by omega) hlast

end Node

namespace Lower

variable {α β : Type} {scope : Scope} {before after : Progress}

/-- What an action gives, and the progress that it leaves. -/
def Makes (x : Lower α) (scope : Scope) (before : Progress) (a : α) (after : Progress) : Prop :=
  x scope before = .ok (a, after)

theorem makes_iff {x : Lower α} {a b : α} {between : Progress}
    (h : x scope before = .ok (a, between)) :
    Makes x scope before b after ↔ b = a ∧ after = between := by
  unfold Makes
  rw [h, Except.ok.injEq, Prod.mk.injEq, eq_comm, @eq_comm _ between]

@[simp] theorem makes_pure {a b : α} :
    Makes (pure a) scope before b after ↔ b = a ∧ after = before := makes_iff rfl

@[simp] theorem makes_fail {cause : CompileCause} {span : Span} {a : α} :
    ¬ Makes (fail cause span) scope before a after := by
  intro h
  cases h

@[simp] theorem makes_bind {x : Lower α} {f : α → Lower β} {b : β} :
    Makes (x >>= f) scope before b after ↔
      ∃ a between, Makes x scope before a between ∧ Makes (f a) scope between b after := by
  change (x scope before).bind (fun result => f result.1 scope result.2) = _ ↔ _
  unfold Makes
  cases x scope before with
  | error error => simp [Except.bind]
  | ok result =>
    obtain ⟨a, between⟩ := result
    constructor
    · intro h
      exact ⟨a, between, rfl, h⟩
    · rintro ⟨_, _, h, hf⟩
      cases h
      exact hf

@[simp] theorem makes_map {x : Lower α} {f : α → β} {b : β} :
    Makes (f <$> x) scope before b after ↔ ∃ a, Makes x scope before a after ∧ b = f a := by
  rw [← bind_pure_comp, makes_bind]
  simp

@[simp] theorem makes_read {result : Scope} :
    Makes read scope before result after ↔ result = scope ∧ after = before := makes_iff rfl

@[simp] theorem makes_modify {change : Progress → Progress} {result : Unit} :
    Makes (modify change) scope before result after ↔ after = change before :=
  (makes_iff rfl).trans (and_iff_right rfl)

@[simp] theorem makes_origin {kind : Kind} {span : Span} {result : Origin} :
    Makes (origin kind span) scope before result after ↔
      result = ⟨kind, span.token scope.source, span⟩ ∧ after = before := makes_iff rfl

@[simp] theorem makes_newSlot {slot : Nat} :
    Makes newSlot scope before slot after ↔
      slot = before.slots ∧ after = { before with slots := before.slots + 1 } := makes_iff rfl

theorem makes_reference {name : String} {span : Span} {result : Unit}
    (h : Makes (reference name span) scope before result after) : after.slots = before.slots := by
  simp only [reference, makes_bind, makes_read] at h
  obtain ⟨_, _, ⟨rfl, rfl⟩, h⟩ := h
  split at h
  · split at h
    · simp only [makes_modify] at h
      simp [h]
    · simp at h
  · simp only [makes_modify] at h
    simp [h]

theorem makes_resolve {name : String} {span : Span} {function : Function}
    (h : Makes (resolve name span) scope before function after) : after = before := by
  unfold resolve at h
  split at h
  · exact (makes_pure.mp h).2
  · exact absurd h makes_fail

theorem makes_checkArity {function : Function} {planned : PlannedCall} {span : Span} {result : Unit}
    (h : Makes (checkArity function planned span) scope before result after) :
    function.signature.accepts planned.args.length = true ∧ after = before := by
  unfold checkArity at h
  split at h
  · next hc => exact ⟨hc, (makes_pure.mp h).2⟩
  · exact absurd h makes_fail

theorem makes_subjectTarget {function : Function} {subject : Option Node} {target : Option Kind}
    (h : Makes (subjectTarget function subject) scope before target after) :
    (∀ node expected, subject = some node → function.signature.subject = some expected →
      expected.resolve? node.kind = some target) ∧ after = before := by
  unfold subjectTarget at h
  split at h
  · exact ⟨fun node expected hn => (nomatch hn), (makes_pure.mp h).2⟩
  · split at h
    · next hs => exact ⟨fun node expected _ he => (nomatch hs.symm.trans he), (makes_pure.mp h).2⟩
    · next subject expected hs =>
      split at h
      · next found hf =>
        obtain ⟨rfl, hafter⟩ := makes_pure.mp h
        refine ⟨fun node other hn ho => ?_, hafter⟩
        cases hn
        rw [hs] at ho
        cases ho
        exact hf
      · exact absurd h makes_fail

theorem makes_readPatternAt {whole : Bool} {text : String} {span : Span} {regex : Regex}
    (h : Makes (readPatternAt whole text span) scope before regex after) : after = before := by
  unfold readPatternAt at h
  split at h
  · exact (makes_pure.mp h).2
  · exact absurd h makes_fail

theorem makes_literalPattern {function : Function} {args : List PlannedArg} {pattern : Option Regex}
    (h : Makes (literalPattern function args) scope before pattern after) : after = before := by
  unfold literalPattern at h
  split at h
  · obtain ⟨regex, hread, _⟩ := makes_map.mp h
    exact makes_readPatternAt hread
  · exact (makes_pure.mp h).2

/-- What an action lowers is well-formed on its own and binds the slots that it hands out. -/
def Lowers (x : Lower Node) : Prop :=
  ∀ (scope : Scope) (before after : Progress) (node : Node), Makes x scope before node after →
    before.slots ≤ after.slots ∧ node.Within before.slots after.slots ∧ node.freeSlots = []

theorem makes_arguments {function : Function} {args : List PlannedArg}
    (hargs : ∀ arg ∈ args, Lowers arg.lower) {index : Nat} {result : List (Node × Option Kind)}
    (h : Makes (arguments function index args) scope before result after) :
    before.slots ≤ after.slots ∧ result.length = args.length ∧
      (∀ entry ∈ result, entry.1.Within before.slots after.slots ∧ entry.1.freeSlots = []) ∧
      ∀ (i : Nat) (entry : Node × Option Kind), result[i]? = some entry →
        (function.signature.param (index + i)).resolve? entry.1.kind = some entry.2 := by
  induction args generalizing index before result with
  | nil =>
    obtain ⟨rfl, rfl⟩ := makes_pure.mp h
    simp
  | cons arg args ih =>
    obtain ⟨node, between, hnode, h⟩ := makes_bind.mp h
    obtain ⟨hle, hwithin, hfree⟩ := hargs arg (by simp) scope before between node hnode
    dsimp only at h
    split at h
    · exact absurd h makes_fail
    · next target ht =>
      simp only [makes_bind, makes_pure] at h
      obtain ⟨rest, final, hrest, rfl, rfl⟩ := h
      obtain ⟨hle', hlength, hall, hkinds⟩ := ih (fun other ho => hargs other (by simp [ho])) hrest
      refine ⟨by omega, by simp [hlength], ?_, ?_⟩
      · intro entry he
        rcases List.mem_cons.mp he with rfl | he
        · exact ⟨hwithin.mono (by omega) hle', hfree⟩
        · exact ⟨(hall entry he).1.mono hle (by omega), (hall entry he).2⟩
      · intro i entry he
        cases i with
        | zero =>
          cases he
          exact ht
        | succ i =>
          rw [show index + (i + 1) = index + 1 + i by omega]
          exact hkinds i entry he

theorem family_ne_lowered {function : Function}
    (h : function.quantifier? = none ∧ function.isReducer = false ∨
      function.isReducer = false ∧ function.signature.subject.isSome = true) :
    function.family ≠ .lowered := by
  cases function <;> simp_all [Function.family, Function.quantifier?, Function.isReducer,
    Function.signature, Function.withMany, Function.exactly]

/-- A call is well-formed with its subject and sees the loop variables that its subject sees. -/
theorem makes_call {function : Function} {subject : Option Node} {planned : PlannedCall}
    {span : Span} {node : Node} {first : Nat} (hfamily : function.family ≠ .lowered)
    (hpresent : function.signature.subject.isSome → subject.isSome)
    (hsubject : ∀ child ∈ subject, child.Within first before.slots) (hfirst : first ≤ before.slots)
    (hargs : ∀ arg ∈ planned.args, Lowers arg.lower)
    (h : Makes (call function subject planned span) scope before node after) :
    before.slots ≤ after.slots ∧ node.Within first after.slots ∧
      node.freeSlots = Node.freeSlotsOfOption subject := by
  simp only [call, makes_bind, makes_origin, makes_pure] at h
  obtain ⟨_, _, harity, target, _, htarget, args, between, hlowered, pattern, _, hpattern, origin,
    _, ⟨rfl, rfl⟩, rfl, rfl⟩ := h
  obtain ⟨hcount, rfl⟩ := makes_checkArity harity
  obtain ⟨hresolve, rfl⟩ := makes_subjectTarget htarget
  obtain ⟨hle, hlength, hall, hkinds⟩ := makes_arguments hargs hlowered
  obtain rfl := makes_literalPattern hpattern
  refine ⟨hle, .of_children ?_ (fun slot hs => nomatch hs) ?_, ?_⟩
  · refine ⟨hfamily, fun expected he => ?_, ?_, ?_, ?_, ?_⟩
    · obtain ⟨child, rfl⟩ := Option.isSome_iff_exists.mp (hpresent (by simp [he]))
      exact ⟨child, rfl, hresolve child expected rfl he⟩
    · simpa [hlength] using hcount
    · intro arg ha
      obtain ⟨entry, he, rfl⟩ := List.mem_map.mp ha
      exact (hall entry he).2
    · intro i arg ha
      rw [List.getElem?_map, Option.map_eq_some_iff] at ha
      obtain ⟨entry, he, rfl⟩ := ha
      refine ⟨entry.2, by simp [he], ?_⟩
      simpa using hkinds i entry he
    · simp [Function.comp_def]
  · intro child hc
    simp only [Node.children, List.mem_append, Option.mem_toList, List.mem_map] at hc
    rcases hc with hc | ⟨entry, he, rfl⟩
    · exact (hsubject child hc).mono (by omega) hle
    · exact (hall entry he).1.mono hfirst (by omega)
  · have hclosed : Node.freeSlotsOfList (args.map (·.1)) = [] := by
      rw [Node.freeSlotsOfList_eq, List.flatMap_eq_nil_iff]
      intro arg ha
      obtain ⟨entry, he, rfl⟩ := List.mem_map.mp ha
      exact (hall entry he).2
    rw [Node.freeSlots, hclosed, List.append_nil]

theorem makes_chain {calls : List PlannedCall}
    (hcalls : ∀ planned ∈ calls, ∀ arg ∈ planned.args, Lowers arg.lower) {node result : Node}
    {first : Nat} (hnode : node.Within first before.slots) (hfirst : first ≤ before.slots)
    (h : Makes (chain node calls) scope before result after) :
    before.slots ≤ after.slots ∧ result.Within first after.slots ∧
      result.freeSlots = node.freeSlots := by
  induction calls generalizing node before with
  | nil =>
    obtain ⟨rfl, rfl⟩ := makes_pure.mp h
    exact ⟨Nat.le_refl _, hnode, rfl⟩
  | cons planned calls ih =>
    rw [chain, makes_bind] at h
    obtain ⟨function, _, hresolve, h⟩ := h
    obtain rfl := makes_resolve hresolve
    split at h
    · exact absurd h makes_fail
    · split at h
      · exact absurd h makes_fail
      · next hreducer hsubject =>
        obtain ⟨called, between, hcall, h⟩ := makes_bind.mp h
        have hfamily : function.family ≠ .lowered := by
          refine family_ne_lowered (.inr ⟨by simpa using hreducer, ?_⟩)
          simpa [Option.isSome_iff_ne_none] using hsubject
        obtain ⟨hle, hwithin, hfree⟩ := makes_call hfamily (fun _ => rfl)
          (fun child hc => by cases hc; exact hnode) hfirst (hcalls planned (by simp)) hcall
        obtain ⟨hle', hwithin', hfree'⟩ := ih (fun other ho => hcalls other (by simp [ho])) hwithin
          (by omega) h
        exact ⟨by omega, hwithin', by rw [hfree', hfree, Node.freeSlotsOfOption]⟩

theorem makes_literalTexts {function : Function} {args : List PlannedArg}
    {texts : List (String × Span)}
    (h : Makes (literalTexts function args) scope before texts after) : after = before := by
  induction args generalizing before texts with
  | nil => exact (makes_pure.mp h).2
  | cons arg args ih =>
    unfold literalTexts at h
    split at h
    · exact absurd h makes_fail
    · simp only [makes_bind, makes_pure] at h
      obtain ⟨rest, _, hrest, _, rfl⟩ := h
      exact ih hrest

theorem makes_references {texts : List (String × Span)} {result : PUnit}
    (h : Makes (forIn texts PUnit.unit fun entry _ => do
      reference entry.1 entry.2
      pure (.yield PUnit.unit)) scope before result after) : after.slots = before.slots := by
  induction texts generalizing before with
  | nil =>
    obtain ⟨_, rfl⟩ := makes_pure.mp h
    rfl
  | cons entry texts ih =>
    simp only [List.forIn_cons, bind_assoc, pure_bind, makes_bind] at h
    obtain ⟨_, between, href, h⟩ := h
    rw [ih h, makes_reference href]

theorem makes_patterns {texts : List (String × Span)} {patterns : List Regex}
    (h : Makes (texts.mapM fun entry => readPatternAt true entry.1 entry.2) scope before patterns
      after) : after = before := by
  induction texts generalizing before patterns with
  | nil => exact (makes_pure.mp h).2
  | cons entry texts ih =>
    simp only [List.mapM_cons, makes_bind, makes_pure] at h
    obtain ⟨regex, _, hread, rest, _, hrest, _, rfl⟩ := h
    rw [ih hrest, makes_readPatternAt hread]

theorem makes_candidateSource {function : Function} {kind : CandidateKind} {args : List PlannedArg}
    (hargs : ∀ arg ∈ args, Lowers arg.lower) {source : CandidateSource Node}
    (h : Makes (candidateSource function kind args) scope before source after) :
    before.slots ≤ after.slots ∧ ∀ child ∈ source.operands,
      child.Within before.slots after.slots ∧ child.freeSlots = [] := by
  unfold candidateSource at h
  split at h
  · simp only [makes_bind, makes_pure] at h
    obtain ⟨texts, _, htexts, _, _, hrefs, rfl, rfl⟩ := h
    obtain rfl := makes_literalTexts htexts
    exact ⟨Nat.le_of_eq (makes_references hrefs).symm, by simp [CandidateSource.operands]⟩
  · simp only [makes_bind, makes_pure] at h
    obtain ⟨texts, _, htexts, patterns, _, hpatterns, rfl, rfl⟩ := h
    obtain rfl := makes_literalTexts htexts
    obtain rfl := makes_patterns hpatterns
    exact ⟨Nat.le_refl _, by simp [CandidateSource.operands]⟩
  · next value delimiter rest =>
    simp only [makes_bind, makes_pure] at h
    obtain ⟨left, between, hleft, right, _, hright, rfl, rfl⟩ := h
    obtain ⟨hle, hwithin, hfree⟩ := hargs value (by simp) scope _ _ _ hleft
    obtain ⟨hle', hwithin', hfree'⟩ := hargs delimiter (by simp) scope _ _ _ hright
    refine ⟨by omega, fun child hc => ?_⟩
    simp only [CandidateSource.operands, List.mem_cons, List.not_mem_nil, or_false] at hc
    rcases hc with rfl | rfl
    · exact ⟨hwithin.mono (Nat.le_refl _) hle', hfree⟩
    · exact ⟨hwithin'.mono hle (Nat.le_refl _), hfree'⟩
  · obtain ⟨rfl, rfl⟩ := makes_pure.mp h
    exact ⟨Nat.le_refl _, by simp [CandidateSource.operands]⟩

theorem makes_predicateFold {function : Function} {all : Bool} {body : Node}
    {calls : List PlannedCall} {subject : Span} {fold : Fold Node}
    (h : Makes (predicateFold function all body calls subject) scope before fold after) :
    fold.operands = [] ∧ fold.Gives body.kind .boolean ∧ after = before := by
  unfold predicateFold at h
  split at h
  · next hbody =>
    obtain ⟨rfl, rfl⟩ := makes_pure.mp h
    cases all with
    | true => exact ⟨rfl, ⟨hbody, rfl⟩, rfl⟩
    | false => exact ⟨rfl, ⟨hbody, rfl⟩, rfl⟩
  · exact absurd h makes_fail

theorem makes_reducerFold {function : Function} {all : Bool} {planned : PlannedCall}
    (hargs : ∀ arg ∈ planned.args, Lowers arg.lower) {result : Fold Node × Kind}
    (h : Makes (reducerFold function all planned) scope before result after) (body : Kind) :
    before.slots ≤ after.slots ∧ result.1.Gives body result.2 ∧
      ∀ child ∈ result.1.operands,
        child.Within before.slots after.slots ∧ child.freeSlots = [] := by
  rw [reducerFold, makes_bind] at h
  obtain ⟨reducer, _, hresolve, h⟩ := h
  obtain rfl := makes_resolve hresolve
  split at h
  · exact absurd h makes_fail
  · rw [makes_bind] at h
    obtain ⟨_, _, harity, h⟩ := h
    obtain rfl := (makes_checkArity harity).2
    split at h
    · next separator rest hplanned =>
      simp only [makes_bind, makes_pure] at h
      obtain ⟨child, _, hchild, rfl, rfl⟩ := h
      obtain ⟨hle, hwithin, hfree⟩ := hargs separator (by simp [hplanned]) scope _ _ _ hchild
      refine ⟨hle, rfl, fun other ho => ?_⟩
      obtain rfl := List.mem_singleton.mp ho
      exact ⟨hwithin, hfree⟩
    · obtain ⟨rfl, rfl⟩ := makes_pure.mp h
      exact ⟨Nat.le_refl _, rfl, by simp [Fold.operands]⟩

theorem lowers_quantifier {function : Function} {kind : CandidateKind} {all : Bool}
    {planned : PlannedCall} {calls : List PlannedCall}
    (hargs : ∀ arg ∈ planned.args, Lowers arg.lower)
    (hcalls : ∀ other ∈ calls, ∀ arg ∈ other.args, Lowers arg.lower) :
    Lowers (quantifier function kind all planned calls) := by
  intro scope before after node h
  rw [quantifier, makes_bind] at h
  obtain ⟨_, _, harity, h⟩ := h
  obtain rfl := (makes_checkArity harity).2
  simp only [makes_bind, makes_newSlot, makes_origin] at h
  obtain ⟨source, opened, hsource, slot, _, ⟨rfl, rfl⟩, _, _, ⟨rfl, rfl⟩, body, between, hbody,
    h⟩ := h
  obtain ⟨hopened, hsource⟩ := makes_candidateSource hargs hsource
  have hvariable (origin : Origin) (hk : origin.kind = .string) :
      (Node.loopVariable origin opened.slots).Within (opened.slots + 1) (opened.slots + 1) :=
    .of_children hk (fun _ hs => nomatch hs) fun _ hc => nomatch hc
  obtain ⟨hbetween, hwithin, hfree⟩ := makes_chain
    (fun other ho => hcalls other ((List.takeWhile_sublist _).subset ho)) (hvariable _ rfl)
    (Nat.le_refl _) hbody
  rw [Node.freeSlots] at hfree
  -- with no reducer the fold is that of the quantifier, and its calls are all in the body; with one
  -- the calls after the reducer take the quantifier as their subject
  dsimp only at hbetween hwithin h
  split at h
  · simp only [makes_bind, makes_origin, makes_pure] at h
    obtain ⟨fold, _, hfold, _, _, ⟨rfl, rfl⟩, rfl, rfl⟩ := h
    obtain ⟨hoperands, hgives, rfl⟩ := makes_predicateFold hfold
    refine ⟨by omega, Node.within_quantifier hsource (fun child hc => ?_) hwithin hfree hgives
      hopened (by omega) (Nat.le_refl _)⟩
    simp [hoperands] at hc
  · next reducer rest hdrop =>
    have hrest (other : PlannedCall) (ho : other ∈ reducer :: rest) : other ∈ calls :=
      (List.dropWhile_sublist _).subset (hdrop ▸ ho)
    simp only [makes_bind, makes_origin] at h
    obtain ⟨⟨fold, result⟩, closed, hfold, _, _, ⟨rfl, rfl⟩, h⟩ := h
    obtain ⟨hclosed, hgives, hoperands⟩ :=
      makes_reducerFold (hcalls reducer (hrest reducer (by simp))) hfold body.kind
    have hnode (origin : Origin) (hk : origin.kind = result) :=
      Node.within_quantifier hsource hoperands hwithin hfree (hk ▸ hgives) hopened (by omega)
        hclosed
    obtain ⟨hle, hresult, hresultFree⟩ := makes_chain
      (fun other ho => hcalls other (hrest other (by simp [ho]))) (hnode _ rfl).1 (by omega) h
    exact ⟨by omega, hresult, hresultFree.trans (hnode _ rfl).2⟩

theorem lowers_callExpression {planned : PlannedCall} {calls : List PlannedCall}
    (hargs : ∀ arg ∈ planned.args, Lowers arg.lower)
    (hcalls : ∀ other ∈ calls, ∀ arg ∈ other.args, Lowers arg.lower) :
    Lowers (callExpression planned calls) := by
  intro scope before after node h
  rw [callExpression, makes_bind] at h
  obtain ⟨function, _, hresolve, h⟩ := h
  obtain rfl := makes_resolve hresolve
  split at h
  · exact lowers_quantifier hargs hcalls scope _ _ _ h
  · next hquantifier =>
    split at h
    · exact absurd h makes_fail
    · split at h
      · exact absurd h makes_fail
      · next hreducer hsubject =>
        rw [makes_bind] at h
        obtain ⟨called, between, hcall, h⟩ := h
        have hfamily : function.family ≠ .lowered :=
          family_ne_lowered (.inl ⟨hquantifier, by simpa using hreducer⟩)
        obtain ⟨hle, hwithin, hfree⟩ := makes_call hfamily (fun hs => absurd hs hsubject)
          (by simp) (Nat.le_refl _) hargs hcall
        obtain ⟨hle', hwithin', hfree'⟩ := makes_chain hcalls hwithin hle h
        exact ⟨by omega, hwithin', by rw [hfree', hfree, Node.freeSlotsOfOption]⟩

theorem lowers_literal (value : Literal) (span : Span) : Lowers (literal value span) := by
  intro scope before after node h
  have leaf (origin : Origin) (value : Value) (hv : value.Is origin.kind) :
      (Node.literal origin value).Within before.slots before.slots :=
    .of_children hv (fun _ hs => nomatch hs) fun _ hc => nomatch hc
  cases value with
  | string text =>
    simp only [literal, makes_bind, makes_origin, makes_pure] at h
    obtain ⟨_, _, ⟨rfl, rfl⟩, rfl, rfl⟩ := h
    exact ⟨Nat.le_refl _, leaf _ _ (Value.is_string text), by rw [Node.freeSlots]⟩
  | number n =>
    simp only [literal, makes_bind, makes_origin, makes_pure] at h
    obtain ⟨_, _, ⟨rfl, rfl⟩, rfl, rfl⟩ := h
    exact ⟨Nat.le_refl _, leaf _ _ (.inl rfl), by rw [Node.freeSlots]⟩
  | boolean b =>
    simp only [literal, makes_bind, makes_origin, makes_pure] at h
    obtain ⟨_, _, ⟨rfl, rfl⟩, rfl, rfl⟩ := h
    exact ⟨Nat.le_refl _, leaf _ _ (Value.is_boolean b), by rw [Node.freeSlots]⟩

theorem lowers_expression {name : String} {span : Span} {calls : List PlannedCall}
    (hcalls : ∀ other ∈ calls, ∀ arg ∈ other.args, Lowers arg.lower) :
    Lowers (expression (.attribute name span) calls) := by
  intro scope before after node h
  simp only [expression, makes_bind, makes_origin] at h
  obtain ⟨_, _, href, _, referenced, ⟨rfl, rfl⟩, h⟩ := h
  have hleaf (origin : Origin) (hk : origin.kind = .string) :
      (Node.attribute origin name).Within before.slots referenced.slots :=
    .of_children hk (fun _ hs => nomatch hs) fun _ hc => nomatch hc
  have href := makes_reference href
  obtain ⟨hle, hwithin, hfree⟩ := makes_chain hcalls (hleaf _ rfl) (by omega) h
  exact ⟨by omega, hwithin, by rw [hfree, Node.freeSlots]⟩

end Lower

/-! The literals of a template. -/

mutual

def Expression.literals : Expression → List Literal
  | .mk subject chain => Subject.literals subject ++ callsLiterals chain

def Subject.literals : Subject → List Literal
  | .attribute _ _ => []
  | .call call => Call.literals call

def callsLiterals : List Call → List Literal
  | [] => []
  | call :: calls => Call.literals call ++ callsLiterals calls

def Call.literals : Call → List Literal
  | .mk _ _ args _ => argumentsLiterals args

def argumentsLiterals : List Argument → List Literal
  | [] => []
  | arg :: args => Argument.literals arg ++ argumentsLiterals args

def Argument.literals : Argument → List Literal
  | .literal value _ => [value]
  | .expression expr _ => Expression.literals expr

end

/-- Text counts as a literal. -/
def Segment.literals : Segment → List Literal
  | .text cs _ => [.string (.ofList cs)]
  | .expression expr _ => expr.literals

namespace Lower

/-- A property of lowering that certain literals have and that expressions have when all arguments
in them do. String literals come with their text. -/
structure KeptFor (Q : Literal → Prop) (P : Option String → Lower Node → Prop) : Prop where
  literal : ∀ (value : Literal) (span : Span), Q value → P value.string? (literal value span)
  attributeExpression : ∀ (name : String) (span : Span) (calls : List PlannedCall),
    (∀ other ∈ calls, ∀ arg ∈ other.args, P arg.text arg.lower) →
      P none (expression (.attribute name span) calls)
  callExpression : ∀ (planned : PlannedCall) (calls : List PlannedCall),
    (∀ arg ∈ planned.args, P arg.text arg.lower) →
      (∀ other ∈ calls, ∀ arg ∈ other.args, P arg.text arg.lower) →
        P none (callExpression planned calls)

/-- A property of lowering that all literals have. -/
abbrev Kept (P : Lower Node → Prop) : Prop := KeptFor (fun _ => True) fun _ => P

theorem lowers_kept : Kept Lowers where
  literal value span _ := lowers_literal value span
  attributeExpression _ _ _ := lowers_expression
  callExpression _ _ := lowers_callExpression

end Lower

section Kept

variable {Q : Literal → Prop} {P : Option String → Lower Node → Prop}

mutual

theorem Lower.KeptFor.expression (kept : Lower.KeptFor Q P) (expr : Expression)
    (h : ∀ value ∈ expr.literals, Q value) : P none expr.lower := by
  cases expr with
  | mk subject chain =>
    rw [Expression.literals, List.forall_mem_append] at h
    rw [Expression.lower]
    have hcalls := kept.calls chain h.2
    cases subject with
    | «attribute» name span => exact kept.attributeExpression name span _ hcalls
    | call planned => exact kept.callExpression _ _ (kept.call planned h.1) hcalls

theorem Lower.KeptFor.call (kept : Lower.KeptFor Q P) (planned : Call)
    (h : ∀ value ∈ planned.literals, Q value) :
    ∀ arg ∈ planned.plan.args, P arg.text arg.lower := by
  cases planned with
  | mk name nameSpan args span => exact kept.arguments args h

theorem Lower.KeptFor.argument (kept : Lower.KeptFor Q P) (arg : Argument)
    (h : ∀ value ∈ arg.literals, Q value) : P arg.plan.text arg.plan.lower := by
  cases arg with
  | literal value span => exact kept.literal value span (h value (by simp [Argument.literals]))
  | expression expr span => exact kept.expression expr h

theorem Lower.KeptFor.calls (kept : Lower.KeptFor Q P) (calls : List Call)
    (h : ∀ value ∈ callsLiterals calls, Q value) :
    ∀ planned ∈ planCalls calls, ∀ arg ∈ planned.args, P arg.text arg.lower := by
  cases calls with
  | nil => simp [planCalls]
  | cons call calls =>
    rw [callsLiterals, List.forall_mem_append] at h
    rw [planCalls, List.forall_mem_cons]
    exact ⟨kept.call call h.1, kept.calls calls h.2⟩

theorem Lower.KeptFor.arguments (kept : Lower.KeptFor Q P) (args : List Argument)
    (h : ∀ value ∈ argumentsLiterals args, Q value) :
    ∀ arg ∈ planArgs args, P arg.text arg.lower := by
  cases args with
  | nil => simp [planArgs]
  | cons arg args =>
    rw [argumentsLiterals, List.forall_mem_append] at h
    rw [planArgs, List.forall_mem_cons]
    exact ⟨kept.argument arg h.1, kept.arguments args h.2⟩

end

/-- A segment is lowered as a literal or as an expression is. -/
theorem Lower.KeptFor.segment (kept : Lower.KeptFor Q P) (segment : Segment)
    (h : ∀ value ∈ segment.literals, Q value) : ∃ text, P text segment.lower := by
  cases segment with
  | text cs span =>
    exact ⟨_, kept.literal (.string (.ofList cs)) span (h _ (by simp [Segment.literals]))⟩
  | expression expr span => exact ⟨none, kept.expression expr h⟩

variable {P : Lower Node → Prop}

theorem Lower.Kept.expression (kept : Lower.Kept P) (expr : Expression) : P expr.lower :=
  Lower.KeptFor.expression kept expr fun _ _ => trivial

theorem Lower.Kept.segment (kept : Lower.Kept P) (segment : Segment) : P segment.lower := by
  obtain ⟨-, h⟩ := Lower.KeptFor.segment kept segment fun _ _ => trivial
  exact h

end Kept

open Lower (Lowers)

namespace Lower

variable {scope : Scope} {before after : Progress}

theorem makes_segments {segments : List Segment} {parts : List Node}
    (h : Makes (segments.mapM Segment.lower) scope before parts after) :
    before.slots ≤ after.slots ∧
      ∀ part ∈ parts, part.Within before.slots after.slots ∧ part.freeSlots = [] := by
  induction segments generalizing before parts with
  | nil =>
    obtain ⟨rfl, rfl⟩ := makes_pure.mp h
    simp
  | cons segment segments ih =>
    simp only [List.mapM_cons, makes_bind, makes_pure] at h
    obtain ⟨part, between, hpart, rest, _, hrest, rfl, rfl⟩ := h
    obtain ⟨hle, hwithin, hfree⟩ := Lower.lowers_kept.segment segment scope _ _ _ hpart
    obtain ⟨hle', hall⟩ := ih hrest
    refine ⟨by omega, fun other ho => ?_⟩
    rcases List.mem_cons.mp ho with rfl | ho
    · exact ⟨hwithin.mono (Nat.le_refl _) hle', hfree⟩
    · exact ⟨(hall other ho).1.mono hle (Nat.le_refl _), (hall other ho).2⟩

end Lower

theorem Template.lowers_lower (template : Template) : Lowers template.lower := by
  intro scope before after node h
  unfold Template.lower at h
  split at h
  · next expr _ => exact Lower.lowers_kept.expression expr scope _ _ _ h
  · simp only [Lower.source, Lower.makes_bind, Lower.makes_read, Lower.makes_origin,
      Lower.makes_pure] at h
    obtain ⟨parts, _, hparts, _, _, ⟨_, _, ⟨rfl, rfl⟩, rfl, rfl⟩, _, _, ⟨rfl, rfl⟩, rfl, rfl⟩ := h
    obtain ⟨hle, hall⟩ := Lower.makes_segments hparts
    refine ⟨hle, .of_children ⟨rfl, fun part hp => (hall part hp).2⟩ (fun _ hs => nomatch hs)
      fun part hp => (hall part hp).1, ?_⟩
    rw [Node.freeSlots, Node.freeSlotsOfList_eq, List.flatMap_eq_nil_iff]
    exact fun part hp => (hall part hp).2

namespace Compiler

/-- A source compiles to what its template lowers to. -/
theorem compile_ok_iff {compiler : Compiler} {source : String} {compiled : Compiled} :
    compiler.compile source = .ok compiled ↔
      compiled.source = source ∧ compiled.formats = compiler.formats ∧
        ∃ template : Template, Template.read source.toList = .ok template ∧
          template.lower.Makes ⟨source.toList, compiler.declared⟩ ⟨0, []⟩ compiled.root
            ⟨compiled.slots, compiled.referenced⟩ := by
  unfold compile
  dsimp only
  cases hread : Template.read source.toList with
  | error error =>
    constructor
    · intro h
      cases h
    · rintro ⟨-, -, _, h, -⟩
      cases h
  | ok template =>
    change (template.lower ⟨source.toList, compiler.declared⟩ ⟨0, []⟩).bind _ = _ ↔ _
    constructor
    · intro h
      cases hlower : template.lower ⟨source.toList, compiler.declared⟩ ⟨0, []⟩ with
      | error error =>
        rw [hlower] at h
        cases h
      | ok result =>
        rw [hlower] at h
        cases h
        exact ⟨rfl, rfl, template, rfl, hlower⟩
    · rintro ⟨rfl, hformats, _, h, hlower⟩
      cases h
      rw [show template.lower ⟨compiled.source.toList, compiler.declared⟩ ⟨0, []⟩ = _ from hlower]
      rw [← hformats]
      rfl

/-- What compiles is well-formed and sees no loop variables from outside. -/
theorem compile_wellFormed {compiler : Compiler} {source : String} {compiled : Compiled}
    (h : compiler.compile source = .ok compiled) :
    compiled.root.WellFormed ∧ compiled.root.freeSlots = [] := by
  obtain ⟨_, _, template, _, hlower⟩ := compile_ok_iff.mp h
  obtain ⟨_, hwithin, hfree⟩ := template.lowers_lower _ _ _ _ hlower
  exact ⟨hwithin.wellFormed, hfree⟩

end Compiler

end AttrExpr
