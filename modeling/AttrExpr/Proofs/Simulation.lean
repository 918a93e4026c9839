import AttrExpr.Proofs.Alike
import AttrExpr.Proofs.Lowering

/-! Two sources that are lowered side by side. What lowering makes of the one it makes something
alike of in the other, unless it refuses the other for a reason that is allowed for. The steps of
lowering are compared here once; a use of this says what it compares, and how far spans and slots
may differ. -/
set_option autoImplicit false

namespace AttrExpr

theorem forall₂_map_eq {α β γ : Type} {f : α → γ} {g : β → γ} {as : List α} {bs : List β}
    (h : List.Forall₂ (fun a b => g b = f a) as bs) : bs.map g = as.map f := by
  induction h with
  | nil => rfl
  | cons hfirst _ ih => rw [List.map_cons, List.map_cons, hfirst, ih]

theorem forall₂_takeWhile {α β : Type} {r : α → β → Prop} {p : α → Bool} {q : β → Bool}
    (hp : ∀ a b, r a b → q b = p a) {as : List α} {bs : List β} (h : List.Forall₂ r as bs) :
    List.Forall₂ r (as.takeWhile p) (bs.takeWhile q) ∧
      List.Forall₂ r (as.dropWhile p) (bs.dropWhile q) := by
  induction h with
  | nil => exact ⟨.nil, .nil⟩
  | @cons a b as bs hfirst hrest ih =>
    rw [List.takeWhile_cons, List.takeWhile_cons, List.dropWhile_cons, List.dropWhile_cons,
      hp a b hfirst]
    split
    · exact ⟨.cons hfirst ih.1, ih.2⟩
    · exact ⟨.nil, .cons hfirst hrest⟩

namespace Lower

/-- An action fails with an error. -/
def Refuses {α : Type} (x : Lower α) (scope : Scope) (before : Progress) (error : CompileError) :
    Prop :=
  x scope before = .error error

section Refuses

variable {α β : Type} {x : Lower α} {f : α → Lower β} {scope : Scope} {before between : Progress}
  {error : CompileError}

theorem refuses_fail (cause : CompileCause) (span : Span) :
    Refuses (fail cause span : Lower α) scope before (.located cause (.ofSpan scope.source span)) :=
  rfl

theorem Refuses.bind (h : Refuses x scope before error) : Refuses (x >>= f) scope before error := by
  change (x scope before).bind (fun result => f result.1 scope result.2) = _
  rw [show x scope before = .error error from h]
  rfl

theorem Refuses.after {a : α} (hx : Makes x scope before a between)
    (h : Refuses (f a) scope between error) : Refuses (x >>= f) scope before error := by
  change (x scope before).bind (fun result => f result.1 scope result.2) = _
  rw [show x scope before = .ok (a, between) from hx]
  exact h

end Refuses

/-- What two sources have in common, and how their progress, spans and tokens are related. -/
structure Simulation (T : String → String → Prop) (R : ∀ {α : Type}, Eval α → Eval α → Prop)
    (slots : Nat → Nat) where
  left : Scope
  right : Scope
  declared : right.declared = left.declared
  behind : Progress → Progress → Prop
  span : Span → Span → Prop
  refused : CompileError → Prop
  congr : Eval.LoopCongruence T @R slots
  token : ∀ {a b : Span}, span a b → T (a.token left.source) (b.token right.source)
  merge : ∀ {a a' b b' : Span}, span a a' → span b b' → span (a.merge b) (a'.merge b')
  slot : ∀ {progress other : Progress}, behind progress other → other.slots = slots progress.slots
  newSlot : ∀ {progress other : Progress}, behind progress other →
    behind { progress with slots := progress.slots + 1 } { other with slots := other.slots + 1 }
  noted : ∀ {progress other : Progress} (name : String), behind progress other →
    behind { progress with referenced := insertName name progress.referenced }
      { other with referenced := insertName name other.referenced }

namespace Simulation

variable {T : String → String → Prop} {R : ∀ {α : Type}, Eval α → Eval α → Prop}
  {slots : Nat → Nat}

/-- When lowering makes something of the one, it makes something related of the other or refuses
it. -/
def Carries (sim : Simulation T @R slots) {α β : Type} (Q : α → β → Prop) (x : Lower α)
    (y : Lower β) : Prop :=
  ∀ (before before' after : Progress) (a : α), sim.behind before before' →
    x.Makes sim.left before a after →
      (∃ b after', y.Makes sim.right before' b after' ∧ sim.behind after after' ∧ Q a b) ∨
        ∃ error, y.Refuses sim.right before' error ∧ sim.refused error

abbrev Alike (_ : Simulation T @R slots) (node other : Node) : Prop := node.Alike T R slots other

structure ArgAlike (sim : Simulation T @R slots) (arg other : PlannedArg) : Prop where
  text : other.text = arg.text
  lower : sim.Carries sim.Alike arg.lower other.lower

/-- Calls whose arguments are alike one by one. -/
structure CallAlike (sim : Simulation T @R slots) (planned other : PlannedCall) : Prop where
  name : other.name = planned.name
  span : sim.span planned.span other.span
  args : List.Forall₂ sim.ArgAlike planned.args other.args

/-- Calls that make nodes alike of subjects that are alike, and folds that are alike. -/
structure LinkAlike (sim : Simulation T @R slots) (planned other : PlannedCall) : Prop where
  name : other.name = planned.name
  span : sim.span planned.span other.span
  call : ∀ (function : Function) {subject subject' : Option Node},
    Function.ofName? planned.name = some function → Option.Rel sim.Alike subject subject' →
      sim.Carries sim.Alike (Lower.call function subject planned planned.span)
        (Lower.call function subject' other other.span)
  fold : ∀ (function : Function) (all : Bool),
    sim.Carries (fun result other => result.1.Rel sim.Alike other.1 ∧ other.2 = result.2)
      (Lower.reducerFold function all planned) (Lower.reducerFold function all other)

namespace Carries

variable {sim : Simulation T @R slots} {α β γ δ : Type}

protected theorem pure {Q : α → β → Prop} {a : α} {b : β} (h : Q a b) :
    sim.Carries Q (pure a) (pure b) := by
  intro before before' after result hbehind hmakes
  obtain ⟨rfl, rfl⟩ := makes_pure.mp hmakes
  exact .inl ⟨b, before', makes_pure.mpr ⟨rfl, rfl⟩, hbehind, h⟩

theorem fail {Q : α → β → Prop} {cause : CompileCause} {span : Span} {y : Lower β} :
    sim.Carries Q (Lower.fail cause span) y :=
  fun _ _ _ _ _ hmakes => absurd hmakes makes_fail

theorem refuse {Q : α → β → Prop} {x : Lower α} {cause : CompileCause} {span : Span}
    (h : sim.refused (.located cause (.ofSpan sim.right.source span))) :
    sim.Carries Q x (Lower.fail cause span) :=
  fun _ _ _ _ _ _ => .inr ⟨_, refuses_fail cause span, h⟩

theorem bind {P : α → β → Prop} {Q : γ → δ → Prop} {x : Lower α} {y : Lower β}
    {f : α → Lower γ} {g : β → Lower δ} (hx : sim.Carries P x y)
    (hf : ∀ a b, P a b → sim.Carries Q (f a) (g b)) :
    sim.Carries Q (x >>= f) (y >>= g) := by
  intro before before' after c hbehind hmakes
  obtain ⟨a, between, ha, hc⟩ := makes_bind.mp hmakes
  obtain ⟨b, between', hb, hbetween, hp⟩ | ⟨error, herror, hrefused⟩ := hx _ _ _ _ hbehind ha
  · obtain ⟨d, after', hd, hafter, hq⟩ | ⟨error, herror, hrefused⟩ :=
      hf a b hp _ _ _ _ hbetween hc
    · exact .inl ⟨d, after', makes_bind.mpr ⟨b, between', hb, hd⟩, hafter, hq⟩
    · exact .inr ⟨error, .after hb herror, hrefused⟩
  · exact .inr ⟨error, herror.bind, hrefused⟩

theorem map {P : α → β → Prop} {Q : γ → δ → Prop} {x : Lower α} {y : Lower β} {f : α → γ}
    {g : β → δ} (hx : sim.Carries P x y) (hf : ∀ a b, P a b → Q (f a) (g b)) :
    sim.Carries Q (f <$> x) (g <$> y) := by
  rw [← bind_pure_comp, ← bind_pure_comp]
  exact hx.bind fun a b h => .pure (hf a b h)

protected theorem read {Q : α → β → Prop} {f : Scope → Lower α} {g : Scope → Lower β}
    (h : sim.Carries Q (f sim.left) (g sim.right)) :
    sim.Carries Q (read >>= f) (read >>= g) := h

protected theorem modify {change other : Progress → Progress}
    (h : ∀ progress whole, sim.behind progress whole →
      sim.behind (change progress) (other whole)) :
    sim.Carries (fun _ _ => True) (modify change : Lower Unit) (modify other : Lower Unit) := by
  intro before before' after result hbehind hmakes
  obtain rfl := makes_modify.mp hmakes
  exact .inl ⟨(), other before', makes_modify.mpr rfl, h _ _ hbehind, trivial⟩

theorem origin (kind : Kind) {span span' : Span} (h : sim.span span span') :
    sim.Carries (Origin.Alike T) (Lower.origin kind span) (Lower.origin kind span') := by
  intro before before' after result hbehind hmakes
  obtain ⟨rfl, rfl⟩ := makes_origin.mp hmakes
  exact .inl ⟨_, before', makes_origin.mpr ⟨rfl, rfl⟩, hbehind, rfl, sim.token h⟩

theorem newSlot : sim.Carries (fun slot other => other = slots slot) Lower.newSlot
    Lower.newSlot := by
  intro before before' after slot hbehind hmakes
  obtain ⟨rfl, rfl⟩ := makes_newSlot.mp hmakes
  exact .inl ⟨_, _, makes_newSlot.mpr ⟨rfl, rfl⟩, sim.newSlot hbehind, sim.slot hbehind⟩

theorem reference (name : String) (span span' : Span) :
    sim.Carries (fun _ _ => True) (Lower.reference name span) (Lower.reference name span') := by
  let note (progress : Progress) : Progress :=
    { progress with referenced := insertName name progress.referenced }
  have noted : sim.Carries (fun _ _ => True) (modify note : Lower Unit)
      (modify note : Lower Unit) := .modify fun _ _ h => sim.noted name h
  refine .read ?_
  rw [sim.declared]
  split
  · split
    · exact noted
    · exact bind (P := fun _ _ => True) fail fun _ _ _ => noted
  · exact noted

theorem resolve (name : String) (span span' : Span) :
    sim.Carries (fun function other => other = function ∧ Function.ofName? name = some function)
      (Lower.resolve name span) (Lower.resolve name span') := by
  unfold Lower.resolve
  split
  · next function h => exact .pure ⟨rfl, h⟩
  · exact .fail

theorem readPatternAt (whole : Bool) (text : String) (span span' : Span) :
    sim.Carries Eq (Lower.readPatternAt whole text span)
      (Lower.readPatternAt whole text span') := by
  unfold Lower.readPatternAt
  split
  · exact .pure rfl
  · exact .fail

theorem checkArity (function : Function) {planned other : PlannedCall}
    (h : other.args.length = planned.args.length) (span span' : Span) :
    sim.Carries (fun _ _ => True) (Lower.checkArity function planned span)
      (Lower.checkArity function other span') := by
  unfold Lower.checkArity
  rw [h]
  split
  · exact .pure trivial
  · exact .fail

theorem subjectTarget (function : Function) {subject other : Option Node}
    (h : Option.Rel sim.Alike subject other) :
    sim.Carries Eq (Lower.subjectTarget function subject)
      (Lower.subjectTarget function other) := by
  cases h with
  | none => exact .pure rfl
  | some h =>
    unfold Lower.subjectTarget
    dsimp only
    rw [h.kind]
    split
    · exact .pure rfl
    · split
      · exact .pure rfl
      · exact .fail

/-- The arguments that are made, each with the kind that it is turned into. -/
theorem arguments (function : Function) {args others : List PlannedArg}
    (h : List.Forall₂ (fun arg other => sim.Carries sim.Alike arg.lower other.lower) args others)
    (index : Nat) :
    sim.Carries (List.Forall₂ fun entry other => sim.Alike entry.1 other.1 ∧ other.2 = entry.2)
      (Lower.arguments function index args) (Lower.arguments function index others) := by
  induction h generalizing index with
  | nil => exact .pure .nil
  | cons harg _ ih =>
    refine harg.bind fun node other hnode => ?_
    dsimp only
    rw [hnode.kind]
    split
    · exact .fail
    · exact (ih (index + 1)).bind fun rest others hrest => .pure (.cons ⟨hnode, rfl⟩ hrest)

theorem literalPattern (function : Function) {args others : List PlannedArg}
    (h : List.Forall₂ sim.ArgAlike args others) :
    sim.Carries Eq (Lower.literalPattern function args)
      (Lower.literalPattern function others) := by
  unfold Lower.literalPattern
  cases h with
  | nil => cases function.patternWhole? <;> exact .pure rfl
  | @cons arg other args others harg _ =>
    obtain ⟨text, span, lower⟩ := arg
    obtain ⟨text', span', lower'⟩ := other
    obtain rfl : text' = text := harg.text
    cases function.patternWhole? with
    | none => exact .pure rfl
    | some whole =>
      cases text' with
      | none => exact .pure rfl
      | some text =>
        exact (readPatternAt whole text span span').map fun regex other h => congrArg some h

/-- Calls are alike when nodes are alike that are made of arguments and regular expressions which
lowering takes them to have. -/
theorem call_of {function : Function} {subject subject' : Option Node}
    (hsubject : Option.Rel sim.Alike subject subject') {planned planned' : PlannedCall}
    (hlength : planned'.args.length = planned.args.length) {span span' : Span}
    (hspan : sim.span span span')
    (P : List (Node × Option Kind) → List (Node × Option Kind) → Prop)
    (Q : Option Regex → Option Regex → Prop)
    (hargs : sim.Carries P (Lower.arguments function 0 planned.args)
      (Lower.arguments function 0 planned'.args))
    (hpattern : sim.Carries Q (Lower.literalPattern function planned.args)
      (Lower.literalPattern function planned'.args))
    (hkind : ∀ args args', P args args' →
      (args'.head?.map fun arg => arg.1.kind) = args.head?.map fun arg => arg.1.kind)
    (hnode : ∀ origin origin' target args args' pattern pattern', Origin.Alike T origin origin' →
      P args args' → Q pattern pattern' →
      sim.Alike (.call origin function subject target (args.map (·.1)) (args.map (·.2)) pattern)
        (.call origin' function subject' target (args'.map (·.1)) (args'.map (·.2)) pattern')) :
    sim.Carries sim.Alike (Lower.call function subject planned span)
      (Lower.call function subject' planned' span') := by
  refine (checkArity function hlength _ _).bind fun _ _ _ =>
    (subjectTarget function hsubject).bind fun target _ htarget =>
      hargs.bind fun args args' hp => hpattern.bind fun pattern pattern' hq => ?_
  subst htarget
  dsimp only
  rw [hkind args args' hp]
  exact (origin _ hspan).bind fun origin origin' horigin =>
    .pure (hnode origin origin' target args args' pattern pattern' horigin hp hq)

theorem call (function : Function) {subject subject' : Option Node}
    (hsubject : Option.Rel sim.Alike subject subject') {planned planned' : PlannedCall}
    (h : sim.CallAlike planned planned') :
    sim.Carries sim.Alike (Lower.call function subject planned planned.span)
      (Lower.call function subject' planned' planned'.span) := by
  refine call_of hsubject h.args.length_eq.symm h.span _ Eq
    (arguments function (h.args.imp fun _ _ h => h.lower) 0) (literalPattern function h.args)
    (fun args args' hargs => ?_)
    fun origin origin' target args args' pattern pattern' horigin hargs hpattern => ?_
  · cases hargs with
    | nil => rfl
    | cons h _ => exact congrArg some h.1.kind
  · have hnodes : List.Forall₂ sim.Alike (args.map (·.1)) (args'.map (·.1)) := by
      rw [List.forall₂_map_left_iff, List.forall₂_map_right_iff]
      exact hargs.imp fun _ _ h => h.1
    rw [hpattern, forall₂_map_eq (hargs.imp fun _ _ h => h.2)]
    exact .call sim.congr horigin hsubject hnodes function target _ pattern'

theorem chain {calls others : List PlannedCall} (h : List.Forall₂ sim.LinkAlike calls others)
    {node other : Node} (hnode : sim.Alike node other) :
    sim.Carries sim.Alike (Lower.chain node calls) (Lower.chain other others) := by
  induction h generalizing node other with
  | nil => exact .pure hnode
  | @cons planned planned' _ _ hcall _ ih =>
    rw [Lower.chain, Lower.chain, hcall.name]
    refine (resolve planned.name _ _).bind fun _ function hfunction => ?_
    obtain ⟨rfl, hname⟩ := hfunction
    split
    · exact .fail
    · split
      · exact .fail
      · exact (hcall.call function hname (.some hnode)).bind fun called other h => ih h

theorem literalTexts (function : Function) {args others : List PlannedArg}
    (h : List.Forall₂ sim.ArgAlike args others) :
    sim.Carries (List.Forall₂ fun text other => other.1 = text.1)
      (Lower.literalTexts function args) (Lower.literalTexts function others) := by
  induction h with
  | nil => exact .pure .nil
  | cons harg _ ih =>
    unfold Lower.literalTexts
    rw [harg.text]
    split
    · exact .fail
    · exact ih.bind fun rest others hrest => .pure (.cons rfl hrest)

theorem references {texts others : List (String × Span)}
    (h : List.Forall₂ (fun text other => other.1 = text.1) texts others) :
    sim.Carries (fun _ _ => True)
      (forIn texts PUnit.unit fun entry _ => do
        Lower.reference entry.1 entry.2
        pure (.yield PUnit.unit))
      (forIn others PUnit.unit fun entry _ => do
        Lower.reference entry.1 entry.2
        pure (.yield PUnit.unit)) := by
  induction h with
  | nil => exact .pure trivial
  | cons htext _ ih =>
    simp only [List.forIn_cons, bind_assoc, pure_bind]
    rw [htext]
    exact (reference _ _ _).bind fun _ _ _ => ih

theorem patterns {texts others : List (String × Span)}
    (h : List.Forall₂ (fun text other => other.1 = text.1) texts others) :
    sim.Carries Eq (texts.mapM fun entry => Lower.readPatternAt true entry.1 entry.2)
      (others.mapM fun entry => Lower.readPatternAt true entry.1 entry.2) := by
  induction h with
  | nil => exact .pure rfl
  | cons htext _ ih =>
    rw [List.mapM_cons, List.mapM_cons, htext]
    exact (readPatternAt true _ _ _).bind fun regex _ hregex =>
      ih.bind fun rest _ hrest => .pure (by rw [hregex, hrest])

theorem candidateSource (function : Function) (kind : CandidateKind)
    {args others : List PlannedArg} (h : List.Forall₂ sim.ArgAlike args others) :
    sim.Carries (CandidateSource.Rel sim.Alike) (Lower.candidateSource function kind args)
      (Lower.candidateSource function kind others) := by
  cases kind with
  | named =>
    refine (literalTexts function h).bind fun texts others htexts =>
      (references htexts).bind fun _ _ _ => .pure ?_
    rw [forall₂_map_eq htexts]
    exact .named _
  | matching =>
    refine (literalTexts function h).bind fun texts others htexts =>
      (patterns htexts).bind fun patterns _ hpatterns => .pure ?_
    subst hpatterns
    exact .matching patterns
  | delineated =>
    cases h with
    | nil => exact .pure (.named [])
    | cons hvalue h =>
      cases h with
      | nil => exact .pure (.named [])
      | cons hdelimiter h =>
        exact hvalue.lower.bind fun value other hvalue =>
          hdelimiter.lower.bind fun delimiter other hdelimiter =>
            .pure (.delineated hvalue hdelimiter)

theorem predicateFold (function : Function) (all : Bool) {body body' : Node}
    (hbody : sim.Alike body body') (calls others : List PlannedCall) (span span' : Span) :
    sim.Carries (Fold.Rel sim.Alike) (Lower.predicateFold function all body calls span)
      (Lower.predicateFold function all body' others span') := by
  unfold Lower.predicateFold
  rw [hbody.kind]
  split
  · cases all
    · exact .pure .any
    · exact .pure .all
  · exact .fail

/-- Folds are alike when the number of arguments is, and the arguments of a separator. -/
theorem reducerFold_of {planned planned' : PlannedCall} (hname : planned'.name = planned.name)
    (hlength : planned'.args.length = planned.args.length)
    (hjoin : Function.ofName? planned.name = some .join →
      List.Forall₂ sim.ArgAlike planned.args planned'.args) (function : Function) (all : Bool) :
    sim.Carries (fun result other => result.1.Rel sim.Alike other.1 ∧ other.2 = result.2)
      (Lower.reducerFold function all planned) (Lower.reducerFold function all planned') := by
  unfold Lower.reducerFold
  rw [hname]
  refine (resolve planned.name _ _).bind fun _ reducer hreducer => ?_
  obtain ⟨rfl, hreducer⟩ := hreducer
  split
  · exact .fail
  · refine (checkArity _ hlength _ _).bind fun _ _ _ => ?_
    by_cases hj : reducer = .join
    · subst hj
      have hargs := hjoin hreducer
      generalize planned.args = args, planned'.args = args' at hargs
      cases hargs with
      | nil => exact .pure ⟨.count, rfl⟩
      | cons hseparator _ =>
        exact hseparator.lower.bind fun separator other h => .pure ⟨.join h, rfl⟩
    · split
      · exact absurd rfl hj
      · split
        · exact absurd rfl hj
        · exact .pure ⟨.count, rfl⟩

end Carries

theorem CallAlike.link {sim : Simulation T @R slots} {planned planned' : PlannedCall}
    (h : sim.CallAlike planned planned') : sim.LinkAlike planned planned' where
  name := h.name
  span := h.span
  call function _ _ _ hsubject := .call function hsubject h
  fold := .reducerFold_of h.name h.args.length_eq.symm fun _ => h.args

namespace Carries

variable {sim : Simulation T @R slots}

theorem isReducerCall {planned planned' : PlannedCall} (h : sim.LinkAlike planned planned') :
    Lower.isReducerCall planned' = Lower.isReducerCall planned := by
  rw [Lower.isReducerCall, Lower.isReducerCall, h.name]

theorem spanTo {calls others : List PlannedCall} (h : List.Forall₂ sim.LinkAlike calls others)
    {span span' : Span} (hspan : sim.span span span') :
    sim.span (Lower.spanTo span calls) (Lower.spanTo span' others) := by
  have hlast := forall₂_getElem? h (calls.length - 1)
  unfold Lower.spanTo
  rw [List.getLast?_eq_getElem?, List.getLast?_eq_getElem?, ← h.length_eq]
  generalize calls[calls.length - 1]? = last, others[calls.length - 1]? = last' at hlast
  cases hlast with
  | none => exact hspan
  | some h => exact sim.merge hspan h.span

theorem quantifier (function : Function) (kind : CandidateKind) (all : Bool)
    {planned planned' : PlannedCall} (h : sim.CallAlike planned planned')
    {calls others : List PlannedCall} (hcalls : List.Forall₂ sim.LinkAlike calls others) :
    sim.Carries sim.Alike (Lower.quantifier function kind all planned calls)
      (Lower.quantifier function kind all planned' others) := by
  -- calls that are alike have one name, so both chains are cut at the same call
  obtain ⟨hbefore, hafter⟩ := forall₂_takeWhile (p := fun call => !Lower.isReducerCall call)
    (q := fun call => !Lower.isReducerCall call)
    (fun _ _ h => by rw [isReducerCall h]) hcalls
  unfold Lower.quantifier
  dsimp only
  generalize calls.takeWhile _ = body, others.takeWhile _ = body' at hbefore
  generalize calls.dropWhile _ = rest, others.dropWhile _ = rest' at hafter
  refine (checkArity function h.args.length_eq.symm _ _).bind fun _ _ _ =>
    (candidateSource function kind h.args).bind fun source source' hsource =>
      newSlot.bind fun slot _ hslot => (origin .string h.span).bind fun _ _ horigin =>
        (chain hbefore (hslot ▸ .loopVariable sim.congr horigin slot)).bind
          fun node node' hbody => ?_
  subst hslot
  cases hafter with
  | nil =>
    exact (predicateFold function all hbody _ _ _ _).bind fun fold fold' hfold =>
      (origin .boolean (spanTo hbefore h.span)).bind fun _ _ horigin =>
        .pure (.quantifier sim.congr horigin slot hsource hfold hbody)
  | cons hreducer hrest =>
    refine (hreducer.fold function all).bind fun result result' hresult => ?_
    obtain ⟨fold, kind⟩ := result
    obtain ⟨fold', kind'⟩ := result'
    obtain ⟨hfold, rfl⟩ := hresult
    exact (origin kind' (sim.merge h.span hreducer.span)).bind fun _ _ horigin =>
      chain hrest (.quantifier sim.congr horigin slot hsource hfold hbody)

theorem callExpression {planned planned' : PlannedCall} (h : sim.CallAlike planned planned')
    {calls others : List PlannedCall} (hcalls : List.Forall₂ sim.LinkAlike calls others) :
    sim.Carries sim.Alike (Lower.callExpression planned calls)
      (Lower.callExpression planned' others) := by
  unfold Lower.callExpression
  rw [h.name]
  refine (resolve planned.name _ _).bind fun _ function hfunction => ?_
  obtain ⟨rfl, -⟩ := hfunction
  split
  · exact quantifier function _ _ h hcalls
  · split
    · exact .fail
    · split
      · exact .fail
      · exact (call function .none h).bind fun node other hnode => chain hcalls hnode

theorem attributeExpression (name : String) {span span' : Span} (hspan : sim.span span span')
    {calls others : List PlannedCall} (hcalls : List.Forall₂ sim.LinkAlike calls others) :
    sim.Carries sim.Alike (Lower.expression (.attribute name span) calls)
      (Lower.expression (.attribute name span') others) :=
  (reference name _ _).bind fun _ _ _ => (origin .string hspan).bind fun _ _ horigin =>
    chain hcalls (.attribute sim.congr horigin name)

theorem literal (value : Literal) {span span' : Span} (hspan : sim.span span span') :
    sim.Carries sim.Alike (Lower.literal value span) (Lower.literal value span') := by
  cases value <;>
    exact (origin _ hspan).bind fun _ _ horigin => .pure (.literal sim.congr horigin _)

end Carries

end Simulation

end Lower

end AttrExpr
