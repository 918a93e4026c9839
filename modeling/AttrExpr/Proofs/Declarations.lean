import AttrExpr.Proofs.Isolation
import AttrExpr.Proofs.References

/-! Declared attributes. They are asked for only where a name is referred to, so that they filter
the sources that can be compiled and change nothing of what is made of them. -/
set_option autoImplicit false

namespace AttrExpr

namespace Lower

/-- A property that single steps of lowering have and that steps one after the other keep. -/
structure Closed (P : ∀ {α : Type}, Lower α → Prop) : Prop where
  pure : ∀ {α : Type} (a : α), P (pure a : Lower α)
  fail : ∀ {α : Type} (cause : CompileCause) (span : Span), P (fail cause span : Lower α)
  bind : ∀ {α β : Type} {x : Lower α} {f : α → Lower β}, P x → (∀ a, P (f a)) → P (x >>= f)
  source : P source
  newSlot : P newSlot
  reference : ∀ (name : String) (span : Span), P (reference name span)

namespace Closed

variable {P : ∀ {α : Type}, Lower α → Prop} (closed : Closed @P)
include closed

theorem map {α β : Type} {x : Lower α} (f : α → β) (hx : P x) : P (f <$> x) := by
  rw [← bind_pure_comp]
  exact closed.bind hx fun a => closed.pure (f a)

theorem origin (kind : Kind) (span : Span) : P (origin kind span) :=
  closed.bind closed.source fun _ => closed.pure _

theorem resolve (name : String) (span : Span) : P (resolve name span) := by
  unfold Lower.resolve
  split
  · exact closed.pure _
  · exact closed.fail _ _

theorem checkArity (function : Function) (planned : PlannedCall) (span : Span) :
    P (checkArity function planned span) := by
  unfold Lower.checkArity
  split
  · exact closed.pure _
  · exact closed.fail _ _

theorem subjectTarget (function : Function) (subject : Option Node) :
    P (subjectTarget function subject) := by
  unfold Lower.subjectTarget
  split
  · exact closed.pure _
  · split
    · exact closed.pure _
    · split
      · exact closed.pure _
      · exact closed.fail _ _

theorem arguments (function : Function) {args : List PlannedArg}
    (hargs : ∀ arg ∈ args, P arg.lower) (index : Nat) : P (arguments function index args) := by
  induction args generalizing index with
  | nil => exact closed.pure _
  | cons arg args ih =>
    refine closed.bind (hargs arg (by simp)) fun node => ?_
    dsimp only
    split
    · exact closed.fail _ _
    · exact closed.bind (ih (fun other ho => hargs other (by simp [ho])) _) fun rest =>
        closed.pure _

theorem readPatternAt (whole : Bool) (text : String) (span : Span) :
    P (readPatternAt whole text span) := by
  unfold Lower.readPatternAt
  split
  · exact closed.pure _
  · exact closed.fail _ _

theorem literalPattern (function : Function) (args : List PlannedArg) :
    P (literalPattern function args) := by
  unfold Lower.literalPattern
  split
  · exact closed.map some (closed.readPatternAt _ _ _)
  · exact closed.pure _

theorem call (function : Function) (subject : Option Node) {planned : PlannedCall} (span : Span)
    (hargs : ∀ arg ∈ planned.args, P arg.lower) : P (call function subject planned span) :=
  closed.bind (closed.checkArity _ _ _) fun _ => closed.bind (closed.subjectTarget _ _) fun _ =>
    closed.bind (closed.arguments function hargs 0) fun _ =>
      closed.bind (closed.literalPattern _ _) fun _ => closed.bind (closed.origin _ _) fun _ =>
        closed.pure _

theorem chain {calls : List PlannedCall}
    (hcalls : ∀ planned ∈ calls, ∀ arg ∈ planned.args, P arg.lower) (node : Node) :
    P (chain node calls) := by
  induction calls generalizing node with
  | nil => exact closed.pure _
  | cons planned calls ih =>
    refine closed.bind (closed.resolve _ _) fun function => ?_
    split
    · exact closed.fail _ _
    · split
      · exact closed.fail _ _
      · exact closed.bind (closed.call _ _ _ (hcalls planned (by simp))) fun called =>
          ih (fun other ho => hcalls other (by simp [ho])) called

theorem literalTexts (function : Function) (args : List PlannedArg) :
    P (literalTexts function args) := by
  induction args with
  | nil => exact closed.pure _
  | cons arg args ih =>
    unfold Lower.literalTexts
    split
    · exact closed.fail _ _
    · exact closed.bind ih fun rest => closed.pure _

theorem references (texts : List (String × Span)) :
    P (forIn texts PUnit.unit fun entry _ => do
      Lower.reference entry.1 entry.2
      Pure.pure (ForInStep.yield PUnit.unit)) := by
  induction texts with
  | nil => exact closed.pure _
  | cons entry texts ih =>
    simp only [List.forIn_cons, bind_assoc, pure_bind]
    exact closed.bind (closed.reference _ _) fun _ => ih

theorem mapM {α β : Type} {f : α → Lower β} {xs : List α} (h : ∀ x ∈ xs, P (f x)) :
    P (xs.mapM f) := by
  induction xs with
  | nil => exact closed.pure _
  | cons x xs ih =>
    rw [List.mapM_cons]
    exact closed.bind (h x (by simp)) fun _ =>
      closed.bind (ih fun other ho => h other (by simp [ho])) fun _ => closed.pure _

theorem candidateSource (function : Function) (kind : CandidateKind) {args : List PlannedArg}
    (hargs : ∀ arg ∈ args, P arg.lower) : P (candidateSource function kind args) := by
  unfold Lower.candidateSource
  split
  · exact closed.bind (closed.literalTexts _ _) fun texts =>
      closed.bind (closed.references texts) fun _ => closed.pure _
  · exact closed.bind (closed.literalTexts _ _) fun texts =>
      closed.bind (closed.mapM fun _ _ => closed.readPatternAt _ _ _) fun _ => closed.pure _
  · next value delimiter rest =>
    exact closed.bind (hargs value (by simp)) fun _ =>
      closed.bind (hargs delimiter (by simp)) fun _ => closed.pure _
  · exact closed.pure _

theorem predicateFold (function : Function) (all : Bool) (body : Node) (calls : List PlannedCall)
    (subject : Span) : P (predicateFold function all body calls subject) := by
  unfold Lower.predicateFold
  split
  · exact closed.pure _
  · exact closed.fail _ _

theorem reducerFold (function : Function) (all : Bool) {planned : PlannedCall}
    (hargs : ∀ arg ∈ planned.args, P arg.lower) : P (reducerFold function all planned) := by
  refine closed.bind (closed.resolve _ _) fun reducer => ?_
  split
  · exact closed.fail _ _
  · refine closed.bind (closed.checkArity _ _ _) fun _ => ?_
    split
    · next separator rest hplanned =>
      exact closed.bind (hargs separator (by simp [hplanned])) fun _ => closed.pure _
    · exact closed.pure _

theorem quantifier (function : Function) (kind : CandidateKind) (all : Bool)
    {planned : PlannedCall} {calls : List PlannedCall}
    (hargs : ∀ arg ∈ planned.args, P arg.lower)
    (hcalls : ∀ other ∈ calls, ∀ arg ∈ other.args, P arg.lower) :
    P (quantifier function kind all planned calls) := by
  refine closed.bind (closed.checkArity _ _ _) fun _ =>
    closed.bind (closed.candidateSource function kind hargs) fun source =>
      closed.bind closed.newSlot fun slot => closed.bind (closed.origin _ _) fun variableOrigin =>
        closed.bind (closed.chain (fun other ho => hcalls other ?_) _) fun body => ?_
  · exact (List.takeWhile_sublist _).subset ho
  · split
    · exact closed.bind (closed.predicateFold _ _ _ _ _) fun _ =>
        closed.bind (closed.origin _ _) fun _ => closed.pure _
    · next reducer rest hdrop =>
      have hrest (other : PlannedCall) (ho : other ∈ reducer :: rest) : other ∈ calls :=
        (List.dropWhile_sublist _).subset (hdrop ▸ ho)
      exact closed.bind (closed.reducerFold _ _ (hcalls reducer (hrest reducer (by simp))))
        fun fold => closed.bind (closed.origin _ _) fun _ =>
          closed.chain (fun other ho => hcalls other (hrest other (by simp [ho]))) _

theorem callExpression {planned : PlannedCall} {calls : List PlannedCall}
    (hargs : ∀ arg ∈ planned.args, P arg.lower)
    (hcalls : ∀ other ∈ calls, ∀ arg ∈ other.args, P arg.lower) :
    P (callExpression planned calls) := by
  refine closed.bind (closed.resolve _ _) fun function => ?_
  split
  · exact closed.quantifier _ _ _ hargs hcalls
  · split
    · exact closed.fail _ _
    · split
      · exact closed.fail _ _
      · exact closed.bind (closed.call _ _ _ hargs) fun called => closed.chain hcalls called

theorem literal (value : Literal) (span : Span) : P (literal value span) := by
  cases value <;> exact closed.bind (closed.origin _ _) fun _ => closed.pure _

theorem attributeExpression {name : String} {span : Span} {calls : List PlannedCall}
    (hcalls : ∀ other ∈ calls, ∀ arg ∈ other.args, P arg.lower) :
    P (expression (.attribute name span) calls) :=
  closed.bind (closed.reference _ _) fun _ => closed.bind (closed.origin _ _) fun _ =>
    closed.chain hcalls _

theorem kept : Kept P where
  literal value span _ := closed.literal value span
  attributeExpression _ _ _ := closed.attributeExpression
  callExpression _ _ := closed.callExpression

/-- Lowering a template has every closed property. -/
theorem template (template : Template) : P template.lower := by
  unfold Template.lower
  split
  · next expr _ => exact closed.kept.expression expr
  · exact closed.bind (closed.mapM fun segment _ => closed.kept.segment segment) fun _ =>
      closed.bind closed.source fun _ => closed.bind (closed.origin _ _) fun _ => closed.pure _

end Closed

/-- With declared names an action makes what it makes without, when all names that it leaves as
referred to are declared. -/
structure Filtered {α : Type} (x : Lower α) : Prop where
  grows : ∀ {scope before a after}, Makes x scope before a after →
    before.referenced ⊆ after.referenced
  declared : ∀ (source : List Char) {names : List String} {before : Progress},
    before.referenced ⊆ names → ∀ {a after}, Makes x ⟨source, some names⟩ before a after ↔
      Makes x ⟨source, none⟩ before a after ∧ after.referenced ⊆ names

namespace Filtered

/-- An action that neither asks for declared names nor refers to any. -/
theorem silent {α : Type} {x : Lower α}
    (hblind : ∀ source declared, x ⟨source, declared⟩ = x ⟨source, none⟩)
    (hkeeps : ∀ {scope before a after}, Makes x scope before a after →
      after.referenced = before.referenced) : Filtered x := by
  refine ⟨fun h => (hkeeps h).symm ▸ List.Subset.refl _, fun source names before hin a after => ?_⟩
  have hsame : Makes x ⟨source, some names⟩ before a after ↔
      Makes x ⟨source, none⟩ before a after := by
    rw [Makes, hblind, Makes]
  exact hsame.trans (and_iff_left_of_imp fun h => (hkeeps h).symm ▸ hin).symm

theorem reference (name : String) (span : Span) : Filtered (reference name span) := by
  refine ⟨fun h => ?_, fun source names before hin a after => ?_⟩
  · intro other ho
    exact ((reference_adds h).mem other).mpr (.inl ho)
  · have plain : Makes (Lower.reference name span) ⟨source, none⟩ before a after ↔
        after = { before with referenced := insertName name before.referenced } :=
      makes_modify
    rw [plain]
    simp only [Lower.reference, makes_bind, makes_read]
    constructor
    · rintro ⟨_, _, ⟨rfl, rfl⟩, h⟩
      dsimp only at h
      split at h
      · next hname =>
        obtain rfl := makes_modify.mp h
        refine ⟨rfl, fun other ho => ?_⟩
        rcases mem_insertName.mp ho with rfl | ho
        · simpa using hname
        · exact hin ho
      · exact absurd h (by simp)
    · rintro ⟨rfl, hafter⟩
      have hname : name ∈ names := hafter (mem_insertName.mpr (.inl rfl))
      simp [hname]

theorem bind {α β : Type} {x : Lower α} {f : α → Lower β} (hx : Filtered x)
    (hf : ∀ a, Filtered (f a)) : Filtered (x >>= f) := by
  refine ⟨fun h => ?_, fun source names before hin b after => ?_⟩
  · obtain ⟨a, between, hxa, hfa⟩ := makes_bind.mp h
    exact List.Subset.trans (hx.grows hxa) ((hf a).grows hfa)
  · simp only [makes_bind]
    constructor
    · rintro ⟨a, between, hxa, hfa⟩
      obtain ⟨hxa, hbetween⟩ := (hx.declared source hin).mp hxa
      obtain ⟨hfa, hafter⟩ := ((hf a).declared source hbetween).mp hfa
      exact ⟨⟨a, between, hxa, hfa⟩, hafter⟩
    · rintro ⟨⟨a, between, hxa, hfa⟩, hafter⟩
      -- names are only added, so those in between are declared as those at the end are
      have hbetween := List.Subset.trans ((hf a).grows hfa) hafter
      exact ⟨a, between, (hx.declared source hin).mpr ⟨hxa, hbetween⟩,
        ((hf a).declared source hbetween).mpr ⟨hfa, hafter⟩⟩

theorem closed : Closed Filtered where
  pure a := silent (fun _ _ => rfl) fun h => by rw [(makes_pure.mp h).2]
  fail cause span := silent (fun _ _ => rfl) fun h => absurd h makes_fail
  bind hx hf := bind hx hf
  source := silent (fun _ _ => rfl) fun h => by cases h; rfl
  newSlot := silent (fun _ _ => rfl) fun h => by rw [(makes_newSlot.mp h).2]
  reference := reference

end Filtered

end Lower

namespace Compiler

/-- Declaring names only filters: with declared names a source compiles to what it compiles to
without, when it refers to declared names alone, and does not compile otherwise. -/
theorem declaring_filters (formats : Formats) (names : List String) (source : String) :
    let plain : Compiler := ⟨formats, none⟩
    (∀ compiled : Compiled, (plain.declare names).compile source = .ok compiled ↔
      plain.compile source = .ok compiled ∧ ∀ name ∈ compiled.referenced, name ∈ names) ∧
    ∀ checked unchecked : Compiled, (plain.declare names).compile source = .ok checked →
      plain.compile source = .ok unchecked → checked = unchecked := by
  intro plain
  have hiff (compiled : Compiled) : (plain.declare names).compile source = .ok compiled ↔
      plain.compile source = .ok compiled ∧ ∀ name ∈ compiled.referenced, name ∈ names := by
    rw [compile_ok_iff, compile_ok_iff, and_assoc, and_assoc]
    refine and_congr_right fun _ => and_congr_right fun _ => ?_
    rw [← exists_and_right]
    refine exists_congr fun template => ?_
    rw [and_assoc]
    refine and_congr_right fun _ => ?_
    have hfiltered := Lower.Filtered.closed.template template
    exact hfiltered.declared source.toList (List.nil_subset names)
  refine ⟨hiff, fun checked unchecked hchecked hunchecked => ?_⟩
  exact Except.ok.inj (((hiff checked).mp hchecked).1.symm.trans hunchecked)

open Compiled (anyAboveOne compile_anyAboveOne) in
/-- A source that refers to `a` and `b`, with enough names declared and with too few. -/
theorem declaring_filters_anyAboveOne :
    standard.compile anyAboveOne.source = .ok anyAboveOne ∧
      (standard.declare ["c", "b", "a"]).compile anyAboveOne.source = .ok anyAboveOne ∧
      ¬ ∃ compiled, (standard.declare ["c", "b"]).compile anyAboveOne.source = .ok compiled := by
  obtain ⟨henough, hsame⟩ := declaring_filters .standard ["c", "b", "a"] anyAboveOne.source
  obtain ⟨hfew, -⟩ := declaring_filters .standard ["c", "b"] anyAboveOne.source
  have hdeclared := (henough anyAboveOne).mpr ⟨compile_anyAboveOne, by decide⟩
  refine ⟨compile_anyAboveOne, hdeclared, ?_⟩
  rintro ⟨compiled, hcompiled⟩
  obtain ⟨hplain, hnames⟩ := (hfew compiled).mp hcompiled
  obtain rfl := hsame anyAboveOne compiled hdeclared hplain
  exact absurd (hnames "a" (by decide)) (by decide)

end Compiler

end AttrExpr
