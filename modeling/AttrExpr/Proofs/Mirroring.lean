import AttrExpr.Proofs.Accounts
import AttrExpr.Proofs.Joining
import AttrExpr.Proofs.Moving
import AttrExpr.Proofs.References
import AttrExpr.Proofs.Simulation

/-! Lowering of a source that is part of a longer one. It makes trees that are alike those of the
source on its own, with the spans and slots further on. -/
set_option autoImplicit false

namespace AttrExpr

/-! Spans that cut no character. -/

theorem Text.byteLength_eq_zero {cs : List Char} (h : byteLength cs = 0) : cs = [] := by
  cases cs with
  | nil => rfl
  | cons c cs =>
    have hpos : 0 < c.utf8Size := Char.utf8Size_pos c
    rw [byteLength_cons] at h
    omega

/-- A number of bytes after which a character of the source ends. -/
def Text.Boundary (source : List Char) (n : Nat) : Prop :=
  ∃ before after, source = before ++ after ∧ byteLength before = n

namespace Span

def Cuts (span : Span) (source : List Char) : Prop :=
  (Text.slice? span.start span.stop source).isSome = true

variable {source : List Char}

theorem cuts_iff (span : Span) : span.Cuts source ↔
    span.start ≤ span.stop ∧ Text.Boundary source span.start ∧
      Text.Boundary source span.stop := by
  unfold Cuts
  rw [Option.isSome_iff_exists]
  simp only [Text.slice?_eq_some_iff]
  constructor
  · rintro ⟨token, before, after, hsource, hstart, hstop⟩
    refine ⟨?_, ⟨before, token ++ after, by rw [hsource, List.append_assoc], hstart.symm⟩,
      before ++ token, after, hsource, hstop.symm⟩
    rw [hstart, hstop, Text.byteLength_append]
    omega
  · rintro ⟨hle, ⟨before, rest, hbefore, hstart⟩, upTo, after, hupTo, hstop⟩
    rcases List.append_eq_append_iff.mp (hbefore.symm.trans hupTo) with
      ⟨token, rfl, hrest⟩ | ⟨token, rfl, hrest⟩
    · exact ⟨token, before, after, by rw [hupTo], hstart.symm, hstop.symm⟩
    · rw [← hstart, ← hstop, Text.byteLength_append] at hle
      obtain rfl : token = [] := Text.byteLength_eq_zero (by omega)
      rw [List.append_nil] at hbefore hstart
      exact ⟨[], upTo, rest, by simpa using hbefore, hstart.symm, by simpa using hstop.symm⟩

theorem Cuts.merge {a b : Span} (ha : a.Cuts source) (hb : b.Cuts source) :
    (a.merge b).Cuts source := by
  rw [cuts_iff] at ha hb ⊢
  refine ⟨?_, ?_, ?_⟩
  · simp only [Span.merge]
    omega
  · rcases min_choice a.start b.start with h | h <;> rw [Span.merge, h]
    · exact ha.2.1
    · exact hb.2.1
  · rcases max_choice a.stop b.stop with h | h <;> rw [Span.merge, h]
    · exact ha.2.2
    · exact hb.2.2

theorem merge_shift (k : Nat) (a b : Span) :
    (a.shift k).merge (b.shift k) = (a.merge b).shift k := by
  simp only [merge, shift, Span.mk.injEq]
  omega

theorem token_shift {span : Span} (h : span.Cuts source) (before after : List Char) :
    (span.shift (Text.byteLength before)).token (before ++ source ++ after) =
      span.token source := by
  obtain ⟨token, htoken⟩ := Option.isSome_iff_exists.mp h
  obtain ⟨first, last, hsource, hstart, hstop⟩ := Text.slice?_eq_some_iff.mp htoken
  have hwhole : Text.slice? (Text.byteLength before + span.start)
      (Text.byteLength before + span.stop) (before ++ source ++ after) = some token := by
    refine Text.slice?_eq_some_iff.mpr ⟨before ++ first, last ++ after, ?_, ?_, ?_⟩
    · simp [hsource]
    · simp [hstart]
    · simp [hstop]
  rw [Span.token, Span.token, slice, slice, shift, htoken, hwhole]

end Span

/-! One tree with its spans mapped in two ways. -/

mutual

theorem Expression.mapSpans_id : ∀ expr : Expression, expr.mapSpans id = expr
  | .mk subject calls => by rw [Expression.mapSpans, subject.mapSpans_id, mapCallSpans_id calls]

theorem Subject.mapSpans_id : ∀ subject : Subject, subject.mapSpans id = subject
  | .attribute _ _ => rfl
  | .call call => by rw [Subject.mapSpans, call.mapSpans_id]

theorem mapCallSpans_id : ∀ calls : List Call, mapCallSpans id calls = calls
  | [] => rfl
  | call :: calls => by rw [mapCallSpans, call.mapSpans_id, mapCallSpans_id calls]

theorem Call.mapSpans_id : ∀ call : Call, call.mapSpans id = call
  | .mk _ _ args _ => by rw [Call.mapSpans, mapArgumentSpans_id args, id, id]

theorem mapArgumentSpans_id : ∀ args : List Argument, mapArgumentSpans id args = args
  | [] => rfl
  | arg :: args => by rw [mapArgumentSpans, arg.mapSpans_id, mapArgumentSpans_id args]

theorem Argument.mapSpans_id : ∀ arg : Argument, arg.mapSpans id = arg
  | .literal _ _ => rfl
  | .expression expr _ => by rw [Argument.mapSpans, expr.mapSpans_id, id]

end

namespace Lower.Simulation

variable {T : String → String → Prop} {R : ∀ {α : Type}, Eval α → Eval α → Prop}
  {slots : Nat → Nat} (sim : Simulation T @R slots) (f g : Span → Span)

mutual

theorem mapped_expression (outer : Span) (expr : Expression)
    (h : ∀ pair ∈ expr.nesting outer, sim.span (f pair.2) (g pair.2)) :
    sim.Carries sim.Alike (expr.mapSpans f).lower (expr.mapSpans g).lower := by
  cases expr with
  | mk subject calls =>
    rw [Expression.nesting] at h
    have hcalls := mapped_calls outer calls fun pair hp => h pair (List.mem_append_right _ hp)
    rw [Expression.mapSpans, Expression.mapSpans, Expression.lower, Expression.lower]
    cases subject with
    | «attribute» name span =>
      exact .attributeExpression name (h (outer, span) (by simp [Subject.nesting])) hcalls
    | call call =>
      exact .callExpression
        (mapped_call outer call fun pair hp => h pair (List.mem_append_left _ hp)) hcalls

theorem mapped_call (outer : Span) (call : Call)
    (h : ∀ pair ∈ call.nesting outer, sim.span (f pair.2) (g pair.2)) :
    sim.CallAlike (call.mapSpans f).plan (call.mapSpans g).plan := by
  cases call with
  | mk name nameSpan args span =>
    rw [Call.nesting] at h
    exact ⟨rfl, h (outer, span) (by simp),
      mapped_arguments span args fun pair hp => h pair (by simp [hp])⟩

theorem mapped_calls (outer : Span) (calls : List Call)
    (h : ∀ pair ∈ callsNesting outer calls, sim.span (f pair.2) (g pair.2)) :
    List.Forall₂ sim.LinkAlike (planCalls (mapCallSpans f calls))
      (planCalls (mapCallSpans g calls)) := by
  cases calls with
  | nil => exact .nil
  | cons call calls =>
    rw [callsNesting] at h
    exact .cons (mapped_call outer call fun pair hp => h pair (List.mem_append_left _ hp)).link
      (mapped_calls outer calls fun pair hp => h pair (List.mem_append_right _ hp))

theorem mapped_argument (outer : Span) (arg : Argument)
    (h : ∀ pair ∈ arg.nesting outer, sim.span (f pair.2) (g pair.2)) :
    sim.ArgAlike (arg.mapSpans f).plan (arg.mapSpans g).plan := by
  cases arg with
  | literal value span =>
    exact ⟨rfl, .literal value (h (outer, span) (by simp [Argument.nesting]))⟩
  | expression expr span =>
    rw [Argument.nesting] at h
    exact ⟨rfl, mapped_expression span expr fun pair hp => h pair (List.mem_cons_of_mem _ hp)⟩

theorem mapped_arguments (outer : Span) (args : List Argument)
    (h : ∀ pair ∈ argumentsNesting outer args, sim.span (f pair.2) (g pair.2)) :
    List.Forall₂ sim.ArgAlike (planArgs (mapArgumentSpans f args))
      (planArgs (mapArgumentSpans g args)) := by
  cases args with
  | nil => exact .nil
  | cons arg args =>
    rw [argumentsNesting] at h
    exact .cons (mapped_argument outer arg fun pair hp => h pair (List.mem_append_left _ hp))
      (mapped_arguments outer args fun pair hp => h pair (List.mem_append_right _ hp))

end

end Lower.Simulation

/-- A source that is lowered as part of a longer one: how many bytes and slots come before it there,
and which attributes are referred to before it. -/
structure Placement where
  part : Scope
  whole : Scope
  bytes : Nat
  slots : Nat
  referenced : List String
  declared : whole.declared = part.declared
  token : ∀ span : Span, span.Cuts part.source →
    (span.shift bytes).token whole.source = span.token part.source

namespace Placement

def shift (place : Placement) (span : Span) : Span := span.shift place.bytes

theorem merge_shift (place : Placement) (a b : Span) :
    (place.shift a).merge (place.shift b) = place.shift (a.merge b) :=
  Span.merge_shift place.bytes a b

/-- The progress on the part, and that on the whole. -/
structure Behind (place : Placement) (progress whole : Progress) : Prop where
  slots : whole.slots = progress.slots + place.slots
  referenced : ∀ name, name ∈ whole.referenced ↔
    name ∈ place.referenced ∨ name ∈ progress.referenced

theorem Behind.reference {place : Placement} {progress whole : Progress} (name : String)
    (h : place.Behind progress whole) :
    place.Behind { progress with referenced := insertName name progress.referenced }
      { whole with referenced := insertName name whole.referenced } := by
  refine ⟨h.slots, fun other => ?_⟩
  rw [mem_insertName, mem_insertName, h.referenced]
  exact or_left_comm

/-- The part and the whole side by side. Nothing is refused in the whole. -/
def simulation (place : Placement) :
    Lower.Simulation Eq (Eval.Moves place.slots) (· + place.slots) where
  left := place.part
  right := place.whole
  declared := place.declared
  behind := place.Behind
  span span other := span.Cuts place.part.source ∧ other = place.shift span
  refused _ := False
  congr := Eval.Moves.loops
  token h := h.2 ▸ (place.token _ h.1).symm
  merge ha hb := ⟨ha.1.merge hb.1, by rw [ha.2, hb.2, place.merge_shift]⟩
  slot h := h.slots
  newSlot h := ⟨by have := h.slots; dsimp only; omega, h.referenced⟩
  noted name h := h.reference name

theorem span_shift (place : Placement) {span : Span} (h : span.Cuts place.part.source) :
    place.simulation.span span (place.shift span) := ⟨h, rfl⟩

/-! What a tree is lowered to, by the form of the tree. -/

variable (place : Placement)

theorem mirrors_segment (outer : Span) (segment : Segment)
    (h : ∀ pair ∈ segment.nesting outer, pair.2.Cuts place.part.source) :
    place.simulation.Carries place.simulation.Alike segment.lower
      (segment.mapSpans place.shift).lower := by
  cases segment with
  | text run span =>
    exact .literal (.string (.ofList run))
      (place.span_shift (h (outer, span) (by simp [Segment.nesting])))
  | expression expr span =>
    rw [Segment.nesting] at h
    have hmapped := place.simulation.mapped_expression id place.shift span expr fun pair hp =>
      place.span_shift (h pair (List.mem_cons_of_mem _ hp))
    rwa [expr.mapSpans_id] at hmapped

theorem mirrors_segments (outer : Span) (segments : List Segment)
    (h : ∀ pair ∈ segments.flatMap (Segment.nesting outer), pair.2.Cuts place.part.source) :
    place.simulation.Carries (List.Forall₂ place.simulation.Alike) (segments.mapM Segment.lower)
      ((segments.map (Segment.mapSpans place.shift)).mapM Segment.lower) := by
  induction segments with
  | nil => exact .pure .nil
  | cons segment segments ih =>
    rw [List.flatMap_cons] at h
    rw [List.map_cons, List.mapM_cons, List.mapM_cons]
    exact (place.mirrors_segment outer segment fun pair hp =>
      h pair (List.mem_append_left _ hp)).bind fun node other hnode =>
        (ih fun pair hp => h pair (List.mem_append_right _ hp)).bind fun nodes others hnodes =>
          .pure (.cons hnode hnodes)

/-- What is made of the segments of the part is made of them in the whole, too. -/
theorem makes_segments {place : Placement} {outer : Span} {segments : List Segment}
    (h : ∀ pair ∈ segments.flatMap (Segment.nesting outer), pair.2.Cuts place.part.source)
    {progress after before : Progress} {parts : List Node} (hbehind : place.Behind progress before)
    (hmakes : Lower.Makes (segments.mapM Segment.lower) place.part progress parts after) :
    ∃ parts' after', Lower.Makes ((segments.map (Segment.mapSpans place.shift)).mapM Segment.lower)
      place.whole before parts' after' ∧ place.Behind after after' ∧
        List.Forall₂ (Node.Moved place.slots) parts parts' :=
  (place.mirrors_segments outer segments h _ _ _ _ hbehind hmakes).resolve_right
    fun ⟨_, _, hrefused⟩ => hrefused

end Placement

end AttrExpr
