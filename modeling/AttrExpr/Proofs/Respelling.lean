import AttrExpr.Proofs.Rendering
import AttrExpr.Proofs.Simulation

/-! Trees that differ in their spans only. Lowering carries over from one to the other where the
spans do not matter. -/
set_option autoImplicit false

namespace AttrExpr

namespace Lower.Simulation

variable {T : String → String → Prop} {R : ∀ {α : Type}, Eval α → Eval α → Prop}
  {slots : Nat → Nat} (sim : Simulation T @R slots)

mutual

theorem respelled_expression (hspan : ∀ a b, sim.span a b) (expr other : Expression)
    (h : other.mapSpans unplaced = expr.mapSpans unplaced) :
    sim.Carries sim.Alike expr.lower other.lower := by
  obtain ⟨subject, calls⟩ := expr
  obtain ⟨subject', calls'⟩ := other
  simp only [Expression.mapSpans, Expression.mk.injEq] at h
  exact respelled_subject hspan subject subject' h.1 (respelled_calls hspan calls calls' h.2)
termination_by structural expr

/-- Expressions carry over when their subjects differ in their spans only, and their calls are
alike. -/
theorem respelled_subject (hspan : ∀ a b, sim.span a b) (subject other : Subject)
    (h : other.mapSpans unplaced = subject.mapSpans unplaced) {calls others : List PlannedCall}
    (hcalls : List.Forall₂ sim.LinkAlike calls others) :
    sim.Carries sim.Alike (Lower.expression subject.plan calls)
      (Lower.expression other.plan others) := by
  cases subject with
  | «attribute» name span =>
    cases other with
    | «attribute» name' span' =>
      obtain rfl := (Subject.attribute.inj h).1
      exact .attributeExpression name' (hspan _ _) hcalls
    | call call' => cases h
  | call call =>
    cases other with
    | «attribute» name' span' => cases h
    | call call' =>
      exact .callExpression (respelled_call hspan call call' (Subject.call.inj h)) hcalls
termination_by structural subject

theorem respelled_call (hspan : ∀ a b, sim.span a b) (call other : Call)
    (h : other.mapSpans unplaced = call.mapSpans unplaced) :
    sim.CallAlike call.plan other.plan := by
  obtain ⟨name, nameSpan, args, span⟩ := call
  obtain ⟨name', nameSpan', args', span'⟩ := other
  simp only [Call.mapSpans, Call.mk.injEq] at h
  exact ⟨h.1, hspan _ _, respelled_arguments hspan args args' h.2.2.1⟩
termination_by structural call

theorem respelled_calls (hspan : ∀ a b, sim.span a b) (calls others : List Call)
    (h : mapCallSpans unplaced others = mapCallSpans unplaced calls) :
    List.Forall₂ sim.LinkAlike (planCalls calls) (planCalls others) := by
  cases calls with
  | nil =>
    cases others with
    | nil => exact .nil
    | cons other others => cases h
  | cons call calls =>
    cases others with
    | nil => cases h
    | cons other others =>
      simp only [mapCallSpans, List.cons.injEq] at h
      exact .cons (respelled_call hspan call other h.1).link
        (respelled_calls hspan calls others h.2)
termination_by structural calls

theorem respelled_argument (hspan : ∀ a b, sim.span a b) (arg other : Argument)
    (h : other.mapSpans unplaced = arg.mapSpans unplaced) : sim.ArgAlike arg.plan other.plan := by
  cases arg with
  | literal value span =>
    cases other with
    | literal value' span' =>
      obtain rfl := (Argument.literal.inj h).1
      exact ⟨rfl, .literal value' (hspan _ _)⟩
    | expression expr' span' => cases h
  | expression expr span =>
    cases other with
    | literal value' span' => cases h
    | expression expr' span' =>
      exact ⟨rfl, respelled_expression hspan expr expr' (Argument.expression.inj h).1⟩
termination_by structural arg

theorem respelled_arguments (hspan : ∀ a b, sim.span a b) (args others : List Argument)
    (h : mapArgumentSpans unplaced others = mapArgumentSpans unplaced args) :
    List.Forall₂ sim.ArgAlike (planArgs args) (planArgs others) := by
  cases args with
  | nil =>
    cases others with
    | nil => exact .nil
    | cons other others => cases h
  | cons arg args =>
    cases others with
    | nil => cases h
    | cons other others =>
      simp only [mapArgumentSpans, List.cons.injEq] at h
      exact .cons (respelled_argument hspan arg other h.1)
        (respelled_arguments hspan args others h.2)
termination_by structural args

end

end Lower.Simulation

end AttrExpr
