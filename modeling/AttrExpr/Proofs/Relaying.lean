import AttrExpr.Proofs.Moving
import AttrExpr.Proofs.Negation

/-! An argument as a source on its own, inside `literal`. Wherever else the argument stands in a
source, it compiles if that source does and gives what that gives. -/
set_option autoImplicit false

namespace AttrExpr

/-- The source that gives an argument as it is. -/
def relaying (text : String) : String := "$\x7bliteral(" ++ text ++ ")\x7d"

/-- An argument with a text in front of its own. -/
def Argument.behind (arg : Argument) (before : List Char) : Argument :=
  arg.mapSpans (Span.shift (Text.byteLength before))

/-- A node gives what a source gives, after what was evaluated before it. -/
def Node.Repeats (node : Node) (compiled : Compiled) : Prop :=
  ∀ (env : Environment) (state : State), state.Unbound →
    node.eval env state = ((compiled.root.eval env .fresh).1,
      state.onto (compiled.root.eval env .fresh).2)

/-- A tree that is like that of a source, in slots further on, gives what that gives. -/
theorem Node.Alike.repeats {compiler : Compiler} {source : String} {compiled : Compiled}
    (h : compiler.compile source = .ok compiled) {value node : Node}
    (hvalue : compiled.root.eval = value.eval) {d : Nat} (halike : value.Moved d node) :
    node.Repeats compiled := by
  intro env state hstate
  have hfresh : node.eval env .fresh = compiled.root.eval env .fresh := by
    have hafter := compiled.root.eval_unbound env .fresh State.unbound_fresh
    rw [hvalue] at hafter ⊢
    rcases halike.eval env .fresh with ⟨error, he, hinternal⟩ | hmoved
    · -- a source breaks no invariant
      have hroot : (compiled.eval env .fresh).1 = .error error := by
        rw [Compiled.eval_eq_root h, Eval.map_apply, hvalue, he]
        rfl
      rw [Compiled.isInternal_eq_false (Compiled.eval_error h hroot)] at hinternal
      cases hinternal
    · rwa [State.unbound_fresh.moved, hafter.moved] at hmoved
  have honto := node.eval_accumulates env state .fresh
  rwa [State.onto_fresh state hstate, hfresh] at honto

namespace Argument.SpelledBy

variable {arg : Argument} {text : String}

theorem relaying (h : arg.SpelledBy text.toList) :
    ∃ nameSpan span, (Expression.mk (.call (.mk "literal" nameSpan
      [arg.mapSpans (Span.shift 10)] span)) []).EmbeddedBy (relaying text).toList := by
  have hcall := Call.spelled_named .literal (.refl _) (h.alone 9 ['\x7d'])
  have htext : (AttrExpr.relaying text).toList = '$' :: '\x7b' ::
      (Function.literal.name.toList ++ '(' :: (text.toList ++ ')' :: ['\x7d'])) := by
    simp [AttrExpr.relaying, Function.name]
  exact ⟨_, _, .of_spelled (htext ▸ EmbeddedSpelled.around (.mk (.call hcall) .nil)) rfl⟩

theorem compile_relaying (h : arg.SpelledBy text.toList) (compiler : Compiler) :
    ∃ span, ∀ compiled, compiler.compile (AttrExpr.relaying text) = .ok compiled ↔
      compiled.source = AttrExpr.relaying text ∧ compiled.formats = compiler.formats ∧
        ∃ value, Lower.Makes (arg.mapSpans (Span.shift 10)).plan.lower
            ⟨(AttrExpr.relaying text).toList, compiler.declared⟩ ⟨0, []⟩ value
            ⟨compiled.slots, compiled.referenced⟩ ∧
          compiled.root =
            .relayed ⟨value.kind, span.token (AttrExpr.relaying text).toList, span⟩ value := by
  obtain ⟨nameSpan, span, hwhole⟩ := h.relaying
  refine ⟨span, fun compiled => ?_⟩
  rw [Compiler.compile_embedded_iff hwhole]
  simp only [Expression.lower, Subject.plan, Lower.expression, Call.plan, planCalls, planArgs]
  rw [Lower.callExpression_literal _ rfl]
  simp only [Lower.chain, bind_pure, Lower.makes_literalCall]

end Argument.SpelledBy

/-- A text in a source, as a window between the source of that alone and the other. -/
def Window.relayed (text : String) (declared : Option (List String))
    (before after : List Char) : Window where
  left := ⟨(relaying text).toList, declared⟩
  right := ⟨before ++ text.toList ++ after, declared⟩
  declared := rfl
  text := text.toList
  before := "$\x7bliteral(".toList
  after := ")\x7d".toList
  before' := before
  after' := after
  left_eq := by simp [relaying]
  right_eq := rfl

/-- The same window the other way around. -/
def Window.reversed (window : Window) : Window where
  left := window.right
  right := window.left
  declared := window.declared.symm
  text := window.text
  before := window.before'
  after := window.after'
  before' := window.before
  after' := window.after
  left_eq := window.right_eq
  right_eq := window.left_eq

namespace Argument.SpelledBy

variable {arg : Argument} {text : String} (h : arg.SpelledBy text.toList) {compiler : Compiler}
  {source before : List Char} (hsource : before ++ text.toList <+: source) (progress : Progress)

include h hsource

/-- An argument of a source compiles if it does on its own, and gives the same. -/
theorem makes_of_relaying {compiled : Compiled}
    (hcompiled : compiler.compile (AttrExpr.relaying text) = .ok compiled) :
    ∃ node final, Lower.Makes (arg.behind before).plan.lower
      ⟨source, compiler.declared⟩ progress node final ∧ node.Repeats compiled := by
  obtain ⟨span, hcompile⟩ := h.compile_relaying compiler
  obtain ⟨-, -, value, hmakes, hroot⟩ := (hcompile compiled).mp hcompiled
  obtain ⟨after, rfl⟩ := hsource
  obtain ⟨node, final, hnode, -, halike⟩ | ⟨_, -, hrefused⟩ :=
    ((Window.relayed text compiler.declared before after).argument
      (Eval.Moves.loops (d := progress.slots)) (fun _ => rfl) 0 progress.slots
      (fun _ _ h => h.symm) h).lower ⟨0, []⟩ progress _ value (Nat.zero_add _) hmakes
  · exact ⟨node, final, hnode, halike.repeats hcompiled (hroot ▸ Node.eval_relayed _ _)⟩
  · exact hrefused.elim

/-- What is made of an argument of a source is also made of it on its own. -/
theorem relaying_of_makes {node : Node} {final : Progress}
    (hmakes : Lower.Makes (arg.behind before).plan.lower
      ⟨source, compiler.declared⟩ progress node final) :
    ∃ compiled, compiler.compile (AttrExpr.relaying text) = .ok compiled ∧
      node.Repeats compiled := by
  obtain ⟨span, hcompile⟩ := h.compile_relaying compiler
  obtain ⟨after, rfl⟩ := hsource
  -- only the form of the tree is carried over here; its values follow from the other direction
  obtain ⟨value, last, hvalue, -, -⟩ | ⟨_, -, hrefused⟩ :=
    ((Window.relayed text compiler.declared before after).reversed.argument
      (Eval.LoopCongruence.trivial (· - progress.slots)) (fun _ => .intro) progress.slots 0
      (fun _ _ h => by omega) h).lower progress ⟨0, []⟩ final node (Nat.zero_add _).symm hmakes
  · let compiled : Compiled := ⟨AttrExpr.relaying text,
      .relayed ⟨value.kind, span.token (AttrExpr.relaying text).toList, span⟩ value,
      compiler.formats, last.slots, last.referenced⟩
    have hcompiled := (hcompile compiled).mpr ⟨rfl, rfl, value, hvalue, rfl⟩
    obtain ⟨other, _, hother, hrepeats⟩ := h.makes_of_relaying ⟨after, rfl⟩ progress hcompiled
    obtain ⟨rfl, -⟩ := (Lower.makes_iff hmakes).mp hother
    exact ⟨compiled, hcompiled, hrepeats⟩
  · exact hrefused.elim

end Argument.SpelledBy

end AttrExpr
