import AttrExpr.Proofs.Composing
import AttrExpr.Proofs.Mirroring

/-! A text that stands in two sources. What lowering makes of it in the one, it makes in the other,
with the same tokens. -/
set_option autoImplicit false

namespace AttrExpr

/-- A text that stands in two sources. -/
structure Window where
  left : Scope
  right : Scope
  declared : right.declared = left.declared
  text : List Char
  before : List Char
  after : List Char
  before' : List Char
  after' : List Char
  left_eq : left.source = before ++ text ++ after
  right_eq : right.source = before' ++ text ++ after'

theorem Span.shift_zero : Span.shift 0 = id := by
  funext span
  simp [Span.shift]

/-! Spans within a text that spells something on its own. -/

theorem Span.covers_text {text : List Char} {s t : Rest} (hs : (Rest.mk 0 text).Reaches s)
    (hinner : s.Reaches t) (ht : t.Reaches ⟨Text.byteLength text, []⟩) :
    (Span.mk 0 (Text.byteLength text)).Covers text s t :=
  ⟨hs, hinner, Nat.zero_le _, ht.offset_le⟩

theorem Argument.SpelledBy.cuts {arg : Argument} {text : List Char} (h : arg.SpelledBy text) :
    ∀ pair ∈ arg.nesting ⟨0, Text.byteLength text⟩, pair.2.Cuts text := by
  obtain ⟨first, last, hbefore, harg, hafter⟩ := h
  intro pair hpair
  exact (harg.nested _ (Span.covers_text hbefore.reaches harg.reaches hafter.reaches) pair
    hpair).cuts

theorem Expression.EmbeddedBy.cuts {expr : Expression} {text : List Char}
    (h : expr.EmbeddedBy text) :
    ∀ pair ∈ expr.nesting ⟨0, Text.byteLength text⟩, pair.2.Cuts text := by
  intro pair hpair
  exact (EmbeddedSpelled.nested h _
    (Span.covers_text (.refl _) (EmbeddedSpelled.reaches h) (.refl _)) pair hpair).cuts

namespace Window

variable {T : String → String → Prop} {R : ∀ {α : Type}, Eval α → Eval α → Prop}
  {slots : Nat → Nat}

/-- The text in the one source and in the other. Nothing is refused in the second, where more slots
were handed out before, or fewer. -/
def simulation (window : Window) (congr : Eval.LoopCongruence T @R slots)
    (hT : ∀ token, T token token) (fewer more : Nat)
    (hslots : ∀ m n, m + more = n + fewer → n = slots m) : Lower.Simulation T @R slots where
  left := window.left
  right := window.right
  declared := window.declared
  behind progress other := progress.slots + more = other.slots + fewer
  span a b := ∃ span : Span, span.Cuts window.text ∧
    a = span.shift (Text.byteLength window.before) ∧
    b = span.shift (Text.byteLength window.before')
  refused _ := False
  congr := congr
  token := by
    rintro _ _ ⟨span, hcuts, rfl, rfl⟩
    rw [window.left_eq, window.right_eq, Span.token_shift hcuts, Span.token_shift hcuts]
    exact hT _
  merge := by
    rintro _ _ _ _ ⟨a, ha, rfl, rfl⟩ ⟨b, hb, rfl, rfl⟩
    exact ⟨a.merge b, ha.merge hb, Span.merge_shift _ a b, Span.merge_shift _ a b⟩
  slot h := hslots _ _ h
  newSlot h := by
    dsimp only
    omega
  noted _ h := h

variable (window : Window) (congr : Eval.LoopCongruence T @R slots)
  (hT : ∀ token, T token token) (fewer more : Nat)
  (hslots : ∀ m n, m + more = n + fewer → n = slots m)

theorem span_shift {span : Span} (h : span.Cuts window.text) :
    (window.simulation congr hT fewer more hslots).span
      (span.shift (Text.byteLength window.before))
      (span.shift (Text.byteLength window.before')) := ⟨span, h, rfl, rfl⟩

theorem argument {arg : Argument} (h : arg.SpelledBy window.text) :
    (window.simulation congr hT fewer more hslots).ArgAlike
      (arg.mapSpans (Span.shift (Text.byteLength window.before))).plan
      (arg.mapSpans (Span.shift (Text.byteLength window.before'))).plan :=
  Lower.Simulation.mapped_argument _ _ _ _ arg fun pair hp =>
    window.span_shift congr hT fewer more hslots (h.cuts pair hp)

/-- A source as a part of another. -/
def inside (left right : Scope) (declared : right.declared = left.declared)
    (before' after' : List Char) (right_eq : right.source = before' ++ left.source ++ after') :
    Window where
  left := left
  right := right
  declared := declared
  text := left.source
  before := []
  after := []
  before' := before'
  after' := after'
  left_eq := by simp
  right_eq := right_eq

/-- What is made of a source that is one expression. -/
theorem inside_lower {left right : Scope} (declared : right.declared = left.declared)
    {before' after' : List Char} (right_eq : right.source = before' ++ left.source ++ after')
    {expr : Expression} (h : expr.EmbeddedBy left.source) :
    let sim := (inside left right declared before' after' right_eq).simulation congr hT fewer more
      hslots
    sim.Carries sim.Alike expr.lower
      (expr.mapSpans (Span.shift (Text.byteLength before'))).lower := by
  intro sim
  have hmapped := sim.mapped_expression (Span.shift 0)
    (Span.shift (Text.byteLength before')) ⟨0, Text.byteLength left.source⟩ expr fun pair hp =>
      ⟨pair.2, h.cuts pair hp, rfl, rfl⟩
  rwa [Span.shift_zero, expr.mapSpans_id] at hmapped

end Window

end AttrExpr
