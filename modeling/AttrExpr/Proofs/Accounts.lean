import Mathlib.Data.List.Chain
import AttrExpr.Proofs.Reading

/-! The tree of a template accounts for its whole source: the segments lie side by side from one end
to the other, and every span in the tree covers a token inside the token of its parent. -/
set_option autoImplicit false

namespace AttrExpr

/-! Pairs of a span and one right below it. The spans of a chain lie below that of the segment or
argument that has the expression. -/

mutual

def Expression.nesting (outer : Span) : Expression → List (Span × Span)
  | .mk subject chain => subject.nesting outer ++ callsNesting outer chain

def Subject.nesting (outer : Span) : Subject → List (Span × Span)
  | .attribute _ span => [(outer, span)]
  | .call call => call.nesting outer

def callsNesting (outer : Span) : List Call → List (Span × Span)
  | [] => []
  | call :: calls => call.nesting outer ++ callsNesting outer calls

def Call.nesting (outer : Span) : Call → List (Span × Span)
  | .mk _ nameSpan args span => (outer, span) :: (span, nameSpan) :: argumentsNesting span args

def argumentsNesting (outer : Span) : List Argument → List (Span × Span)
  | [] => []
  | arg :: args => arg.nesting outer ++ argumentsNesting outer args

def Argument.nesting (outer : Span) : Argument → List (Span × Span)
  | .literal _ span => [(outer, span)]
  | .expression expr span => (outer, span) :: expr.nesting span

end

def Segment.nesting (outer : Span) : Segment → List (Span × Span)
  | .text _ span => [(outer, span)]
  | .expression expr span => (outer, span) :: expr.nesting span

def Template.nesting (template : Template) (outer : Span) : List (Span × Span) :=
  template.segments.flatMap (Segment.nesting outer)

/-- Stretches that follow one another from `start` to `stop`, none of them empty. -/
def Tiles : Nat → List Span → Nat → Prop
  | start, [], stop => start = stop
  | start, span :: spans, stop =>
    span.start = start ∧ span.start < span.stop ∧ Tiles span.stop spans stop

theorem Tiles.le {spans : List Span} {start stop : Nat} (h : Tiles start spans stop) :
    start ≤ stop := by
  induction spans generalizing start with
  | nil => exact Nat.le_of_eq h
  | cons span spans ih =>
    obtain ⟨rfl, hlt, hrest⟩ := h
    exact Nat.le_trans (Nat.le_of_lt hlt) (ih hrest)

/-- Text with each two dollar signs, from the left, made one. -/
def collapse : List Char → List Char
  | '$' :: '$' :: cs => '$' :: collapse cs
  | c :: cs => c :: collapse cs
  | [] => []

/-- A span that cuts no character of the source and lies in another. -/
structure Span.Nested (source : List Char) (outer inner : Span) : Prop where
  start_le : outer.start ≤ inner.start
  stop_le : inner.stop ≤ outer.stop
  cuts : (Text.slice? inner.start inner.stop source).isSome = true

theorem Text.slice?_eq_some_iff {start stop : Nat} {source token : List Char} :
    slice? start stop source = some token ↔
      ∃ before after, source = before ++ token ++ after ∧ start = byteLength before ∧
        stop = byteLength (before ++ token) := by
  constructor
  · intro h
    unfold slice? at h
    split at h
    · next hle =>
      obtain ⟨⟨before, rest⟩, hbefore, h⟩ := Option.bind_eq_some_iff.mp h
      obtain ⟨⟨inside, after⟩, hinside, h⟩ := Option.bind_eq_some_iff.mp h
      cases h
      obtain ⟨rfl, rfl⟩ := splitBytes?_sound _ _ _ _ hbefore
      obtain ⟨rfl, hlength⟩ := splitBytes?_sound _ _ _ _ hinside
      refine ⟨before, after, by rw [List.append_assoc], rfl, ?_⟩
      rw [byteLength_append, hlength]
      omega
    · cases h
  · rintro ⟨before, after, rfl, rfl, rfl⟩
    rw [slice?, byteLength_append, if_pos (Nat.le_add_right _ _), Nat.add_sub_cancel_left,
      List.append_assoc, splitBytes?_append]
    simp [splitBytes?_append]

namespace Rest

variable {source : List Char} {s t : Rest}

/-- What lies between two places of a source is what the span between them covers. -/
theorem Reaches.slice? (h : (Rest.mk 0 source).Reaches s) {token : List Char}
    (hpasses : s.Passes token t) : Text.slice? s.offset t.offset source = some token := by
  obtain ⟨before, hchars, hoffset⟩ := h
  have hstart : s.offset = Text.byteLength before := by simpa using hoffset
  refine Text.slice?_eq_some_iff.mpr ⟨before, t.chars, ?_, hstart, ?_⟩
  · rw [List.append_assoc, ← hpasses.1]
    exact hchars
  · rw [hpasses.2, hstart, Text.byteLength_append]

end Rest

/-- The end of a source is further on than each of its places. -/
theorem Rest.Reaches.to_end {s t u : Rest} (h : s.Reaches t) (hend : t.chars = [])
    (hu : s.Reaches u) : u.Reaches t := by
  obtain ⟨all, hall⟩ := h
  obtain ⟨token, htoken⟩ := hu
  have hchars : all = token ++ u.chars := by
    rw [← htoken.1, hall.1, hend, List.append_nil]
  refine ⟨u.chars, by rw [hend, List.append_nil], ?_⟩
  rw [hall.2, htoken.2, hchars, Text.byteLength_append, Nat.add_assoc]

/-! Spans. -/

/-- Two places of a source, one not before the other, within a span. -/
structure Span.Covers (outer : Span) (source : List Char) (s t : Rest) : Prop where
  source : (Rest.mk 0 source).Reaches s
  reaches : s.Reaches t
  start_le : outer.start ≤ s.offset
  stop_le : t.offset ≤ outer.stop

namespace Span.Covers

variable {outer : Span} {source : List Char} {s s' t' t : Rest}

theorem within (h : outer.Covers source s t) (hs : s.Reaches s') (hinner : s'.Reaches t')
    (ht : t'.Reaches t) : outer.Covers source s' t' where
  source := h.source.trans hs
  reaches := hinner
  start_le := Nat.le_trans h.start_le hs.offset_le
  stop_le := Nat.le_trans ht.offset_le h.stop_le

theorem self (h : outer.Covers source s t) : (s.upTo t).Covers source s t :=
  ⟨h.source, h.reaches, Nat.le_refl _, Nat.le_refl _⟩

theorem nested (h : outer.Covers source s t) : outer.Nested source (s.upTo t) := by
  refine ⟨h.start_le, h.stop_le, ?_⟩
  obtain ⟨token, hpasses⟩ := h.reaches
  simp [Rest.upTo, h.source.slice? hpasses]

end Span.Covers

open Rest (Reaches)

mutual

theorem Expression.Spelled.nested {source : List Char} {expr : Expression} {s t : Rest} :
    expr.Spelled s t → ∀ outer : Span, outer.Covers source s t →
      ∀ pair ∈ expr.nesting outer, pair.1.Nested source pair.2
  | .mk hsubject hchain => by
    intro outer h pair hpair
    rw [Expression.nesting, List.mem_append] at hpair
    rcases hpair with hpair | hpair
    · exact hsubject.nested outer (h.within (.refl _) hsubject.reaches hchain.reaches) pair hpair
    · exact hchain.nested outer (h.within hsubject.reaches hchain.reaches (.refl _)) pair hpair

theorem Subject.Spelled.nested {source : List Char} {subject : Subject} {s t : Rest} :
    subject.Spelled s t → ∀ outer : Span, outer.Covers source s t →
      ∀ pair ∈ subject.nesting outer, pair.1.Nested source pair.2
  | .bare _ _ _ => by
    intro outer h pair hpair
    obtain rfl := List.mem_singleton.mp hpair
    exact h.nested
  | .quoted _ _ => by
    intro outer h pair hpair
    obtain rfl := List.mem_singleton.mp hpair
    exact h.nested
  | .call hcall => hcall.nested

theorem ChainSpelled.nested {source : List Char} {calls : List Call} {s t : Rest} :
    ChainSpelled calls s t → ∀ outer : Span, outer.Covers source s t →
      ∀ pair ∈ callsNesting outer calls, pair.1.Nested source pair.2
  | .nil => by
    intro outer _ pair hpair
    cases hpair
  | .cons hbefore hcolon hafter hcall hcalls => by
    intro outer h pair hpair
    have hfirst := hbefore.reaches.trans (hcolon.reaches.trans hafter.reaches)
    rw [callsNesting, List.mem_append] at hpair
    rcases hpair with hpair | hpair
    · exact hcall.nested outer (h.within hfirst hcall.reaches hcalls.reaches) pair hpair
    · exact hcalls.nested outer
        (h.within (hfirst.trans hcall.reaches) hcalls.reaches (.refl _)) pair hpair

theorem Call.Spelled.nested {source : List Char} {call : Call} {s t : Rest} :
    call.Spelled s t → ∀ outer : Span, outer.Covers source s t →
      ∀ pair ∈ call.nesting outer, pair.1.Nested source pair.2
  | .mk _ _ hpasses hafter hargs => by
    intro outer h pair hpair
    rw [Call.nesting, List.mem_cons, List.mem_cons] at hpair
    rcases hpair with rfl | rfl | hpair
    · exact h.nested
    · exact (h.self.within (.refl _) hpasses.reaches
        (hafter.reaches.trans hargs.reaches)).nested
    · exact hargs.nested _ (h.self.within (hpasses.reaches.trans hafter.reaches) hargs.reaches
        (.refl _)) pair hpair

theorem ArgumentsSpelled.nested {source : List Char} {args : List Argument} {s t : Rest} :
    ArgumentsSpelled args s t → ∀ outer : Span, outer.Covers source s t →
      ∀ pair ∈ argumentsNesting outer args, pair.1.Nested source pair.2
  | .none _ _ _ => by
    intro outer _ pair hpair
    cases hpair
  | .some hopening hskips harg hargs => by
    intro outer h pair hpair
    have hfirst := hopening.reaches.trans hskips.reaches
    rw [argumentsNesting, List.mem_append] at hpair
    rcases hpair with hpair | hpair
    · exact harg.nested outer (h.within hfirst harg.reaches hargs.reaches) pair hpair
    · exact hargs.nested outer
        (h.within (hfirst.trans harg.reaches) hargs.reaches (.refl _)) pair hpair

theorem MoreArgumentsSpelled.nested {source : List Char} {args : List Argument} {s t : Rest} :
    MoreArgumentsSpelled args s t → ∀ outer : Span, outer.Covers source s t →
      ∀ pair ∈ argumentsNesting outer args, pair.1.Nested source pair.2
  | .nil _ _ => by
    intro outer _ pair hpair
    cases hpair
  | .cons hbefore hcomma hafter harg hargs => by
    intro outer h pair hpair
    have hfirst := hbefore.reaches.trans (hcomma.reaches.trans hafter.reaches)
    rw [argumentsNesting, List.mem_append] at hpair
    rcases hpair with hpair | hpair
    · exact harg.nested outer (h.within hfirst harg.reaches hargs.reaches) pair hpair
    · exact hargs.nested outer
        (h.within (hfirst.trans harg.reaches) hargs.reaches (.refl _)) pair hpair

theorem Argument.Spelled.nested {source : List Char} {arg : Argument} {s t : Rest} :
    arg.Spelled s t → ∀ outer : Span, outer.Covers source s t →
      ∀ pair ∈ arg.nesting outer, pair.1.Nested source pair.2
  | .literal _ _ => by
    intro outer h pair hpair
    obtain rfl := List.mem_singleton.mp hpair
    exact h.nested
  | .expression hexpr => by
    intro outer h pair hpair
    rw [Argument.nesting, List.mem_cons] at hpair
    rcases hpair with rfl | hpair
    · exact h.nested
    · exact hexpr.nested _ h.self pair hpair

theorem EmbeddedSpelled.nested {source : List Char} {expr : Expression} {s t : Rest} :
    EmbeddedSpelled expr s t → ∀ outer : Span, outer.Covers source s t →
      ∀ pair ∈ expr.nesting outer, pair.1.Nested source pair.2
  | .mk hopening hafter hexpr hbefore hclosing => fun outer h =>
    hexpr.nested outer (h.within (hopening.reaches.trans hafter.reaches) hexpr.reaches
      (hbefore.reaches.trans hclosing.reaches))

end

/-! Segments. -/

theorem TextSpelled.collapse_eq {following token text : List Char}
    (h : TextSpelled following token text) : text = collapse token := by
  induction h with
  | nil => rfl
  | pair _ ih => rw [ih, collapse]
  | @dollar token text hnext _ ih =>
    have hpair (cs : List Char) : token = '$' :: cs → False := by
      rintro rfl
      exact (hnext '$' rfl).1 rfl
    rw [ih, collapse.eq_2 _ _ fun cs _ => hpair cs]
  | @plain c token text hc _ ih =>
    rw [ih, collapse.eq_2 _ _ fun cs h => absurd h hc]

namespace SegmentsSpelled

variable {segments : List Segment} {source : List Char} {s : Rest}

theorem apart (h : SegmentsSpelled segments s) :
    segments.IsChain fun a b => a.isText = false ∨ b.isText = false := by
  induction h with
  | nil => exact .nil
  | text _ _ _ hapart _ ih => exact ih.cons fun segment hsegment => .inr (hapart segment hsegment)
  | expression _ _ ih => exact ih.cons fun _ _ => .inl rfl

theorem texts (h : SegmentsSpelled segments s) (hs : (Rest.mk 0 source).Reaches s)
    (text : List Char) (span : Span) (hmem : .text text span ∈ segments) :
    ∃ token, Text.slice? span.start span.stop source = some token ∧ text = collapse token := by
  induction h with
  | nil => cases hmem
  | text _ hpasses htext _ _ ih =>
    rcases List.mem_cons.mp hmem with heq | hmem
    · cases heq
      exact ⟨_, hs.slice? hpasses, htext.collapse_eq⟩
    · exact ih (hs.trans hpasses.reaches) hmem
  | expression hexpr _ ih =>
    rcases List.mem_cons.mp hmem with heq | hmem
    · cases heq
    · exact ih (hs.trans hexpr.reaches) hmem

theorem expressions (h : SegmentsSpelled segments s) (hs : (Rest.mk 0 source).Reaches s)
    (expr : Expression) (span : Span) (hmem : .expression expr span ∈ segments) :
    ∃ s t, (Rest.mk 0 source).Reaches s ∧ span = s.upTo t ∧ EmbeddedSpelled expr s t := by
  induction h with
  | nil => cases hmem
  | text _ hpasses _ _ _ ih =>
    rcases List.mem_cons.mp hmem with heq | hmem
    · cases heq
    · exact ih (hs.trans hpasses.reaches) hmem
  | expression hexpr _ ih =>
    rcases List.mem_cons.mp hmem with heq | hmem
    · cases heq
      exact ⟨_, _, hs, rfl, hexpr⟩
    · exact ih (hs.trans hexpr.reaches) hmem

theorem nested (h : SegmentsSpelled segments s) (outer : Span) {t : Rest} (hend : t.chars = [])
    (hcovers : outer.Covers source s t) :
    ∀ pair ∈ segments.flatMap (Segment.nesting outer), pair.1.Nested source pair.2 := by
  induction h with
  | nil => simp
  | text _ hpasses _ _ _ ih =>
    have hlast := hcovers.reaches.to_end hend hpasses.reaches
    intro pair hpair
    rw [List.flatMap_cons, List.mem_append] at hpair
    rcases hpair with hpair | hpair
    · obtain rfl := List.mem_singleton.mp hpair
      exact (hcovers.within (.refl _) hpasses.reaches hlast).nested
    · exact ih (hcovers.within hpasses.reaches hlast (.refl _)) pair hpair
  | expression hexpr _ ih =>
    have hlast := hcovers.reaches.to_end hend hexpr.reaches
    have hself := hcovers.within (.refl _) hexpr.reaches hlast
    intro pair hpair
    rw [List.flatMap_cons, List.mem_append, Segment.nesting, List.mem_cons] at hpair
    rcases hpair with (rfl | hpair) | hpair
    · exact hself.nested
    · exact hexpr.nested _ hself.self pair hpair
    · exact ih (hcovers.within hexpr.reaches hlast (.refl _)) pair hpair

end SegmentsSpelled

theorem Template.Spelled.nested {source : List Char} {template : Template}
    (h : template.Spelled source) :
    ∀ pair ∈ template.nesting ⟨0, Text.byteLength source⟩, pair.1.Nested source pair.2 := by
  have hcovers : (Span.mk 0 (Text.byteLength source)).Covers source ⟨0, source⟩
      ⟨Text.byteLength source, []⟩ :=
    ⟨.refl _, ⟨source, by simp, by simp⟩, Nat.le_refl _, Nat.le_refl _⟩
  exact SegmentsSpelled.nested h _ rfl hcovers

end AttrExpr
