import AttrExpr.Proofs.Mirroring
import AttrExpr.Proofs.Results

/-! Sources one after the other: they compile to the text of the one and then of the other. -/
set_option autoImplicit false

namespace AttrExpr

/-- What a template with certain parts is lowered to. A part with none beside it stays as it is. -/
def Node.Renders (root : Node) (parts : List Node) : Prop :=
  parts = [root] ∨ ∃ origin, root = .template origin parts

namespace Lower

variable {scope : Scope} {before after : Progress}

theorem makes_lone {expr : Expression} {span : Span} {parts : List Node} :
    Makes ([Segment.expression expr span].mapM Segment.lower) scope before parts after ↔
      ∃ root, parts = [root] ∧ Makes expr.lower scope before root after := by
  simp only [List.mapM_cons, List.mapM_nil, makes_bind, makes_pure, Segment.lower]
  constructor
  · rintro ⟨root, _, hroot, _, _, ⟨rfl, rfl⟩, rfl, rfl⟩
    exact ⟨root, rfl, hroot⟩
  · rintro ⟨root, rfl, hroot⟩
    exact ⟨root, after, hroot, [], after, ⟨rfl, rfl⟩, rfl, rfl⟩

theorem makes_template {template : Template} {root : Node}
    (h : Makes template.lower scope before root after) :
    ∃ parts, Makes (template.segments.mapM Segment.lower) scope before parts after ∧
      root.Renders parts := by
  unfold Template.lower Template.only? at h
  split at h
  · next expr hexpr =>
    split at hexpr
    · next hsegments =>
      cases hexpr
      exact ⟨[root], hsegments ▸ makes_lone.mpr ⟨root, rfl, h⟩, .inl rfl⟩
    · cases hexpr
  · simp only [source, makes_bind, makes_read, makes_origin, makes_pure] at h
    obtain ⟨parts, _, hparts, _, _, ⟨_, _, ⟨rfl, rfl⟩, rfl, rfl⟩, _, _, ⟨rfl, rfl⟩, rfl, rfl⟩ := h
    exact ⟨parts, hparts, .inr ⟨_, rfl⟩⟩

theorem makes_of_parts (template : Template) {parts : List Node}
    (h : Makes (template.segments.mapM Segment.lower) scope before parts after) :
    ∃ root, Makes template.lower scope before root after ∧ root.Renders parts := by
  unfold Template.lower Template.only?
  split
  · next expr hexpr =>
    split at hexpr
    · next hsegments =>
      cases hexpr
      rw [hsegments] at h
      obtain ⟨root, rfl, hroot⟩ := makes_lone.mp h
      exact ⟨root, hroot, .inl rfl⟩
    · cases hexpr
  · let span : Span := ⟨0, Text.byteLength scope.source⟩
    refine ⟨.template ⟨.string, span.token scope.source, span⟩ parts, ?_, .inr ⟨_, rfl⟩⟩
    simp only [source, makes_bind, makes_read, makes_origin, makes_pure]
    exact ⟨parts, after, h, _, _, ⟨_, _, ⟨rfl, rfl⟩, rfl, rfl⟩, _, _, ⟨rfl, rfl⟩, rfl, rfl⟩

/-- Text in front of segments is the text in front of theirs. -/
theorem makes_consText {segments : List Segment} {parts : List Node}
    (h : Makes (segments.mapM Segment.lower) scope before parts after) (run : List Char)
    (span : Span) :
    ∃ more, Makes ((consText run span segments).mapM Segment.lower) scope before more after ∧
      Node.evalText more = (do pure (.ofList run ++ (← Node.evalText parts))) := by
  have text (run : List Char) (span : Span) {segments : List Segment} {parts : List Node}
      (h : Makes (segments.mapM Segment.lower) scope before parts after) :
      Makes ((.text run span :: segments).mapM Segment.lower) scope before
        (.literal ⟨.string, span.token scope.source, span⟩ (.string (.ofList run)) :: parts)
        after := by
    simp only [List.mapM_cons, Segment.lower, makes_bind, makes_origin, makes_pure]
    exact ⟨_, before, ⟨_, before, ⟨rfl, rfl⟩, rfl, rfl⟩, parts, after, h, rfl, rfl⟩
  unfold consText
  split
  · next more span' segments =>
    simp only [List.mapM_cons, Segment.lower, makes_bind, makes_origin, makes_pure] at h
    obtain ⟨_, _, ⟨_, _, ⟨rfl, rfl⟩, rfl, rfl⟩, rest, _, hrest, rfl, rfl⟩ := h
    refine ⟨_, text _ _ hrest, ?_⟩
    simp only [Node.evalText, Node.eval, pure_bind, bind_assoc, Value.text, String.ofList_append,
      String.append_assoc]
  · refine ⟨_, text _ _ h, ?_⟩
    simp only [Node.evalText, Node.eval, pure_bind, Value.text]

end Lower

theorem Node.evalText_append (parts others : List Node) :
    evalText (parts ++ others) = (do
      let text ← evalText parts
      pure (text ++ (← evalText others))) := by
  induction parts with
  | nil => simp only [List.nil_append, evalText, pure_bind, String.empty_append, bind_pure]
  | cons part parts ih =>
    simp only [List.cons_append, evalText, ih, bind_assoc, pure_bind, String.append_assoc]

namespace Lower

variable {scope : Scope} {before between after : Progress}

/-- Joined segments give the text of their parts, also where text becomes one. -/
theorem makes_join {segments others : List Segment} {parts more : List Node}
    (h : Makes (segments.mapM Segment.lower) scope before parts between)
    (hothers : Makes (others.mapM Segment.lower) scope between more after) :
    ∃ joined, Makes ((joinSegments segments others).mapM Segment.lower) scope before joined after ∧
      Node.evalText joined = Node.evalText (parts ++ more) := by
  induction segments generalizing before parts with
  | nil =>
    obtain ⟨rfl, rfl⟩ := makes_pure.mp h
    exact ⟨more, hothers, rfl⟩
  | cons segment segments ih =>
    simp only [List.mapM_cons, makes_bind, makes_pure] at h
    obtain ⟨part, first, hpart, rest, _, hrest, rfl, rfl⟩ := h
    obtain ⟨joined, hjoined, htext⟩ := ih hrest
    cases segment with
    | text run span =>
      simp only [Segment.lower, makes_bind, makes_origin, makes_pure] at hpart
      obtain ⟨_, _, ⟨rfl, rfl⟩, rfl, rfl⟩ := hpart
      obtain ⟨all, hall, heval⟩ := makes_consText hjoined run span
      refine ⟨all, hall, ?_⟩
      rw [heval, htext, List.cons_append, Node.evalText, Node.eval, pure_bind, Value.text]
    | expression expr span =>
      refine ⟨part :: joined, ?_, ?_⟩
      · rw [joinSegments, List.foldr_cons, Segment.before, List.mapM_cons]
        exact makes_bind.mpr ⟨part, first, hpart, makes_bind.mpr
          ⟨joined, _, hjoined, makes_pure.mpr ⟨rfl, rfl⟩⟩⟩
      · rw [List.cons_append, Node.evalText, Node.evalText, htext]

end Lower

namespace Compiled

variable {compiler : Compiler} {source : String} {compiled : Compiled}

/-- The parts of a compiled source, and where they come from. -/
theorem parts_of_compile (h : compiler.compile source = .ok compiled) :
    ∃ (template : Template) (parts : List Node), Template.read source.toList = .ok template ∧
      Lower.Makes (template.segments.mapM Segment.lower) ⟨source.toList, compiler.declared⟩ ⟨0, []⟩
        parts ⟨compiled.slots, compiled.referenced⟩ ∧ compiled.root.Renders parts := by
  obtain ⟨-, -, template, hread, hlower⟩ := Compiler.compile_ok_iff.mp h
  obtain ⟨parts, hparts, hroot⟩ := Lower.makes_template hlower
  exact ⟨template, parts, hread, hparts, hroot⟩

/-- The text of a compiled source is that of its parts. -/
theorem text_eval (h : compiler.compile source = .ok compiled) {parts : List Node}
    (hroot : compiled.root.Renders parts) :
    (do pure (← compiled.eval).text) = Node.evalText parts := by
  have htext : (do pure (← compiled.eval).text) = (do pure (← compiled.root.eval).text) := by
    rw [eval_eq_root h, ← bind_pure_comp, bind_assoc]
    refine bind_congr fun value => ?_
    cases value <;> rfl
  rw [htext]
  rcases hroot with rfl | ⟨origin, horigin⟩
  · simp only [Node.evalText, pure_bind, String.append_empty]
  · rw [horigin, Node.eval]
    simp only [bind_assoc, pure_bind, Value.text, bind_pure]

theorem evalText_run (h : compiler.compile source = .ok compiled) {parts : List Node}
    (hroot : compiled.root.Renders parts) (env : Environment) (state : State) :
    Node.evalText parts env state =
      ((compiled.eval env state).1.map Value.text, (compiled.eval env state).2) := by
  rw [← text_eval h hroot, Eval.bind_apply]
  rcases compiled.eval env state with ⟨error | value, after⟩
  · rfl
  · rfl

/-- Trees that are alike the parts of a compiled source give its text, whatever was evaluated
before. -/
theorem evalText_alike (h : compiler.compile source = .ok compiled) {parts others : List Node}
    (hroot : compiled.root.Renders parts) {d : Nat}
    (halike : List.Forall₂ (Node.Moved d) parts others) (env : Environment) (state : State)
    (hstate : state.Unbound) :
    Node.evalText others env state = ((compiled.eval env .fresh).1.map Value.text,
      state.onto (compiled.eval env .fresh).2) := by
  have hrun := evalText_run h hroot env .fresh
  have hsame : Node.evalText others env .fresh = Node.evalText parts env .fresh := by
    have hafter := compiled.eval_unbound env .fresh State.unbound_fresh
    rcases Node.Alike.evalText Eval.Moves.loops halike env .fresh with
      ⟨error, he, hinternal⟩ | hmoved
    · rw [hrun] at he
      have herror : (compiled.eval env .fresh).1 = .error error := by
        rcases hv : (compiled.eval env .fresh).1 with error' | value
        · rw [hv] at he
          cases he
          rfl
        · rw [hv] at he
          cases he
      rw [isInternal_eq_false (eval_error h herror)] at hinternal
      cases hinternal
    · rw [State.unbound_fresh.moved, hrun, hafter.moved] at hmoved
      rw [hmoved, hrun]
  have hacc : Eval.Accumulates (Node.evalText others) :=
    Node.evalText_closed Eval.Accumulates.closed others fun part _ => part.eval_accumulates
  have honto := hacc env state .fresh
  rw [State.onto_fresh state hstate, hsame, hrun] at honto
  exact honto

/-- Joined sources compile to the parts of the one and then of the other, with the spans and the
slots of the second further on. -/
theorem compile_joined {first second : String} {left right : Compiled}
    (hleft : compiler.compile first = .ok left) (hright : compiler.compile second = .ok right)
    (hlast : first.toList.getLast? ≠ some '$') :
    ∃ (both : Compiled) (joined parts parts' more more' : List Node),
      compiler.compile (first ++ second) = .ok both ∧
      (∀ name, name ∈ both.referenced ↔ name ∈ left.referenced ∨ name ∈ right.referenced) ∧
      both.root.Renders joined ∧ Node.evalText joined = Node.evalText (parts' ++ more') ∧
      left.root.Renders parts ∧ List.Forall₂ (Node.Moved 0) parts parts' ∧
      right.root.Renders more ∧ List.Forall₂ (Node.Moved left.slots) more more' := by
  obtain ⟨template, parts, hread, hparts, hroot⟩ := parts_of_compile hleft
  obtain ⟨other, more, hother, hmore, hotherRoot⟩ := parts_of_compile hright
  let whole : Scope := ⟨first.toList ++ second.toList, compiler.declared⟩
  let front : Placement :=
    { part := ⟨first.toList, compiler.declared⟩
      whole := whole
      bytes := 0
      slots := 0
      referenced := []
      declared := rfl
      token := fun span h => span.token_shift h [] second.toList }
  let back : Placement :=
    { part := ⟨second.toList, compiler.declared⟩
      whole := whole
      bytes := Text.byteLength first.toList
      slots := left.slots
      referenced := left.referenced
      declared := rfl
      token := fun span h => by simpa using span.token_shift h first.toList [] }
  have hcuts := Template.Spelled.nested (Template.read_eq_ok_iff.mp hread)
  have hotherCuts := Template.Spelled.nested (Template.read_eq_ok_iff.mp hother)
  obtain ⟨parts', between, hparts', hbetween, halike⟩ := front.makes_segments
    (fun pair hp => (hcuts pair hp).cuts) (⟨rfl, by simp [front]⟩ : front.Behind _ ⟨0, []⟩) hparts
  -- the second source starts with what the first has left: its slots and its references
  obtain ⟨more', after, hmore', hafter, hotherAlike⟩ := back.makes_segments
    (fun pair hp => (hotherCuts pair hp).cuts) (⟨by simp [hbetween.slots, front, back],
      fun name => by simp [hbetween.referenced, front, back]⟩ : back.Behind _ between) hmore
  obtain ⟨joined, hjoined, htext⟩ := Lower.makes_join hparts' hmore'
  obtain ⟨root, hlower, hbothRoot⟩ := Lower.makes_of_parts ⟨_⟩ hjoined
  refine ⟨⟨first ++ second, root, compiler.formats, after.slots, after.referenced⟩, joined, parts,
    parts', more, more', ?_, hafter.referenced, hbothRoot, htext, hroot, halike, hotherRoot,
    hotherAlike⟩
  refine Compiler.compile_ok_iff.mpr ⟨rfl, rfl, ?_⟩
  rw [String.toList_append]
  exact ⟨_, Template.read_append hread hother hlast, hlower⟩

/-- A source that does not end in a dollar sign and any other compile together if they compile
apart. They refer to what each refers to. The text is that of the first and then of the second, the
first failure counts, and what the second looks up and counts comes after the first. -/
theorem compile_append (compiler : Compiler) (first second : String) (left right : Compiled)
    (hleft : compiler.compile first = .ok left) (hright : compiler.compile second = .ok right)
    (hlast : first.toList.getLast? ≠ some '$') :
    ∃ both, compiler.compile (first ++ second) = .ok both ∧
      both.referenced.Pairwise (fun a b => Text.bytes a < Text.bytes b) ∧
      (∀ name, name ∈ both.referenced ↔ name ∈ left.referenced ∨ name ∈ right.referenced) ∧
      ∀ (attributes : Attributes) (clock : Instant),
        both.evaluateString attributes clock = (do
          let text ← left.evaluateString attributes clock
          let more ← right.evaluateString attributes clock
          pure (text ++ more)) ∧
        ∀ text, left.evaluateString attributes clock = .ok text →
          (both.run attributes clock).2.reads =
            (right.run attributes clock).2.reads ++ (left.run attributes clock).2.reads ∧
          (both.run attributes clock).2.iterations = (left.run attributes clock).2.iterations +
            (right.run attributes clock).2.iterations := by
  obtain ⟨both, joined, parts, parts', more, more', hcompile, hmem, hroot, htext, hleftRoot,
    halike, hrightRoot, hrightAlike⟩ := compile_joined hleft hright hlast
  refine ⟨both, hcompile, (referenced_valid hcompile).1.sorted.imp Text.bytes_lt, hmem,
    fun attributes clock => ?_⟩
  have hformats := (Compiler.compile_ok_iff.mp hcompile).2.1
  have hleftFormats := (Compiler.compile_ok_iff.mp hleft).2.1
  have hrightFormats := (Compiler.compile_ok_iff.mp hright).2.1
  unfold evaluateString evaluate run environment
  rw [hformats, hleftFormats, hrightFormats]
  generalize (⟨attributes, compiler.formats, clock⟩ : Environment) = env
  have hunbound := left.eval_unbound env .fresh State.unbound_fresh
  have hfirst := evalText_alike hleft hleftRoot halike env .fresh State.unbound_fresh
  have hsecond := evalText_alike hright hrightRoot hrightAlike env _ hunbound
  have hboth := evalText_run hcompile hroot env .fresh
  rw [htext, Node.evalText_append, Eval.bind_apply, hfirst, State.fresh_onto] at hboth
  generalize both.eval env .fresh = bothRun at hboth ⊢
  generalize left.eval env .fresh = leftRun, right.eval env .fresh = rightRun at *
  obtain ⟨error | value, after⟩ := leftRun
  · obtain ⟨hvalue, hstate⟩ := Prod.mk.inj hboth
    exact ⟨hvalue.symm, fun text h => by cases h⟩
  · dsimp only [Except.map] at hboth hsecond
    rw [Eval.bind_apply, hsecond] at hboth
    obtain ⟨error | more, final⟩ := rightRun
    all_goals
      obtain ⟨hvalue, hstate⟩ := Prod.mk.inj hboth
      refine ⟨hvalue.symm, fun text _ => ?_⟩
      rw [← hstate]
      exact ⟨rfl, rfl⟩

/-- A number and a truth value, which are both text beside each other. -/
theorem compile_append_sizePlusOne :
    let attributes := Record.attributes ⟨[("size", "41"), ("a", "0"), ("b", "2")]⟩
    Compiler.standard.compile sizePlusOne.source = .ok sizePlusOne ∧
      Compiler.standard.compile anyAboveOne.source = .ok anyAboveOne ∧
      sizePlusOne.source.toList.getLast? ≠ some '$' ∧
      ∃ both, Compiler.standard.compile (sizePlusOne.source ++ anyAboveOne.source) = .ok both ∧
        both.referenced.Pairwise (fun a b => Text.bytes a < Text.bytes b) ∧
        (∀ name, name ∈ both.referenced ↔ name ∈ ["size"] ∨ name ∈ ["a", "b"]) ∧
        both.evaluateString attributes .epoch = .ok "42true" ∧
        (both.run attributes .epoch).2.reads = ["b", "a", "size"] ∧
        (both.run attributes .epoch).2.iterations = 2 := by
  intro attributes
  have hlast : sizePlusOne.source.toList.getLast? ≠ some '$' := by decide
  have hleft : sizePlusOne.evaluateString attributes .epoch = .ok "42" := by cbv
  have hright : anyAboveOne.evaluateString attributes .epoch = .ok "true" := by cbv
  have hleftState : (sizePlusOne.run attributes .epoch).2 = ⟨[], 0, ["size"]⟩ := by cbv
  have hrightState : (anyAboveOne.run attributes .epoch).2 = ⟨[], 2, ["b", "a"]⟩ := by cbv
  obtain ⟨both, hcompile, hsorted, hmem, heval⟩ :=
    compile_append .standard _ _ _ _ compile_sizePlusOne compile_anyAboveOne hlast
  obtain ⟨htext, hrun⟩ := heval attributes .epoch
  obtain ⟨hreads, hiterations⟩ := hrun "42" hleft
  rw [hleft, hright] at htext
  rw [hleftState, hrightState] at hreads hiterations
  exact ⟨compile_sizePlusOne, compile_anyAboveOne, hlast, both, hcompile, hsorted, hmem, htext,
    hreads, hiterations⟩

end Compiled

end AttrExpr
