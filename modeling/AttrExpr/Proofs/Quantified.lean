import AttrExpr.Proofs.ComputedPatterns
import AttrExpr.Proofs.Negation
import AttrExpr.Proofs.Quantifiers

/-! Sources that start with the call of a quantifier, and what they are lowered to when the calls
behind it make a predicate. -/
set_option autoImplicit false

namespace AttrExpr

/-- The source of a call of a function and what follows its name. -/
def calling (function : Function) (rest : String) : String :=
  "$\x7b" ++ (function.name ++ rest ++ "\x7d")

/-- Arguments in parentheses and calls behind them, by what spells the ones and the others. -/
def TailSpelled (args : List Argument) (calls : List Call) (written more : List Char) : Prop :=
  ∃ opening last, (Rest.mk 0 (written ++ more)).Skips opening ∧
    ArgumentsSpelled args opening ⟨Text.byteLength written, more⟩ ∧
    ChainSpelled calls ⟨Text.byteLength written, more⟩ last ∧
    last.Skips ⟨Text.byteLength (written ++ more), []⟩

namespace TailSpelled

variable {args : List Argument} {calls : List Call} {written more : List Char}

theorem of_read (fuel : Nat)
    (hargs : readArguments (readExpression fuel) ⟨0, written ++ more⟩ =
      .ok (args, ⟨Text.byteLength written, more⟩))
    (hcalls : readChain (readExpression fuel) fuel ⟨Text.byteLength written, more⟩ =
      .ok (calls, ⟨Text.byteLength (written ++ more), []⟩)) :
    TailSpelled args calls written more :=
  ⟨_, _, .refl _, readArguments_sound (readExpression_sound fuel) _ _ _ hargs,
    readChain_sound (readExpression_sound fuel) fuel _ _ _ hcalls, .refl _⟩

variable (h : TailSpelled args calls written more)

include h

/-- All spans lie within the text. -/
theorem cuts :
    (∀ pair ∈ argumentsNesting ⟨0, Text.byteLength (written ++ more)⟩ args,
      pair.2.Cuts (written ++ more)) ∧
    ∀ pair ∈ callsNesting ⟨0, Text.byteLength (written ++ more)⟩ calls,
      pair.2.Cuts (written ++ more) := by
  obtain ⟨opening, last, hopening, hargs, hcalls, hlast⟩ := h
  have hbetween := hcalls.reaches.trans hlast.reaches
  refine ⟨fun pair hp => ?_, fun pair hp => ?_⟩
  · exact (hargs.nested _ (Span.covers_text hopening.reaches hargs.reaches hbetween) pair hp).cuts
  · exact (hcalls.nested _ (Span.covers_text (hopening.reaches.trans hargs.reaches) hcalls.reaches
      hlast.reaches) pair hp).cuts

/-- A call of a function by what spells its arguments and the calls behind it, with others after
these. -/
theorem embedded (function : Function) (others : List Call) (after : List Char) {t : Rest}
    (hothers : ∀ s : Rest, s.Skips ⟨0 + 2 + Text.byteLength function.name.toList +
      Text.byteLength (written ++ more), after⟩ → ∃ last, ChainSpelled others s last ∧
        last.Skips t) (hclosing : t.chars = ['\x7d']) :
    let shift := Span.shift (0 + 2 + Text.byteLength function.name.toList)
    ∃ nameSpan, (Expression.mk (.call (.mk function.name nameSpan (mapArgumentSpans shift args)
        ⟨0 + 2, 0 + 2 + Text.byteLength function.name.toList + Text.byteLength written⟩))
      (mapCallSpans shift calls ++ others)).EmbeddedBy
        ('$' :: '\x7b' :: (function.name.toList ++ (written ++ more ++ after))) := by
  intro shift
  obtain ⟨opening, last, hopening, hargs, hcalls, hlast⟩ := h
  obtain ⟨final, hfinal, hskips⟩ := hothers _ (hlast.embed _ after)
  have hbrace : t.Passes ['\x7d'] ⟨t.offset + 1, []⟩ := ⟨hclosing, rfl⟩
  have hcall := Call.spelled_named function (hopening.embed
    (0 + 2 + Text.byteLength function.name.toList) after) (hargs.embed _ after)
  exact ⟨_, .of_spelled (.mk (Rest.passes_mk 0 ['$', '\x7b'] _) (.refl _)
    (.mk (.call hcall) ((hcalls.embed _ after).append hfinal)) hskips hbrace) rfl⟩

end TailSpelled

theorem toList_calling (function : Function) (rest : String) :
    (calling function rest).toList =
      '$' :: '\x7b' :: (function.name.toList ++ (rest.toList ++ ['\x7d'])) := by
  simp [calling]

theorem byteLength_opening (function : Function) :
    Text.byteLength ('$' :: '\x7b' :: function.name.toList) =
      0 + 2 + Text.byteLength function.name.toList := by
  have hopening : Text.byteLength ['$', '\x7b'] = 2 := by decide
  rw [Nat.zero_add, ← hopening, ← Text.byteLength_append]
  rfl

/-- The text of a call at the start of a source. -/
theorem token_calling (function : Function) (written rest : String) :
    Span.token ⟨0 + 2, 0 + 2 + Text.byteLength function.name.toList +
        Text.byteLength written.toList⟩ (calling function (written ++ rest)).toList =
      function.name ++ written := by
  have hslice : Text.slice? (0 + 2) (0 + 2 + Text.byteLength function.name.toList +
      Text.byteLength written.toList) (calling function (written ++ rest)).toList =
        some (function.name.toList ++ written.toList) := by
    have hopening : Text.byteLength ['$', '\x7b'] = 2 := by decide
    refine Text.slice?_eq_some_iff.mpr ⟨['$', '\x7b'], rest.toList ++ ['\x7d'], ?_, ?_, ?_⟩
    · simp [toList_calling]
    · rw [hopening]
    · rw [Text.byteLength_append, Text.byteLength_append, hopening, Nat.zero_add, Nat.add_assoc]
  rw [Span.token, Span.slice, hslice]
  simp [String.ofList_append]

namespace TailSpelled

variable {args : List Argument} {calls : List Call} {written more : String}
  (h : TailSpelled args calls written.toList more.toList) (function : Function)

include h

theorem calling :
    let shift := Span.shift (0 + 2 + Text.byteLength function.name.toList)
    ∃ nameSpan, (Expression.mk (.call (.mk function.name nameSpan (mapArgumentSpans shift args)
        ⟨0 + 2, 0 + 2 + Text.byteLength function.name.toList + Text.byteLength written.toList⟩))
      (mapCallSpans shift calls)).EmbeddedBy (calling function (written ++ more)).toList := by
  intro shift
  obtain ⟨nameSpan, hspelled⟩ := h.embedded function [] ['\x7d'] (fun s hs => ⟨s, .nil, hs⟩) rfl
  refine ⟨nameSpan, ?_⟩
  rw [toList_calling, String.toList_append]
  rwa [List.append_nil] at hspelled

theorem calling_not :
    let shift := Span.shift (0 + 2 + Text.byteLength function.name.toList)
    ∃ nameSpan notSpan callSpan, (Expression.mk (.call (.mk function.name nameSpan
        (mapArgumentSpans shift args)
        ⟨0 + 2, 0 + 2 + Text.byteLength function.name.toList + Text.byteLength written.toList⟩))
      (mapCallSpans shift calls ++ [.mk "not" notSpan [] callSpan])).EmbeddedBy
        (AttrExpr.calling function (written ++ more ++ ":not()")).toList := by
  intro shift
  let place := 0 + 2 + Text.byteLength function.name.toList +
    Text.byteLength (written.toList ++ more.toList)
  have hcall := Call.spelled_named .not (.refl _) (ArgumentsSpelled.empty
    (place + 1 + Text.byteLength Function.not.name.toList) ['\x7d'])
  obtain ⟨nameSpan, hspelled⟩ := h.embedded function _
    (':' :: (Function.not.name.toList ++ ['(', ')', '\x7d']))
    (fun s hs => ⟨_, .cons hs (Rest.passes_mk _ [':'] _) (.refl _) hcall .nil, .refl _⟩) rfl
  have hnot : ":not()".toList = ':' :: (Function.not.name.toList ++ ['(', ')']) := by decide
  have htext : (AttrExpr.calling function (written ++ more ++ ":not()")).toList = '$' :: '\x7b' ::
      (function.name.toList ++ (written.toList ++ more.toList ++
        ':' :: (Function.not.name.toList ++ ['(', ')', '\x7d']))) := by
    rw [toList_calling, String.toList_append, String.toList_append, hnot]
    simp only [List.append_assoc, List.cons_append, List.nil_append]
  rw [htext]
  exact ⟨nameSpan, _, _, hspelled⟩

end TailSpelled

/-! What is made of a quantifier with a predicate. -/

namespace Lower

variable {scope : Scope} {before after : Progress} {planned : PlannedCall}
  {calls : List PlannedCall} {node : Node}

/-- The calls behind a quantifier that asks for any candidate have no reducer among them. -/
theorem predicate_of_makes_any {function : Function} {kind : CandidateKind}
    (h : Makes (quantifier function kind false planned calls) scope before node after) :
    ∀ call ∈ calls, isReducerCall call = false := by
  cases hdrop : calls.dropWhile fun call => !isReducerCall call with
  | nil =>
    rw [List.dropWhile_eq_nil_iff] at hdrop
    exact fun call hc => by simpa using hdrop call hc
  | cons reducer rest =>
    -- the reducer is refused after the candidates and the body have been lowered
    simp only [quantifier, hdrop, reducerFold, Bool.not_false, if_true, makes_bind] at h
    obtain ⟨_, _, -, _, _, -, _, _, -, _, _, -, _, _, -, _, _, ⟨_, _, -, hfail⟩, -⟩ := h
    exact absurd hfail makes_fail

/-- What is made of a quantifier with a predicate behind it. -/
theorem makes_predicate {function : Function} {kind : CandidateKind} {all : Bool}
    (hcalls : ∀ call ∈ calls, isReducerCall call = false) :
    Makes (quantifier function kind all planned calls) scope before node after ↔
      function.signature.accepts planned.args.length = true ∧
        ∃ source between body,
          Makes (candidateSource function kind planned.args) scope before source between ∧
          Makes (chain (.loopVariable ⟨.string, planned.span.token scope.source, planned.span⟩
            between.slots) calls) scope { between with slots := between.slots + 1 } body after ∧
          body.kind = .boolean ∧
          node = .quantifier ⟨.boolean, (spanTo planned.span calls).token scope.source,
            spanTo planned.span calls⟩ between.slots source (if all then .all else .any) body := by
  have htake : calls.takeWhile (fun call => !isReducerCall call) = calls :=
    List.takeWhile_eq_self_iff.mpr fun call hc => by simp [hcalls call hc]
  have hdrop : calls.dropWhile (fun call => !isReducerCall call) = [] :=
    List.dropWhile_eq_nil_iff.mpr fun call hc => by simp [hcalls call hc]
  simp only [quantifier, htake, hdrop, predicateFold, makes_bind, makes_pure, makes_origin,
    makes_newSlot]
  constructor
  · rintro ⟨_, _, harity, source, between, hsource, _, _, ⟨rfl, rfl⟩, _, _, ⟨rfl, rfl⟩, body, _,
      hbody, fold, _, hfold, _, _, ⟨rfl, rfl⟩, rfl, rfl⟩
    obtain ⟨haccepts, rfl⟩ := makes_checkArity harity
    split at hfold
    · next hkind =>
      obtain ⟨rfl, rfl⟩ := makes_pure.mp hfold
      exact ⟨haccepts, source, between, body, hsource, hbody, hkind, rfl⟩
    · exact absurd hfold makes_fail
  · rintro ⟨haccepts, source, between, body, hsource, hbody, hkind, rfl⟩
    refine ⟨(), before, ?_, source, between, hsource, _, _, ⟨rfl, rfl⟩, _, _, ⟨rfl, rfl⟩, body,
      after, hbody, _, after, ?_, _, _, ⟨rfl, rfl⟩, rfl, rfl⟩
    · rw [checkArity, haccepts]
      exact makes_pure.mpr ⟨rfl, rfl⟩
    · rw [if_pos hkind]
      exact makes_pure.mpr ⟨rfl, rfl⟩

/-! Functions are named only where the arguments of a quantifier are refused. -/

theorem makes_literalTexts_of (function other : Function) {args : List PlannedArg}
    {texts : List (String × Span)}
    (h : Makes (literalTexts function args) scope before texts after) :
    Makes (literalTexts other args) scope before texts after := by
  induction args generalizing before after texts with
  | nil => exact h
  | cons arg args ih =>
    unfold literalTexts at h ⊢
    split at h
    · exact absurd h makes_fail
    · obtain ⟨rest, between, hrest, htexts⟩ := makes_bind.mp h
      exact makes_bind.mpr ⟨rest, between, ih hrest, htexts⟩

theorem makes_candidateSource_of (function other : Function) {kind : CandidateKind}
    {args : List PlannedArg} {source : CandidateSource Node}
    (h : Makes (candidateSource function kind args) scope before source after) :
    Makes (candidateSource other kind args) scope before source after := by
  cases kind with
  | named | matching =>
    obtain ⟨texts, between, htexts, h⟩ := makes_bind.mp h
    exact makes_bind.mpr ⟨texts, between, makes_literalTexts_of function other htexts, h⟩
  | delineated =>
    cases args with
    | nil => exact h
    | cons value args =>
      cases args with
      | nil => exact h
      | cons delimiter args => exact h

end Lower

end AttrExpr
