import AttrExpr.Proofs.Everywhere

/-! The regular expressions of a compiled tree are those that its string literals are read as. -/
set_option autoImplicit false

namespace AttrExpr

namespace Function

/-- A call has a regular expression of its own if its function takes one, and if its first argument
is written in the source: `text` is what that argument says then. -/
def PatternRead (function : Function) (text : Option String) (pattern : Option Regex) : Prop :=
  match function.patternWhole?, text with
  | some whole, some text => ∃ regex, pattern = some regex ∧ readPattern whole text = .ok regex
  | _, _ => pattern = none

variable {function : Function} {whole : Bool} {pattern : Option Regex}

theorem PatternRead.some (hw : function.patternWhole? = some whole) {text : String}
    (h : function.PatternRead (some text) pattern) :
    ∃ regex, pattern = some regex ∧ readPattern whole text = .ok regex := by
  unfold PatternRead at h
  rwa [hw] at h

theorem PatternRead.none (h : function.PatternRead none pattern) : pattern = none := by
  unfold PatternRead at h
  cases hw : function.patternWhole? <;> rwa [hw] at h

end Function

namespace Node

/-- The regular expressions of a node come from string literals: the one of a call from its first
argument, and those of a quantifier from texts that have to match whole names. -/
def PatternsRead : Node → Prop
  | .call _ function _ _ args _ pattern =>
    function.PatternRead (args.head?.bind literalText?) pattern
  | .quantifier _ _ (.matching patterns) _ _ =>
    ∃ texts : List String, texts.map Regex.readWhole = patterns.map .ok
  | _ => True

end Node

namespace Lower

variable {scope : Scope} {before after : Progress}

theorem readPatternAt_ok {whole : Bool} {text : String} {span : Span} {regex : Regex}
    (h : Makes (readPatternAt whole text span) scope before regex after) :
    readPattern whole text = .ok regex := by
  unfold readPatternAt at h
  split at h
  · next found hread =>
    obtain ⟨rfl, -⟩ := makes_pure.mp h
    exact hread
  · exact absurd h makes_fail

/-- The first argument is a string literal when it is planned as one. -/
theorem arguments_head {function : Function} {args : List PlannedArg}
    (hargs : ∀ arg ∈ args, MakesText arg.text arg.lower) {index : Nat}
    {result : List (Node × Option Kind)}
    (h : Makes (arguments function index args) scope before result after) :
    (result.map (·.1)).head?.bind Node.literalText? = args.head?.bind PlannedArg.text := by
  cases args with
  | nil =>
    obtain ⟨rfl, -⟩ := makes_pure.mp h
    rfl
  | cons arg args =>
    obtain ⟨node, between, hnode, h⟩ := makes_bind.mp h
    dsimp only at h
    split at h
    · exact absurd h makes_fail
    · simp only [makes_bind, makes_pure] at h
      obtain ⟨rest, _, -, rfl, -⟩ := h
      exact hargs arg (by simp) _ _ _ _ hnode

theorem literalPattern_read {function : Function} {args : List PlannedArg} {pattern : Option Regex}
    (h : Makes (literalPattern function args) scope before pattern after) :
    function.PatternRead (args.head?.bind PlannedArg.text) pattern := by
  unfold literalPattern at h
  unfold Function.PatternRead
  cases hwhole : function.patternWhole? with
  | none =>
    simp only [hwhole] at h
    obtain ⟨rfl, -⟩ := makes_pure.mp h
    rfl
  | some whole =>
    rw [hwhole] at h
    rcases args with - | ⟨⟨text, span, lower⟩, rest⟩
    · obtain ⟨rfl, -⟩ := makes_pure.mp h
      rfl
    · cases text with
      | none =>
        obtain ⟨rfl, -⟩ := makes_pure.mp h
        rfl
      | some text =>
        obtain ⟨regex, hread, rfl⟩ := makes_map.mp h
        exact ⟨regex, rfl, readPatternAt_ok hread⟩

theorem patterns_read {texts : List (String × Span)} {patterns : List Regex}
    (h : Makes (texts.mapM fun entry => readPatternAt true entry.1 entry.2) scope before patterns
      after) :
    (texts.map (·.1)).map Regex.readWhole = patterns.map .ok := by
  induction texts generalizing before after patterns with
  | nil =>
    obtain ⟨rfl, -⟩ := makes_pure.mp h
    rfl
  | cons entry texts ih =>
    simp only [List.mapM_cons, makes_bind, makes_pure] at h
    obtain ⟨regex, _, hread, rest, _, hrest, rfl, rfl⟩ := h
    rw [List.map_cons, List.map_cons, List.map_cons, ih hrest,
      show Regex.readWhole entry.1 = .ok regex from readPatternAt_ok hread]

theorem patternsRead_locally : Locally (fun _ => True) Node.PatternsRead where
  literal := by
    intro value span scope before after node _ h
    cases value with
    | string | number | boolean =>
      simp only [literal, makes_bind, makes_pure] at h
      obtain ⟨_, _, -, rfl, -⟩ := h
      trivial
  «attribute» _ _ := trivial
  template _ _ := trivial
  loopVariable _ _ := trivial
  call := by
    intro function subject planned span scope before after node hargs h
    simp only [call, makes_bind, makes_pure] at h
    obtain ⟨_, _, -, _, _, -, args, _, hlowered, pattern, _, hpattern, _, _, -, rfl, -⟩ := h
    rw [Node.PatternsRead, arguments_head hargs hlowered]
    exact literalPattern_read hpattern
  quantifier := by
    intro function kind args source scope before after h origin slot fold body
    unfold candidateSource at h
    split at h
    · simp only [makes_bind, makes_pure] at h
      obtain ⟨_, _, -, _, _, -, rfl, -⟩ := h
      trivial
    · simp only [makes_bind, makes_pure] at h
      obtain ⟨texts, _, -, patterns, _, hpatterns, rfl, -⟩ := h
      exact ⟨_, patterns_read hpatterns⟩
    · simp only [makes_bind, makes_pure] at h
      obtain ⟨_, _, -, _, _, -, rfl, -⟩ := h
      trivial
    · obtain ⟨rfl, -⟩ := makes_pure.mp h
      trivial

end Lower

theorem Compiler.compile_patternsRead {compiler : Compiler} {source : String}
    {compiled : Compiled} (h : compiler.compile source = .ok compiled) :
    ∀ node ∈ compiled.root.all, node.PatternsRead :=
  Lower.patternsRead_locally.everywhere_compiled (fun _ _ _ _ _ _ _ => trivial) h

end AttrExpr
