import AttrExpr.Proofs.Blame
import AttrExpr.Proofs.Patterns
import AttrExpr.Proofs.Spanning

/-! Regular expressions that have to match whole texts. All uses put the same anchors around the
text of one, which is then read as a whole; that text is not read on its own before. -/
set_option autoImplicit false

namespace AttrExpr

/-- Whether a text matches once it has been anchored, or why it is no regular expression then. -/
def Regex.matchesWhole (pattern : String) (text : String) : Except Regex.PatternError Bool :=
  (Regex.readWhole pattern).map fun regex => regex.isMatch text.toList

namespace ActiveCall

variable {env : Environment} {call : ActiveCall} {state after : State} {p : Value}

/-- The regular expression of a call, read now or before. -/
theorem patternValue_apply (harg : call.arg 0 env state = (.ok p, after))
    (hpattern : ∀ regex, call.pattern = some regex →
      readPattern (call.function.patternWhole?.getD false) p.text = .ok regex) :
    (call.patternValue env state).1 =
      (readPattern (call.function.patternWhole?.getD false) p.text).mapError
        fun error => ⟨.invalidPattern p.text error, call.token⟩ := by
  unfold patternValue
  cases hp : call.pattern with
  | some regex =>
    rw [hpattern regex hp]
    rfl
  | none =>
    dsimp only
    rw [textArg, bind_assoc, Eval.bind_apply, harg]
    dsimp only
    rw [pure_bind]
    cases readPattern (call.function.patternWhole?.getD false) p.text <;> rfl

theorem onText_matchesWhole (hc : call.function = .matchesWhole) (subject : String) :
    call.onText subject =
      (do pure (.boolean ((← call.patternValue).isMatch subject.toList))) := by
  simp only [onText, hc]

/-- What a call of `matches` gives, from the values of both operands. -/
theorem On.matchesWhole_value {first second : Demand} (h : call.On (some first) [second])
    (hc : call.function = .matchesWhole) {between : State} {value : Value}
    (hv : first.node.eval env state = (.ok value, between))
    (hp : second.node.eval env between = (.ok p, after))
    (hpattern : ∀ regex, call.pattern = some regex → Regex.readWhole p.text = .ok regex) :
    (call.value env state).1 = ((Regex.matchesWhole p.text value.text).map .boolean).mapError
      fun error => ⟨.invalidPattern p.text error, call.token⟩ := by
  obtain ⟨demand, kind, hd, hsubject, hr⟩ :=
    h.subjectValue env (show call.function.signature.subject = some (.kind .string) by
      rw [hc]; rfl) (by rw [hc]; rfl)
  cases hd
  have hrequired : first.required = none := by
    obtain ⟨_, _, hd, -, hrequired, -⟩ := h.onSubject (.kind .string) (by rw [hc]; rfl)
    cases hd
    rw [hrequired, hc]
    rfl
  have hvalue := hsubject.text (Expectation.resolve?_kind hr) hrequired hv
  have harg := Demand.Performs.text (h.arg (i := 0) rfl) (h.param (i := 0) rfl (by rw [hc]; rfl))
    (h.required second (by simp)) hp
  have hwhole : call.function.patternWhole?.getD false = true := by rw [hc]; rfl
  have hregex : (call.patternValue env between).1 = (Regex.readWhole p.text).mapError
      fun error => ⟨.invalidPattern p.text error, call.token⟩ := by
    have hread := patternValue_apply harg (by rw [hwhole]; exact hpattern)
    rw [hwhole] at hread
    exact hread
  have hfamily : call.function.family = .text := by rw [hc]; rfl
  simp only [ActiveCall.value, hfamily]
  rw [subjectText, bind_assoc, Eval.bind_apply, hvalue]
  dsimp only
  rw [pure_bind, onText_matchesWhole hc, bind_pure_comp, Eval.map_apply, hregex,
    Regex.matchesWhole]
  cases Regex.readWhole p.text <;> rfl

end ActiveCall

namespace Node

variable {origin : Origin} {subject : Option Node} {target : Option Kind} {args : List Node}
  {targets : List (Option Kind)} {pattern : Option Regex}

theorem eval_literalText {node : Node} {text : String} (h : node.literalText? = some text)
    (env : Environment) (state : State) : node.eval env state = (.ok (.string text), state) := by
  unfold literalText? at h
  split at h
  · cases h
    rw [eval]
    rfl
  · cases h

theorem CallSound.matchesWhole_eval
    (h : CallSound origin .matchesWhole subject target args targets)
    (hp : PatternsRead (.call origin .matchesWhole subject target args targets pattern)) :
    ∃ left right, subject = some left ∧ args = [right] ∧
      (∀ text, right.literalText? = some text → ∃ regex, Regex.readWhole text = .ok regex) ∧
      ∀ (env : Environment) (state between after : State) (value p : Value),
        left.eval env state = (.ok value, between) → right.eval env between = (.ok p, after) →
        (eval (.call origin .matchesWhole subject target args targets pattern) env state).1 =
          ((Regex.matchesWhole p.text value.text).map .boolean).mapError
            fun error => ⟨.invalidPattern p.text error, origin.token⟩ := by
  have hcall := h.on pattern
  obtain ⟨left, right, rfl, rfl, -⟩ :=
    h.two_operands (show Function.matchesWhole.signature =
      Function.exactly (some (.kind .string)) [.kind .string] .boolean from rfl)
  have hp : Function.matchesWhole.PatternRead right.literalText? pattern := hp
  refine ⟨left, right, rfl, rfl, fun text ht => ?_, fun env state between after value p hv hw => ?_⟩
  · rw [ht] at hp
    obtain ⟨regex, -, hread⟩ := hp.some rfl
    exact ⟨regex, hread⟩
  · rw [eval]
    refine hcall.matchesWhole_value rfl hv hw fun regex hregex => ?_
    cases ht : right.literalText? with
    | none =>
      rw [ht] at hp
      cases hp.none.symm.trans hregex
    | some text =>
      rw [ht] at hp
      obtain ⟨found, hfound, hread⟩ := hp.some rfl
      cases hfound.symm.trans hregex
      cases hw.symm.trans (eval_literalText ht env between)
      exact hread

end Node

namespace Regex

theorem skipVerbose_comment {cs : List Char} (h : '\n' ∉ cs) : skipVerbose true cs = [] := by
  induction cs with
  | nil => rfl
  | cons c cs ih =>
    rw [List.mem_cons, not_or] at h
    have hc : (c != '\n') = true := by simpa using Ne.symm h.1
    rw [skipVerbose, hc]
    exact ih h.2

theorem space_comment {s : Scan} {cs : List Char} (hverbose : s.flags.verbose = true)
    (hrest : s.rest = '#' :: cs) (h : '\n' ∉ cs) : s.space = { s with rest := [] } := by
  have hblank : Unicode.isWhiteSpace '#' = false := by decide
  rw [Scan.space, if_pos hverbose, hrest, skipVerbose, hblank, if_neg (by decide), if_pos rfl,
    skipVerbose_comment h]

/-- A comment that is not ended takes up all that is left. -/
theorem readBranches_comment (body : Scan → Except PatternError (Item × Scan)) (fuel : Nat)
    (branches : Branches) {s : Scan} {cs : List Char} (hverbose : s.flags.verbose = true)
    (hrest : s.rest = '#' :: cs) (h : '\n' ∉ cs) :
    readBranches body (fuel + 1) branches s = .ok (branches.item, { s with rest := [] }) := by
  rw [readBranches, space_comment hverbose hrest h]
  rfl

/-- A pattern that sets the flag for comments and then has one. -/
theorem readBody_comment (fuel : Nat) {cs : List Char} (h : '\n' ∉ cs) :
    readBody (fuel + 1) (.start ("(?x)#".toList ++ cs)) =
      .ok (⟨.empty, 0, false⟩, ⟨[], { Flags.initial with verbose := true }, 0, []⟩) := by
  have hlength : ("(?x)#".toList ++ cs).length + 1 = cs.length + 5 + 1 := by simp
  rw [readBody, Scan.start]
  dsimp only
  rw [hlength]
  change (readBranches (readBody fuel) (cs.length + 5) ⟨[], [⟨.empty, 0, false⟩]⟩
    ⟨'#' :: cs, { Flags.initial with verbose := true }, 0, []⟩) = _
  rw [readBranches_comment _ _ _ rfl rfl h]
  rfl

/-- A comment at the end of a regular expression takes away the parenthesis that is put after it. -/
theorem comment_refused (comment : String) (h : '\n' ∉ comment.toList) :
    (Regex.read ("(?x)#" ++ comment)).isOk = true ∧
      Regex.readWhole ("(?x)#" ++ comment) = .error .unclosedGroup := by
  constructor
  · unfold Regex.read
    dsimp only
    rw [String.toList_append, readBody_comment _ h]
    rfl
  · have hlist : ("^(?:" ++ ("(?x)#" ++ comment) ++ ")$").toList =
        "^(?:".toList ++ ("(?x)#".toList ++ (comment.toList ++ ")$".toList)) := by
      simp only [String.toList_append, List.append_assoc]
    have hfuel (cs : List Char) : ("^(?:".toList ++ cs).length + 1 = cs.length + 3 + 1 + 1 := by
      simp
    have hcomment : '\n' ∉ comment.toList ++ ")$".toList := by simpa using h
    unfold Regex.readWhole Regex.read
    dsimp only
    rw [hlist, hfuel, readBody_unclosed _ (readBody_comment _ hcomment) rfl]
    rfl

end Regex

theorem CandidateSource.mem_listed_matching {attributes : Attributes} {patterns : List Regex}
    {name : String} :
    .attribute name ∈ listed attributes (.matching patterns) ↔
      name ∈ attributes.names ∧ ∃ regex ∈ patterns, regex.isMatch name.toList = true := by
  have hlists := listed_lists attributes (.matching patterns)
  generalize listed attributes (.matching patterns) = candidates at hlists
  cases hlists with
  | matching sorted mem =>
    rw [← mem]
    simp

/-- Names that match patterns are those that match the texts of the patterns when anchored. -/
theorem CandidateSource.mem_listed_matchesWhole {attributes : Attributes} {texts : List String}
    {patterns : List Regex} (h : texts.map Regex.readWhole = patterns.map .ok) (name : String) :
    .attribute name ∈ listed attributes (.matching patterns) ↔
      name ∈ attributes.names ∧ ∃ text ∈ texts, Regex.matchesWhole text name = .ok true := by
  rw [mem_listed_matching]
  refine and_congr_right fun _ => ⟨?_, ?_⟩
  · rintro ⟨regex, hr, hmatch⟩
    obtain ⟨text, ht, hregex⟩ := List.mem_map.mp (h ▸ List.mem_map_of_mem hr)
    exact ⟨text, ht, by rw [Regex.matchesWhole, hregex, Except.map, hmatch]⟩
  · rintro ⟨text, ht, hmatch⟩
    obtain ⟨regex, hr, hregex⟩ := List.mem_map.mp (h ▸ List.mem_map_of_mem ht)
    rw [Regex.matchesWhole, ← hregex, Except.map, Except.ok.injEq] at hmatch
    exact ⟨regex, hr, hmatch⟩

/-- What matching whole texts comes to for a text that is a regular expression on its own. -/
theorem Regex.matchesWhole_spans {pattern : String} {regex : Regex}
    (h : Regex.read pattern = .ok regex) :
    (CommentOpen pattern.toList ∧ Regex.readWhole pattern = .error .unclosedGroup) ∨
      ((∃ depth, nesting pattern = .ok depth ∧ depthLimit < depth + 2) ∧
        Regex.readWhole pattern = .error .nestedTooDeep) ∨
      (regex.tree.anchored.isWithinLimit = false ∧
        Regex.readWhole pattern = .error .tooLarge) ∨
      ∀ text : String, ∃ matched, Regex.matchesWhole pattern text = .ok matched ∧
        (matched = true ↔ regex.tree.Spans text.toList) := by
  refine (readWhole_spans h).imp_right (Or.imp_right (Or.imp_right ?_))
  rintro ⟨whole, hread, hspans⟩ text
  exact ⟨whole.isMatch text.toList, by rw [Regex.matchesWhole, hread]; rfl, hspans text.toList⟩

namespace Compiled

/-- All uses of regular expressions that have to match whole texts agree, whether they are written
in the source or computed: a text is accepted if it is a regular expression once it has been
anchored, and it matches what that one matches. For a text that is a regular expression on its own
these are the texts that it spans, unless a comment at its end takes up the parenthesis that is put
after it, or the anchors make it exceed a limit. -/
theorem whole_matches (compiler : Compiler) (source : String) (compiled : Compiled)
    (h : compiler.compile source = .ok compiled) :
    (∀ node ∈ compiled.root.all, ∀ origin subject target args targets pattern,
      node = .call origin .matchesWhole subject target args targets pattern →
      ∃ left right, subject = some left ∧ args = [right] ∧
        (∀ text, right.literalText? = some text → ∃ regex, Regex.readWhole text = .ok regex) ∧
        ∀ (env : Environment) (state between after : State) (value p : Value),
          left.eval env state = (.ok value, between) → right.eval env between = (.ok p, after) →
          (node.eval env state).1 = ((Regex.matchesWhole p.text value.text).map .boolean).mapError
            fun error => ⟨.invalidPattern p.text error, origin.token⟩) ∧
    (∀ node ∈ compiled.root.all, ∀ origin slot patterns fold body,
      node = .quantifier origin slot (.matching patterns) fold body →
      ∃ texts : List String, (∀ text ∈ texts, ∃ regex, Regex.readWhole text = .ok regex) ∧
        ∀ (attributes : Attributes) (name : String),
          .attribute name ∈ CandidateSource.listed attributes (.matching patterns) ↔
            name ∈ attributes.names ∧ ∃ text ∈ texts, Regex.matchesWhole text name = .ok true) ∧
    ∀ (pattern : String) (regex : Regex), Regex.read pattern = .ok regex →
      (Regex.CommentOpen pattern.toList ∧
        Regex.readWhole pattern = .error .unclosedGroup) ∨
      ((∃ depth, Regex.nesting pattern = .ok depth ∧ Regex.depthLimit < depth + 2) ∧
        Regex.readWhole pattern = .error .nestedTooDeep) ∨
      (regex.tree.anchored.isWithinLimit = false ∧
        Regex.readWhole pattern = .error .tooLarge) ∨
      ∀ text : String, ∃ matched, Regex.matchesWhole pattern text = .ok matched ∧
        (matched = true ↔ regex.tree.Spans text.toList) := by
  obtain ⟨hwell, -⟩ := Compiler.compile_wellFormed h
  have hpatterns := Compiler.compile_patternsRead h
  refine ⟨?_, ?_, fun pattern regex hread => Regex.matchesWhole_spans hread⟩
  · rintro node hn origin subject target args targets pattern rfl
    have hcall : Node.CallSound origin .matchesWhole subject target args targets := hwell _ hn
    exact hcall.matchesWhole_eval (hpatterns _ hn)
  · rintro node hn origin slot patterns fold body rfl
    obtain ⟨texts, hread⟩ := hpatterns _ hn
    refine ⟨texts, fun text ht => ?_, fun attributes name =>
      CandidateSource.mem_listed_matchesWhole hread name⟩
    have hmem := List.mem_map_of_mem (f := Regex.readWhole) ht
    rw [hread] at hmem
    obtain ⟨regex, -, hregex⟩ := List.mem_map.mp hmem
    exact ⟨regex, hregex.symm⟩

/-- The tree of `${a:matches(${p})}`. -/
def computedMatch : Compiled where
  source := "${a:matches(${p})}"
  root := .call ⟨.boolean, "matches(${p})", ⟨4, 17⟩⟩ .matchesWhole
    (some (.attribute ⟨.string, "a", ⟨2, 3⟩⟩ "a")) (some .string)
    [.attribute ⟨.string, "p", ⟨14, 15⟩⟩ "p"] [some .string] none
  formats := .standard
  slots := 0
  referenced := ["a", "p"]

theorem compile_computedMatch :
    Compiler.standard.compile computedMatch.source = .ok computedMatch := by
  cbv

/-- A regular expression that is computed, and matches more than a whole text; and one with a branch
that spans a text, though another comes first. -/
theorem whole_matches_computedMatch :
    let attributes := Record.attributes ⟨[("a", "xz"), ("p", "x)|(?:y")]⟩
    let env := computedMatch.environment attributes .epoch
    Compiler.standard.compile computedMatch.source = .ok computedMatch ∧
      Regex.matchesWhole "x)|(?:y" "xz" = .ok true ∧
      (computedMatch.root.eval env .fresh).1 = .ok (.boolean true) ∧
      ∃ regex, Regex.read "|x" = .ok regex ∧ regex.tree.Spans "x".toList := by
  intro attributes env
  obtain ⟨hcalls, -, hspans⟩ := whole_matches .standard _ _ compile_computedMatch
  obtain ⟨left, right, hleft, hright, -, heval⟩ :=
    hcalls _ (Node.mem_all_self _) _ _ _ _ _ _ rfl
  cases hleft
  cases hright
  have hmatch : Regex.matchesWhole "x)|(?:y" "xz" = .ok true := by cbv
  have hresult := heval env .fresh ⟨[], 0, ["a"]⟩ ⟨[], 0, ["p", "a"]⟩ (.string "xz")
    (.string "x)|(?:y") (by cbv) (by cbv)
  refine ⟨compile_computedMatch, hmatch, hresult.trans ?_, ?_⟩
  · change ((Regex.matchesWhole "x)|(?:y" "xz").map Value.boolean).mapError _ = _
    rw [hmatch]
    rfl
  · have hbranch : Regex.matchesWhole "|x" "x" = .ok true := by cbv
    have hok : (Regex.read "|x").isOk = true := by cbv
    cases hread : Regex.read "|x" with
    | error e =>
      rw [hread] at hok
      cases hok
    | ok regex =>
      refine ⟨regex, rfl, ?_⟩
      rcases hspans _ _ hread with ⟨-, h⟩ | ⟨-, h⟩ | ⟨-, h⟩ | hall
      case inr.inr.inr =>
        obtain ⟨matched, hmatched, hiff⟩ := hall "x"
        cases hmatched.symm.trans hbranch
        exact hiff.mp rfl
      all_goals
        rw [Regex.matchesWhole, h] at hbranch
        cases hbranch

/-- Comments and parentheses in a regular expression can take away what is put around it. -/
theorem anchors_lost :
    (Regex.read "(?x)a #c").isOk = true ∧ Regex.readWhole "(?x)a #c" = .error .unclosedGroup ∧
      Regex.read "x)|(?:y" = .error .unopenedGroup ∧
      Regex.matchesWhole "x)|(?:y" "xz" = .ok true ∧
      (resultOn [("a", "a")] "$\x7ba:matches('(?x)a #c')\x7d").isOk = false ∧
      resultOn [("a", "xz")] "$\x7ba:matches('x)|(?:y')\x7d" = .ok (.ok (.boolean true)) :=
  ⟨by cbv, by cbv, by cbv, by cbv, by cbv, by cbv⟩

end Compiled

end AttrExpr
