import AttrExpr.Proofs.PatternCalls
import AttrExpr.Proofs.Quantifiers
import AttrExpr.Proofs.Relaying

/-! Dividing a value at a delimiter and joining the pieces is replacing the delimiter. -/
set_option autoImplicit false

namespace AttrExpr

/-! Texts that are divided and joined. -/

namespace Text

variable (delimiter separator : List Char)

theorem piecesFrom_ne_nil (cs : List Char) (skip : Nat) : piecesFrom delimiter skip cs ≠ [] := by
  induction cs generalizing skip with
  | nil => exact List.cons_ne_nil _ _
  | cons c cs ih =>
    cases skip with
    | succ skip => exact ih skip
    | zero =>
      rw [piecesFrom]
      split
      · exact List.cons_ne_nil _ _
      · obtain ⟨piece, pieces, h⟩ := List.exists_cons_of_ne_nil (ih 0)
        rw [h]
        exact List.cons_ne_nil _ _

/-- The pieces that are still to come, joined, are what is still to be replaced. -/
theorem intercalate_piecesFrom (cs : List Char) (skip : Nat) :
    separator.intercalate (piecesFrom delimiter skip cs) =
      replaceFrom delimiter separator skip cs := by
  induction cs generalizing skip with
  | nil => rfl
  | cons c cs ih =>
    cases skip with
    | succ skip => exact ih skip
    | zero =>
      rw [piecesFrom, replaceFrom]
      split
      · rw [List.intercalate_cons_of_ne_nil (piecesFrom_ne_nil _ _ _), ih, List.nil_append]
      · obtain ⟨piece, pieces, h⟩ :=
          List.exists_cons_of_ne_nil (piecesFrom_ne_nil delimiter cs 0)
        rw [← ih, h, List.modifyHead_cons]
        cases pieces with
        | nil => rw [List.intercalate_singleton, List.intercalate_singleton]
        | cons other pieces =>
          rw [List.intercalate_cons_cons, List.intercalate_cons_cons]
          rfl

/-- Replacing a text by itself changes nothing. What is skipped is the rest of an occurrence, which
has been put in place already. -/
theorem replaceFrom_self (hdelimiter : delimiter ≠ []) (cs : List Char) (skip : Nat) :
    replaceFrom delimiter delimiter skip cs = cs.drop skip := by
  induction cs generalizing skip with
  | nil => rw [replaceFrom, List.drop_nil]
  | cons c cs ih =>
    cases skip with
    | succ skip => exact ih skip
    | zero =>
      rw [replaceFrom, List.drop_zero]
      split
      · next h =>
        obtain ⟨rest, hrest⟩ := Option.isSome_iff_exists.mp h
        have hcs := (after?_eq_some_iff _ _ _).mp hrest
        obtain ⟨first, others, rfl⟩ := List.exists_cons_of_ne_nil hdelimiter
        rw [List.cons_append, List.cons.injEq] at hcs
        obtain ⟨rfl, rfl⟩ := hcs
        rw [ih, List.length_cons, Nat.add_sub_cancel, List.drop_left, List.cons_append]
      · rw [ih, List.drop_zero]

end Text

theorem replaceText_self (cs search : List Char) : replaceText cs search search = cs := by
  unfold replaceText
  split
  · rfl
  · next h => exact Text.replaceFrom_self search (by simpa using h) cs 0

/-- The pieces of a text, joined. An empty text has no pieces, but joins to the empty text. -/
theorem intercalate_delineate (text delimiter separator : String) :
    separator.intercalate (delineate text delimiter) =
      .ofList (replaceText text.toList delimiter.toList separator.toList) := by
  rw [← String.toList_inj, String.toList_intercalate, String.toList_ofList]
  unfold delineate replaceText
  by_cases ht : text = ""
  · subst ht
    simp [Text.replaceAll, Text.replaceFrom]
  by_cases hd : delimiter = ""
  · subst hd
    simp [ht]
  · have hpieces := Text.intercalate_piecesFrom delimiter.toList separator.toList text.toList 0
    simpa [ht, hd, Function.comp_def, Text.pieces, Text.replaceAll] using hpieces

/-! The two trees. -/

namespace Node

/-- A value in which a delimiter is replaced. -/
def replaced (origin : Origin) (value delimiter separator : Node) : Node :=
  .call origin .replace (some value) (some .string) [delimiter, separator]
    [some .string, some .string] none

/-- A value that is divided at a delimiter and joined. -/
def rejoined (origin inner : Origin) (slot : Nat) (value delimiter separator : Node) : Node :=
  .quantifier origin slot (.delineated value delimiter) (.join separator)
    (.loopVariable inner slot)

/-- The text with a delimiter replaced, from the operands in their order. -/
def replacing (value delimiter separator : Node) : Eval Value := do
  let text ← value.eval
  let search ← delimiter.eval
  let replacement ← separator.eval
  pure (.string (.ofList
    (replaceText text.text.toList search.text.toList replacement.text.toList)))

theorem eval_replaced (origin : Origin) (value delimiter separator : Node) :
    (replaced origin value delimiter separator).eval = replacing value delimiter separator := by
  rw [replaced, eval, replacing]
  simp only [ActiveCall.value, Function.family, ActiveCall.subjectText, ActiveCall.subjectValue,
    ActiveCall.rawSubject, ActiveCall.coerceSubject, evalSubject, ActiveCall.onText, evalArgs,
    operands, ActiveCall.textArg, ActiveCall.arg, Operand.value, List.zipIdx_cons, List.map_cons,
    List.getElem?_cons_zero, List.getElem?_cons_succ, Option.join_some, Eval.coerceTo_string,
    bind_assoc, pure_bind]
  rfl

end Node

namespace Eval

/-- The pieces of a value are what the loop variable stands for, one after the other. -/
theorem visit_variable (token : String) (slot : Nat) (pieces : List String) (env : Environment)
    (state : State) :
    (visit slot (variableOf token slot) (fun _ => false) (pieces.map .value) env state).1 =
      .ok (pieces.map .string) := by
  induction pieces generalizing state with
  | nil => rfl
  | cons piece pieces ih =>
    have hvariable (following : List Candidate) :
        variableOf token slot env (state.bind slot ⟨.value piece, following⟩) =
          (.ok (.string piece), state.bind slot ⟨.value piece, following⟩) := by
      rw [variableOf, get_bind_apply, State.cursor?_bind_self]
      rfl
    rw [List.map_cons, visit_cons, hvariable]
    simp only [Bool.false_eq_true, if_false]
    rw [bind_apply]
    have hrest := ih (counted ((state.bind slot ⟨.value piece, pieces.map .value⟩).release slot))
    generalize visit slot (variableOf token slot) (fun _ => false) (pieces.map .value) env
      (counted ((state.bind slot ⟨.value piece, pieces.map .value⟩).release slot)) = run at hrest ⊢
    obtain ⟨result, after⟩ := run
    obtain rfl : result = _ := hrest
    rfl

end Eval

/-- A value that is divided and joined is the value with the delimiter replaced. -/
theorem Node.eval_rejoined {origin inner : Origin} {slot : Nat} {value delimiter separator : Node}
    (h : (rejoined origin inner slot value delimiter separator).WellFormed) (env : Environment)
    (state : State) :
    ((rejoined origin inner slot value delimiter separator).eval env state).1 =
      (replacing value delimiter separator env state).1 := by
  have hsound : QuantifierSound origin slot (.delineated value delimiter) (.join separator)
      (.loopVariable inner slot) := h.self
  have hbody : (Node.loopVariable inner slot).WellFormed := h.child (by simp [rejoined, children])
  have hjoin (pieces : List String) (sep : String) :
      (Fold.join sep).combine (pieces.map .string) = .string (sep.intercalate pieces) := by
    have hset : (pieces.map Value.string).filter (fun value => !value.isUnset) =
        pieces.map .string := List.filter_eq_self.mpr (by simp [Value.isUnset])
    simp [Fold.combine, hset, Function.comp_def, Value.text]
  rw [rejoined, hsound.eval_eq_folded hbody, Eval.folded, replacing]
  simp only [evalSource, evalFold, CandidateSource.evaluated, Fold.evaluated, bind_assoc, pure_bind]
  rw [Eval.bind_apply, Eval.bind_apply]
  rcases value.eval env state with ⟨error | text, state⟩
  · rfl
  dsimp only
  rw [Eval.bind_apply, Eval.bind_apply]
  rcases delimiter.eval env state with ⟨error | search, state⟩
  · rfl
  dsimp only
  rw [Eval.bind_apply, Eval.bind_apply]
  -- the separator is evaluated before a piece is visited, as `replace` evaluates it before it cuts
  rcases separator.eval env state with ⟨error | replacement, state⟩
  · rfl
  dsimp only
  have hvalues := Eval.visit_variable inner.token slot (delineate text.text search.text) env state
  have hdecides : (Fold.join replacement.text).decides = fun _ => false := rfl
  rw [Eval.bind_apply, eval, CandidateSource.listed, hdecides]
  generalize Eval.visit slot (Eval.variableOf inner.token slot) (fun _ => false)
    ((delineate text.text search.text).map .value) env state = run at hvalues ⊢
  obtain ⟨result, after⟩ := run
  obtain rfl : result = _ := hvalues
  simp only [Eval.pure_apply, hjoin, intercalate_delineate]

namespace Lower

variable {scope : Scope} {before after : Progress} {value delimiter separator : PlannedArg}
  {node : Node} {nameSpan nameSpan' span span' : Span}

/-- What `replace` makes of a node and of its arguments. -/
theorem makes_replace {value result : Node} :
    Makes (chain value [⟨"replace", nameSpan, span, [delimiter, separator]⟩]) scope before result
        after ↔
      ∃ d between s, Makes delimiter.lower scope before d between ∧
        Makes separator.lower scope between s after ∧
        result = .replaced ⟨.string, span.token scope.source, span⟩ value d s := by
  have hname : resolve "replace" nameSpan = pure Function.replace := resolve_name .replace nameSpan
  have hchain : chain value [⟨"replace", nameSpan, span, [delimiter, separator]⟩] =
      call .replace (some value) ⟨"replace", nameSpan, span, [delimiter, separator]⟩ span := by
    rw [chain, hname, pure_bind]
    exact bind_pure (call .replace (some value) _ span)
  have harity : Function.replace.signature.accepts 2 = true := by decide
  have hsubject : Function.replace.signature.subject = some (.kind .string) := rfl
  have hfirst : Function.replace.signature.param 0 = .kind .string := rfl
  have hsecond : Function.replace.signature.param (0 + 1) = .kind .string := rfl
  have hpattern : literalPattern .replace [delimiter, separator] = pure none := rfl
  simp only [hchain, call, checkArity, subjectTarget, arguments, harity, hsubject, hfirst, hsecond,
    hpattern, Kind.resolve_string, List.length_cons, List.length_nil, Nat.zero_add, Nat.reduceAdd,
    if_true, pure_bind, bind_assoc, makes_bind, makes_pure, makes_origin]
  constructor
  · rintro ⟨d, between, hd, s, _, hs, _, _, ⟨rfl, rfl⟩, rfl, rfl⟩
    exact ⟨d, between, s, hd, hs, rfl⟩
  · rintro ⟨d, between, s, hd, hs, rfl⟩
    exact ⟨d, between, hd, s, _, hs, _, _, ⟨rfl, rfl⟩, rfl, rfl⟩

/-- What is made of a value in which a delimiter is replaced. -/
theorem makes_replaced :
    Makes (callExpression ⟨"literal", nameSpan, span, [value]⟩
        [⟨"replace", nameSpan', span', [delimiter, separator]⟩]) scope before node after ↔
      ∃ v p d q s, Makes value.lower scope before v p ∧ Makes delimiter.lower scope p d q ∧
        Makes separator.lower scope q s after ∧
        node = .replaced ⟨.string, span'.token scope.source, span'⟩
          (.relayed ⟨v.kind, span.token scope.source, span⟩ v) d s := by
  rw [callExpression_literal _ rfl, makes_bind]
  constructor
  · rintro ⟨_, p, hvalue, hcall⟩
    obtain ⟨v, hv, rfl⟩ := makes_literalCall.mp hvalue
    obtain ⟨d, q, s, hd, hs, rfl⟩ := makes_replace.mp hcall
    exact ⟨v, p, d, q, s, hv, hd, hs, rfl⟩
  · rintro ⟨v, p, d, q, s, hv, hd, hs, rfl⟩
    exact ⟨_, p, makes_literalCall.mpr ⟨v, hv, rfl⟩, makes_replace.mpr ⟨d, q, s, hd, hs, rfl⟩⟩

/-- What is made of a value that is divided and joined. The slot is handed out before the separator
is lowered. -/
theorem makes_rejoined :
    Makes (callExpression ⟨"allDelineatedValues", nameSpan, span, [value, delimiter]⟩
        [⟨"join", nameSpan', span', [separator]⟩]) scope before node after ↔
      ∃ v p d q s, Makes value.lower scope before v p ∧ Makes delimiter.lower scope p d q ∧
        Makes separator.lower scope { q with slots := q.slots + 1 } s after ∧
        node = .rejoined
          ⟨.string, (span.merge span').token scope.source, span.merge span'⟩
          ⟨.string, span.token scope.source, span⟩ q.slots v d s := by
  have hname : resolve "allDelineatedValues" nameSpan = pure Function.allDelineatedValues :=
    resolve_name .allDelineatedValues nameSpan
  have hjoin : resolve "join" nameSpan' = pure Function.join := resolve_name .join nameSpan'
  have hquantifier : Function.allDelineatedValues.quantifier? = some (.delineated, true) := rfl
  have harity : Function.allDelineatedValues.signature.accepts 2 = true := by decide
  have harity' : Function.join.signature.accepts 1 = true := by decide
  have hcall : isReducerCall ⟨"join", nameSpan', span', [separator]⟩ = true := by
    rw [isReducerCall, show Function.ofName? "join" = some .join from Function.join.ofName?_name]
    rfl
  rw [callExpression, hname, pure_bind, hquantifier]
  simp only [quantifier, checkArity, harity, harity', candidateSource, List.takeWhile_cons,
    List.dropWhile_cons, hcall, Bool.not_true, Bool.false_eq_true, if_false, if_true, chain,
    reducerFold, hjoin, List.length_cons, List.length_nil, Nat.zero_add, Nat.reduceAdd, pure_bind,
    bind_assoc, makes_bind, makes_pure, makes_origin, makes_newSlot]
  constructor
  · rintro ⟨v, p, hv, d, q, hd, _, _, ⟨rfl, rfl⟩, _, _, ⟨rfl, rfl⟩, s, _, hs, _, _, ⟨rfl, rfl⟩, rfl,
      rfl⟩
    exact ⟨v, p, d, q, s, hv, hd, hs, rfl⟩
  · rintro ⟨v, p, d, q, s, hv, hd, hs, rfl⟩
    exact ⟨v, p, hv, d, q, hd, _, _, ⟨rfl, rfl⟩, _, _, ⟨rfl, rfl⟩, s, _, hs, _, _, ⟨rfl, rfl⟩, rfl,
      rfl⟩

end Lower

/-! The two sources. -/

/-- The source that divides a value at a delimiter and joins the pieces. -/
def rejoining (value delimiter separator : String) : String :=
  "$\x7b" ++
    ("allDelineatedValues(" ++ value ++ "," ++ delimiter ++ "):join(" ++ separator ++ ")\x7d")

/-- The source that replaces a delimiter in a value. -/
def replacing (value delimiter separator : String) : String :=
  "$\x7b" ++ ("literal(" ++ value ++ "):replace(" ++ delimiter ++ "," ++ separator ++ ")\x7d")

/-- A source compiles where its three operands do on their own. Its tree is made of nodes that give
what they give. -/
structure Compiler.MadeOf (compiler : Compiler) (source value delimiter separator : String)
    (Root : Node → Node → Node → Node → Prop) : Prop where
  operands : ∀ {compiled : Compiled}, compiler.compile source = .ok compiled →
    ∃ cv cd cs, compiler.compile (relaying value) = .ok cv ∧
      compiler.compile (relaying delimiter) = .ok cd ∧
      compiler.compile (relaying separator) = .ok cs ∧
      ∃ nv nd ns, Root nv nd ns compiled.root ∧ nv.Repeats cv ∧ nd.Repeats cd ∧ ns.Repeats cs
  compiles : ∀ {cv cd cs : Compiled}, compiler.compile (relaying value) = .ok cv →
    compiler.compile (relaying delimiter) = .ok cd →
    compiler.compile (relaying separator) = .ok cs →
    ∃ compiled, compiler.compile source = .ok compiled

section

variable {value delimiter separator : String} {v d s : Argument}
  (hv : v.SpelledBy value.toList) (hd : d.SpelledBy delimiter.toList)
  (hs : s.SpelledBy separator.toList) {compiler : Compiler}

include hv hd hs

/-- The operands are lowered one after the other, with other progress before the last one. -/
theorem Compiler.MadeOf.of_makes {source : String} {expr : Expression}
    {first second third : List Char} (hexpr : expr.EmbeddedBy source.toList)
    (hfirst : first ++ value.toList <+: source.toList)
    (hsecond : second ++ delimiter.toList <+: source.toList)
    (hthird : third ++ separator.toList <+: source.toList) (between : Progress → Progress)
    (build : Progress → Node → Node → Node → Node)
    (hmakes : ∀ node after, expr.lower.Makes ⟨source.toList, compiler.declared⟩ ⟨0, []⟩ node after ↔
      ∃ nv p nd q ns,
        (v.behind first).plan.lower.Makes ⟨source.toList, compiler.declared⟩ ⟨0, []⟩ nv p ∧
        (d.behind second).plan.lower.Makes ⟨source.toList, compiler.declared⟩ p nd q ∧
        (s.behind third).plan.lower.Makes ⟨source.toList, compiler.declared⟩ (between q) ns after ∧
        node = build q nv nd ns)
    {Root : Node → Node → Node → Node → Prop}
    (hroot : ∀ q nv nd ns, Root nv nd ns (build q nv nd ns)) :
    compiler.MadeOf source value delimiter separator Root where
  operands h := by
    obtain ⟨-, -, h⟩ := (Compiler.compile_embedded_iff hexpr).mp h
    obtain ⟨nv, p, nd, q, ns, hnv, hnd, hns, hnode⟩ := (hmakes _ _).mp h
    obtain ⟨cv, hcv, hrv⟩ := hv.relaying_of_makes hfirst _ hnv
    obtain ⟨cd, hcd, hrd⟩ := hd.relaying_of_makes hsecond _ hnd
    obtain ⟨cs, hcs, hrs⟩ := hs.relaying_of_makes hthird _ hns
    exact ⟨cv, cd, cs, hcv, hcd, hcs, nv, nd, ns, hnode ▸ hroot q nv nd ns, hrv, hrd, hrs⟩
  compiles hcv hcd hcs := by
    obtain ⟨nv, p, hnv, -⟩ := hv.makes_of_relaying hfirst ⟨0, []⟩ hcv
    obtain ⟨nd, q, hnd, -⟩ := hd.makes_of_relaying hsecond p hcd
    obtain ⟨ns, r, hns, -⟩ := hs.makes_of_relaying hthird (between q) hcs
    obtain ⟨compiled, hcompiled, -⟩ := Compiler.exists_compile_embedded hexpr
      ((hmakes _ _).mpr ⟨nv, p, nd, q, ns, hnv, hnd, hns, rfl⟩)
    exact ⟨compiled, hcompiled⟩

theorem rejoining_spelled :
    ∃ first second third nameSpan span nameSpan' span',
      first ++ value.toList <+: (rejoining value delimiter separator).toList ∧
      second ++ delimiter.toList <+: (rejoining value delimiter separator).toList ∧
      third ++ separator.toList <+: (rejoining value delimiter separator).toList ∧
      (Expression.mk
        (.call (.mk "allDelineatedValues" nameSpan [v.behind first, d.behind second] span))
        [.mk "join" nameSpan' [s.behind third] span']).EmbeddedBy
          (rejoining value delimiter separator).toList := by
  let first := "$\x7ballDelineatedValues(".toList
  let second := first ++ value.toList ++ ",".toList
  let third := second ++ delimiter.toList ++ "):join(".toList
  have hfirst : Text.byteLength first = 22 := by decide
  have hcomma : Text.byteLength ",".toList = 1 := by decide
  have hjoin : Text.byteLength "):join(".toList = 7 := by decide
  have hname : Text.byteLength Function.allDelineatedValues.name.toList = 19 := by decide
  have hname' : Text.byteLength Function.join.name.toList = 4 := by decide
  have hcalls := Expression.EmbeddedBy.calls .allDelineatedValues .join
    (hv.both hd (0 + 2 + Text.byteLength Function.allDelineatedValues.name.toList) _)
    (hs.alone _ ['\x7d'])
  have htext : (rejoining value delimiter separator).toList = '$' :: '\x7b' ::
      (Function.allDelineatedValues.name.toList ++ '(' :: (value.toList ++ ',' ::
        (delimiter.toList ++ ')' :: ':' :: (Function.join.name.toList ++
          '(' :: (separator.toList ++ ')' :: ['\x7d']))))) := by
    simp [rejoining, Function.name]
  rw [hname, hname'] at hcalls
  obtain ⟨nameSpan, span, nameSpan', span', hcalls⟩ := hcalls
  refine ⟨first, second, third, nameSpan, span, nameSpan', span', ?_, ?_, ?_, ?_⟩
  · simp [rejoining, first]
  · simp [rejoining, first, second]
  · simp [rejoining, first, second, third]
  · simp only [htext, Argument.behind, second, third, Text.byteLength_append, hfirst, hcomma, hjoin]
    exact hcalls

theorem replacing_spelled :
    ∃ first second third nameSpan span nameSpan' span',
      first ++ value.toList <+: (replacing value delimiter separator).toList ∧
      second ++ delimiter.toList <+: (replacing value delimiter separator).toList ∧
      third ++ separator.toList <+: (replacing value delimiter separator).toList ∧
      (Expression.mk (.call (.mk "literal" nameSpan [v.behind first] span))
        [.mk "replace" nameSpan' [d.behind second, s.behind third] span']).EmbeddedBy
          (replacing value delimiter separator).toList := by
  let first := "$\x7bliteral(".toList
  let second := first ++ value.toList ++ "):replace(".toList
  let third := second ++ delimiter.toList ++ ",".toList
  have hfirst : Text.byteLength first = 10 := by decide
  have hcomma : Text.byteLength ",".toList = 1 := by decide
  have hreplace : Text.byteLength "):replace(".toList = 10 := by decide
  have hname : Text.byteLength Function.literal.name.toList = 7 := by decide
  have hname' : Text.byteLength Function.replace.name.toList = 7 := by decide
  have hcalls := Expression.EmbeddedBy.calls .literal .replace
    (hv.alone (0 + 2 + Text.byteLength Function.literal.name.toList) _)
    (hd.both hs _ ['\x7d'])
  have htext : (replacing value delimiter separator).toList = '$' :: '\x7b' ::
      (Function.literal.name.toList ++ '(' :: (value.toList ++ ')' :: ':' ::
        (Function.replace.name.toList ++ '(' :: (delimiter.toList ++ ',' ::
          (separator.toList ++ ')' :: ['\x7d']))))) := by
    simp [replacing, Function.name]
  rw [hname, hname'] at hcalls
  obtain ⟨nameSpan, span, nameSpan', span', hcalls⟩ := hcalls
  refine ⟨first, second, third, nameSpan, span, nameSpan', span', ?_, ?_, ?_, ?_⟩
  · simp [replacing, first]
  · simp [replacing, first, second]
  · simp [replacing, first, second, third]
  · simp only [htext, Argument.behind, second, third, Text.byteLength_append, hfirst, hcomma,
      hreplace]
    exact hcalls

theorem rejoining_madeOf :
    compiler.MadeOf (rejoining value delimiter separator) value delimiter separator
      fun nv nd ns root => ∃ origin inner slot, root = .rejoined origin inner slot nv nd ns := by
  obtain ⟨first, second, third, _, _, _, _, hfirst, hsecond, hthird, hexpr⟩ :=
    rejoining_spelled hv hd hs
  refine .of_makes hv hd hs hexpr hfirst hsecond hthird
    (fun q => { q with slots := q.slots + 1 }) ?_ ?hmakes fun q nv nd ns => ?_
  case hmakes =>
    intro node after
    simp only [Expression.lower, Subject.plan, Lower.expression, Call.plan, planCalls, planArgs]
    exact Lower.makes_rejoined
  exact ⟨_, _, _, rfl⟩

theorem replacing_madeOf :
    compiler.MadeOf (replacing value delimiter separator) value delimiter separator
      fun nv nd ns root => ∃ origin inner, root = .replaced origin (.relayed inner nv) nd ns := by
  obtain ⟨first, second, third, _, _, _, _, hfirst, hsecond, hthird, hexpr⟩ :=
    replacing_spelled hv hd hs
  refine .of_makes hv hd hs hexpr hfirst hsecond hthird id ?_ ?hmakes fun q nv nd ns => ?_
  case hmakes =>
    intro node after
    simp only [Expression.lower, Subject.plan, Lower.expression, Call.plan, planCalls, planArgs]
    exact Lower.makes_replaced
  exact ⟨_, _, rfl⟩

end

/-! What the operands give on their own. -/

theorem Value.text_atRoot (value : Value) : value.atRoot.text = value.text := by
  cases value <;> rfl

namespace Compiled

variable {compiler : Compiler} {source : String} {compiled : Compiled}

theorem evaluateString_eq_root (h : compiler.compile source = .ok compiled)
    (attributes : Attributes) (clock : Instant) :
    compiled.evaluateString attributes clock =
      (compiled.root.eval (compiled.environment attributes clock) .fresh).1.map Value.text := by
  rw [evaluateString, evaluate, run_eq_root h]
  cases (compiled.root.eval (compiled.environment attributes clock) .fresh).1 with
  | error error => rfl
  | ok value => exact congrArg Except.ok value.text_atRoot

end Compiled

/-- A node that repeats a source, followed by what uses its value. -/
theorem Node.Repeats.bind {node : Node} {compiled : Compiled} (h : node.Repeats compiled)
    (env : Environment) {state : State} (hstate : state.Unbound) :
    ∃ after : State, after.Unbound ∧ ∀ f : Value → Eval Value, ((node.eval >>= f) env state).1 =
      (compiled.root.eval env .fresh).1.bind fun value => (f value env after).1 := by
  refine ⟨state.onto (compiled.root.eval env .fresh).2,
    compiled.root.eval_unbound env .fresh State.unbound_fresh, fun f => ?_⟩
  rw [Eval.bind_apply, h env state hstate]
  rcases (compiled.root.eval env .fresh).1 with error | value <;> rfl

/-- A text with a delimiter replaced, where the operands give what sources give. -/
theorem Node.replacing_apply {nv nd ns : Node} {cv cd cs : Compiled} (hv : nv.Repeats cv)
    (hd : nd.Repeats cd) (hs : ns.Repeats cs) (env : Environment) :
    (replacing nv nd ns env .fresh).1 = (do
      let text ← (cv.root.eval env .fresh).1.map Value.text
      let search ← (cd.root.eval env .fresh).1.map Value.text
      let replacement ← (cs.root.eval env .fresh).1.map Value.text
      pure (.string (.ofList
        (replaceText text.toList search.toList replacement.toList)))) := by
  obtain ⟨first, hfirst, hv⟩ := hv.bind env State.unbound_fresh
  refine (hv _).trans ?_
  rcases (cv.root.eval env .fresh).1 with error | text
  · rfl
  obtain ⟨second, hsecond, hd⟩ := hd.bind env hfirst
  refine (hd _).trans ?_
  rcases (cd.root.eval env .fresh).1 with error | search
  · rfl
  obtain ⟨_, -, hs⟩ := hs.bind env hsecond
  refine (hs _).trans ?_
  rcases (cs.root.eval env .fresh).1 with error | replacement <;> rfl

namespace Compiled

/-- A value that is divided at a delimiter and joined, and one in which the delimiter is replaced.
Both compile or neither does; they give the same, from what the operands give on their own. When the
separator is the delimiter that is the text of the value. -/
theorem rejoining_is_replacing (compiler : Compiler) (value delimiter separator : String)
    (v d s : Argument) (hv : v.SpelledBy value.toList) (hd : d.SpelledBy delimiter.toList)
    (hs : s.SpelledBy separator.toList) :
    ((∃ joined, compiler.compile (rejoining value delimiter separator) = .ok joined) ↔
      ∃ replaced, compiler.compile (replacing value delimiter separator) = .ok replaced) ∧
    ∀ joined replaced,
      compiler.compile (rejoining value delimiter separator) = .ok joined →
      compiler.compile (replacing value delimiter separator) = .ok replaced →
      ∃ cv cd cs, compiler.compile (relaying value) = .ok cv ∧
        compiler.compile (relaying delimiter) = .ok cd ∧
        compiler.compile (relaying separator) = .ok cs ∧
        ∀ (attributes : Attributes) (clock : Instant),
          joined.evaluate attributes clock = replaced.evaluate attributes clock ∧
          replaced.evaluate attributes clock = (do
            let text ← cv.evaluateString attributes clock
            let search ← cd.evaluateString attributes clock
            let replacement ← cs.evaluateString attributes clock
            pure (.string (.ofList
              (replaceText text.toList search.toList replacement.toList)))) ∧
          ∀ text same, cv.evaluateString attributes clock = .ok text →
            cd.evaluateString attributes clock = .ok same →
            cs.evaluateString attributes clock = .ok same →
            joined.evaluate attributes clock = .ok (.string text) := by
  have hjoin : compiler.MadeOf (rejoining value delimiter separator) _ _ _ _ :=
    rejoining_madeOf hv hd hs
  have hreplace : compiler.MadeOf (replacing value delimiter separator) _ _ _ _ :=
    replacing_madeOf hv hd hs
  refine ⟨⟨?_, ?_⟩, fun joined replaced hjoined hreplaced => ?_⟩
  · rintro ⟨joined, h⟩
    obtain ⟨cv, cd, cs, hcv, hcd, hcs, -⟩ := hjoin.operands h
    exact hreplace.compiles hcv hcd hcs
  · rintro ⟨replaced, h⟩
    obtain ⟨cv, cd, cs, hcv, hcd, hcs, -⟩ := hreplace.operands h
    exact hjoin.compiles hcv hcd hcs
  · obtain ⟨cv, cd, cs, hcv, hcd, hcs, nv, nd, ns, ⟨origin, inner, slot, hroot⟩, hrv, hrd, hrs⟩ :=
      hjoin.operands hjoined
    obtain ⟨cv', cd', cs', hcv', hcd', hcs', nv', nd', ns', ⟨origin', inner', hroot'⟩, hrv', hrd',
      hrs'⟩ := hreplace.operands hreplaced
    rw [Node.Repeats, ← Node.eval_relayed inner'] at hrv'
    obtain rfl : cv = cv' := Except.ok.inj (hcv.symm.trans hcv')
    obtain rfl : cd = cd' := Except.ok.inj (hcd.symm.trans hcd')
    obtain rfl : cs = cs' := Except.ok.inj (hcs.symm.trans hcs')
    refine ⟨cv, cd, cs, hcv, hcd, hcs, fun attributes clock => ?_⟩
    -- all of them are evaluated with the formats of the compiler
    have henv {source : String} {compiled : Compiled}
        (h : compiler.compile source = .ok compiled) :
        compiled.environment attributes clock = ⟨attributes, compiler.formats, clock⟩ := by
      rw [environment, (Compiler.compile_ok_iff.mp h).2.1]
    have hwell := (Compiler.compile_wellFormed hjoined).1
    rw [hroot] at hwell
    have hleft := Node.eval_rejoined hwell ⟨attributes, compiler.formats, clock⟩ .fresh
    rw [Node.replacing_apply hrv hrd hrs] at hleft
    have hright := Node.replacing_apply hrv' hrd' hrs' ⟨attributes, compiler.formats, clock⟩
    rw [← Node.eval_replaced origin'] at hright
    rw [evaluate, evaluate, run_eq_root hjoined, run_eq_root hreplaced,
      evaluateString_eq_root hcv, evaluateString_eq_root hcd, evaluateString_eq_root hcs,
      henv hjoined, henv hreplaced, henv hcv, henv hcd, henv hcs, hroot, hroot', hleft, hright]
    refine ⟨rfl, ?_, ?_⟩
    · rcases (cv.root.eval ⟨attributes, compiler.formats, clock⟩ .fresh).1 with error | text
      · rfl
      rcases (cd.root.eval ⟨attributes, compiler.formats, clock⟩ .fresh).1 with error | search
      · rfl
      rcases (cs.root.eval ⟨attributes, compiler.formats, clock⟩ .fresh).1 with error | other <;>
        rfl
    · intro text same htext hsearch hreplacement
      rw [htext, hsearch, hreplacement]
      change Except.ok (Value.string
        (.ofList (replaceText text.toList same.toList same.toList))) = _
      rw [replaceText_self, String.ofList_toList]

/-- A delimiter that overlaps itself, at both ends of a value. -/
theorem rejoining_is_replacing_overlapping :
    let record := Record.attributes ⟨[("a", "xxxyxx")]⟩
    ∃ v d s : Argument, v.SpelledBy "${a}".toList ∧ d.SpelledBy "'xx'".toList ∧
      s.SpelledBy "'-'".toList ∧
      ∃ joined replaced,
        Compiler.standard.compile (rejoining "${a}" "'xx'" "'-'") = .ok joined ∧
        Compiler.standard.compile (replacing "${a}" "'xx'" "'-'") = .ok replaced ∧
        joined.evaluate record .epoch = .ok (.string "-xy-") ∧
        replaced.evaluate record .epoch = .ok (.string "-xy-") := by
  intro record
  have hread (text : String) (arg : Argument)
      (h : readArgument (readExpression 8) ⟨0, text.toList⟩ =
        .ok (arg, ⟨Text.byteLength text.toList, []⟩)) : arg.SpelledBy text.toList := .of_read h
  have hv := hread "${a}" _ (by cbv)
  have hd := hread "'xx'" _ (by cbv)
  have hs := hread "'-'" _ (by cbv)
  have hresult : resultOn [("a", "xxxyxx")] (rejoining "${a}" "'xx'" "'-'") =
      .ok (.ok (.string "-xy-")) := by
    cbv
  obtain ⟨joined, hjoined, hvalue⟩ := compile_of_resultOn hresult
  obtain ⟨hboth, hsame⟩ := rejoining_is_replacing .standard _ _ _ _ _ _ hv hd hs
  obtain ⟨replaced, hreplaced⟩ := hboth.mp ⟨joined, hjoined⟩
  obtain ⟨_, _, _, _, _, _, hall⟩ := hsame joined replaced hjoined hreplaced
  obtain ⟨heq, -⟩ := hall record .epoch
  exact ⟨_, _, _, hv, hd, hs, joined, replaced, hjoined, hreplaced, hvalue, heq ▸ hvalue⟩

end Compiled

end AttrExpr
