import AttrExpr.Proofs.References

/-! What an evaluation sees of a record: the values of the names that its tree refers to, and which
names its regular expressions match, with their values. The order of the names is not seen. -/
set_option autoImplicit false

namespace AttrExpr

namespace Eval

/-- An evaluation that reads only certain names comes out the same for other attributes. -/
structure Agrees (env : Environment) (attributes : Attributes) (among : String → Prop) {α : Type}
    (x : Eval α) : Prop where
  confined : Confined env among x
  same : ∀ state : State, state.Confined among → x { env with attributes } state = x env state

namespace Agrees

variable {α β : Type} {env : Environment} {attributes : Attributes} {among : String → Prop}

theorem bind {x : Eval α} {f : α → Eval β} (hx : Agrees env attributes among x)
    (hf : ∀ a, Agrees env attributes among (f a)) : Agrees env attributes among (x >>= f) := by
  refine ⟨hx.confined.bind fun a => (hf a).confined, fun state h => ?_⟩
  have hafter := hx.confined state h
  rw [bind_apply, bind_apply, hx.same state h]
  rcases hr : x env state with ⟨error | a, after⟩
  · rfl
  · rw [hr] at hafter
    exact (hf a).same after hafter

theorem closed : Closed (Agrees env attributes among) where
  pure a := ⟨Confined.closed.pure a, fun _ _ => rfl⟩
  fail cause token := ⟨Confined.closed.fail cause token, fun _ _ => rfl⟩
  bind hx hf := bind hx hf
  settings blind hf := by
    refine ⟨Confined.closed.settings blind fun env' => (hf env').confined, fun state h => ?_⟩
    rw [read_bind_apply, read_bind_apply, blind { env with attributes } env rfl rfl]
    exact (hf env).same state h

theorem lookup {name : String} (hname : among name)
    (hsame : attributes.lookup name = env.attributes.lookup name) :
    Agrees env attributes among (lookup name) := by
  refine ⟨Confined.lookup hname, fun state _ => ?_⟩
  unfold Eval.lookup
  rw [modify_bind_apply, modify_bind_apply, read_bind_apply, read_bind_apply]
  dsimp only
  rw [hsame]
  cases env.attributes.lookup name <;> rfl

theorem variableOf (token : String) (slot : Nat)
    (hsame : ∀ name, among name → attributes.lookup name = env.attributes.lookup name) :
    Agrees env attributes among (variableOf token slot) := by
  refine ⟨Confined.variableOf token slot, fun state h => ?_⟩
  unfold Eval.variableOf
  rw [get_bind_apply, get_bind_apply]
  cases hc : state.cursor? slot with
  | none => rfl
  | some cursor =>
    have hcurrent := h.cursors slot cursor hc cursor.current (by simp)
    dsimp only
    cases hcandidate : cursor.current with
    | value text => rfl
    | «attribute» name =>
      rw [hcandidate] at hcurrent
      exact (lookup hcurrent (hsame name hcurrent)).same state h

theorem get {f : State → Eval α} (hf : ∀ state, Agrees env attributes among (f state)) :
    Agrees env attributes among (get >>= f) :=
  ⟨Confined.get fun state => (hf state).confined, fun state h => (hf state).same state h⟩

theorem advance (slot : Nat) : Agrees env attributes among (advance slot) :=
  ⟨Confined.advance slot, fun state _ => by rw [advance_apply, advance_apply]⟩

theorem drive {token : String} {slot : Nat} {body : Eval Value} {pending : (Nat → Nat) → Nat}
    (hbody : Agrees env attributes among body) (fuel : Nat) (acc : Accumulator) :
    Agrees env attributes among (drive token slot body pending fuel acc) := by
  refine closed.drive hbody ⟨fun state h => ⟨h.cursors, h.reads⟩, fun _ _ => rfl⟩ (fun hx hy => ?_)
    (advance slot) fuel acc
  refine get fun state => ?_
  split
  · exact hx
  · exact hy

theorem loop {token : String} {slot : Nat} {body : Eval Value} {pending : (Nat → Nat) → Nat}
    (cursor : Cursor)
    (hcursor : ∀ candidate ∈ cursor.current :: cursor.following, candidate.Within among)
    (hbody : Agrees env attributes among body) (fuel : Nat) (acc : Accumulator) :
    Agrees env attributes among (do
      modify fun state : State => state.bind slot cursor
      releasing slot (Eval.drive token slot body pending fuel acc)) := by
  refine ⟨Confined.loop cursor hcursor hbody.confined fuel acc, fun state h => ?_⟩
  rw [modify_bind_apply, modify_bind_apply, releasing_apply, releasing_apply,
    (drive hbody fuel acc).same _ (h.bind slot hcursor)]

theorem quantify {token : String} {slot : Nat} {source : CandidateSource (Eval Value)}
    {fold : Fold (Eval Value)} {body : Eval Value} {pending : (Nat → Nat) → Nat}
    (hsource : Agrees env attributes among source.candidates)
    (hwithin : ∀ state candidates after, source.candidates env state = (.ok candidates, after) →
      ∀ candidate ∈ candidates, candidate.Within among)
    (hfold : Agrees env attributes among fold.accumulator)
    (hbody : Agrees env attributes among body) :
    Agrees env attributes among (Eval.quantify token slot source fold body pending) := by
  refine ⟨hsource.confined.quantify hwithin hfold.confined hbody.confined, fun state h => ?_⟩
  have hafter := hsource.confined state h
  rw [Eval.quantify, bind_apply, bind_apply, hsource.same state h]
  rcases hr : source.candidates env state with ⟨error | candidates, after⟩
  · rfl
  · rw [hr] at hafter
    refine (hfold.bind fun acc => ?_).same after hafter
    cases candidates with
    | nil => exact closed.pure _
    | cons candidate following =>
      exact loop ⟨candidate, following⟩ (hwithin state _ after hr) hbody _ acc

end Agrees

end Eval

/-- Regular expressions find the same names in records that have the same names for them to find. -/
theorem CandidateSource.listed_matching {first second : Attributes} {patterns : List Regex}
    (h : ∀ regex ∈ patterns, ∀ name, regex.isMatch name.toList = true →
      (name ∈ second.names ↔ name ∈ first.names)) :
    listed second (.matching patterns) = listed first (.matching patterns) := by
  have hsame : sortedNames (patterns.flatMap second.namesMatching) =
      sortedNames (patterns.flatMap first.namesMatching) := by
    obtain ⟨hfirst, hmem⟩ := sortedNames_spec (patterns.flatMap first.namesMatching)
    obtain ⟨hsecond, hmem'⟩ := sortedNames_spec (patterns.flatMap second.namesMatching)
    refine hsecond.eq_of_mem_iff hfirst fun name => ?_
    rw [hmem, hmem', List.mem_flatMap, List.mem_flatMap]
    refine exists_congr fun regex => and_congr_right fun hregex => ?_
    unfold Attributes.namesMatching
    rw [(sortedNames_spec _).2, (sortedNames_spec _).2, List.mem_filter, List.mem_filter]
    exact and_congr_left fun hmatch => h regex hregex name hmatch
  exact congrArg (List.map Candidate.attribute) hsame

namespace Node

variable {env : Environment} {attributes : Attributes} {among : String → Prop}

/-- A tree comes out the same for attributes that agree on the names that it refers to and on those
that its regular expressions match. -/
theorem eval_agrees (node : Node) (hnames : ∀ name ∈ node.names, among name)
    (hmatching : ∀ regex ∈ node.patterns, ∀ name, regex.isMatch name.toList = true →
      (name ∈ attributes.names ↔ name ∈ env.attributes.names) ∧
        (name ∈ env.attributes.names → among name))
    (hsame : ∀ name, among name → attributes.lookup name = env.attributes.lookup name) :
    Eval.Agrees env attributes among node.eval := by
  have closed : Eval.Closed (Eval.Agrees env attributes among) := Eval.Agrees.closed
  refine eval_closed closed node (fun origin name hnode => ?_)
    (fun origin slot _ => Eval.Agrees.variableOf origin.token slot hsame) ?_
  · have hname := hnames name (mem_names hnode (by simp [ownNames]))
    exact Eval.Agrees.lookup hname (hsame name hname)
  · intro origin slot source fold body hnode hchildren
    rw [eval]
    refine Eval.Agrees.quantify (closed.candidates _ (fun x hx => ?_) fun patterns hs => ?_) ?_
      (closed.accumulator _ fun x hx => ?_) (hchildren body (by simp))
    · rw [operands_evalSource, List.mem_map] at hx
      obtain ⟨child, hc, rfl⟩ := hx
      exact hchildren child (by simp [hc])
    · cases source with
      | named | delineated => cases hs
      | matching =>
        cases hs
        refine ⟨fun _ h => h, fun state _ => ?_⟩
        have hlisted := CandidateSource.listed_matching fun regex hregex name hmatch =>
          (hmatching regex (mem_patterns hnode hregex) name hmatch).1
        exact congrArg (fun candidates => (Except.ok candidates, state)) hlisted
    · intro state candidates after hr
      exact candidates_within hr
        (fun names hs name hname => hnames name (mem_names hnode (by simp [hs, ownNames, hname])))
        fun patterns hs regex hregex name hname hmatch => (hmatching regex
          (mem_patterns hnode (by simp [hs, ownPatterns, hregex])) name hmatch).2 hname
    · rw [operands_evalFold, List.mem_map] at hx
      obtain ⟨child, hc, rfl⟩ := hx
      exact hchildren child (by simp [hc])

end Node

theorem Record.mem_names {record : Record} {name : String} :
    name ∈ record.names ↔ (record.get? name).isSome := by
  unfold Record.names Record.get?
  rw [List.lookup_isSome_iff, List.mem_map]
  exact exists_congr fun entry => and_congr_right fun _ => by rw [beq_iff_eq, eq_comm]

namespace Compiled

/-- Two records that a compiled source cannot tell apart: they agree on the attributes that it
refers to, and its regular expressions match the same names in both, with the same values. -/
structure SameView (compiled : Compiled) (first second : Attributes) : Prop where
  referenced : ∀ name ∈ compiled.referenced, second.lookup name = first.lookup name
  matching : ∀ regex ∈ compiled.root.patterns, ∀ name, regex.isMatch name.toList = true →
    (name ∈ second.names ↔ name ∈ first.names) ∧
      (name ∈ first.names → second.lookup name = first.lookup name)

theorem sameView_of_get? (compiled : Compiled) {first second : Record}
    (h : ∀ name, second.get? name = first.get? name) :
    compiled.SameView first.attributes second.attributes := by
  refine ⟨fun name _ => h name, fun regex _ name _ => ⟨?_, fun _ => h name⟩⟩
  rw [show name ∈ second.attributes.names ↔ _ from Record.mem_names, h name]
  exact Record.mem_names.symm

namespace SameView

variable {compiler : Compiler} {source : String} {compiled : Compiled} {first second : Attributes}

theorem agrees (hview : compiled.SameView first second)
    (h : compiler.compile source = .ok compiled) (formats : Formats) (clock : Instant) :
    Eval.Agrees ⟨first, formats, clock⟩ second (fun name => name ∈ compiled.referenced ∨
      name ∈ first.names ∧ ∃ regex ∈ compiled.root.patterns, regex.isMatch name.toList = true)
      compiled.eval := by
  obtain ⟨-, hmem⟩ := referenced_valid h
  refine Eval.Agrees.bind (compiled.root.eval_agrees
    (fun name hname => .inl ((hmem name).mpr hname)) (fun regex hregex name hmatch => ?_) ?_)
    fun value => Eval.Agrees.get fun state => ?_
  · obtain ⟨hsame, -⟩ := hview.matching regex hregex name hmatch
    exact ⟨hsame, fun hin => .inr ⟨hin, regex, hregex, hmatch⟩⟩
  · rintro name (hname | ⟨hin, regex, hregex, hmatch⟩)
    · exact hview.referenced name hname
    · exact (hview.matching regex hregex name hmatch).2 hin
  · dsimp only
    split
    · exact Eval.Agrees.closed.fail _ _
    · split <;> exact Eval.Agrees.closed.pure _

theorem eval_eq (hview : compiled.SameView first second)
    (h : compiler.compile source = .ok compiled) (formats : Formats) (clock : Instant)
    {state : State} (hstate : state.Unbound) :
    compiled.eval ⟨second, formats, clock⟩ state = compiled.eval ⟨first, formats, clock⟩ state := by
  have hfresh := (hview.agrees h formats clock).same .fresh
    ⟨fun _ _ hc => (by cases hc), by simp [State.fresh]⟩
  -- what was read and counted before is not seen
  have honto (attributes : Attributes) :
      compiled.eval ⟨attributes, formats, clock⟩ state =
        ((compiled.eval ⟨attributes, formats, clock⟩ .fresh).1,
          state.onto (compiled.eval ⟨attributes, formats, clock⟩ .fresh).2) := by
    have hacc := compiled.eval_accumulates ⟨attributes, formats, clock⟩ state .fresh
    rwa [State.onto_fresh state hstate] at hacc
  rw [honto first, honto second, hfresh]

end SameView

/-- An evaluation sees the values of the attributes that its source refers to and those that its
regular expressions match, whatever else is in the record and in whatever order. It gives the same
result or fails in the same way, and it looks up the same names and counts as many bodies. -/
theorem view_determines_evaluation (compiler : Compiler) (source : String) (compiled : Compiled)
    (h : compiler.compile source = .ok compiled) :
    (∀ first second : Record, (∀ name, second.get? name = first.get? name) →
      compiled.SameView first.attributes second.attributes) ∧
    ∀ first second : Attributes, compiled.SameView first second →
      (∀ (formats : Formats) (clock : Instant) (state : State), state.Unbound →
        compiled.eval ⟨second, formats, clock⟩ state =
          compiled.eval ⟨first, formats, clock⟩ state) ∧
      ∀ clock : Instant,
        compiled.run second clock = compiled.run first clock ∧
        compiled.evaluateBoolean second clock = compiled.evaluateBoolean first clock ∧
        compiled.evaluateString second clock = compiled.evaluateString first clock := by
  refine ⟨fun first second => compiled.sameView_of_get?, fun first second hview => ?_⟩
  have heval := hview.eval_eq h
  refine ⟨fun formats clock state => heval formats clock, fun clock => ?_⟩
  have hrun : compiled.run second clock = compiled.run first clock :=
    heval compiled.formats clock State.unbound_fresh
  have hevaluate : compiled.evaluate second clock = compiled.evaluate first clock :=
    congrArg Prod.fst hrun
  refine ⟨hrun, ?_, ?_⟩
  · unfold evaluateBoolean
    rw [hevaluate]
  · unfold evaluateString
    rw [hevaluate]

/-- A regular expression for names of one character. -/
def oneBetween (text : String) (low high : Nat) : Regex :=
  ⟨text, .sequence (.look .textStart) (.sequence (.chars ⟨[(low, high)]⟩) (.look .textEnd)), []⟩

/-- The tree of `${allMatchingAttributes('a|b','b|c'):join(${s})}`. -/
def joinedMatches : Compiled where
  source := "$\x7ballMatchingAttributes('a|b','b|c'):join($\x7bs\x7d)\x7d"
  root := .quantifier ⟨.string, "allMatchingAttributes('a|b','b|c'):join($\x7bs\x7d)", ⟨2, 47⟩⟩ 0
    (.matching [oneBetween "^(?:a|b)$" 97 98, oneBetween "^(?:b|c)$" 98 99])
    (.join (.attribute ⟨.string, "s", ⟨44, 45⟩⟩ "s"))
    (.loopVariable ⟨.string, "allMatchingAttributes('a|b','b|c')", ⟨2, 36⟩⟩ 0)
  formats := .standard
  slots := 1
  referenced := ["s"]

/-- The records have their names in different orders, and each has one that the other lacks. -/
theorem view_determines_evaluation_joinedMatches :
    let first : Record := ⟨[("s", "-"), ("b", "2"), ("x", "9"), ("a", "1")]⟩
    let second : Record := ⟨[("a", "1"), ("y", "0"), ("b", "2"), ("s", "-")]⟩
    Compiler.standard.compile joinedMatches.source = .ok joinedMatches ∧
      joinedMatches.SameView first.attributes second.attributes ∧
      joinedMatches.run second.attributes .epoch = joinedMatches.run first.attributes .epoch ∧
      joinedMatches.run first.attributes .epoch =
        (.ok (.string "1-2"), ⟨[], 2, ["b", "a", "s"]⟩) := by
  intro first second
  have hcompile : Compiler.standard.compile joinedMatches.source = .ok joinedMatches := by cbv
  have unmatched (regex : Regex) (hregex : regex ∈ joinedMatches.root.patterns) :
      regex.isMatch "x".toList = false ∧ regex.isMatch "y".toList = false := by
    have hregex : regex ∈ [oneBetween "^(?:a|b)$" 97 98, oneBetween "^(?:b|c)$" 98 99] := hregex
    simp only [List.mem_cons, List.not_mem_nil, or_false] at hregex
    rcases hregex with rfl | rfl
    · exact ⟨by cbv, by cbv⟩
    · exact ⟨by cbv, by cbv⟩
  have hview : joinedMatches.SameView first.attributes second.attributes := by
    refine ⟨fun name hname => ?_, fun regex hregex name hmatch => ?_⟩
    · obtain rfl := List.mem_singleton.mp hname
      rfl
    · have hx : name ≠ "x" := by
        rintro rfl
        exact Bool.false_ne_true ((unmatched regex hregex).1.symm.trans hmatch)
      have hy : name ≠ "y" := by
        rintro rfl
        exact Bool.false_ne_true ((unmatched regex hregex).2.symm.trans hmatch)
      constructor
      · simp [first, second, Record.attributes, Record.names, hx, hy, or_comm, or_left_comm]
      · simp only [first, Record.attributes, Record.names, List.map_cons, List.map_nil,
          List.mem_cons, List.not_mem_nil, or_false, hx, false_or]
        rintro (rfl | rfl | rfl) <;> rfl
  exact ⟨hcompile, hview,
    ((view_determines_evaluation _ _ _ hcompile).2 _ _ hview).2 .epoch |>.1, by cbv⟩

end Compiled

end AttrExpr
