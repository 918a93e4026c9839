import AttrExpr.Proofs.Quantifiers
import AttrExpr.Proofs.Tallies

/-! The attributes that a compiled source refers to: they are those of its tree, and its evaluation
reads no others, except those that are found by a regular expression. -/
set_option autoImplicit false

namespace AttrExpr

namespace Node

/-- The names that a node itself refers to. -/
def ownNames : Node → List String
  | .attribute _ name => [name]
  | .quantifier _ _ (.named names) _ _ => names
  | _ => []

/-- The regular expressions that a node itself looks for names with. -/
def ownPatterns : Node → List Regex
  | .quantifier _ _ (.matching patterns) _ _ => patterns
  | _ => []

def names (node : Node) : List String := node.all.flatMap ownNames

def patterns (node : Node) : List Regex := node.all.flatMap ownPatterns

theorem mem_names {node other : Node} (ho : other ∈ node.all) {name : String}
    (h : name ∈ other.ownNames) : name ∈ node.names := List.mem_flatMap.mpr ⟨other, ho, h⟩

theorem mem_patterns {node other : Node} (ho : other ∈ node.all) {regex : Regex}
    (h : regex ∈ other.ownPatterns) : regex ∈ node.patterns := List.mem_flatMap.mpr ⟨other, ho, h⟩

end Node

/-! Names in increasing order. -/

theorem mem_insertName {name other : String} {names : List String} :
    other ∈ insertName name names ↔ other = name ∨ other ∈ names := by
  induction names with
  | nil => simp [insertName]
  | cons first names ih =>
    rw [insertName]
    split
    · simp
    · split
      · next h =>
        subst h
        simp
      · rw [List.mem_cons, ih, List.mem_cons]
        exact or_left_comm

theorem insertName_sorted (name : String) {names : List String} (h : names.Pairwise (· < ·)) :
    (insertName name names).Pairwise (· < ·) := by
  induction names with
  | nil => exact List.pairwise_singleton _ _
  | cons first names ih =>
    obtain ⟨hfirst, hrest⟩ := List.pairwise_cons.mp h
    rw [insertName]
    split
    · next hlt =>
      refine List.pairwise_cons.mpr ⟨fun other ho => ?_, h⟩
      rcases List.mem_cons.mp ho with rfl | ho
      · exact hlt
      · exact lt_trans hlt (hfirst other ho)
    · split
      · exact h
      · next hlt hne =>
        refine List.pairwise_cons.mpr ⟨fun other ho => ?_, ih hrest⟩
        rcases mem_insertName.mp ho with rfl | ho
        · exact lt_of_le_of_ne (not_lt.mp hlt) (Ne.symm hne)
        · exact hfirst other ho

/-- The names that have been referred to are in increasing order, and declared if any are. -/
structure Progress.Valid (scope : Scope) (progress : Progress) : Prop where
  sorted : progress.referenced.Pairwise (· < ·)
  declared : ∀ declared, scope.declared = some declared →
    ∀ name ∈ progress.referenced, name ∈ declared

namespace Lower

/-- The names that are referred to between two states of lowering. -/
structure Adds (scope : Scope) (before after : Progress) (names : List String) : Prop where
  valid : before.Valid scope → after.Valid scope
  mem : ∀ name, name ∈ after.referenced ↔ name ∈ before.referenced ∨ name ∈ names

namespace Adds

variable {scope : Scope} {first second third : Progress} {names more : List String}

theorem refl : Adds scope first first [] := ⟨id, by simp⟩

theorem trans (h : Adds scope first second names) (h' : Adds scope second third more) :
    Adds scope first third (names ++ more) where
  valid := h'.valid ∘ h.valid
  mem name := by rw [h'.mem, h.mem, List.mem_append, or_assoc]

theorem congr (h : Adds scope first second names) (hmem : ∀ name, name ∈ names ↔ name ∈ more) :
    Adds scope first second more where
  valid := h.valid
  mem name := by rw [h.mem, hmem]

end Adds

variable {scope : Scope} {before after : Progress}

theorem reference_adds {name : String} {span : Span} {result : Unit}
    (h : Makes (reference name span) scope before result after) :
    Adds scope before after [name] := by
  have inserted (hdeclared : ∀ declared, scope.declared = some declared → name ∈ declared) :
      Adds scope before { before with referenced := insertName name before.referenced } [name] := by
    refine ⟨fun hvalid => ⟨insertName_sorted name hvalid.sorted, fun declared hd other ho => ?_⟩,
      fun other => ?_⟩
    · rcases mem_insertName.mp ho with rfl | ho
      · exact hdeclared declared hd
      · exact hvalid.declared declared hd other ho
    · rw [mem_insertName, List.mem_singleton]
      exact or_comm
  simp only [reference, makes_bind, makes_read] at h
  obtain ⟨_, _, ⟨rfl, rfl⟩, h⟩ := h
  split at h
  · next declared hd =>
    split at h
    · next hcontains =>
      obtain rfl := makes_modify.mp h
      refine inserted fun other hother => ?_
      obtain rfl := Option.some.inj (hd.symm.trans hother)
      simpa using hcontains
    · exact absurd h (by simp)
  · next hd =>
    obtain rfl := makes_modify.mp h
    refine inserted fun declared hother => ?_
    rw [hd] at hother
    cases hother

/-- The names that are referred to. -/
def Tally.references : Tally String where
  named name := [name]
  slotted _ := []
  Adds := Lower.Adds
  refl _ _ := .refl
  trans := .trans
  perm h hperm := h.congr fun _ => hperm.mem_iff
  reference := reference_adds
  newSlot _ _ := ⟨fun hvalid => ⟨hvalid.sorted, hvalid.declared⟩, by simp⟩

theorem Tally.references_total (node : Node) : references.total node = node.names := by
  unfold total Node.names
  congr 1
  funext other
  cases other with
  | quantifier origin slot source fold body =>
    cases source <;> simp [own, ofCandidates, references, Node.ownNames]
  | literal | «attribute» | template | loopVariable | call => rfl

end Lower

theorem Template.lower_refers (template : Template) (scope : Scope) (before after : Progress)
    (node : Node) (h : template.lower.Makes scope before node after) :
    Lower.Adds scope before after node.names :=
  Lower.Tally.references_total node ▸ Lower.Tally.references.template_counts template _ _ _ _ h

/-! What an evaluation reads. -/

/-- A candidate that is to be looked up only if its name is among some. -/
def Candidate.Within (among : String → Prop) : Candidate → Prop
  | .attribute name => among name
  | .value _ => True

/-- Only certain names were read, and only those can be read through cursors. -/
structure State.Confined (among : String → Prop) (state : State) : Prop where
  cursors : ∀ slot cursor, state.cursor? slot = some cursor →
    ∀ candidate ∈ cursor.current :: cursor.following, candidate.Within among
  reads : ∀ name ∈ state.reads, among name

namespace State.Confined

variable {among : String → Prop} {state : State} (h : state.Confined among)
include h

theorem bind (slot : Nat) {cursor : Cursor}
    (hcursor : ∀ candidate ∈ cursor.current :: cursor.following, candidate.Within among) :
    (state.bind slot cursor).Confined among := by
  refine ⟨fun slot' cursor' hc => ?_, h.reads⟩
  by_cases hs : slot' = slot
  · subst hs
    rw [cursor?_bind_self] at hc
    cases hc
    exact hcursor
  · rw [cursor?_bind_of_ne state cursor hs] at hc
    exact h.cursors slot' cursor' hc

theorem release (slot : Nat) : (state.release slot).Confined among := by
  refine ⟨fun slot' cursor' hc => ?_, h.reads⟩
  by_cases hs : slot' = slot
  · subst hs
    rw [cursor?_release_self] at hc
    cases hc
  · rw [cursor?_release_of_ne state hs] at hc
    exact h.cursors slot' cursor' hc

theorem read {name : String} (hname : among name) :
    State.Confined among { state with reads := name :: state.reads } where
  cursors := h.cursors
  reads := List.forall_mem_cons.mpr ⟨hname, h.reads⟩

end State.Confined

namespace Eval

variable {α β : Type} {env : Environment} {among : String → Prop}

/-- An evaluation reads only certain names. -/
def Confined (env : Environment) (among : String → Prop) {α : Type} (x : Eval α) : Prop :=
  ∀ state : State, state.Confined among → (x env state).2.Confined among

namespace Confined

theorem bind {x : Eval α} {f : α → Eval β} (hx : Confined env among x)
    (hf : ∀ a, Confined env among (f a)) : Confined env among (x >>= f) := by
  intro state h
  have hafter := hx state h
  rw [bind_apply]
  rcases hr : x env state with ⟨error | a, after⟩
  · rwa [hr] at hafter
  · rw [hr] at hafter
    exact hf a after hafter

theorem closed : Closed (Confined env among) where
  pure _ := fun _ h => h
  fail _ _ := fun _ h => h
  bind hx hf := bind hx hf
  settings _ hf := fun state h => hf env state h

theorem get {f : State → Eval α} (hf : ∀ state, Confined env among (f state)) :
    Confined env among (get >>= f) := fun state h => hf state state h

theorem lookup {name : String} (hname : among name) : Confined env among (lookup name) := by
  intro state h
  unfold Eval.lookup
  rw [modify_bind_apply, read_bind_apply]
  cases env.attributes.lookup name <;> exact h.read hname

theorem variableOf (token : String) (slot : Nat) :
    Confined env among (variableOf token slot) := by
  intro state h
  unfold Eval.variableOf
  rw [get_bind_apply]
  cases hc : state.cursor? slot with
  | none => exact h
  | some cursor =>
    have hcurrent := h.cursors slot cursor hc cursor.current (by simp)
    dsimp only
    cases hcandidate : cursor.current with
    | value text => exact h
    | «attribute» name =>
      rw [hcandidate] at hcurrent
      exact lookup hcurrent state h

theorem advance (slot : Nat) : Confined env among (advance slot) := by
  intro state h
  rw [advance_apply]
  split
  · next next hnext =>
    obtain ⟨cursor, hc, hadvanced⟩ := Option.bind_eq_some_iff.mp hnext
    refine h.bind slot fun candidate hcandidate => h.cursors slot cursor hc candidate ?_
    unfold Cursor.advanced? Cursor.start? at hadvanced
    split at hadvanced
    · cases hadvanced
    · next following =>
      cases hadvanced
      rw [following]
      exact List.mem_cons_of_mem _ hcandidate
  · exact h.release slot

theorem drive {token : String} {slot : Nat} {body : Eval Value} {pending : (Nat → Nat) → Nat}
    (hbody : Confined env among body) (fuel : Nat) (acc : Accumulator) :
    Confined env among (drive token slot body pending fuel acc) := by
  refine closed.drive hbody (fun state h => ⟨h.cursors, h.reads⟩) (fun hx hy => ?_) (advance slot)
    fuel acc
  refine get fun state => ?_
  split
  · exact hx
  · exact hy

/-- The loop of a quantifier, from where its slot is bound to where it is released. -/
theorem loop {token : String} {slot : Nat} {body : Eval Value} {pending : (Nat → Nat) → Nat}
    (cursor : Cursor)
    (hcursor : ∀ candidate ∈ cursor.current :: cursor.following, candidate.Within among)
    (hbody : Confined env among body) (fuel : Nat) (acc : Accumulator) :
    Confined env among (do
      modify fun state : State => state.bind slot cursor
      releasing slot (Eval.drive token slot body pending fuel acc)) := fun state h =>
  (drive hbody fuel acc (state.bind slot cursor) (h.bind slot hcursor)).release slot

theorem quantify {token : String} {slot : Nat} {source : CandidateSource (Eval Value)}
    {fold : Fold (Eval Value)} {body : Eval Value} {pending : (Nat → Nat) → Nat}
    (hsource : Confined env among source.candidates)
    (hwithin : ∀ state candidates after, source.candidates env state = (.ok candidates, after) →
      ∀ candidate ∈ candidates, candidate.Within among)
    (hfold : Confined env among fold.accumulator) (hbody : Confined env among body) :
    Confined env among (Eval.quantify token slot source fold body pending) := by
  intro state h
  have hafter := hsource state h
  rw [Eval.quantify, bind_apply]
  rcases hr : source.candidates env state with ⟨error | candidates, after⟩
  · rwa [hr] at hafter
  · rw [hr] at hafter
    refine hfold.bind (fun acc => ?_) after hafter
    cases candidates with
    | nil => exact closed.pure _
    | cons candidate following =>
      exact loop ⟨candidate, following⟩ (hwithin state _ after hr) hbody _ acc

end Confined

end Eval

/-- The candidates of a source are among certain names. -/
theorem CandidateSource.Lists.within {among : String → Prop} {attributes : Attributes}
    {source : CandidateSource String} {candidates : List Candidate}
    (h : source.Lists attributes candidates)
    (hnamed : ∀ names, source = .named names → ∀ name ∈ names, among name)
    (hmatching : ∀ patterns, source = .matching patterns → ∀ regex ∈ patterns,
      ∀ name ∈ attributes.names, regex.isMatch name.toList = true → among name) :
    ∀ candidate ∈ candidates, candidate.Within among := by
  intro candidate hcandidate
  cases h with
  | named names =>
    obtain ⟨name, hname, rfl⟩ := List.mem_map.mp hcandidate
    exact hnamed names rfl name hname
  | matching _ hmem =>
    obtain ⟨name, hname, rfl⟩ := List.mem_map.mp hcandidate
    obtain ⟨hin, regex, hregex, hmatch⟩ := (hmem name).mp hname
    exact hmatching _ rfl regex hregex name hin hmatch
  | delineated =>
    obtain ⟨piece, _, rfl⟩ := List.mem_map.mp hcandidate
    trivial

namespace Node

variable {env : Environment} {among : String → Prop}

/-- The operands of a source say nothing of where else the candidates come from. -/
theorem evaluated_source {source : CandidateSource Node} {texts : CandidateSource String}
    {state after : State} (h : (evalSource source).evaluated env state = (.ok texts, after)) :
    (∀ names, texts = .named names → source = .named names) ∧
      ∀ patterns, texts = .matching patterns → source = .matching patterns := by
  cases source with
  | named names =>
    cases h
    exact ⟨fun _ h => by cases h; rfl, fun _ h => by cases h⟩
  | matching patterns =>
    cases h
    exact ⟨fun _ h => (by cases h), fun _ h => by cases h; rfl⟩
  | delineated value delimiter =>
    rw [evalSource, CandidateSource.evaluated, Eval.bind_apply] at h
    rcases hvalue : value.eval env state with ⟨error | text, between⟩
    · rw [hvalue] at h
      cases h
    · rw [hvalue] at h
      dsimp only at h
      rw [Eval.bind_apply] at h
      rcases hdelimiter : delimiter.eval env between with ⟨error | text', last⟩
      · rw [hdelimiter] at h
        cases h
      · rw [hdelimiter] at h
        cases h
        exact ⟨fun _ h => (by cases h), fun _ h => by cases h⟩

theorem candidates_within {source : CandidateSource Node} {state after : State}
    {candidates : List Candidate}
    (h : (evalSource source).candidates env state = (.ok candidates, after))
    (hnamed : ∀ names, source = .named names → ∀ name ∈ names, among name)
    (hmatching : ∀ patterns, source = .matching patterns → ∀ regex ∈ patterns,
      ∀ name ∈ env.attributes.names, regex.isMatch name.toList = true → among name) :
    ∀ candidate ∈ candidates, candidate.Within among := by
  rw [CandidateSource.candidates_eq, Eval.bind_apply] at h
  rcases hr : (evalSource source).evaluated env state with ⟨error | texts, between⟩
  · rw [hr] at h
    cases h
  · rw [hr] at h
    cases h
    obtain ⟨hnames, hpatterns⟩ := evaluated_source hr
    exact (CandidateSource.listed_lists env.attributes texts).within
      (fun names ht => hnamed names (hnames names ht))
      fun patterns ht => hmatching patterns (hpatterns patterns ht)

/-- A tree reads the names that it refers to, and those that its regular expressions match. -/
theorem eval_confined (node : Node) (hnames : ∀ name ∈ node.names, among name)
    (hpatterns : ∀ regex ∈ node.patterns, ∀ name ∈ env.attributes.names,
      regex.isMatch name.toList = true → among name) : Eval.Confined env among node.eval := by
  have closed : Eval.Closed (Eval.Confined env among) := Eval.Confined.closed
  refine eval_closed closed node ?_ ?_ ?_
  · intro origin name hnode
    exact Eval.Confined.lookup (hnames name (mem_names hnode (by simp [ownNames])))
  · intro origin slot _
    exact Eval.Confined.variableOf origin.token slot
  · intro origin slot source fold body hnode hchildren
    rw [eval]
    refine Eval.Confined.quantify (closed.candidates _ (fun x hx => ?_) fun _ _ _ h => h) ?_
      (closed.accumulator _ fun x hx => ?_) (hchildren body (by simp))
    · rw [operands_evalSource, List.mem_map] at hx
      obtain ⟨child, hc, rfl⟩ := hx
      exact hchildren child (by simp [hc])
    · intro state candidates after hr
      exact candidates_within hr
        (fun names hs name hname => hnames name (mem_names hnode (by simp [hs, ownNames, hname])))
        fun patterns hs regex hregex => hpatterns regex
          (mem_patterns hnode (by simp [hs, ownPatterns, hregex]))
    · rw [operands_evalFold, List.mem_map] at hx
      obtain ⟨child, hc, rfl⟩ := hx
      exact hchildren child (by simp [hc])

end Node

namespace Compiled

theorem referenced_valid {compiler : Compiler} {source : String} {compiled : Compiled}
    (h : compiler.compile source = .ok compiled) :
    (Progress.mk compiled.slots compiled.referenced).Valid ⟨source.toList, compiler.declared⟩ ∧
      ∀ name, name ∈ compiled.referenced ↔ name ∈ compiled.root.names := by
  obtain ⟨-, -, template, -, hlower⟩ := Compiler.compile_ok_iff.mp h
  have hadds := template.lower_refers _ _ _ _ hlower
  exact ⟨hadds.valid ⟨List.Pairwise.nil, by simp⟩, fun name => by simp [hadds.mem]⟩

/-- The references of a compiled source are the names in its tree, in the order of their bytes. An
evaluation, whether or not it fails, looks up nothing but these and what a regular expression of the
tree matches. -/
theorem referenced_exact (compiler : Compiler) (source : String) (compiled : Compiled)
    (h : compiler.compile source = .ok compiled) :
    compiled.referenced.Pairwise (fun a b => Text.bytes a < Text.bytes b) ∧
    (∀ name, name ∈ compiled.referenced ↔ name ∈ compiled.root.names) ∧
    (∀ declared, compiler.declared = some declared →
      ∀ name ∈ compiled.referenced, name ∈ declared) ∧
    ∀ (env : Environment) (state : State), state.Unbound →
      ∃ looked, (compiled.eval env state).2.reads = looked ++ state.reads ∧
        ∀ name ∈ looked, name ∈ compiled.referenced ∨
          ∃ regex ∈ compiled.root.patterns,
            name ∈ env.attributes.names ∧ regex.isMatch name.toList = true := by
  obtain ⟨hvalid, hmem⟩ := referenced_valid h
  refine ⟨hvalid.sorted.imp Text.bytes_lt, hmem, hvalid.declared, fun env state hstate => ?_⟩
  have hacc := compiled.eval_accumulates env state .fresh
  rw [State.onto_fresh state hstate] at hacc
  refine ⟨(compiled.eval env .fresh).2.reads, by rw [hacc]; rfl, ?_⟩
  rw [eval_state]
  refine (compiled.root.eval_confined (fun name hname => .inl ((hmem name).mpr hname))
    (fun regex hregex name hname hmatch => .inr ⟨regex, hregex, hname, hmatch⟩) .fresh
    ⟨fun slot cursor hc => ?_, by simp [State.fresh]⟩).reads
  cases hc

/-- An evaluation that fails in its second body, for declared names. -/
theorem referenced_exact_anyAboveOne :
    let compiler := Compiler.standard.declare ["c", "b", "a"]
    let env : Environment := ⟨Record.attributes ⟨[("a", "0"), ("b", "many")]⟩, .standard, .epoch⟩
    compiler.compile anyAboveOne.source = .ok anyAboveOne ∧
      (anyAboveOne.eval env .fresh).2.reads = ["b", "a"] ∧
      anyAboveOne.referenced.Pairwise (fun a b => Text.bytes a < Text.bytes b) ∧
      (∀ name, name ∈ ["a", "b"] ↔ name ∈ anyAboveOne.root.names) ∧
      (∀ name ∈ anyAboveOne.referenced, name ∈ ["c", "b", "a"]) ∧
      ∃ looked, (anyAboveOne.eval env .fresh).2.reads = looked ++ State.fresh.reads ∧
        ∀ name ∈ looked, name ∈ anyAboveOne.referenced ∨
          ∃ regex ∈ anyAboveOne.root.patterns,
            name ∈ env.attributes.names ∧ regex.isMatch name.toList = true := by
  intro compiler env
  have hcompile : compiler.compile anyAboveOne.source = .ok anyAboveOne := by cbv
  obtain ⟨hsorted, hmem, hdeclared, hreads⟩ := referenced_exact compiler _ _ hcompile
  exact ⟨hcompile, by cbv, hsorted, hmem, hdeclared _ rfl, hreads env .fresh State.unbound_fresh⟩

end Compiled

end AttrExpr
