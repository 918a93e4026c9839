import AttrExpr.Proofs.Quantifiers
import AttrExpr.Proofs.Tallies
import Mathlib.Data.List.Nodup

/-! Where the slots of a tree are bound and where they are read. -/
set_option autoImplicit false

namespace AttrExpr

/-- A step from a node to one right under it. -/
inductive Step where
  | part (i : Nat)
  | subject
  | arg (i : Nat)
  | value
  | delimiter
  | separator
  | body
  deriving DecidableEq, Repr

def CandidateSource.branches {α : Type} : CandidateSource α → List (Step × α)
  | .delineated value delimiter => [(.value, value), (.delimiter, delimiter)]
  | .named _ | .matching _ => []

def Fold.branches {α : Type} : Fold α → List (Step × α)
  | .join separator => [(.separator, separator)]
  | .any | .all | .count => []

namespace Node

/-- The nodes right under a node, with the steps to them. -/
def branches : Node → List (Step × Node)
  | .template _ parts => parts.zipIdx.map fun entry => (.part entry.2, entry.1)
  | .call _ _ subject _ args _ _ =>
    subject.toList.map (fun child => (.subject, child)) ++
      args.zipIdx.map fun entry => (.arg entry.2, entry.1)
  | .quantifier _ _ source fold body => source.branches ++ fold.branches ++ [(.body, body)]
  | .literal _ _ | .attribute _ _ | .loopVariable _ _ => []

/-- The steps from a node to another one in its tree. -/
inductive At : Node → List Step → Node → Prop where
  | here (node : Node) : At node [] node
  | under {node child other : Node} {step : Step} {place : List Step}
    (hbranch : (step, child) ∈ node.branches) (h : At child place other) :
    At node (step :: place) other

/-- A quantifier of the tree binds a slot at a place. -/
def Binds (node : Node) (place : List Step) (slot : Nat) : Prop :=
  ∃ origin source fold body, node.At place (.quantifier origin slot source fold body)

/-- The loop variable of a slot is at a place of the tree. -/
def Reads (node : Node) (place : List Step) (slot : Nat) : Prop :=
  ∃ origin, node.At place (.loopVariable origin slot)

/-- Each slot is bound at one place and read at one place, which calls on subjects lead to in the
body of the quantifier. -/
structure WellScoped (root : Node) (slots : Nat) : Prop where
  bound : ∀ slot, slot < slots ↔ ∃ place, root.Binds place slot
  distinct : ∀ slot place place', root.Binds place slot → root.Binds place' slot → place = place'
  /-- A loop variable is in the body of the quantifier with its slot. -/
  enclosed : ∀ slot place, root.Reads place slot →
    ∃ front rest, place = front ++ .body :: rest ∧ root.Binds front slot
  /-- A body has one loop variable of its own slot. -/
  own : ∀ slot front, root.Binds front slot →
    ∃ n, ∀ rest, root.Reads (front ++ .body :: rest) slot ↔ rest = List.replicate n .subject
  /-- A body has no loop variable of a quantifier around its own. -/
  outer : ∀ slot inner front steps rest, steps ≠ [] → root.Binds front slot →
    root.Binds (front ++ steps) inner → ¬ root.Reads (front ++ steps ++ .body :: rest) slot

variable {node child other root : Node} {step : Step} {place front rest : List Step} {slot : Nat}

theorem children_eq_branches (node : Node) : node.children = node.branches.map (·.2) := by
  cases node with
  | literal | «attribute» | loopVariable => rfl
  | template origin parts => simp [children, branches, Function.comp_def]
  | call origin function subject target args targets pattern =>
    simp [children, branches, Function.comp_def]
  | quantifier origin slot source fold body =>
    cases source <;> cases fold <;> rfl

theorem mem_children_of_branch (h : (step, child) ∈ node.branches) : child ∈ node.children := by
  rw [children_eq_branches]
  exact List.mem_map_of_mem h

theorem branches_nodup (node : Node) : (node.branches.map (·.1)).Nodup := by
  have numbered (steps : Nat → Step) (hsteps : steps.Injective) (nodes : List Node) :
      (nodes.zipIdx.map fun entry => steps entry.2).Nodup := by
    rw [← Function.comp_def steps Prod.snd, ← List.map_map, List.zipIdx_map_snd]
    exact List.Nodup.map hsteps List.nodup_range'
  cases node with
  | literal | «attribute» | loopVariable => exact List.nodup_nil
  | template origin parts =>
    simpa [branches, Function.comp_def] using
      numbered .part (fun _ _ h => Step.part.inj h) parts
  | call origin function subject target args targets pattern =>
    have hargs := numbered .arg (fun _ _ h => Step.arg.inj h) args
    cases subject with
    | none => simpa [branches, Function.comp_def] using hargs
    | some child => simpa [branches, Function.comp_def] using hargs
  | quantifier origin slot source fold body =>
    cases source <;> cases fold <;>
      simp [branches, CandidateSource.branches, Fold.branches]

/-- A step leads to one node. -/
theorem branch_unique (h : (step, child) ∈ node.branches) (h' : (step, other) ∈ node.branches) :
    child = other :=
  congrArg Prod.snd (List.inj_on_of_nodup_map node.branches_nodup h h' rfl)

namespace At

theorem mem_all (h : node.At place other) : other ∈ node.all := by
  induction h with
  | here node => exact node.mem_all_self
  | under hbranch _ ih => exact mem_all_of_child (mem_children_of_branch hbranch) ih

theorem unique {node' : Node} (h : node.At place other) (h' : node.At place node') :
    other = node' := by
  induction h with
  | here node =>
    cases h'
    rfl
  | under hbranch _ ih =>
    cases h' with
    | under hbranch' h' =>
      obtain rfl := branch_unique hbranch hbranch'
      exact ih h'

theorem append (h : node.At front child) (h' : child.At rest other) :
    node.At (front ++ rest) other := by
  induction h with
  | here node => exact h'
  | under hbranch _ ih => exact .under hbranch (ih h')

theorem split (h : node.At (front ++ rest) other) :
    ∃ middle, node.At front middle ∧ middle.At rest other := by
  induction front generalizing node with
  | nil => exact ⟨node, .here node, h⟩
  | cons step front ih =>
    cases h with
    | under hbranch h =>
      obtain ⟨middle, hfront, hrest⟩ := ih h
      exact ⟨middle, .under hbranch hfront, hrest⟩

end At

theorem exists_at_of_mem_all (h : other ∈ node.all) : ∃ place, node.At place other := by
  induction node using induction with
  | step node ih =>
    rw [all_eq, List.mem_cons, List.mem_flatMap] at h
    rcases h with rfl | ⟨child, hc, h⟩
    · exact ⟨[], .here _⟩
    · rw [children_eq_branches, List.mem_map] at hc
      obtain ⟨⟨step, child⟩, hbranch, rfl⟩ := hc
      obtain ⟨place, hplace⟩ := ih child (mem_children_of_branch hbranch) h
      exact ⟨step :: place, .under hbranch hplace⟩

theorem mem_boundSlots_iff : slot ∈ node.boundSlots ↔ ∃ place, node.Binds place slot := by
  constructor
  · intro h
    obtain ⟨other, ho, hslot⟩ := List.mem_filterMap.mp h
    obtain ⟨place, hplace⟩ := exists_at_of_mem_all ho
    cases other with
    | quantifier origin slot source fold body =>
      obtain rfl := Option.some.inj hslot
      exact ⟨place, origin, source, fold, body, hplace⟩
    | literal | «attribute» | template | loopVariable | call => cases hslot
  · rintro ⟨place, origin, source, fold, body, hplace⟩
    exact mem_boundSlots hplace.mem_all

theorem Binds.mem_boundSlots (h : node.Binds place slot) : slot ∈ node.boundSlots :=
  mem_boundSlots_iff.mpr ⟨place, h⟩

theorem binds_nil_iff : node.Binds [] slot ↔ node.slot? = some slot := by
  constructor
  · rintro ⟨origin, source, fold, body, h⟩
    cases h
    rfl
  · intro h
    cases node with
    | quantifier origin slot source fold body =>
      obtain rfl := Option.some.inj h
      exact ⟨origin, source, fold, body, .here _⟩
    | literal | «attribute» | template | loopVariable | call => cases h

theorem binds_cons_iff : node.Binds (step :: place) slot ↔
    ∃ child, (step, child) ∈ node.branches ∧ child.Binds place slot := by
  constructor
  · rintro ⟨origin, source, fold, body, h⟩
    cases h with
    | under hbranch h => exact ⟨_, hbranch, origin, source, fold, body, h⟩
  · rintro ⟨child, hbranch, origin, source, fold, body, h⟩
    exact ⟨origin, source, fold, body, .under hbranch h⟩

theorem reads_cons_iff : node.Reads (step :: place) slot ↔
    ∃ child, (step, child) ∈ node.branches ∧ child.Reads place slot := by
  constructor
  · rintro ⟨origin, h⟩
    cases h with
    | under hbranch h => exact ⟨_, hbranch, origin, h⟩
  · rintro ⟨child, hbranch, origin, h⟩
    exact ⟨origin, .under hbranch h⟩

/-! Slots that are bound at one place. -/

theorem boundSlots_eq_branches (node : Node) : node.boundSlots =
    node.slot?.toList ++ node.branches.flatMap fun branch => branch.2.boundSlots := by
  rw [boundSlots_eq, children_eq_branches, List.flatMap_map]

theorem mem_boundSlots_of_branch (hbranch : (step, child) ∈ node.branches)
    (h : slot ∈ child.boundSlots) : slot ∈ node.boundSlots := by
  rw [boundSlots_eq_branches]
  exact List.mem_append_right _ (List.mem_flatMap.mpr ⟨_, hbranch, h⟩)

theorem not_bound_under (hnodup : node.boundSlots.Nodup) (h : node.slot? = some slot)
    (hbranch : (step, child) ∈ node.branches) : slot ∉ child.boundSlots := by
  intro hchild
  rw [boundSlots_eq_branches, h] at hnodup
  exact (List.nodup_cons.mp hnodup).1 (List.mem_flatMap.mpr ⟨_, hbranch, hchild⟩)

/-- Where no slot is bound twice, one branch leads to a slot. -/
theorem branch_of_bound {step' : Step} (hnodup : node.boundSlots.Nodup)
    (hbranch : (step, child) ∈ node.branches) (hbranch' : (step', other) ∈ node.branches)
    (h : slot ∈ child.boundSlots) (h' : slot ∈ other.boundSlots) :
    (step, child) = (step', other) ∧ child.boundSlots.Nodup := by
  rw [boundSlots_eq_branches] at hnodup
  obtain ⟨hnodup, hdisjoint⟩ := List.nodup_flatMap.mp (List.nodup_append.mp hnodup).2.1
  have : Std.Symm (Function.onFun List.Disjoint fun branch : Step × Node => branch.2.boundSlots) :=
    ⟨fun _ _ h => h.symm⟩
  refine ⟨?_, hnodup _ hbranch⟩
  by_contra hne
  exact hdisjoint.forall hbranch hbranch' hne h h'

/-- Where no slot is bound twice, a slot is bound at one place. -/
theorem binds_unique {place' : List Step} (hnodup : node.boundSlots.Nodup)
    (h : node.Binds place slot) (h' : node.Binds place' slot) : place = place' := by
  induction place generalizing node place' with
  | nil =>
    cases place' with
    | nil => rfl
    | cons step' place' =>
      obtain ⟨child, hbranch, h'⟩ := binds_cons_iff.mp h'
      exact absurd h'.mem_boundSlots (not_bound_under hnodup (binds_nil_iff.mp h) hbranch)
  | cons step place ih =>
    obtain ⟨child, hbranch, h⟩ := binds_cons_iff.mp h
    cases place' with
    | nil => exact absurd h.mem_boundSlots (not_bound_under hnodup (binds_nil_iff.mp h') hbranch)
    | cons step' place' =>
      obtain ⟨child', hbranch', h'⟩ := binds_cons_iff.mp h'
      obtain ⟨hsame, hnodup⟩ :=
        branch_of_bound hnodup hbranch hbranch' h.mem_boundSlots h'.mem_boundSlots
      obtain ⟨rfl, rfl⟩ := Prod.mk.inj hsame
      rw [ih hnodup h h']

/-! Loop variables and the quantifiers that bind them. -/

theorem mem_operands_source {source : CandidateSource Node}
    (h : (step, child) ∈ source.branches) : child ∈ source.operands := by
  rw [show source.operands = source.branches.map (·.2) by cases source <;> rfl]
  exact List.mem_map_of_mem h

theorem mem_operands_fold {fold : Fold Node} (h : (step, child) ∈ fold.branches) :
    child ∈ fold.operands := by
  rw [show fold.operands = fold.branches.map (·.2) by cases fold <;> rfl]
  exact List.mem_map_of_mem h

/-- What a branch sees is seen by the tree, unless the branch is the body of the quantifier that
binds it. -/
theorem free_of_branch (hbranch : (step, child) ∈ node.branches) (h : slot ∈ child.freeSlots) :
    slot ∈ node.freeSlots ∨ step = .body ∧ node.slot? = some slot := by
  have hchild := mem_children_of_branch hbranch
  cases node with
  | literal | «attribute» | loopVariable => exact absurd hbranch List.not_mem_nil
  | template origin parts =>
    rw [freeSlots, freeSlotsOfList_eq]
    exact .inl (List.mem_flatMap.mpr ⟨child, hchild, h⟩)
  | call origin function subject target args targets pattern =>
    rw [freeSlots, freeSlotsOfList_eq, List.mem_append]
    rcases List.mem_append.mp hchild with hsubject | harg
    · obtain rfl := Option.mem_toList.mp hsubject
      exact .inl (.inl h)
    · exact .inl (.inr (List.mem_flatMap.mpr ⟨child, harg, h⟩))
  | quantifier origin bound source fold body =>
    rw [freeSlots, freeSlotsOfSource_eq, freeSlotsOfFold_eq, List.mem_append, List.mem_append]
    rcases List.mem_append.mp hbranch with hoperand | hbody
    · rcases List.mem_append.mp hoperand with hsource | hfold
      · exact .inl (.inl (.inl (List.mem_flatMap.mpr ⟨child, mem_operands_source hsource, h⟩)))
      · exact .inl (.inl (.inr (List.mem_flatMap.mpr ⟨child, mem_operands_fold hfold, h⟩)))
    · obtain ⟨rfl, rfl⟩ := Prod.mk.inj (List.mem_singleton.mp hbody)
      by_cases hslot : slot = bound
      · exact .inr ⟨rfl, congrArg some hslot.symm⟩
      · exact .inl (.inr (List.mem_filter.mpr ⟨h, by simpa using hslot⟩))

/-- A loop variable is seen from outside the tree, or it is in the body of a quantifier with its
slot. -/
theorem Reads.free_or_enclosed (h : node.Reads place slot) :
    slot ∈ node.freeSlots ∨
      ∃ front rest, place = front ++ .body :: rest ∧ node.Binds front slot := by
  induction place generalizing node with
  | nil =>
    obtain ⟨origin, h⟩ := h
    cases h
    exact .inl (by simp [freeSlots])
  | cons step place ih =>
    obtain ⟨child, hbranch, h⟩ := reads_cons_iff.mp h
    rcases ih h with hfree | ⟨front, rest, rfl, hbinds⟩
    · rcases free_of_branch hbranch hfree with hfree | ⟨rfl, hslot⟩
      · exact .inl hfree
      · exact .inr ⟨[], place, rfl, binds_nil_iff.mpr hslot⟩
    · exact .inr ⟨step :: front, rest, rfl, binds_cons_iff.mpr ⟨child, hbranch, hbinds⟩⟩

/-- In a body that sees the variable of one slot, and binds the slot nowhere, the variable is at one
place, where the subjects of calls lead to. -/
theorem WellFormed.exists_reads_iff (h : node.WellFormed) (hfree : node.freeSlots = [slot])
    (hbound : slot ∉ node.boundSlots) :
    ∃ n, ∀ place, node.Reads place slot ↔ place = List.replicate n .subject := by
  induction node using induction with
  | step node ih =>
    obtain ⟨origin, rfl⟩ | ⟨origin, function, child, target, args, targets, pattern, rfl, hchild,
      hfree, hclosed⟩ := h.cases_of_free hfree
    · refine ⟨0, fun place => ⟨fun h => ?_, fun hplace => ?_⟩⟩
      · cases place with
        | nil => rfl
        | cons step place =>
          obtain ⟨_, hbranch, -⟩ := reads_cons_iff.mp h
          exact absurd hbranch List.not_mem_nil
      · exact hplace ▸ ⟨origin, .here _⟩
    · have hsubject : (.subject, child) ∈
          branches (.call origin function (some child) target args targets pattern) := by
        simp [branches]
      obtain ⟨n, hn⟩ := ih child (mem_children_of_branch hsubject) hchild hfree fun hslot =>
        hbound (mem_boundSlots_of_branch hsubject hslot)
      refine ⟨n + 1, fun place => ⟨fun h => ?_, fun hplace => ?_⟩⟩
      · cases place with
        | nil =>
          obtain ⟨_, h⟩ := h
          cases h
        | cons step place =>
          obtain ⟨other, hbranch, hread⟩ := reads_cons_iff.mp h
          rcases List.mem_append.mp hbranch with hstep | harg
          · obtain ⟨rfl, hother⟩ : step = .subject ∧ other = child := by simpa using hstep
            rw [hother, hn place] at hread
            rw [hread, List.replicate_succ]
          · -- arguments see no variable and bind other slots
            have hmem : other ∈ args := by
              obtain ⟨⟨arg, i⟩, hentry, heq⟩ := List.mem_map.mp harg
              cases heq
              exact List.fst_mem_of_mem_zipIdx hentry
            rcases hread.free_or_enclosed with hslot | ⟨front, rest, -, hbinds⟩
            · simp [hclosed other hmem] at hslot
            · exact absurd (mem_boundSlots_of_branch hbranch hbinds.mem_boundSlots) hbound
      · rw [hplace, List.replicate_succ, reads_cons_iff]
        exact ⟨child, hsubject, (hn _).mpr rfl⟩

/-- What is read in the body of a quantifier. -/
theorem At.reads_body_iff {origin : Origin} {bound : Nat} {source : CandidateSource Node}
    {fold : Fold Node} {body : Node}
    (h : root.At front (.quantifier origin bound source fold body)) :
    root.Reads (front ++ .body :: rest) slot ↔ body.Reads rest slot := by
  have hbody : (.body, body) ∈ branches (.quantifier origin bound source fold body) := by
    simp [branches]
  constructor
  · rintro ⟨origin', hvariable⟩
    obtain ⟨middle, hmiddle, hvariable⟩ := hvariable.split
    obtain rfl := h.unique hmiddle
    cases hvariable with
    | under hbranch hvariable =>
      obtain rfl := branch_unique hbranch hbody
      exact ⟨origin', hvariable⟩
  · rintro ⟨origin', hvariable⟩
    exact ⟨origin', h.append (.under hbody hvariable)⟩

/-- A well-formed tree that sees no loop variables from outside and binds each slot once. -/
theorem WellFormed.wellScoped {slots : Nat} (h : root.WellFormed) (hfree : root.freeSlots = [])
    (hbound : root.boundSlots.Perm (List.range slots)) : root.WellScoped slots := by
  have hnodup : root.boundSlots.Nodup := hbound.nodup_iff.mpr List.nodup_range
  have enclosed (slot : Nat) (place : List Step) (hreads : root.Reads place slot) :
      ∃ front rest, place = front ++ .body :: rest ∧ root.Binds front slot :=
    hreads.free_or_enclosed.resolve_left (by simp [hfree])
  have own (slot : Nat) (front : List Step) (hbinds : root.Binds front slot) : ∃ n, ∀ rest,
      root.Reads (front ++ .body :: rest) slot ↔ rest = List.replicate n .subject := by
    obtain ⟨origin, source, fold, body, hplace⟩ := hbinds
    have hself : QuantifierSound origin slot source fold body := h _ hplace.mem_all
    have hbody : body.WellFormed := fun other ho =>
      h other (mem_all_trans hplace.mem_all (mem_all_of_child (by simp [children]) ho))
    obtain ⟨n, hn⟩ := hbody.exists_reads_iff hself.free hself.unbound
    exact ⟨n, fun rest => hplace.reads_body_iff.trans (hn rest)⟩
  refine ⟨fun slot => ?_, fun slot place place' => binds_unique hnodup, enclosed, own, ?_⟩
  · rw [← mem_boundSlots_iff, hbound.mem_iff, List.mem_range]
  · intro slot inner front steps rest hsteps hbinds _ hreads
    -- the variable is in the body of its own quantifier, so that the way to it goes on from there
    -- through subjects only, and past no other body
    obtain ⟨front', rest', hplace, hbinds'⟩ := enclosed slot _ hreads
    obtain rfl := binds_unique hnodup hbinds hbinds'
    obtain ⟨n, hn⟩ := own slot front hbinds
    rw [List.append_assoc, List.append_cancel_left_eq] at hplace
    obtain ⟨step, steps, rfl⟩ := List.exists_cons_of_ne_nil hsteps
    obtain ⟨rfl, rfl⟩ := List.cons.inj hplace
    have hrest := (hn _).mp (by simpa using hreads)
    have hmem : Step.body ∈ List.replicate n Step.subject := hrest ▸ by simp
    cases List.eq_of_mem_replicate hmem

end Node

/-! The slots that lowering hands out. -/

/-- The slots that are handed out between two states of lowering. -/
def Lower.Tally.slots : Tally Nat where
  named _ := []
  slotted slot := [slot]
  Adds _ before after slots := before.slots ≤ after.slots ∧
    slots.Perm (List.range' before.slots (after.slots - before.slots))
  refl _ _ := ⟨Nat.le_refl _, by simp⟩
  trans := by
    rintro _ first second third xs ys ⟨hle, hxs⟩ ⟨hle', hys⟩
    refine ⟨hle.trans hle', (hxs.append hys).trans (.of_eq ?_)⟩
    obtain ⟨m, hm⟩ := Nat.exists_eq_add_of_le hle
    obtain ⟨n, hn⟩ := Nat.exists_eq_add_of_le hle'
    rw [hn, hm, Nat.add_sub_cancel_left, Nat.add_sub_cancel_left, Nat.add_assoc,
      Nat.add_sub_cancel_left, ← List.range'_append_1]
  perm h hperm := ⟨h.1, hperm.symm.trans h.2⟩
  reference h := by simp [makes_reference h]
  newSlot _ _ := ⟨Nat.le_succ _, by simp⟩

theorem Lower.Tally.slots_total (node : Node) : slots.total node = node.boundSlots := by
  unfold total Node.boundSlots
  rw [List.filterMap_eq_flatMap_toList]
  congr 1
  funext other
  cases other with
  | quantifier origin slot source fold body =>
    cases source <;> simp [own, ofCandidates, slots, Node.slot?]
  | literal | «attribute» | template | loopVariable | call => rfl

theorem Compiler.compile_boundSlots {compiler : Compiler} {source : String} {compiled : Compiled}
    (h : compiler.compile source = .ok compiled) :
    compiled.root.boundSlots.Perm (List.range compiled.slots) := by
  obtain ⟨-, -, template, -, hlower⟩ := compile_ok_iff.mp h
  have hadds := (Lower.Tally.slots.template_counts template _ _ _ _ hlower).2
  rw [Lower.Tally.slots_total] at hadds
  rwa [List.range_eq_range']

namespace Compiled

/-- A compiled source has as many quantifiers as slots, each with a slot of its own. A loop variable
is in the body of the quantifier with its slot, which has no other and none from around it. -/
theorem slots_well_scoped (compiler : Compiler) (source : String) (compiled : Compiled)
    (h : compiler.compile source = .ok compiled) : compiled.root.WellScoped compiled.slots := by
  obtain ⟨hwell, hfree⟩ := Compiler.compile_wellFormed h
  exact hwell.wellScoped hfree (Compiler.compile_boundSlots h)

/-- The tree of `${allDelineatedValues(${allAttributes('a'):count()},','):trim():join(${b})}`, where
the quantifier of the operand takes its slot first. -/
def trimmedValues : Compiled where
  source :=
    "$\x7ballDelineatedValues($\x7ballAttributes('a'):count()\x7d,','):trim():join($\x7bb\x7d)\x7d"
  root := .quantifier
    ⟨.string,
      "allDelineatedValues($\x7ballAttributes('a'):count()\x7d,','):trim():join($\x7bb\x7d)",
      ⟨2, 74⟩⟩ 1
    (.delineated
      (.quantifier ⟨.whole, "allAttributes('a'):count()", ⟨24, 50⟩⟩ 0 (.named ["a"]) .count
        (.loopVariable ⟨.string, "allAttributes('a')", ⟨24, 42⟩⟩ 0))
      (.literal ⟨.string, "','", ⟨52, 55⟩⟩ (.string ",")))
    (.join (.attribute ⟨.string, "b", ⟨71, 72⟩⟩ "b"))
    (.call ⟨.string, "trim()", ⟨57, 63⟩⟩ .trim
      (some (.loopVariable
        ⟨.string, "allDelineatedValues($\x7ballAttributes('a'):count()\x7d,',')", ⟨2, 56⟩⟩ 1))
      (some .string) [] [] none)
  formats := .standard
  slots := 2
  referenced := ["a", "b"]

/-- The slot of the outer quantifier is read in one place of the tree. -/
theorem slots_well_scoped_trimmedValues :
    Compiler.standard.compile trimmedValues.source = .ok trimmedValues ∧
      trimmedValues.root.Binds [] 1 ∧ trimmedValues.root.Binds [.value] 0 ∧
      ∀ place, trimmedValues.root.Reads place 1 ↔ place = [.body, .subject] := by
  have hcompile : Compiler.standard.compile trimmedValues.source = .ok trimmedValues := by cbv
  have hscoped := slots_well_scoped .standard trimmedValues.source trimmedValues hcompile
  have houter : trimmedValues.root.Binds [] 1 := ⟨_, _, _, _, .here _⟩
  have hinner : trimmedValues.root.Binds [.value] 0 :=
    ⟨_, _, _, _, .under (.head _) (.here _)⟩
  have hread : trimmedValues.root.Reads [.body, .subject] 1 :=
    ⟨_, .under (.tail _ (.tail _ (.tail _ (.head _)))) (.under (.head _) (.here _))⟩
  refine ⟨hcompile, houter, hinner, fun place => ⟨fun h => ?_, fun h => h ▸ hread⟩⟩
  obtain ⟨n, hn⟩ := hscoped.own 1 [] houter
  obtain ⟨front, rest, rfl, hbinds⟩ := hscoped.enclosed 1 place h
  obtain rfl := hscoped.distinct 1 [] front houter hbinds
  rw [(hn rest).mp h, ← (hn [.subject]).mp hread]
  rfl

end Compiled

end AttrExpr
