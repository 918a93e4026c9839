import AttrExpr.Proofs.ComputedPatterns
import AttrExpr.Proofs.Results

/-! Two sources side by side. Where the parts of the one are made of what the other is made of, the
sources agree: they give the same on all records, whatever tokens they blame for failures. -/
set_option autoImplicit false

namespace AttrExpr

/-- Two sources compared wherever their parts are. -/
def Lower.Simulation.ofSources (left right : Scope) (declared : right.declared = left.declared)
    (refused : CompileError → Prop) : Simulation (fun _ _ => True) Eval.SameOutcome id where
  left := left
  right := right
  declared := declared
  behind := Eq
  span _ _ := True
  refused := refused
  congr := Eval.SameOutcome.loops
  token _ := trivial
  merge _ _ := trivial
  slot h := by rw [h, id]
  newSlot h := by rw [h]
  noted _ h := by rw [h]

/-- Two sources compared for the form of their trees, where `d` more slots were handed out before in
the second. -/
def Lower.Simulation.ofForms (left right : Scope) (declared : right.declared = left.declared)
    (d : Nat) : Simulation (fun _ _ => True) (fun _ _ => True) (· + d) where
  left := left
  right := right
  declared := declared
  behind progress other := other.slots = progress.slots + d
  span _ _ := True
  refused _ := False
  congr := .trivial (· + d)
  token _ := trivial
  merge _ _ := trivial
  slot h := h
  newSlot h := by
    dsimp only
    omega
  noted _ h := h

/-- One expression in two sources, after the same progress. -/
theorem Lower.Makes.respelled {declared : Option (List String)} {cs : List Char}
    {progress after : Progress} {expr found : Expression} {node : Node}
    (h : expr.lower.Makes ⟨cs, declared⟩ progress node after)
    (hfound : found.mapSpans unplaced = expr.mapSpans unplaced) (cs' : List Char) :
    ∃ other, found.lower.Makes ⟨cs', declared⟩ progress other after ∧ node.SameOutcome other := by
  let sim := Simulation.ofSources ⟨cs, declared⟩ ⟨cs', declared⟩ rfl fun _ => False
  obtain ⟨other, after, hother, rfl, halike⟩ | ⟨_, -, hrefused⟩ :=
    sim.respelled_expression (fun _ _ => trivial) expr found hfound progress progress _ _ rfl h
  · exact ⟨other, hother, halike⟩
  · exact hrefused.elim

/-! Sources with one expression. -/

variable {expr : Expression} {compiler : Compiler} {source source' : String}

/-- A source is refused with its template. -/
theorem Compiler.compile_of_refuses {template : Template} {error : CompileError}
    (hread : Template.read source.toList = .ok template)
    (h : template.lower.Refuses ⟨source.toList, compiler.declared⟩ ⟨0, []⟩ error) :
    compiler.compile source = .error error := by
  unfold Compiler.compile
  dsimp only
  rw [hread]
  change (template.lower ⟨source.toList, compiler.declared⟩ ⟨0, []⟩).bind _ = _
  rw [show template.lower _ _ = _ from h]
  rfl

namespace Expression.ReadFrom

/-- A source with one expression compiles to what that is lowered to. -/
theorem made (h : expr.ReadFrom source) {compiled : Compiled}
    (hcompile : compiler.compile source = .ok compiled) :
    ∃ found : Expression, found.mapSpans unplaced = expr.mapSpans unplaced ∧
      found.lower.Makes ⟨source.toList, compiler.declared⟩ ⟨0, []⟩ compiled.root
        ⟨compiled.slots, compiled.referenced⟩ := by
  obtain ⟨template, found, hread, honly, hfound⟩ := h
  obtain ⟨-, -, other, hother, hmakes⟩ := Compiler.compile_ok_iff.mp hcompile
  obtain rfl : other = template := Except.ok.inj (hother.symm.trans hread)
  rw [Template.lower, honly] at hmakes
  exact ⟨found, hfound, hmakes⟩

/-- A source compiles to what is made of its expression. -/
theorem compile_of_makes (h : expr.ReadFrom source) (compiler : Compiler) :
    ∃ found : Expression, found.mapSpans unplaced = expr.mapSpans unplaced ∧
      ∀ {node after},
        found.lower.Makes ⟨source.toList, compiler.declared⟩ ⟨0, []⟩ node after →
          ∃ compiled, compiler.compile source = .ok compiled ∧ compiled.root = node := by
  obtain ⟨template, found, hread, honly, hfound⟩ := h
  have hlower : template.lower = found.lower := by
    rw [Template.lower, honly]
  refine ⟨found, hfound, fun {node after} hnode => ?_⟩
  exact ⟨⟨source, node, compiler.formats, after.slots, after.referenced⟩,
    Compiler.compile_ok_iff.mpr ⟨rfl, rfl, template, hread, hlower ▸ hnode⟩, rfl⟩

/-- Where a source compiles, its expression is lowered in other sources as well, at any place. -/
theorem lowered (h : expr.ReadFrom source) {compiled : Compiled}
    (hcompile : compiler.compile source = .ok compiled) {found : Expression}
    (hfound : found.mapSpans unplaced = expr.mapSpans unplaced) (cs : List Char)
    (progress : Progress) :
    ∃ node after, found.lower.Makes ⟨cs, compiler.declared⟩ progress node after ∧
      node.kind = compiled.kind := by
  obtain ⟨inner, hinner, hmakes⟩ := h.made hcompile
  let sim := Lower.Simulation.ofForms ⟨source.toList, compiler.declared⟩ ⟨cs, compiler.declared⟩ rfl
    progress.slots
  obtain ⟨node, after, hnode, -, halike⟩ | ⟨_, -, hrefused⟩ :=
    sim.respelled_expression (fun _ _ => trivial) inner found (hfound.trans hinner.symm) ⟨0, []⟩
      progress _ _ (Nat.zero_add _).symm hmakes
  · exact ⟨node, after, hnode, halike.origin.kind⟩
  · exact hrefused.elim

/-- A source compiles to what agrees with what is lowered elsewhere, unless it is refused. -/
theorem carried (h : expr.ReadFrom source) (refused : CompileError → Prop) {other : Expression}
    {cs : List Char} {node : Node} {after : Progress}
    (hmakes : other.lower.Makes ⟨cs, compiler.declared⟩ ⟨0, []⟩ node after)
    (hcarries : ∀ found : Expression, found.mapSpans unplaced = expr.mapSpans unplaced →
      let sim := Lower.Simulation.ofSources ⟨cs, compiler.declared⟩
        ⟨source.toList, compiler.declared⟩ rfl refused
      sim.Carries sim.Alike other.lower found.lower) :
    (∃ compiled, compiler.compile source = .ok compiled ∧ node.SameOutcome compiled.root ∧
      compiled.formats = compiler.formats ∧ compiled.referenced = after.referenced) ∨
    ∃ error, compiler.compile source = .error error ∧ refused error := by
  obtain ⟨template, found, hread, honly, hfound⟩ := h
  have hlower : template.lower = found.lower := by
    rw [Template.lower, honly]
  obtain ⟨root, after', hroot, rfl, halike⟩ | ⟨error, herror, hrefused⟩ :=
    hcarries found hfound ⟨0, []⟩ ⟨0, []⟩ after node rfl hmakes
  · refine .inl ⟨⟨source, root, compiler.formats, after.slots, after.referenced⟩, ?_, halike, rfl,
      rfl⟩
    exact Compiler.compile_ok_iff.mpr ⟨rfl, rfl, template, hread, hlower ▸ hroot⟩
  · refine .inr ⟨error, ?_, hrefused⟩
    exact Compiler.compile_of_refuses hread (hlower ▸ herror)

/-- A source agrees with another one that compiles, where nothing is refused. -/
theorem agrees {expr' : Expression} (h : expr.ReadFrom source) (h' : expr'.ReadFrom source')
    {compiled : Compiled} (hcompile : compiler.compile source = .ok compiled)
    (hcarries : ∀ found found' : Expression, found.mapSpans unplaced = expr.mapSpans unplaced →
      found'.mapSpans unplaced = expr'.mapSpans unplaced →
      let sim := Lower.Simulation.ofSources ⟨source.toList, compiler.declared⟩
        ⟨source'.toList, compiler.declared⟩ rfl fun _ => False
      sim.Carries sim.Alike found.lower found'.lower) :
    ∃ other, compiler.compile source' = .ok other ∧ compiled.root.SameOutcome other.root ∧
      other.referenced = compiled.referenced := by
  obtain ⟨found, hfound, hmakes⟩ := h.made hcompile
  obtain ⟨other, hother, hroot, -, hreferenced⟩ | ⟨_, -, hrefused⟩ :=
    h'.carried (fun _ => False) hmakes fun found' hfound' => hcarries found found' hfound hfound'
  · exact ⟨other, hother, hroot, hreferenced⟩
  · exact hrefused.elim

end Expression.ReadFrom

namespace Compiled

variable {compiled other : Compiled}

theorem environment_eq (h : compiler.compile source = .ok compiled) (attributes : Attributes)
    (clock : Instant) :
    compiled.environment attributes clock = ⟨attributes, compiler.formats, clock⟩ := by
  rw [environment, (Compiler.compile_ok_iff.mp h).2.1]

/-- Sources with trees that agree give the same. -/
theorem run_agrees (h : compiler.compile source = .ok compiled)
    (h' : compiler.compile source' = .ok other)
    (hroot : Eval.SameOutcome compiled.root.eval other.root.eval)
    (attributes : Attributes) (clock : Instant) :
    (other.run attributes clock).1.mapError EvalError.cause =
        (compiled.run attributes clock).1.mapError EvalError.cause ∧
      (other.run attributes clock).2 = (compiled.run attributes clock).2 := by
  have heval : Eval.SameOutcome compiled.eval other.eval := by
    rw [eval_eq_root h, eval_eq_root h', ← bind_pure_comp, ← bind_pure_comp]
    exact hroot.bind fun value => .refl _
  rw [run, run, environment_eq h, environment_eq h']
  exact Prod.mk.inj (heval ⟨attributes, compiler.formats, clock⟩ .fresh)

end Compiled

end AttrExpr
