import AttrExpr.Proofs.Everywhere

/-! The number literals of a compiled tree are those of its source, and they are finite. -/
set_option autoImplicit false

namespace AttrExpr

/-! Literals as they are read. -/

def Literal.Finite : Literal → Prop
  | .number n => n.isFinite = true
  | .string _ | .boolean _ => True

theorem Numeral.Denotes.isFinite {token : List Char} {n : Number} (h : Numeral.Denotes token n) :
    n.isFinite = true := by
  cases h with
  | whole h => rfl
  | decimal h hwhole hfinite => exact hfinite

theorem Literal.Spelled.finite {value : Literal} {token : List Char} (h : value.Spelled token) :
    value.Finite := by
  cases h with
  | string h => trivial
  | boolean b => trivial
  | number h => exact h.isFinite

mutual

theorem Expression.Spelled.finite {expr : Expression} {s t : Rest} :
    expr.Spelled s t → ∀ value ∈ expr.literals, value.Finite
  | .mk hsubject hchain => by
    rw [Expression.literals, List.forall_mem_append]
    exact ⟨hsubject.finite, hchain.finite⟩

theorem Subject.Spelled.finite {subject : Subject} {s t : Rest} :
    subject.Spelled s t → ∀ value ∈ subject.literals, value.Finite
  | .bare _ _ _ => by simp [Subject.literals]
  | .quoted _ _ => by simp [Subject.literals]
  | .call hcall => by
    rw [Subject.literals]
    exact hcall.finite

theorem ChainSpelled.finite {calls : List Call} {s t : Rest} :
    ChainSpelled calls s t → ∀ value ∈ callsLiterals calls, value.Finite
  | .nil => by simp [callsLiterals]
  | .cons _ _ _ hcall hcalls => by
    rw [callsLiterals, List.forall_mem_append]
    exact ⟨hcall.finite, hcalls.finite⟩

theorem Call.Spelled.finite {call : Call} {s t : Rest} :
    call.Spelled s t → ∀ value ∈ call.literals, value.Finite
  | .mk _ _ _ _ hargs => by
    rw [Call.literals]
    exact hargs.finite

theorem ArgumentsSpelled.finite {args : List Argument} {s t : Rest} :
    ArgumentsSpelled args s t → ∀ value ∈ argumentsLiterals args, value.Finite
  | .none _ _ _ => by simp [argumentsLiterals]
  | .some _ _ harg hargs => by
    rw [argumentsLiterals, List.forall_mem_append]
    exact ⟨harg.finite, hargs.finite⟩

theorem MoreArgumentsSpelled.finite {args : List Argument} {s t : Rest} :
    MoreArgumentsSpelled args s t → ∀ value ∈ argumentsLiterals args, value.Finite
  | .nil _ _ => by simp [argumentsLiterals]
  | .cons _ _ _ harg hargs => by
    rw [argumentsLiterals, List.forall_mem_append]
    exact ⟨harg.finite, hargs.finite⟩

theorem Argument.Spelled.finite {arg : Argument} {s t : Rest} :
    arg.Spelled s t → ∀ value ∈ arg.literals, value.Finite
  | .literal hvalue _ => by
    rw [Argument.literals]
    simpa using Literal.Spelled.finite hvalue
  | .expression hexpr => by
    rw [Argument.literals]
    exact hexpr.finite

theorem EmbeddedSpelled.finite {expr : Expression} {s t : Rest} :
    EmbeddedSpelled expr s t → ∀ value ∈ expr.literals, value.Finite
  | .mk _ _ hexpr _ _ => hexpr.finite

end

theorem SegmentsSpelled.finite {segments : List Segment} {s : Rest}
    (h : SegmentsSpelled segments s) :
    ∀ segment ∈ segments, ∀ value ∈ segment.literals, value.Finite := by
  induction h with
  | nil => simp
  | text _ _ _ _ _ ih =>
    rw [List.forall_mem_cons]
    exact ⟨by simp [Segment.literals, Literal.Finite], ih⟩
  | expression hexpr _ ih =>
    rw [List.forall_mem_cons]
    exact ⟨hexpr.finite, ih⟩

/-! Literals of the trees that expressions are lowered to. -/

namespace Node

/-- All number literals of a tree are finite. -/
def LiteralsFinite (node : Node) : Prop :=
  ∀ origin n, .literal origin (.number n) ∈ node.all → n.isFinite = true

theorem LiteralsFinite.child {node child : Node} (h : node.LiteralsFinite)
    (hc : child ∈ node.children) : child.LiteralsFinite :=
  fun origin n hn => h origin n (mem_all_of_child hc hn)

end Node

namespace Lower

/-- A literal node is made of a literal with the same number. -/
theorem finite_locally :
    Locally Literal.Finite fun node => ∀ origin n, node = .literal origin (.number n) →
      n.isFinite = true where
  literal := by
    intro value span scope before after node hvalue h origin n hnode
    subst hnode
    cases value with
    | number m =>
      simp only [literal, makes_bind, makes_pure] at h
      obtain ⟨_, _, -, heq, -⟩ := h
      cases heq
      exact hvalue
    | string | boolean =>
      simp only [literal, makes_bind, makes_pure] at h
      obtain ⟨_, _, -, heq, -⟩ := h
      cases heq
  «attribute» _ _ _ _ h := nomatch h
  template _ _ _ _ h := nomatch h
  loopVariable _ _ _ _ h := nomatch h
  call := by
    intro function subject planned span scope before after node _ h origin n hnode
    subst hnode
    simp only [call, makes_bind, makes_pure] at h
    obtain ⟨_, _, -, _, _, -, _, _, -, _, _, -, _, _, -, heq, -⟩ := h
    cases heq
  quantifier _ _ _ _ _ _ _ h := nomatch h

end Lower

/-- The number literals of what compiles are finite. -/
theorem Compiler.compile_literalsFinite {compiler : Compiler} {source : String}
    {compiled : Compiled} (h : compiler.compile source = .ok compiled) :
    compiled.root.LiteralsFinite := by
  have heverywhere := Lower.finite_locally.everywhere_compiled
    (fun template source hspelled => SegmentsSpelled.finite hspelled) h
  exact fun origin n hn => heverywhere _ hn origin n rfl

end AttrExpr
