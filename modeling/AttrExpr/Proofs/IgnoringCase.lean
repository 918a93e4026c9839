import AttrExpr.Proofs.Blame

/-! Equality and equality without regard to case. Both see whether their subject is missing, but
only the first sees whether its argument is: the second takes its argument as text, and a missing
one as the empty text. -/
set_option autoImplicit false

namespace AttrExpr

namespace Value

theorem Fits.unset_or_string {value : Value} (h : value.Fits .string) :
    value = .unset ∨ ∃ text, value = .string text := by
  rcases h with h | ⟨h, -⟩
  · cases value with
    | string text => exact .inr ⟨text, rfl⟩
    | number n => cases n <;> rcases h with h | ⟨h, -⟩ <;> cases h
    | unset | boolean | date | instant => rcases h with h | ⟨h, -⟩ <;> cases h
  · exact .inl h

/-- Equality without regard to case of a value and the text of another. -/
def sameTextIgnoringCase (a b : Value) : Bool := a.sameIgnoringCase (.string b.text)

theorem sameTextIgnoringCase_eq (a b : Value) :
    a.sameTextIgnoringCase b =
      (!a.isUnset && Unicode.toLower a.text == Unicode.toLower b.text) := by
  cases a <;> rfl

theorem isUnset_eq_false {value : Value} (h : value ≠ .unset) : value.isUnset = false := by
  cases value with
  | unset => exact absurd rfl h
  | string | boolean | number | date | instant => rfl

/-- What is left of reflexivity. -/
theorem sameTextIgnoringCase_self {a : Value} (ha : a ≠ .unset) :
    a.sameTextIgnoringCase a = true := by
  simp [sameTextIgnoringCase_eq, isUnset_eq_false ha]

/-- What is left of symmetry. -/
theorem sameTextIgnoringCase_comm {a b : Value} (h : a.isUnset = b.isUnset) :
    a.sameTextIgnoringCase b = b.sameTextIgnoringCase a := by
  rw [sameTextIgnoringCase_eq, sameTextIgnoringCase_eq, h, Bool.beq_comm]

/-- Texts that are equal are so without regard to case. -/
theorem sameTextIgnoringCase_of_same {a b : Value} (ha : a.Fits .string) (hb : b.Fits .string)
    (hset : a ≠ .unset) (h : a.same b = true) : a.sameTextIgnoringCase b = true := by
  obtain rfl | ⟨s, rfl⟩ := ha.unset_or_string
  · exact absurd rfl hset
  · obtain rfl | ⟨t, rfl⟩ := hb.unset_or_string
    · cases h
    · obtain rfl : s = t := beq_iff_eq.mp h
      exact sameTextIgnoringCase_self hset

end Value

/-- How functions that compare their subject with an argument decide. -/
def Function.equality? : Function → Option (Value → Value → Bool)
  | .equals => some Value.same
  | .equalsIgnoreCase => some Value.sameTextIgnoringCase
  | _ => none

namespace ActiveCall.On

variable {env : Environment} {call : ActiveCall} {first second : Demand}

/-- A function that sees its subject as it is, and its argument as what is taken of it. -/
theorem value_compared (h : call.On (some first) [second]) (hf : call.function.family = .nullable)
    {compare : Value → Value → Bool}
    (hcall : ∀ a, call.onNullable a = do pure (.boolean (compare a (← call.arg 0))))
    {state between after : State} {a b taken : Value}
    (ha : first.node.eval env state = (.ok a, between))
    (hb : second.node.eval env between = (.ok b, after))
    (htaken : second.take env.formats b = .ok taken) :
    call.value env state = (.ok (.boolean (compare a taken)), after) := by
  obtain ⟨expected, hs⟩ : ∃ expected, call.function.signature.subject = some expected := by
    cases hc : call.function <;> rw [hc] at hf <;> cases hf <;> exact ⟨_, rfl⟩
  obtain ⟨demand, kind, hd, hraw, -⟩ := h.rawSubject hs
  cases hd
  have harg : call.arg 0 env between = (.ok taken, after) := by
    rw [h.arg rfl, Demand.taken_visit_ok hb, htaken, Demand.visit, hb]
    rfl
  simp only [ActiveCall.value, hf]
  rw [Eval.bind_apply, hraw, ha]
  dsimp only
  rw [hcall, Eval.bind_apply, harg]
  rfl

end ActiveCall.On

namespace Node

variable {origin : Origin} {function : Function} {subject : Option Node} {target : Option Kind}
  {args : List Node} {targets : List (Option Kind)} {equality : Value → Value → Bool}

/-- What a call that compares its operands gives, from the values of both. -/
theorem CallSound.equality_eval (h : CallSound origin function subject target args targets)
    (he : function.equality? = some equality) (pattern : Option Regex) :
    ∃ left right, subject = some left ∧ args = [right] ∧
      ∀ (env : Environment) (state between after : State) (a b : Value),
        left.eval env state = (.ok a, between) → right.eval env between = (.ok b, after) →
        eval (.call origin function subject target args targets pattern) env state =
          (.ok (.boolean (equality a b)), after) := by
  have hcall := h.on pattern
  cases function <;> cases he
  case equals =>
    obtain ⟨left, right, rfl, rfl, kind, hr⟩ :=
      h.two_operands (show Function.equals.signature = Function.exactly (some .any) [.any] .boolean
        from rfl)
    refine ⟨left, right, rfl, rfl, fun env state between after a b ha hb => ?_⟩
    have htaken : (Demand.mk right (targets[0]?).join none).take env.formats b = .ok b := by
      rw [Demand.take_of_required_none rfl, Expectation.resolve?_any hr, Value.coerceTo]
    rw [eval]
    exact hcall.value_compared rfl (fun _ => rfl) ha hb htaken
  case equalsIgnoreCase =>
    obtain ⟨left, right, rfl, rfl, kind, hr⟩ :=
      h.two_operands (show Function.equalsIgnoreCase.signature =
        Function.exactly (some (.kind .string)) [.kind .string] .boolean from rfl)
    refine ⟨left, right, rfl, rfl, fun env state between after a b ha hb => ?_⟩
    have htaken : (Demand.mk right (targets[0]?).join none).take env.formats b =
        .ok (.string b.text) := by
      rw [Demand.take_of_required_none rfl, Expectation.resolve?_kind hr, Value.coerceTo,
        Value.coerce_string]
      rfl
    rw [eval]
    exact hcall.value_compared rfl (fun _ => rfl) ha hb htaken

end Node

namespace Compiled

/-- What the equalities of compiled sources compare. The one without regard to case takes its
argument as text, so that it is reflexive and contains the other where its subject is set, and
symmetric where both operands are set or both are missing. -/
theorem equalities_compare (compiler : Compiler) (source : String) (compiled : Compiled)
    (h : compiler.compile source = .ok compiled) :
    (∀ node ∈ compiled.root.all, ∀ origin function subject target args targets pattern equality,
      node = .call origin function subject target args targets pattern →
      function.equality? = some equality →
      ∃ left right, subject = some left ∧ args = [right] ∧
        ∀ (env : Environment) (state between after : State) (a b : Value),
          left.eval env state = (.ok a, between) → right.eval env between = (.ok b, after) →
          node.eval env state = (.ok (.boolean (equality a b)), after)) ∧
    ∀ a b : Value, a.Fits .string → b.Fits .string →
      a.sameTextIgnoringCase b =
        (!a.isUnset && Unicode.toLower a.text == Unicode.toLower b.text) ∧
      (a ≠ .unset → a.sameTextIgnoringCase a = true) ∧
      (a ≠ .unset → a.same b = true → a.sameTextIgnoringCase b = true) ∧
      (a.isUnset = b.isUnset → a.sameTextIgnoringCase b = b.sameTextIgnoringCase a) := by
  obtain ⟨hwell, -⟩ := Compiler.compile_wellFormed h
  refine ⟨?_, fun a b ha hb => ⟨a.sameTextIgnoringCase_eq b, Value.sameTextIgnoringCase_self,
    Value.sameTextIgnoringCase_of_same ha hb, Value.sameTextIgnoringCase_comm⟩⟩
  rintro node hn origin function subject target args targets pattern equality rfl he
  have hcall : Node.CallSound origin function subject target args targets := hwell _ hn
  exact hcall.equality_eval he pattern

/-- The tree of `${literal(${missing}):equalsIgnoreCase(${missing})}`. -/
def missingIgnoringCase : Compiled where
  source := "${literal(${missing}):equalsIgnoreCase(${missing})}"
  root := .call ⟨.boolean, "equalsIgnoreCase(${missing})", ⟨22, 50⟩⟩ .equalsIgnoreCase
    (some (.call ⟨.string, "literal(${missing})", ⟨2, 21⟩⟩ .literal none none
      [.attribute ⟨.string, "missing", ⟨12, 19⟩⟩ "missing"] [none] none)) (some .string)
    [.attribute ⟨.string, "missing", ⟨41, 48⟩⟩ "missing"] [some .string] none
  formats := .standard
  slots := 0
  referenced := ["missing"]

theorem compile_missingIgnoringCase :
    Compiler.standard.compile missingIgnoringCase.source = .ok missingIgnoringCase := by
  cbv

/-- A missing attribute compared with itself: the two operands are evaluated, and the comparison is
that of a missing subject with a text. -/
theorem equalities_compare_missingIgnoringCase :
    let env := missingIgnoringCase.environment (Record.attributes ⟨[]⟩) .epoch
    Compiler.standard.compile missingIgnoringCase.source = .ok missingIgnoringCase ∧
      (missingIgnoringCase.root.eval env .fresh).1 =
        .ok (.boolean (Value.unset.sameTextIgnoringCase .unset)) ∧
      Value.unset.sameTextIgnoringCase .unset = false := by
  intro env
  obtain ⟨hcalls, -⟩ := equalities_compare .standard _ _ compile_missingIgnoringCase
  obtain ⟨left, right, hleft, hright, heval⟩ :=
    hcalls _ (Node.mem_all_self _) _ _ _ _ _ _ _ _ rfl rfl
  cases hleft
  cases hright
  have hmissing := heval env .fresh ⟨[], 0, ["missing"]⟩ ⟨[], 0, ["missing", "missing"]⟩
    .unset .unset (by cbv) (by cbv)
  exact ⟨compile_missingIgnoringCase, by rw [hmissing], rfl⟩

/-- A missing attribute is equal to itself, but not without regard to case. Whether a missing and an
empty one are equal without regard to case depends on which of them is the subject. -/
theorem missing_unequal_ignoring_case :
    resultOn [] "${literal(${missing}):equals(${missing})}" = .ok (.ok (.boolean true)) ∧
    resultOn [] "${literal(${missing}):equalsIgnoreCase(${missing})}" =
      .ok (.ok (.boolean false)) ∧
    resultOn [("empty", "")] "${literal(${missing}):equalsIgnoreCase(${empty})}" =
      .ok (.ok (.boolean false)) ∧
    resultOn [("empty", "")] "${literal(${empty}):equalsIgnoreCase(${missing})}" =
      .ok (.ok (.boolean true)) :=
  ⟨by cbv, by cbv, by cbv, by cbv⟩

end Compiled

end AttrExpr
