import AttrExpr.Proofs.Negation

/-! Results that are read as truth values. A result and the subject of `not` become truth values in
the same way, but for one: the result of a source is never unset, because unset has become the empty
text by then. -/
set_option autoImplicit false

namespace AttrExpr

namespace Value

theorem atRoot_of_set {value : Value} (h : value ≠ .unset) : value.atRoot = value := by
  cases value with
  | unset => exact absurd rfl h
  | string | boolean | number | date | instant => rfl

end Value

namespace Compiled

variable {compiler : Compiler} {source : String} {compiled negated : Compiled}

/-- What a source gives as a truth value, from the value of its tree. -/
theorem evaluateBoolean_eq (h : compiler.compile source = .ok compiled)
    (hvalid : compiled.isValidForBoolean = true) (attributes : Attributes) (clock : Instant) :
    compiled.evaluateBoolean attributes clock =
      (compiled.root.eval (compiled.environment attributes clock) .fresh).1.bind fun value =>
        (value.atRoot.truth compiled.formats).mapError
          fun failure => ⟨.coercion failure, compiled.source⟩ := by
  have hvalue : compiled.evaluate attributes clock =
      (compiled.root.eval (compiled.environment attributes clock) .fresh).1.map Value.atRoot := by
    rw [evaluate, run_eq_root h]
  rw [evaluateBoolean, hvalid, hvalue]
  rcases (compiled.root.eval (compiled.environment attributes clock) .fresh).1 with error | value
  · rfl
  · change (Except.mapError _ (value.atRoot.coerce compiled.formats .boolean)).bind _ = _
    rw [Value.coerce_boolean]
    cases htruth : value.atRoot.truth compiled.formats with
    | error failure => simp [Except.bind, Except.map, Except.mapError, htruth]
    | ok b => simp [Except.bind, Except.map, Except.mapError, htruth, Value.boolean?]; rfl

/-- A source of one expression, read as a truth value, and its negation. Both give opposite truth
values, or both fail. The codes are the same unless the expression is unset: it cannot be used then
in the negation, but is an empty text for the reading, which does not become a truth value. -/
theorem truth_of_result (compiler : Compiler) (source : String) (compiled : Compiled)
    (h : compiler.compile source = .ok compiled) (template : Template)
    (hread : Template.read source.toList = .ok template) (honly : template.only?.isSome = true)
    (hvalid : compiled.isValidForBoolean = true) :
    ∃ negated, compiler.compile (negation source) = .ok negated ∧
      ∀ (attributes : Attributes) (clock : Instant),
        let outcome := (compiled.root.eval (compiled.environment attributes clock) .fresh).1
        (∀ b, compiled.evaluateBoolean attributes clock = .ok b ↔
          negated.evaluate attributes clock = .ok (.boolean !b)) ∧
        ((∃ error, compiled.evaluateBoolean attributes clock = .error error) ↔
          ∃ error, negated.evaluate attributes clock = .error error) ∧
        (outcome ≠ .ok .unset → ∀ error failure,
          compiled.evaluateBoolean attributes clock = .error error →
          negated.evaluate attributes clock = .error failure → failure.code = error.code) ∧
        (outcome = .ok .unset → ∃ error failure,
          compiled.evaluateBoolean attributes clock = .error error ∧
          negated.evaluate attributes clock = .error failure ∧
          error.code = .coercionFailed ∧ failure.code = .unsetValue) := by
  obtain ⟨expr, honly⟩ := Option.isSome_iff_exists.mp honly
  obtain ⟨negated, hnegated, origin, inner, value, hroot, hvalue⟩ :=
    Compiler.compile_negation h (Template.embeddedBy hread honly) hvalid
  refine ⟨negated, hnegated, fun attributes clock => ?_⟩
  have hrun := run_negation h hnegated hroot hvalue attributes clock
  have heval := congrArg Prod.fst hrun
  rw [evaluateBoolean_eq h hvalid, evaluate, heval]
  dsimp only
  have hfails {α : Type} {error : EvalError} {a : α} : Except.error error ≠ .ok a := by
    intro h
    cases h
  rcases (compiled.root.eval (compiled.environment attributes clock) .fresh).1 with error | value
  · refine ⟨fun b => iff_of_false hfails hfails, iff_of_true ⟨error, rfl⟩ ⟨error, rfl⟩, ?_,
      fun h => absurd h hfails⟩
    rintro - _ _ ⟨⟩ ⟨⟩
    rfl
  by_cases hunset : value = .unset
  · subst hunset
    exact ⟨fun b => iff_of_false hfails hfails, iff_of_true ⟨_, rfl⟩ ⟨_, rfl⟩,
      fun hset => absurd rfl hset, fun _ => ⟨_, _, rfl, rfl, rfl, rfl⟩⟩
  simp only [Except.bind, Value.atRoot_of_set hunset]
  cases value.truth compiled.formats with
  | error failure =>
    refine ⟨fun b => iff_of_false hfails hfails, iff_of_true ⟨_, rfl⟩ ⟨_, rfl⟩, ?_, fun h => ?_⟩
    · rintro - _ _ ⟨⟩ ⟨⟩
      rfl
    · exact absurd (Except.ok.inj h) hunset
  | ok b =>
    refine ⟨fun other => ⟨?_, ?_⟩, ⟨?_, ?_⟩, fun _ error _ h => ?_, fun h => ?_⟩
    · rintro ⟨⟩
      rfl
    · intro h
      have hnot : (!b) = !other := Value.boolean.inj (Except.ok.inj h)
      rw [Bool.not_inj hnot]
      rfl
    · rintro ⟨error, h⟩
      cases h
    · rintro ⟨error, h⟩
      cases h
    · cases h
    · exact absurd (Except.ok.inj h) hunset

/-- The tree of `${missing}`. -/
def missingAlone : Compiled :=
  ⟨"${missing}", .attribute ⟨.string, "missing", ⟨2, 9⟩⟩ "missing", .standard, 0, ["missing"]⟩

theorem compile_missingAlone :
    Compiler.standard.compile missingAlone.source = .ok missingAlone := by
  cbv

/-- A missing attribute: both fail, and with different codes. -/
theorem truth_of_result_missingAlone :
    let record := Record.attributes ⟨[]⟩
    Compiler.standard.compile missingAlone.source = .ok missingAlone ∧
      (∃ template, Template.read missingAlone.source.toList = .ok template ∧
        template.only?.isSome = true) ∧
      missingAlone.isValidForBoolean = true ∧
      ∃ negated, Compiler.standard.compile (negation missingAlone.source) = .ok negated ∧
        ∃ error failure, missingAlone.evaluateBoolean record .epoch = .error error ∧
          negated.evaluate record .epoch = .error failure ∧ error.code = .coercionFailed ∧
          failure.code = .unsetValue := by
  intro record
  have hvalid : missingAlone.isValidForBoolean = true := by decide
  obtain ⟨template, hread, honly⟩ : ∃ template,
      Template.read missingAlone.source.toList = .ok template ∧ template.only?.isSome = true :=
    ⟨_, by cbv, by cbv⟩
  obtain ⟨negated, hnegated, hall⟩ :=
    truth_of_result .standard _ _ compile_missingAlone template hread honly hvalid
  obtain ⟨-, -, -, hunset⟩ := hall record .epoch
  exact ⟨compile_missingAlone, ⟨template, hread, honly⟩, hvalid, negated, hnegated,
    hunset (by cbv)⟩

/-- The codes differ where a missing attribute is read as a truth value. -/
theorem codes_differ_for_missing :
    (∃ error, missingAlone.evaluateBoolean (Record.attributes ⟨[]⟩) .epoch = .error error ∧
      error.code = .coercionFailed) ∧
    ∃ error, resultOn [] "$\x7bliteral($\x7bmissing\x7d):not()\x7d" = .ok (.error error) ∧
      error.code = .unsetValue :=
  ⟨⟨_, by cbv, by rfl⟩, _, by cbv, by rfl⟩

end Compiled

end AttrExpr
