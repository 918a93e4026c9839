import AttrExpr.Proofs.Isolation
import AttrExpr.Proofs.Lowering

/-! What the evaluation of a compiled source may give, whatever the record. -/
set_option autoImplicit false

namespace AttrExpr

open Eval (Ensures Always)

/-- The value that stands for a value at the root: the empty text for unset. -/
def Value.atRoot : Value → Value
  | .unset => .string ""
  | value => value

namespace Compiled

variable {compiler : Compiler} {source : String} {compiled : Compiled}

/-- A compiled source gives what its tree does, with nothing pending. -/
theorem eval_eq_root (h : compiler.compile source = .ok compiled) :
    compiled.eval = Value.atRoot <$> compiled.root.eval := by
  obtain ⟨-, hfree⟩ := Compiler.compile_wellFormed h
  have hpending (remaining : Nat → Nat) : compiled.root.pending remaining = 0 :=
    compiled.root.pending_eq_zero remaining fun slot hs => by simp [hfree] at hs
  rw [eval, ← bind_pure_comp]
  refine bind_congr fun value => ?_
  simp only [hpending, ne_eq, not_true_eq_false, if_false]
  cases value <;> rfl

theorem run_eq_root (h : compiler.compile source = .ok compiled) (attributes : Attributes)
    (clock : Instant) :
    compiled.run attributes clock =
      ((compiled.root.eval (compiled.environment attributes clock) .fresh).1.map Value.atRoot,
        (compiled.root.eval (compiled.environment attributes clock) .fresh).2) := by
  rw [run, eval_eq_root h, Eval.map_apply]

theorem eval_ensures (h : compiler.compile source = .ok compiled) (env : Environment) :
    Always env compiled.eval fun value => value.Is compiled.kind := by
  obtain ⟨hwell, hfree⟩ := Compiler.compile_wellFormed h
  rw [eval_eq_root h, ← bind_pure_comp]
  refine (hwell.evaluates.of_closed hfree).bind fun value hv => .pure ?_
  rcases hv with hv | ⟨rfl, hk⟩
  · cases value with
    | unset => exact absurd rfl hv.set
    | _ => exact hv
  · rw [show compiled.kind = .string from hk]
    exact Value.is_string ""

theorem eval_ok (h : compiler.compile source = .ok compiled) {env : Environment} {state : State}
    {value : Value} (hv : (compiled.eval env state).1 = .ok value) : value.Is compiled.kind := by
  have hgood := eval_ensures h env state trivial
  rwa [hv] at hgood

theorem eval_error (h : compiler.compile source = .ok compiled) {env : Environment} {state : State}
    {error : EvalError} (he : (compiled.eval env state).1 = .error error) :
    error.cause.Expected env.formats := by
  have hgood := eval_ensures h env state trivial
  rwa [he] at hgood

/-- The value of a compiled source is set and of the kind that was declared for it, except that a
whole number may stand for a number. -/
theorem value_of_declared_kind (compiler : Compiler) (source : String) (compiled : Compiled)
    (h : compiler.compile source = .ok compiled) :
    (∀ (attributes : Attributes) (clock : Instant) (value : Value),
      compiled.evaluate attributes clock = .ok value →
        value ≠ .unset ∧ (value.kind? = some compiled.kind ∨
          compiled.kind = .number ∧ value.kind? = some .whole)) ∧
    ∀ (env : Environment) (state : State) (value : Value),
      (compiled.eval env state).1 = .ok value →
        value ≠ .unset ∧ (value.kind? = some compiled.kind ∨
          compiled.kind = .number ∧ value.kind? = some .whole) := by
  refine ⟨fun attributes clock value hv => ?_, fun env state value hv => ?_⟩
  · have his := eval_ok h hv
    exact ⟨his.set, his⟩
  · have his := eval_ok h hv
    exact ⟨his.set, his⟩

/-- The result of a source on a record, if the source compiles. -/
def resultOn (entries : List (String × String)) (source : String) :
    Except CompileError (Except EvalError Value) :=
  (Compiler.standard.compile source).map fun compiled =>
    compiled.evaluate (Record.attributes ⟨entries⟩) .epoch

theorem compile_of_resultOn {entries : List (String × String)} {source : String}
    {result : Except EvalError Value} (h : resultOn entries source = .ok result) :
    ∃ compiled, Compiler.standard.compile source = .ok compiled ∧
      compiled.evaluate (Record.attributes ⟨entries⟩) .epoch = result := by
  unfold resultOn at h
  cases hcompiled : Compiler.standard.compile source with
  | error error =>
    rw [hcompiled] at h
    cases h
  | ok compiled =>
    rw [hcompiled] at h
    exact ⟨compiled, rfl, Except.ok.inj h⟩

/-- The tree of `${size:plus(1)}`. -/
def sizePlusOne : Compiled where
  source := "${size:plus(1)}"
  root := .call ⟨.number, "plus(1)", ⟨7, 14⟩⟩ .plus
    (some (.attribute ⟨.string, "size", ⟨2, 6⟩⟩ "size")) (some .number)
    [.literal ⟨.whole, "1", ⟨12, 13⟩⟩ (.number (.whole 1))] [some .number] none
  formats := .standard
  slots := 0
  referenced := ["size"]

theorem compile_sizePlusOne : Compiler.standard.compile sizePlusOne.source = .ok sizePlusOne := by
  cbv

/-- A sum is declared as a number, and it is a whole one. -/
theorem value_of_declared_kind_sizePlusOne :
    Compiler.standard.compile sizePlusOne.source = .ok sizePlusOne ∧
      sizePlusOne.evaluate (Record.attributes ⟨[("size", "41")]⟩) .epoch =
        .ok (.number (.whole 42)) ∧
      ((Value.number (.whole 42)).kind? = some sizePlusOne.kind ∨
        sizePlusOne.kind = .number ∧ (Value.number (.whole 42)).kind? = some .whole) := by
  have hvalue : sizePlusOne.evaluate (Record.attributes ⟨[("size", "41")]⟩) .epoch =
      .ok (.number (.whole 42)) := by cbv
  have hkind := (value_of_declared_kind .standard _ _ compile_sizePlusOne).1 _ _ _ hvalue
  exact ⟨compile_sizePlusOne, hvalue, hkind.2⟩

theorem isInternal_eq_false {formats : Formats} {error : EvalError}
    (h : error.cause.Expected formats) : error.isInternal = false :=
  decide_eq_false h.code_ne_internal

theorem evaluateBoolean_error (h : compiler.compile source = .ok compiled)
    {attributes : Attributes} {clock : Instant} {error : EvalError}
    (he : compiled.evaluateBoolean attributes clock = .error error) : error.isInternal = false := by
  unfold evaluateBoolean at he
  split at he
  · cases he
    rfl
  · cases hv : compiled.evaluate attributes clock with
    | error cause =>
      rw [hv] at he
      cases he
      exact isInternal_eq_false (eval_error h hv)
    | ok value =>
      rw [hv] at he
      cases hc : value.coerce compiled.formats .boolean with
      | error cause =>
        change (Except.mapError _ (value.coerce compiled.formats .boolean)).bind _ = _ at he
        rw [hc] at he
        cases he
        cases cause <;> rfl
      | ok truth =>
        obtain ⟨b, rfl⟩ := (Value.coerce_is hc).boolean
        change (Except.mapError _ (value.coerce compiled.formats .boolean)).bind _ = _ at he
        rw [hc] at he
        cases he

theorem evaluateString_error {attributes : Attributes} {clock : Instant} {error : EvalError}
    (he : compiled.evaluateString attributes clock = .error error) :
    compiled.evaluate attributes clock = .error error := by
  unfold evaluateString at he
  cases hv : compiled.evaluate attributes clock with
  | error cause =>
    rw [hv] at he
    cases he
    rfl
  | ok value =>
    rw [hv] at he
    cases he

/-- No evaluation of a compiled source breaks an invariant, and a value that does not become one of
the kind that is needed is a text or a number that is not whole. -/
theorem no_broken_invariant (compiler : Compiler) (source : String) (compiled : Compiled)
    (h : compiler.compile source = .ok compiled) (attributes : Attributes) (clock : Instant) :
    (∀ error, compiled.evaluate attributes clock = .error error → error.isInternal = false) ∧
    (∀ error, compiled.evaluateString attributes clock = .error error →
      error.isInternal = false) ∧
    (∀ error, compiled.evaluateBoolean attributes clock = .error error →
      error.isInternal = false) ∧
    ∀ error, compiled.evaluate attributes clock = .error error → error.code = .coercionFailed →
      ∃ (value : Value) (target : Kind) (failure : CoercionError),
        error.cause = .coercion failure ∧ value.coerce compiled.formats target = .error failure ∧
          ((∃ text, value = .string text) ∨
            ∃ d, value = .number (.decimal d) ∧ (Number.decimal d).toWhole? = none ∧
              target = .whole) := by
  refine ⟨fun error he => ?_, fun error he => ?_, fun error he => ?_, fun error he hcode => ?_⟩
  · exact isInternal_eq_false (eval_error h he)
  · exact isInternal_eq_false (eval_error h (evaluateString_error he))
  · exact evaluateBoolean_error h he
  · exact (eval_error h he).coercion hcode

/-- A text that is no number does not become one. -/
theorem no_broken_invariant_sizePlusOne :
    let attributes := Record.attributes ⟨[("size", "many")]⟩
    let error : EvalError := ⟨.coercion (.incompatible .string .number "many"), "size"⟩
    Compiler.standard.compile sizePlusOne.source = .ok sizePlusOne ∧
      sizePlusOne.evaluate attributes .epoch = .error error ∧ error.isInternal = false ∧
      ∃ (value : Value) (target : Kind) (failure : CoercionError),
        error.cause = .coercion failure ∧
          value.coerce sizePlusOne.formats target = .error failure ∧
          ((∃ text, value = .string text) ∨
            ∃ d, value = .number (.decimal d) ∧ (Number.decimal d).toWhole? = none ∧
              target = .whole) := by
  intro attributes error
  have herror : sizePlusOne.evaluate attributes .epoch = .error error := by cbv
  have hprogress := no_broken_invariant .standard _ _ compile_sizePlusOne attributes .epoch
  exact ⟨compile_sizePlusOne, herror, hprogress.1 error herror, hprogress.2.2.2 error herror rfl⟩

end Compiled

end AttrExpr
