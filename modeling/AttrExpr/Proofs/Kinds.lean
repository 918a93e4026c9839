import AttrExpr.Evaluation.Context
import AttrExpr.Function.Signature

/-! Kinds of values: what coercion gives, and when it fails although the kinds allow it. -/
set_option autoImplicit false

namespace AttrExpr

namespace Value

/-- A set value of a kind. Whole numbers are numbers as well. -/
def Is (value : Value) (kind : Kind) : Prop :=
  value.kind? = some kind ∨ kind = .number ∧ value.kind? = some .whole

/-- What a node of a kind may give. Text may be missing. -/
def Fits (value : Value) (kind : Kind) : Prop :=
  value.Is kind ∨ value = .unset ∧ kind = .string

/-- Only the value tells whether it becomes one of a kind. -/
def MayResist (value : Value) (target : Kind) : Prop :=
  (∃ text, value = .string text) ∨
    ∃ d, value = .number (.decimal d) ∧ (Number.decimal d).toWhole? = none ∧ target = .whole

theorem is_string (text : String) : (Value.string text).Is .string := .inl rfl

theorem is_boolean (b : Bool) : (Value.boolean b).Is .boolean := .inl rfl

theorem is_number (n : Number) : (Value.number n).Is .number := by
  cases n with
  | whole k => exact .inr ⟨rfl, rfl⟩
  | decimal d => exact .inl rfl

theorem is_whole (k : Int64) : (Value.number (.whole k)).Is .whole := .inl rfl

theorem Is.set {value : Value} {kind : Kind} (h : value.Is kind) : value ≠ .unset := by
  rintro rfl
  rcases h with h | ⟨_, h⟩ <;> cases h

theorem Is.kind_eq {value : Value} {kind actual : Kind} (h : value.Is kind)
    (ha : value.kind? = some actual) (hw : actual ≠ .whole) : kind = actual := by
  rcases h with h | ⟨_, h⟩
  · exact Option.some.inj (h.symm.trans ha)
  · exact absurd (Option.some.inj (ha.symm.trans h)) hw

theorem Is.boolean {value : Value} (h : value.Is .boolean) : ∃ b, value = .boolean b := by
  rcases h with h | ⟨h, _⟩
  · cases value with
    | boolean b => exact ⟨b, rfl⟩
    | number n => cases n <;> cases h
    | unset | string | date | instant => cases h
  · cases h

theorem Fits.boolean {value : Value} (h : value.Fits .boolean) : ∃ b, value = .boolean b := by
  rcases h with h | ⟨_, h⟩
  · exact h.boolean
  · cases h

theorem Is.number {value : Value} {kind : Kind} (h : value.Is kind)
    (hk : kind = .number ∨ kind = .whole) : ∃ n, value = .number n := by
  cases value with
  | number n => exact ⟨n, rfl⟩
  | unset | string | boolean | date | instant =>
    rcases hk with rfl | rfl <;> rcases h with h | ⟨_, h⟩ <;> cases h

theorem Is.whole {value : Value} (h : value.Is .whole) : ∃ k, value = .number (.whole k) := by
  obtain ⟨n, rfl⟩ := h.number (.inr rfl)
  cases n with
  | whole k => exact ⟨k, rfl⟩
  | decimal d => rcases h with h | ⟨_, h⟩ <;> cases h

theorem Is.moment {value : Value} {kind : Kind} (h : value.Is kind)
    (hk : kind = .date ∨ kind = .instant) :
    (∃ date, value = .date date) ∨ ∃ instant, value = .instant instant := by
  cases value with
  | date date => exact .inl ⟨date, rfl⟩
  | instant instant => exact .inr ⟨instant, rfl⟩
  | number n =>
    cases n <;> rcases hk with rfl | rfl <;> rcases h with h | ⟨h, _⟩ <;> cases h
  | unset | string | boolean =>
    rcases hk with rfl | rfl <;> rcases h with h | ⟨h, _⟩ <;> cases h

end Value

theorem Number.coerceWhole_is {source : Kind} {n : Number} {result : Value}
    (h : n.coerceWhole source = .ok result) : result.Is .whole := by
  unfold Number.coerceWhole at h
  split at h
  · cases h
    exact Value.is_whole _
  · cases h

theorem coerceText_is {formats : Formats} {target : Kind} {text : String} {result : Value}
    (h : coerceText formats target text = .ok result) : result.Is target := by
  cases target with
  | string =>
    cases h
    exact Value.is_string text
  | boolean =>
    simp only [coerceText] at h
    split at h <;> cases h
    exact Value.is_boolean _
  | number =>
    simp only [coerceText] at h
    split at h <;> cases h
    exact Value.is_number _
  | whole =>
    simp only [coerceText] at h
    split at h
    · exact Number.coerceWhole_is h
    · cases h
  | date =>
    simp only [coerceText] at h
    split at h <;> cases h
    exact .inl rfl
  | instant =>
    simp only [coerceText] at h
    split at h <;> cases h
    exact .inl rfl

/-- What a value is turned into is of the kind that was asked for. -/
theorem Value.coerce_is {formats : Formats} {target : Kind} {value result : Value}
    (h : value.coerce formats target = .ok result) : result.Is target := by
  cases value with
  | string text => exact coerceText_is h
  | unset =>
    cases target <;> cases h
    exact Value.is_string _
  | boolean b =>
    cases target <;> cases h
    · exact Value.is_string _
    · exact Value.is_boolean b
  | date date =>
    cases target <;> cases h
    · exact Value.is_string _
    · exact .inl rfl
  | instant instant =>
    cases target <;> cases h
    · exact Value.is_string _
    · exact .inl rfl
  | number n =>
    cases target with
    | whole => exact Number.coerceWhole_is h
    | number =>
      cases h
      exact Value.is_number n
    | string =>
      cases h
      exact Value.is_string _
    | boolean | date | instant => cases h

/-- A failure that compiled expressions may show: no internal fault, and coercion fails only where
the kinds leave that open. -/
structure EvalCause.Expected (formats : Formats) (cause : EvalCause) : Prop where
  code_ne_internal : cause.code ≠ .internal
  coercion : cause.code = .coercionFailed →
    ∃ (value : Value) (target : Kind) (error : CoercionError), cause = .coercion error ∧
      value.coerce formats target = .error error ∧ value.MayResist target

namespace EvalCause.Expected

variable {formats : Formats}

/-- A cause with another code than these two is expected. -/
theorem ofCode {cause : EvalCause} (code : Code) (h : cause.code = code) (hi : code ≠ .internal)
    (hc : code ≠ .coercionFailed) : cause.Expected formats where
  code_ne_internal := h ▸ hi
  coercion he := absurd (h.symm.trans he) hc

theorem ofCoercion {value : Value} {target : Kind} {error : CoercionError}
    (h : value.coerce formats target = .error error) (hv : value.MayResist target) :
    (EvalCause.coercion error).Expected formats := by
  refine ⟨?_, fun _ => ⟨value, target, error, rfl, h, hv⟩⟩
  cases error <;> simp only [EvalCause.code] <;> decide

end EvalCause.Expected

namespace Value

variable {formats : Formats} {value : Value} {kind target : Kind}

theorem coerce_string (formats : Formats) (value : Value) :
    value.coerce formats .string = .ok (.string value.text) := by cases value <;> rfl

/-- What the kinds tell of turning a value into another kind: it is refused, whatever the value is,
or it succeeds but for a value that may resist. -/
theorem coerce_cases (formats : Formats) (target : Kind) (hk : value.kind? = some kind) :
    kind.canBecome target = false ∧
        value.coerce formats target = .error (.incompatible kind target value.text) ∨
      kind.canBecome target = true ∧
        ((∃ result, value.coerce formats target = .ok result) ∨ value.MayResist target) := by
  cases value with
  | unset => cases hk
  | string text =>
    cases hk
    exact .inr ⟨rfl, .inr (.inl ⟨text, rfl⟩)⟩
  | boolean b =>
    cases hk
    cases target with
    | string | boolean => exact .inr ⟨rfl, .inl ⟨_, rfl⟩⟩
    | whole | number | date | instant => exact .inl ⟨rfl, rfl⟩
  | date date =>
    cases hk
    cases target with
    | string | date => exact .inr ⟨rfl, .inl ⟨_, rfl⟩⟩
    | boolean | whole | number | instant => exact .inl ⟨rfl, rfl⟩
  | instant instant =>
    cases hk
    cases target with
    | string | instant => exact .inr ⟨rfl, .inl ⟨_, rfl⟩⟩
    | boolean | whole | number | date => exact .inl ⟨rfl, rfl⟩
  | number n =>
    cases n with
    | whole k =>
      cases hk
      cases target with
      | string | whole | number => exact .inr ⟨rfl, .inl ⟨_, rfl⟩⟩
      | boolean | date | instant => exact .inl ⟨rfl, rfl⟩
    | decimal d =>
      cases hk
      cases target with
      | string | number => exact .inr ⟨rfl, .inl ⟨_, rfl⟩⟩
      | boolean | date | instant => exact .inl ⟨rfl, rfl⟩
      | whole =>
        refine .inr ⟨rfl, ?_⟩
        cases hd : (Number.decimal d).toWhole? with
        | some k => exact .inl ⟨.number (.whole k), by simp only [coerce, Number.coerceWhole, hd]⟩
        | none => exact .inr (.inr ⟨d, rfl, hd, rfl⟩)

/-- Where the kinds allow it, only values that may resist are refused. -/
theorem mayResist_of_coerce {error : CoercionError} (hk : value.kind? = some kind)
    (hb : kind.canBecome target = true) (h : value.coerce formats target = .error error) :
    value.MayResist target := by
  rcases coerce_cases formats target hk with ⟨hfalse, -⟩ | ⟨-, ⟨result, hok⟩ | hresist⟩
  · cases hfalse.symm.trans hb
  · cases hok.symm.trans h
  · exact hresist

/-- A whole number becomes what a number does. -/
theorem Is.canBecome_eq (h : value.Is kind) :
    ∃ actual, value.kind? = some actual ∧ actual.canBecome = kind.canBecome := by
  rcases h with h | ⟨rfl, h⟩
  · exact ⟨kind, h, rfl⟩
  · refine ⟨.whole, h, funext fun target => ?_⟩
    cases target <;> rfl

/-- Where the kinds allow it, coercion fails in an expected way. -/
theorem coerce_error {error : CoercionError} (hv : value.Fits kind)
    (hk : kind.canBecome target = true) (h : value.coerce formats target = .error error) :
    (EvalCause.coercion error).Expected formats := by
  rcases hv with hv | ⟨rfl, rfl⟩
  · obtain ⟨actual, hactual, hsame⟩ := hv.canBecome_eq
    exact .ofCoercion h (mayResist_of_coerce hactual (by rw [hsame, hk]) h)
  · cases target <;> cases h <;> exact .ofCode .unsetValue rfl (by decide) (by decide)

end Value

theorem Kind.canBecome_refl (kind : Kind) : kind.canBecome kind = true := by cases kind <;> rfl

namespace Expectation

/-- What an expectation lets through once the value has been turned into the kind that it asks
for. -/
def Admits (expected : Expectation) (value : Value) : Prop :=
  match expected with
  | .any => True
  | .kind wanted => value.Is wanted
  | .oneOf kinds => ∃ wanted ∈ kinds, value.Is wanted

theorem resolve?_none {expected : Expectation} {kind : Kind}
    (h : expected.resolve? kind = some none) : expected = .any := by
  cases expected with
  | any => rfl
  | kind target =>
    simp only [resolve?] at h
    split at h <;> cases h
  | oneOf targets =>
    simp only [resolve?] at h
    split at h
    · cases h
    · obtain ⟨target, _, ht⟩ := Option.map_eq_some_iff.mp h
      cases ht

theorem resolve?_some {expected : Expectation} {kind target : Kind}
    (h : expected.resolve? kind = some (some target)) :
    kind.canBecome target = true ∧ ∀ value : Value, value.Is target → expected.Admits value := by
  cases expected with
  | any => cases h
  | kind wanted =>
    simp only [resolve?] at h
    split at h
    · next hk =>
      cases h
      exact ⟨hk, fun value hv => hv⟩
    · cases h
  | oneOf targets =>
    simp only [resolve?] at h
    split at h
    · next hc =>
      cases h
      exact ⟨kind.canBecome_refl, fun value hv => ⟨kind, by simpa using hc, hv⟩⟩
    · obtain ⟨found, hf, ht⟩ := Option.map_eq_some_iff.mp h
      cases ht
      exact ⟨List.find?_some hf, fun value hv => ⟨target, List.mem_of_find?_eq_some hf, hv⟩⟩

end Expectation

end AttrExpr
