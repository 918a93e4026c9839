import AttrExpr.Proofs.Kinds

/-! Coercion as the kinds foresee it. What the kinds refuse is refused for every value, and what
comes out is of the kind that was asked for and stays as it is from then on. -/
set_option autoImplicit false

namespace AttrExpr

namespace Value

variable {formats : Formats} {value : Value} {kind target : Kind}

theorem exists_kind (h : value ≠ .unset) : ∃ kind, value.kind? = some kind := by
  cases value with
  | unset => exact absurd rfl h
  | string | boolean | number | date | instant => exact ⟨_, rfl⟩

/-- A value of a kind stays as it is when it is turned into that kind. -/
theorem coerce_of_is (h : value.Is target) : value.coerce formats target = .ok value := by
  cases value with
  | unset => exact absurd rfl h.set
  | string text =>
    obtain rfl : target = .string := h.kind_eq rfl (by decide)
    rfl
  | boolean b =>
    obtain rfl : target = .boolean := h.kind_eq rfl (by decide)
    rfl
  | date date =>
    obtain rfl : target = .date := h.kind_eq rfl (by decide)
    rfl
  | instant instant =>
    obtain rfl : target = .instant := h.kind_eq rfl (by decide)
    rfl
  | number n =>
    cases n with
    | decimal d =>
      obtain rfl : target = .number := h.kind_eq rfl (by decide)
      rfl
    | whole k =>
      -- a whole number is of two kinds
      rcases h with h | ⟨rfl, -⟩
      · cases h
        rfl
      · rfl

/-- Among values that may resist, only numbers with a fraction are no text. -/
theorem MayResist.decimal (h : value.MayResist target) (hk : value.kind? = some kind)
    (hs : kind ≠ .string) : target = .whole ∧ ∃ d, value = .number (.decimal d) ∧
      (Number.decimal d).toWhole? = none := by
  rcases h with ⟨text, rfl⟩ | ⟨d, rfl, hd, rfl⟩
  · exact absurd (Option.some.inj hk).symm hs
  · exact ⟨rfl, d, rfl, hd⟩

theorem coerce_unset (formats : Formats) (h : target ≠ .string) :
    unset.coerce formats target = .error (.unset target) := by
  cases target with
  | string => exact absurd rfl h
  | boolean | whole | number | date | instant => rfl

/-- The kinds and the values agree on coercion. What the kinds refuse fails with both of them; what
succeeds was allowed, is of the kind that was asked for and does not change any more. Every value
has a text, stays as it is in its own kind, and where the kinds allow it only text and numbers with
a fraction resist. An unset value is the empty text and nothing else. -/
theorem coercion_foreseen (formats : Formats) (target : Kind) :
    (∀ value : Value, value ≠ .unset → ∃ kind, value.kind? = some kind ∧
      (kind.canBecome target = false →
        value.coerce formats target = .error (.incompatible kind target value.text)) ∧
      (∀ result, value.coerce formats target = .ok result →
        kind.canBecome target = true ∧ result.Is target ∧
          result.coerce formats target = .ok result) ∧
      value.coerce formats .string = .ok (.string value.text) ∧
      value.coerce formats kind = .ok value ∧
      (kind.canBecome target = true → kind ≠ .string →
        ∀ error, value.coerce formats target = .error error →
          target = .whole ∧ ∃ d, value = .number (.decimal d) ∧
            (Number.decimal d).toWhole? = none)) ∧
    unset.coerce formats .string = .ok (.string "") ∧
    (target ≠ .string → unset.coerce formats target = .error (.unset target)) := by
  refine ⟨fun value hset => ?_, coerce_string formats .unset, coerce_unset formats⟩
  obtain ⟨kind, hk⟩ := exists_kind hset
  refine ⟨kind, hk, fun hfalse => ?_, fun result hok => ?_, coerce_string formats value,
    coerce_of_is (.inl hk), fun htrue hs error herror => ?_⟩
  · rcases coerce_cases formats target hk with ⟨-, hrefused⟩ | ⟨htrue, -⟩
    · exact hrefused
    · cases htrue.symm.trans hfalse
  · have his := coerce_is hok
    rcases coerce_cases formats target hk with ⟨-, hrefused⟩ | ⟨htrue, -⟩
    · cases hrefused.symm.trans hok
    · exact ⟨htrue, his, coerce_of_is his⟩
  · exact (mayResist_of_coerce hk htrue herror).decimal hk hs

/-- A binary number without a fraction becomes a whole one, which is what it stays. -/
theorem coercion_foreseen_binaryFour :
    let four : Value := .number (.decimal (.ofInt 4))
    four ≠ .unset ∧ four.coerce .standard .whole = .ok (ofInt64 4) ∧
      Kind.canBecome .number .whole = true ∧ (ofInt64 4).Is .whole ∧
      (ofInt64 4).coerce .standard .whole = .ok (ofInt64 4) ∧
      four.coerce .standard .string = .ok (.string four.text) := by
  intro four
  have hset : four ≠ .unset := nofun
  have hwhole : (Number.decimal (.ofInt 4)).toWhole? = some 4 := by decide +kernel
  have hok : four.coerce .standard .whole = .ok (ofInt64 4) := by
    rw [coerce, Number.coerceWhole, hwhole]
    rfl
  obtain ⟨hvalues, -⟩ := coercion_foreseen .standard .whole
  obtain ⟨kind, hk, -, hresults, htext, -⟩ := hvalues four hset
  cases hk
  obtain ⟨hbecomes, his, hstays⟩ := hresults _ hok
  exact ⟨hset, hok, hbecomes, his, hstays, htext⟩

end Value

end AttrExpr
