import AttrExpr.Coercion

/-! The empty text. It is read as no number, as no truth value, and as no date or instant after any
pattern, so a string is all that it becomes. -/
set_option autoImplicit false

namespace AttrExpr

theorem readName?_nil (long : Bool) :
    readName? monthNames long [] = none ∧ readName? weekdayNames long [] = none := by
  cases long
  · decide
  · decide

theorem NumberField.read?_nil (field : NumberField) (fields : Fields) :
    field.read? fields [] = none := by
  cases field <;> rfl

/-- Fields that are the same but for the fraction of a second. -/
def Fields.SameButFraction (found fields : Fields) : Prop :=
  ∃ n, found = { fields with nanosecond := n }

namespace Fields.SameButFraction

theorem refl (fields : Fields) : fields.SameButFraction fields := ⟨fields.nanosecond, rfl⟩

theorem trans {found between fields : Fields} (h : found.SameButFraction between)
    (h' : between.SameButFraction fields) : found.SameButFraction fields := by
  obtain ⟨n, rfl⟩ := h
  obtain ⟨_, rfl⟩ := h'
  exact ⟨n, rfl⟩

end Fields.SameButFraction

/-- A text field finds nothing in the empty text, but a fraction that has no digits is zero. -/
theorem TextField.read?_nil {field : TextField} {fields found : Fields} {rest : List Char}
    (h : field.read? fields [] = some (found, rest)) :
    rest = [] ∧ found.SameButFraction fields := by
  have unchanged (h : some (fields, []) = some (found, rest)) :
      rest = [] ∧ found.SameButFraction fields := by
    cases h
    exact ⟨rfl, .refl fields⟩
  cases field with
  | shortMonth | longMonth | shortWeekday | longWeekday =>
    simp [read?, readMonth?, readWeekday?, readName?_nil] at h
  | lowerHalf | upperHalf => cases h
  | fraction | fractionOf | zoneName => exact unchanged h
  | standard => simp [read?, readStandard?, NumberField.read?_nil] at h
  | offset style => cases style <;> cases h
  | digitsOf digits =>
    simp only [read?, readFixedFraction?] at h
    split at h
    · simp only [Fields.set, Option.map_map, Option.map_eq_some_iff, Function.comp_apply,
        Prod.mk.injEq, List.drop_nil] at h
      obtain ⟨n, -, rfl, rfl⟩ := h
      exact ⟨rfl, n, rfl⟩
    · cases h

theorem PatternItem.read?_nil {item : PatternItem} {fields found : Fields} {rest : List Char}
    (h : item.read? fields [] = some (found, rest)) :
    rest = [] ∧ found.SameButFraction fields := by
  cases item with
  | literal needle =>
    simp only [read?, Option.map_eq_some_iff, Text.after?_eq_some_iff] at h
    obtain ⟨left, hleft, heq⟩ := h
    cases heq
    exact ⟨(List.append_eq_nil_iff.mp hleft.symm).2, .refl fields⟩
  | blank text =>
    cases h
    exact ⟨rfl, .refl fields⟩
  | number field padding => simp [read?, NumberField.read?_nil] at h
  | text field => exact TextField.read?_nil h
  | invalid => cases h

theorem readItems?_nil {items : List PatternItem} {fields found : Fields}
    (h : readItems? fields [] items = some found) : found.SameButFraction fields := by
  induction items generalizing fields with
  | nil =>
    cases h
    exact .refl found
  | cons item items ih =>
    rw [readItems?] at h
    split at h
    · next between rest hitem =>
      obtain ⟨rfl, hbetween⟩ := PatternItem.read?_nil hitem
      exact (ih h).trans hbetween
    · cases h

theorem Pattern.read?_nil {pattern : Pattern} {fields : Fields}
    (h : pattern.read? [] = some fields) : fields.SameButFraction .empty :=
  readItems?_nil h

theorem Date.ofText?_nil (pattern : Pattern) : Date.ofText? pattern [] = none := by
  unfold ofText?
  cases h : pattern.read? [] with
  | none => rfl
  | some fields =>
    obtain ⟨n, rfl⟩ := Pattern.read?_nil h
    rfl

theorem Instant.ofText?_nil (pattern : Pattern) (offset : Offset) :
    Instant.ofText? pattern offset [] = none := by
  unfold ofText?
  cases h : pattern.read? [] with
  | none => rfl
  | some fields =>
    obtain ⟨n, rfl⟩ := Pattern.read?_nil h
    rfl

theorem Formats.readDate?_empty (formats : Formats) (pattern : Option Pattern) :
    formats.readDate? pattern "" = none :=
  Date.ofText?_nil _

theorem Formats.readInstant?_empty (formats : Formats) (pattern : Option Pattern) :
    formats.readInstant? pattern "" = none := by
  unfold readInstant?
  split
  · exact Instant.ofText?_nil _ _
  · rfl

/-- The empty text becomes a value of no kind but a string. -/
theorem coerceText_empty (formats : Formats) (target : Kind) :
    target = .string ∨ ∃ error, coerceText formats target "" = .error error := by
  cases target with
  | string => exact .inl rfl
  | boolean | number | whole => exact .inr ⟨_, rfl⟩
  | date =>
    right
    simp [coerceText, Formats.readDate?_empty]
  | instant =>
    right
    simp [coerceText, Formats.readInstant?_empty]

end AttrExpr
