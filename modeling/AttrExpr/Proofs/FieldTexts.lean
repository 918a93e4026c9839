import AttrExpr.Calendar.Reader
import AttrExpr.Proofs.NumberRoundTrips

/-! Digits of dates and times. What is written for a number of a fixed width, for a year and for an
offset is read as that. -/
set_option autoImplicit false

namespace AttrExpr

/-- A number written with a fixed number of digits. -/
structure FixedDigits (width : Nat) (cs : List Char) (n : Nat) : Prop where
  length_eq : cs.length = width
  digits : Digits cs
  value_eq : digitsValue cs = n

theorem natText_length_le {width n : Nat} (hwidth : 0 < width) (hn : n < tenTo width) :
    (natText n).length ≤ width :=
  (Nat.length_toDigits_le_iff (by decide) hwidth).mpr hn

theorem padZeros_fixed {width n : Nat} (hwidth : 0 < width) (hn : n < tenTo width) :
    FixedDigits width (padZeros width n) n := by
  have hlength := natText_length_le hwidth hn
  have hdigits := (natText_digits n).zeros_append (width - (0 + (natText n).length))
  have hvalue := digitsValue_zeros_append (width - (0 + (natText n).length)) (natText n)
  rw [digitsValue_natText] at hvalue
  exact ⟨by simp [padZeros, padNumber]; omega, hdigits, hvalue⟩

theorem digitsValue_lt {cs : List Char} (h : ∀ c ∈ cs, c.isDigit = true) :
    digitsValue cs < tenTo cs.length := by
  suffices hfrom : ∀ init, Nat.ofDigitChars 10 cs init < (init + 1) * 10 ^ cs.length by
    have hlt := hfrom 0
    rwa [Nat.zero_add, Nat.one_mul, ← digitsValue_eq] at hlt
  intro init
  induction cs generalizing init with
  | nil => simp
  | cons c cs ih =>
    have hc := isDigit_toNat (h c List.mem_cons_self)
    have hlt := ih (fun d hd => h d (List.mem_cons_of_mem c hd)) (10 * init + (c.toNat - '0'.toNat))
    have hzero : '0'.toNat = 48 := rfl
    have hle : 10 * init + (c.toNat - '0'.toNat) + 1 ≤ (init + 1) * 10 := by omega
    rw [Nat.ofDigitChars_cons, List.length_cons, Nat.pow_succ']
    calc _ < _ := hlt
      _ ≤ (init + 1) * 10 * 10 ^ cs.length := Nat.mul_le_mul_right _ hle
      _ = _ := Nat.mul_assoc _ _ _

theorem Digits.head_isNumeric {digits : List Char} (h : Digits digits) (rest : List Char) :
    ∀ c ∈ (digits ++ rest).head?, isNumeric c = true := by
  intro c hc
  obtain ⟨d, ds, rfl, hd⟩ := h.head
  obtain rfl := Option.some.inj hc
  exact isNumeric_of_isDigit hd

/-- As many digits as there may be, or all before a character that is none. -/
theorem Digits.readDigits?_eq {digits : List Char} (h : Digits digits) {width : Nat}
    (hwidth : digits.length ≤ width) {rest : List Char}
    (hend : digits.length = width ∨ ∀ c ∈ rest.head?, c.isDigit = false) :
    readDigits? width (digits ++ rest) = some (digitsValue digits, rest) := by
  have hhead : ∀ c ∈ (rest.take (width - digits.length)).head?, c.isDigit = false := by
    intro c hc
    rcases hend with hend | hend
    · simp [hend] at hc
    · rw [List.head?_take] at hc
      split at hc
      · cases hc
      · exact hend c hc
  have htake : ((digits ++ rest).take width).takeWhile Char.isDigit = digits := by
    rw [List.take_append, List.take_of_length_le hwidth]
    exact congrArg Prod.fst (takeDigits_append h.2 hhead)
  simp [readDigits?, htake, h.1]

/-- A number is not looked for behind blanks where it starts at once. -/
theorem trimStart_of_isNumeric {cs : List Char} (h : ∀ c ∈ cs.head?, isNumeric c = true) :
    Unicode.trimStart cs = cs :=
  Unicode.trimStart_append (show ∀ c ∈ [], _ by simp) fun c hc => isWhiteSpace_of_isNumeric (h c hc)

theorem Text.after?_self (c : Char) (rest : List Char) : after? [c] (c :: rest) = some rest := by
  simp [after?]

namespace FixedDigits

variable {width n : Nat} {cs : List Char} (h : FixedDigits width cs n)

include h

theorem readExact?_eq (field : NumberField) (fields : Fields) (rest : List Char) :
    readExact? width field fields (cs ++ rest) = (fields.set field n).map (·, rest) := by
  have htake : (cs ++ rest).take width = cs := by rw [← h.length_eq, List.take_left]
  have hdrop : (cs ++ rest).drop width = rest := by rw [← h.length_eq, List.drop_left]
  have hall : cs.all Char.isDigit = true := List.all_eq_true.mpr h.digits.2
  simp only [readExact?, htake, hdrop, h.length_eq, hall, h.value_eq, and_self, if_true]

theorem read?_eq {field : NumberField} (hwidth : field.width? = some width)
    (hsigned : field.isSigned = false) (fields : Fields) (rest : List Char) :
    field.read? fields (cs ++ rest) = (fields.set field n).map (·, rest) := by
  have hread : readDigits? width (cs ++ rest) = _ :=
    h.digits.readDigits?_eq h.length_eq.le (.inl h.length_eq)
  simp only [NumberField.read?, trimStart_of_isNumeric (h.digits.head_isNumeric rest), hsigned,
    Bool.false_eq_true, if_false, hwidth, Option.getD_some, hread, h.value_eq, Option.bind_eq_bind,
    Option.bind_some, Option.map_eq_bind]
  rfl

theorem readFraction?_eq (hwidth : width ≤ 9) {rest : List Char}
    (hrest : ∀ c ∈ rest.head?, c.isDigit = false) :
    readFraction? (cs ++ rest) = some (n * tenTo (9 - width), rest) := by
  obtain ⟨htake, hdrop⟩ := Prod.mk.inj (takeDigits_append h.digits.2 hrest)
  have hkept : cs.take 9 = cs := List.take_of_length_le (h.length_eq ▸ hwidth)
  simp [readFraction?, htake, hdrop, hkept, h.digits.1, h.length_eq, h.value_eq]

end FixedDigits

theorem FixedDigits.readTwo?_eq {n : Nat} {cs : List Char} (h : FixedDigits 2 cs n)
    (rest : List Char) : readTwo? (cs ++ rest) = some (n, rest) := by
  obtain ⟨a, b, rfl⟩ := List.length_eq_two.mp h.length_eq
  have ha : a.isDigit = true := h.digits.2 a (by simp)
  have hb : b.isDigit = true := h.digits.2 b (by simp)
  simp [readTwo?, ha, hb, h.value_eq]

theorem TextField.readPoint?_eq {fields found : Fields} {n : Nat} {cs rest : List Char}
    (hread : readFraction? cs = some (n, rest)) (hset : fields.set .nanosecond n = some found) :
    readPoint? fields ('.' :: cs) = some (found, rest) := by
  simp only [readPoint?, hread, hset, Option.bind_eq_bind, Option.bind_some, Option.map_some]

/-! Years. -/

theorem yearText_fixed {year : Int} (h : 0 ≤ year ∧ year < 10000) :
    FixedDigits 4 (yearText .zero year) year.natAbs := by
  rw [yearText, if_pos h]
  exact padZeros_fixed (by decide) (show year.natAbs < 10000 by omega)

/-- A year has at most four digits and no sign, or a sign. -/
theorem yearText_cases (year : Int) :
    (0 ≤ year ∧ FixedDigits 4 (yearText .zero year) year.natAbs) ∨
      ∃ digits, Digits digits ∧ digitsValue digits = year.natAbs ∧
        yearText .zero year = (if year < 0 then '-' else '+') :: digits := by
  by_cases h : 0 ≤ year ∧ year < 10000
  · exact .inl ⟨h.1, yearText_fixed h⟩
  · refine .inr ⟨_, (natText_digits year.natAbs).zeros_append
      (5 - (1 + (natText year.natAbs).length)), ?_, ?_⟩
    · rw [digitsValue_zeros_append, digitsValue_natText]
    · simp [yearText, if_neg h, padNumber]

theorem readSigned?_yearText (year : Int) {rest : List Char}
    (hrest : ∀ c ∈ rest.head?, c.isDigit = false) :
    readSigned? 4 (yearText .zero year ++ rest) = some (year, rest) := by
  rcases yearText_cases year with ⟨hnonneg, hfixed⟩ | ⟨digits, hdigits, hvalue, htext⟩
  · have hread : readDigits? 4 (yearText .zero year ++ rest) = _ :=
      hfixed.digits.readDigits?_eq hfixed.length_eq.le (.inl hfixed.length_eq)
    have hhead := hfixed.digits.head_isDigit rest
    unfold readSigned?
    split
    · next heq => exact absurd (hhead '-' (heq ▸ rfl)) (by decide)
    · next heq => exact absurd (hhead '+' (heq ▸ rfl)) (by decide)
    · simp only [hread, hfixed.value_eq, Option.map_some, Int.natAbs_of_nonneg hnonneg]
  · have hread : readDigits? (digits ++ rest).length (digits ++ rest) = _ :=
      hdigits.readDigits?_eq (by simp) (.inr hrest)
    rw [htext, List.cons_append]
    by_cases hneg : year < 0
    · simp only [if_pos hneg, readSigned?, hread, hvalue, Option.map_some]
      rw [show -(year.natAbs : Int) = year by omega]
    · simp only [if_neg hneg, readSigned?, hread, hvalue, Option.map_some]
      rw [show (year.natAbs : Int) = year by omega]

theorem yearText_head (year : Int) (rest : List Char) :
    ∀ c ∈ (yearText .zero year ++ rest).head?, isNumeric c = true := by
  rcases yearText_cases year with ⟨-, hfixed⟩ | ⟨digits, -, -, htext⟩
  · exact hfixed.digits.head_isNumeric rest
  · intro c hc
    rw [htext] at hc
    obtain rfl := Option.some.inj hc
    split <;> decide

theorem NumberField.read?_year (year : Int) (fields : Fields) {rest : List Char}
    (hrest : ∀ c ∈ rest.head?, c.isDigit = false) :
    NumberField.read? .year fields (yearText .zero year ++ rest) =
      (fields.set .year year).map (·, rest) := by
  simp only [NumberField.read?, trimStart_of_isNumeric (yearText_head year rest), isSigned, if_true,
    width?, Option.getD_some, readSigned?_yearText year hrest, Option.bind_eq_bind,
    Option.bind_some, Option.map_eq_bind]
  rfl

/-! Offsets. -/

theorem readOffsetMinutes?_padZeros (n : Nat) (hn : n < 60) :
    readOffsetMinutes? false (padZeros 2 n) = some (n, []) := by
  revert n
  decide

theorem Offset.text_eq (offset : Offset) :
    offset.text = (if offset.minutes < 0 then '-' else '+') ::
      (padZeros 2 (offset.minutes.natAbs / 60) ++ ':' :: padZeros 2 (offset.minutes.natAbs % 60)) := by
  simp [text, write]

theorem Offset.shortText_head (offset : Offset) : ∀ c ∈ offset.shortText.head?, c.isDigit = false := by
  intro c hc
  unfold shortText at hc
  split at hc
  · obtain rfl := Option.some.inj hc
    rfl
  · rw [text_eq] at hc
    obtain rfl := Option.some.inj hc
    split <;> rfl

/-- The text of an offset is read as its minutes. -/
theorem readZuluOffset?_shortText (offset : Offset) :
    readZuluOffset? readColon? false offset.shortText = some (offset.minutes, []) := by
  have hwithin := offset.within
  unfold Offset.shortText
  split
  · next hzero =>
    rw [hzero]
    rfl
  · have hhours : FixedDigits 2 (padZeros 2 (offset.minutes.natAbs / 60))
        (offset.minutes.natAbs / 60) := padZeros_fixed (by decide) (show _ < 100 by omega)
    have hread := hhours.readTwo?_eq (':' :: padZeros 2 (offset.minutes.natAbs % 60))
    have hminutes := readOffsetMinutes?_padZeros (offset.minutes.natAbs % 60)
      (Nat.mod_lt _ (by decide))
    rw [offset.text_eq]
    by_cases hneg : offset.minutes < 0
    · simp only [if_pos hneg, readZuluOffset?, readOffset?, readOffsetSign?, hread, readColon?,
        hminutes, Option.bind_eq_bind, Option.bind_some, if_true]
      rw [show -((offset.minutes.natAbs / 60 : Nat) * 60 + (offset.minutes.natAbs % 60 : Nat) : Int) =
        offset.minutes by omega]
      rfl
    · simp only [if_neg hneg, readZuluOffset?, readOffset?, readOffsetSign?, hread, readColon?,
        hminutes, Option.bind_eq_bind, Option.bind_some, Bool.false_eq_true, if_false]
      rw [show ((offset.minutes.natAbs / 60 : Nat) * 60 + (offset.minutes.natAbs % 60 : Nat) : Int) =
        offset.minutes by omega]
      rfl

end AttrExpr
