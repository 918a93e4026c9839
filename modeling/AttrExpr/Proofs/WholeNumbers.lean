import AttrExpr.Proofs.Finite

/-! Arithmetic on whole numbers of 64 bits. Results are exact where they are whole, and nothing
wraps around: a result that is not an integer of 64 bits is a finite binary number. -/
set_option autoImplicit false

namespace AttrExpr

/-- An integer of 64 bits. -/
def IsWord (n : Int) : Prop := -0x8000000000000000 ≤ n ∧ n < 0x8000000000000000

theorem isWord_toInt (k : Int64) : IsWord k.toInt := ⟨k.le_toInt, k.toInt_lt⟩

theorem wholeOfInt?_of_isWord {n : Int} (h : IsWord n) :
    ∃ k : Int64, wholeOfInt? n = some k ∧ k.toInt = n := by
  have hsome : wholeOfInt? n = some (Int64.ofInt n) := if_pos h
  exact ⟨_, hsome, wholeOfInt?_eq_some hsome⟩

theorem wholeOfInt?_eq_none {n : Int} (h : ¬ IsWord n) : wholeOfInt? n = none := if_neg h

namespace Number

/-- A result that is whole under a condition, and exact then. Otherwise it is a certain binary
number, which is finite. -/
structure WholeIf (stays : Prop) (exact : Int → Prop) (binary : Binary64)
    (result : Except ArithmeticError Number) : Prop where
  whole : (∃ k : Int64, exact k.toInt ∧ result = .ok (.whole k)) ↔ stays
  decimal : (binary.isFinite = true ∧ result = .ok (.decimal binary)) ↔ ¬ stays

namespace WholeIf

variable {stays : Prop} {exact : Int → Prop} {binary : Binary64}
  {result : Except ArithmeticError Number}

theorem of_whole {k : Int64} (hs : stays) (hk : exact k.toInt) (h : result = .ok (.whole k)) :
    WholeIf stays exact binary result where
  whole := iff_of_true ⟨k, hk, h⟩ hs
  decimal := by
    refine iff_of_false ?_ (not_not_intro hs)
    rintro ⟨-, hdecimal⟩
    cases h.symm.trans hdecimal

theorem of_decimal (hs : ¬ stays) (hb : binary.isFinite = true)
    (h : result = .ok (.decimal binary)) : WholeIf stays exact binary result where
  whole := by
    refine iff_of_false ?_ hs
    rintro ⟨k, -, hwhole⟩
    cases h.symm.trans hwhole
  decimal := iff_of_true ⟨hb, h⟩ hs

end WholeIf

variable {a b : Int64}

theorem combine_whole (exact : Int → Int → Int) {binary : Binary64 → Binary64 → Binary64}
    (hbinary : ∀ {x y : Binary64}, x.Moderate → y.Moderate → (binary x y).isFinite = true)
    (a b : Int64) :
    WholeIf (IsWord (exact a.toInt b.toInt)) (· = exact a.toInt b.toInt)
      (binary (.ofInt a.toInt) (.ofInt b.toInt)) (combine exact binary (.whole a) (.whole b)) := by
  have hfinite := hbinary (moderate_whole a) (moderate_whole b)
  by_cases hword : IsWord (exact a.toInt b.toInt)
  · obtain ⟨k, hsome, hk⟩ := wholeOfInt?_of_isWord hword
    exact .of_whole hword hk (by simp only [combine, hsome])
  · have hnone := wholeOfInt?_eq_none hword
    refine .of_decimal hword hfinite ?_
    simp only [combine, hnone, finite, hfinite, if_true]
    rfl

theorem isZero_whole_iff : (Number.whole b).isZero = true ↔ b = 0 := beq_iff_eq

theorem isZero_whole_eq_false (hb : b ≠ 0) : (Number.whole b).isZero = false := by
  rw [← Bool.not_eq_true, isZero_whole_iff]
  exact hb

theorem toInt_ne_zero (hb : b ≠ 0) : b.toInt ≠ 0 := fun h => hb (Int64.toInt_inj.mp h)

/-- The quotient of one pair alone is no integer of 64 bits. -/
theorem isWord_quotient_iff (hb : b ≠ 0) (h : b.toInt ∣ a.toInt) :
    IsWord (a.toInt / b.toInt) ↔ ¬ (a = Int64.minValue ∧ b = -1) := by
  have hmin : Int64.minValue.toInt = -0x8000000000000000 := by decide
  have hone : (-1 : Int64).toInt = -1 := by decide
  constructor
  · rintro hword ⟨rfl, rfl⟩
    rw [hmin, hone] at hword
    exact absurd hword.2 (by decide)
  · intro hpair
    have hlow := a.le_toInt
    have hhigh := a.toInt_lt
    have hproduct := Int.ediv_mul_cancel h
    have hle := Int.natAbs_ediv_le_natAbs a.toInt b.toInt
    have hne := toInt_ne_zero hb
    generalize a.toInt / b.toInt = q at hproduct hle ⊢
    -- past the integers of 64 bits only one quotient is in reach
    refine ⟨by omega, lt_of_le_of_ne (by omega) fun hq => hpair ?_⟩
    rw [hq] at hproduct
    exact ⟨Int64.toInt_inj.mp (by omega), Int64.toInt_inj.mp (by omega)⟩

theorem divide_whole (hb : b ≠ 0) :
    WholeIf (b.toInt ∣ a.toInt ∧ IsWord (a.toInt / b.toInt)) (· * b.toInt = a.toInt)
      ((Binary64.ofInt a.toInt).div (.ofInt b.toInt)) (divide (.whole a) (.whole b)) := by
  have hzero := isZero_whole_eq_false hb
  have hfinite := (moderate_whole a).div (moderate_whole b) (isZero_whole hzero)
  by_cases hdvd : b.toInt ∣ a.toInt
  · have hrem := Int.tmod_eq_zero_of_dvd hdvd
    have hquotient : a.toInt.tdiv b.toInt = a.toInt / b.toInt := Int.tdiv_eq_ediv_of_dvd hdvd
    by_cases hword : IsWord (a.toInt / b.toInt)
    · obtain ⟨k, hsome, hk⟩ := wholeOfInt?_of_isWord hword
      refine .of_whole ⟨hdvd, hword⟩ (hk ▸ Int.ediv_mul_cancel hdvd) ?_
      simp [divide, hzero, hrem, hquotient, hsome]
    · have hnone := wholeOfInt?_eq_none hword
      refine .of_decimal (fun h => hword h.2) hfinite ?_
      simp [divide, hzero, hrem, hquotient, hnone]
      rfl
  · have hrem : a.toInt.tmod b.toInt ≠ 0 := fun h => hdvd (Int.dvd_of_tmod_eq_zero h)
    refine .of_decimal (fun h => hdvd h.1) hfinite ?_
    simp [divide, hzero, hrem, finite, hfinite]
    rfl

theorem divide_whole_zero_iff :
    divide (.whole a) (.whole b) = .error .divisionByZero ↔ b = 0 := by
  constructor
  · intro h
    by_contra hb
    have hresult := divide_whole (a := a) hb
    by_cases hs : b.toInt ∣ a.toInt ∧ IsWord (a.toInt / b.toInt)
    · obtain ⟨k, -, hk⟩ := hresult.whole.mpr hs
      cases h.symm.trans hk
    · cases h.symm.trans (hresult.decimal.mpr hs).2
  · rintro rfl
    rfl

/-- A remainder is less than the divisor and has the sign of the dividend, if any. -/
theorem modulo_whole (hb : b ≠ 0) :
    ∃ r : Int64, modulo (.whole a) (.whole b) = .ok (.whole r) ∧
      r.toInt.natAbs < b.toInt.natAbs ∧ (r.toInt = 0 ∨ r.toInt.sign = a.toInt.sign) ∧
      b.toInt ∣ a.toInt - r.toInt := by
  have hlow := b.le_toInt
  have hhigh := b.toInt_lt
  have hless : (a.toInt.tmod b.toInt).natAbs < b.toInt.natAbs := by
    rw [Int.natAbs_tmod]
    exact Nat.mod_lt _ (Int.natAbs_pos.mpr (toInt_ne_zero hb))
  have hr : (Int64.ofInt (a.toInt.tmod b.toInt)).toInt = a.toInt.tmod b.toInt :=
    Int64.toInt_ofInt_of_le (by omega) (by omega)
  refine ⟨_, by rw [modulo, isZero_whole_eq_false hb]; rfl, ?_⟩
  rw [hr]
  refine ⟨hless, ?_, Int.dvd_self_sub_tmod⟩
  have hsign := Int.sign_tmod a.toInt b.toInt
  split at hsign
  · exact .inl (Int.sign_eq_zero_iff_zero.mp hsign)
  · exact .inr hsign

theorem modulo_whole_zero_iff :
    modulo (.whole a) (.whole b) = .error .divisionByZero ↔ b = 0 := by
  constructor
  · intro h
    by_contra hb
    obtain ⟨r, hr, -⟩ := modulo_whole (a := a) hb
    cases h.symm.trans hr
  · rintro rfl
    rfl

/-- One number has no absolute value among the integers of 64 bits. -/
theorem abs_whole (a : Int64) :
    WholeIf (a ≠ Int64.minValue) (· = |a.toInt|) (Binary64.ofInt a.toInt).abs
      (.ok (abs (.whole a))) := by
  have hmin : Int64.minValue.toInt = -0x8000000000000000 := by decide
  have hlow := a.le_toInt
  have hhigh := a.toInt_lt
  have hword : IsWord a.toInt.natAbs ↔ a ≠ Int64.minValue := by
    rw [Ne, ← Int64.toInt_inj, hmin, IsWord]
    omega
  -- unfolding `abs` would have its bounds of 64 bits computed in unary
  generalize hx : Number.whole a = x
  fun_cases abs x with
  | case1 k m hsome =>
    cases hx
    have hm := wholeOfInt?_eq_some hsome
    exact .of_whole (hword.mp (hm ▸ isWord_toInt m)) (hm.trans (Int.natCast_natAbs _)) rfl
  | case2 k hnone =>
    cases hx
    refine .of_decimal (fun ha => ?_) (Binary64.isFinite_abs (moderate_whole a).isFinite) rfl
    obtain ⟨k, hsome, -⟩ := wholeOfInt?_of_isWord (hword.mpr ha)
    cases hnone.symm.trans hsome
  | case3 d => cases hx

/-- Arithmetic on whole numbers is exact or leaves them. Sums, differences and products are whole if
they are integers of 64 bits; quotients if the division is exact as well, which leaves out the least
number divided by minus one; remainders always, and absolute values but for that of the least
number. All other results are finite binary numbers, and nothing fails but a division by zero. -/
theorem whole_arithmetic (a b : Int64) :
    WholeIf (IsWord (a.toInt + b.toInt)) (· = a.toInt + b.toInt)
      ((Binary64.ofInt a.toInt).add (.ofInt b.toInt)) (plus (.whole a) (.whole b)) ∧
    WholeIf (IsWord (a.toInt - b.toInt)) (· = a.toInt - b.toInt)
      ((Binary64.ofInt a.toInt).sub (.ofInt b.toInt)) (minus (.whole a) (.whole b)) ∧
    WholeIf (IsWord (a.toInt * b.toInt)) (· = a.toInt * b.toInt)
      ((Binary64.ofInt a.toInt).mul (.ofInt b.toInt)) (times (.whole a) (.whole b)) ∧
    (divide (.whole a) (.whole b) = .error .divisionByZero ↔ b = 0) ∧
    (b ≠ 0 →
      WholeIf (b.toInt ∣ a.toInt ∧ IsWord (a.toInt / b.toInt)) (· * b.toInt = a.toInt)
        ((Binary64.ofInt a.toInt).div (.ofInt b.toInt)) (divide (.whole a) (.whole b)) ∧
      (b.toInt ∣ a.toInt →
        (IsWord (a.toInt / b.toInt) ↔ ¬ (a = Int64.minValue ∧ b = -1)))) ∧
    (modulo (.whole a) (.whole b) = .error .divisionByZero ↔ b = 0) ∧
    (b ≠ 0 → ∃ r : Int64, modulo (.whole a) (.whole b) = .ok (.whole r) ∧
      r.toInt.natAbs < b.toInt.natAbs ∧ (r.toInt = 0 ∨ r.toInt.sign = a.toInt.sign) ∧
      b.toInt ∣ a.toInt - r.toInt) ∧
    WholeIf (a ≠ Int64.minValue) (· = |a.toInt|) (Binary64.ofInt a.toInt).abs
      (.ok (abs (.whole a))) :=
  ⟨combine_whole (· + ·) (fun hx hy => hx.add hy) a b,
    combine_whole (· - ·) (fun hx hy => hx.add hy.neg) a b,
    combine_whole (· * ·) (fun hx hy => hx.mul hy) a b, divide_whole_zero_iff,
    fun hb => ⟨divide_whole hb, isWord_quotient_iff hb⟩, modulo_whole_zero_iff, modulo_whole,
    abs_whole a⟩

/-- The least number and minus one: the quotient is not whole any more, and nothing remains. -/
theorem whole_arithmetic_least :
    (-1 : Int64) ≠ 0 ∧
      (∃ d : Binary64, d.isFinite = true ∧
        divide (.whole Int64.minValue) (.whole (-1)) = .ok (.decimal d)) ∧
      modulo (.whole Int64.minValue) (.whole (-1)) = .ok (.whole 0) := by
  have hne : (-1 : Int64) ≠ 0 := by decide
  have hdvd : (-1 : Int64).toInt ∣ Int64.minValue.toInt := by decide
  have hone : (-1 : Int64).toInt.natAbs = 1 := by decide
  obtain ⟨-, -, -, -, hdivide, -, hmodulo, -⟩ := whole_arithmetic Int64.minValue (-1)
  obtain ⟨hquotient, hpair⟩ := hdivide hne
  have hword := mt (hpair hdvd).mp (not_not_intro ⟨rfl, rfl⟩)
  obtain ⟨r, hr, hless, -, -⟩ := hmodulo hne
  obtain rfl : r = 0 := Int64.toInt_inj.mp (Int.natAbs_eq_zero.mp (by omega))
  exact ⟨hne, ⟨_, hquotient.decimal.mpr fun h => hword h.2⟩, hr⟩

end Number

end AttrExpr
