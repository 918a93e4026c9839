import AttrExpr.Binary64.Text
import AttrExpr.Proofs.Neighbourhoods

/-! Decimals and the binary numbers nearest to them. The shortest decimal found for a finite number
is among those that are nearest to it. -/
set_option autoImplicit false

namespace AttrExpr

/-! Powers of ten and of two. -/

theorem tenTo_pos (n : Nat) : 0 < tenTo n := Nat.pow_pos (by decide)

theorem tenTo_add (m n : Nat) : tenTo (m + n) = tenTo m * tenTo n := Nat.pow_add 10 m n

theorem tenTo_le {m n : Nat} (h : m ≤ n) : tenTo m ≤ tenTo n := Nat.pow_le_pow_right (by decide) h

/-- `93 / 28` is less than the binary logarithm of ten. -/
theorem two_pow_le_tenTo {a b : Nat} (h : 28 * a ≤ 93 * b) : 2 ^ a ≤ tenTo b := by
  refine (Nat.pow_le_pow_iff_left (show 28 ≠ 0 by decide)).mp ?_
  calc (2 ^ a) ^ 28 = 2 ^ (28 * a) := by rw [← Nat.pow_mul, Nat.mul_comm]
    _ ≤ 2 ^ (93 * b) := Nat.pow_le_pow_right (by decide) h
    _ = (2 ^ 93) ^ b := Nat.pow_mul 2 93 b
    _ ≤ (10 ^ 28) ^ b := Nat.pow_le_pow_left (by decide) b
    _ = (10 ^ b) ^ 28 := Nat.pow_right_comm 10 28 b

/-- `10 / 3` is more than the binary logarithm of ten. -/
theorem tenTo_le_two_pow {a b : Nat} (h : 10 * a ≤ 3 * b) : tenTo a ≤ 2 ^ b := by
  refine (Nat.pow_le_pow_iff_left (show 3 ≠ 0 by decide)).mp ?_
  calc (10 ^ a) ^ 3 = (10 ^ 3) ^ a := Nat.pow_right_comm 10 a 3
    _ ≤ (2 ^ 10) ^ a := Nat.pow_le_pow_left (by decide) a
    _ = 2 ^ (10 * a) := (Nat.pow_mul 2 10 a).symm
    _ ≤ 2 ^ (3 * b) := Nat.pow_le_pow_right (by decide) h
    _ = (2 ^ b) ^ 3 := by rw [← Nat.pow_mul, Nat.mul_comm]

namespace Decimal

/-! Decimals as fractions. -/

def numerator (d : Decimal) : Nat := d.digits * tenTo d.exponent.toNat

def denominator (d : Decimal) : Nat := tenTo (-d.exponent).toNat

def SameValue (d other : Decimal) : Prop :=
  d.numerator * other.denominator = other.numerator * d.denominator

/-- The binary number nearest to a decimal, in exact arithmetic whatever its magnitude. -/
def rounded (negative : Bool) (d : Decimal) : Binary64 := .round negative d.numerator d.denominator

theorem denominator_pos (d : Decimal) : 0 < d.denominator := tenTo_pos _

theorem digits_lt (d : Decimal) : d.digits < tenTo (natText d.digits).length :=
  (Nat.length_toDigits_le_iff (by decide) Nat.length_toDigits_pos).mp (Nat.le_refl _)

theorem le_digits {d : Decimal} (h : d.digits ≠ 0) :
    tenTo ((natText d.digits).length - 1) ≤ d.digits := by
  rcases Nat.lt_or_ge 1 (natText d.digits).length with hlong | hshort
  · by_contra hless
    have hlength := (Nat.length_toDigits_le_iff (by decide) (Nat.sub_pos_of_lt hlong)).mpr
      (Nat.lt_of_not_le hless)
    change (natText d.digits).length ≤ _ at hlength
    omega
  · rw [show (natText d.digits).length - 1 = 0 by omega]
    exact Nat.pos_of_ne_zero h

/-- Where only the magnitude is looked at, the result is the same. -/
theorem nearest_eq (negative : Bool) (d : Decimal) : d.nearest negative = d.rounded negative := by
  have hden := Nat.ne_of_gt d.denominator_pos
  have hdigits := d.digits_lt
  unfold nearest
  dsimp only
  split
  · next hsmall =>
    have hle : d.numerator * tenTo 331 ≤ d.denominator := by
      rcases hsmall with hzero | hsmall
      · rw [numerator, hzero, Nat.zero_mul, Nat.zero_mul]
        exact Nat.zero_le _
      · have hexponent : tenTo d.exponent.toNat = 1 := by
          rw [show d.exponent.toNat = 0 by omega]
          rfl
        calc d.numerator * tenTo 331
            ≤ tenTo (natText d.digits).length * tenTo 331 := by
              rw [numerator, hexponent, Nat.mul_one]
              exact Nat.mul_le_mul_right _ hdigits.le
          _ = tenTo ((natText d.digits).length + 331) := (tenTo_add _ _).symm
          _ ≤ d.denominator := tenTo_le (by omega)
    have hpow : 2 ^ (1074 + 1) ≤ tenTo 331 := two_pow_le_tenTo (by decide)
    exact (Binary64.round_zero hden ((Nat.mul_le_mul_left _ hpow).trans hle) negative).symm
  · next hsmall =>
    obtain ⟨hnonzero, -⟩ := not_or.mp hsmall
    split
    · next hgreat =>
      have hle : d.denominator * tenTo 310 ≤ d.numerator :=
        calc d.denominator * tenTo 310
            = tenTo ((-d.exponent).toNat + 310) := (tenTo_add _ _).symm
          _ ≤ tenTo ((natText d.digits).length - 1 + d.exponent.toNat) := tenTo_le (by omega)
          _ = tenTo ((natText d.digits).length - 1) * tenTo d.exponent.toNat := tenTo_add _ _
          _ ≤ d.numerator := Nat.mul_le_mul_right _ (le_digits hnonzero)
      have hpow : 2 ^ (971 + 53) ≤ tenTo 310 := two_pow_le_tenTo (by decide)
      exact (Binary64.round_infinite hden ((Nat.mul_le_mul_left _ hpow).trans hle) negative).symm
    · rfl

/-- Zeros at the end of the digits are worth as much as a greater exponent. -/
theorem sameValue_shift (digits zeros : Nat) (exponent : Int) :
    SameValue ⟨digits * tenTo zeros, exponent⟩ ⟨digits, exponent + zeros⟩ := by
  have hpow : tenTo zeros * tenTo exponent.toNat * tenTo (-(exponent + zeros)).toNat =
      tenTo (exponent + zeros).toNat * tenTo (-exponent).toNat := by
    rw [← tenTo_add, ← tenTo_add, ← tenTo_add]
    congr 1
    omega
  unfold SameValue numerator denominator
  dsimp only
  rw [Nat.mul_assoc digits, Nat.mul_assoc digits, hpow, ← Nat.mul_assoc]

end Decimal

namespace Roundings

variable {r : Roundings} {tie : Tie} {n mantissa : Nat} {exponent : Int}

/-- Whether a decimal lies among the numbers. -/
def ContainsDecimal (r : Roundings) (d : Decimal) : Prop := r.Contains d.numerator d.denominator

theorem ContainsDecimal.of_sameValue {d other : Decimal} (h : r.ContainsDecimal d)
    (hsame : d.SameValue other) : r.ContainsDecimal other :=
  Contains.of_eq h d.denominator_pos other.denominator_pos hsame

theorem inUnits_holds_iff (r : Roundings) (d : Decimal) :
    (r.inUnits d.exponent).holds d.digits = true ↔ r.ContainsDecimal d := by
  have hunit : d.digits * (r.unit * tenTo d.exponent.toNat) = d.numerator * r.unit := by
    rw [Decimal.numerator, Nat.mul_comm r.unit, Nat.mul_assoc]
  unfold holds inUnits ContainsDecimal Contains
  dsimp only
  rw [hunit]
  split <;> simp [Decimal.denominator]

/-- What is picked is inside, and not less than the units below the middle. -/
theorem pick?_cases (r : Roundings) (tie : Tie) :
    r.pick? tie = none ∧ r.holds (r.mid / r.unit) = false ∨
      ∃ n, r.pick? tie = some n ∧ r.mid / r.unit ≤ n ∧ r.holds n = true := by
  unfold pick?
  dsimp only
  cases hbelow : r.holds (r.mid / r.unit) with
  | false =>
    cases habove : r.holds (r.mid / r.unit + 1) with
    | false => exact .inl ⟨rfl, rfl⟩
    | true => exact .inr ⟨_, rfl, Nat.le_succ _, habove⟩
  | true =>
    cases habove : r.holds (r.mid / r.unit + 1) with
    | false => exact .inr ⟨_, rfl, Nat.le_refl _, hbelow⟩
    | true =>
      dsimp only
      split
      · exact .inr ⟨_, rfl, Nat.le_refl _, hbelow⟩
      · split
        · exact .inr ⟨_, rfl, Nat.le_succ _, habove⟩
        · cases tie with
          | up => exact .inr ⟨_, rfl, Nat.le_succ _, habove⟩
          | even =>
            dsimp only
            split
            · exact .inr ⟨_, rfl, Nat.le_refl _, hbelow⟩
            · exact .inr ⟨_, rfl, Nat.le_succ _, habove⟩

theorem holds_of_pick? (h : r.pick? tie = some n) : r.holds n = true := by
  obtain ⟨hnone, -⟩ | ⟨m, hm, -, hholds⟩ := r.pick?_cases tie
  · rw [h] at hnone
    cases hnone
  · obtain rfl := Option.some.inj (h.symm.trans hm)
    exact hholds

/-- In units that are fine enough one of the numbers is a whole number of units. -/
theorem pick?_of_fine (hunit : 0 < r.unit) (hfine : r.low + r.unit ≤ r.mid) (hhigh : r.mid < r.high)
    (tie : Tie) : ∃ n, n ≠ 0 ∧ r.pick? tie = some n := by
  have hdiv := Nat.div_add_mod r.mid r.unit
  have hmod := Nat.mod_lt r.mid hunit
  rw [Nat.mul_comm] at hdiv
  have hpos : 0 < r.mid / r.unit := Nat.div_pos (by omega) hunit
  have hbelow : r.holds (r.mid / r.unit) = true := by
    unfold holds
    split
    · simp only [Bool.and_eq_true, decide_eq_true_eq]
      omega
    · simp only [Bool.and_eq_true, decide_eq_true_eq]
      omega
  obtain ⟨-, hnot⟩ | ⟨n, hn, hle, -⟩ := r.pick?_cases tie
  · rw [hbelow] at hnot
    cases hnot
  · exact ⟨n, Nat.ne_of_gt (hpos.trans_le hle), hn⟩

/-- A decimal that is found on one of several grids lies among the numbers. -/
theorem shortestFrom_contained (tie : Tie) (r : Roundings) (fuel : Nat) (exponent : Int)
    (h : ∃ finer : Nat, finer < fuel ∧
      ∃ n, n ≠ 0 ∧ (r.inUnits (exponent - finer)).pick? tie = some n) :
    r.ContainsDecimal (shortestFrom tie r fuel exponent) := by
  induction fuel generalizing exponent with
  | zero =>
    obtain ⟨_, hfiner, -⟩ := h
    omega
  | succ fuel ih =>
    obtain ⟨finer, hfiner, found, hfound, hpick⟩ := h
    have next (hskip : ∀ n, n ≠ 0 → (r.inUnits exponent).pick? tie ≠ some n) :
        r.ContainsDecimal (shortestFrom tie r fuel (exponent - 1)) := by
      cases finer with
      | zero =>
        rw [Int.natCast_zero, Int.sub_zero] at hpick
        exact absurd hpick (hskip found hfound)
      | succ finer =>
        refine ih (exponent - 1) ⟨finer, by omega, found, hfound, ?_⟩
        rwa [show exponent - 1 - (finer : Int) = exponent - (finer + 1 : Nat) by omega]
    unfold shortestFrom
    split
    · next n hn =>
      split
      · next hzero =>
        refine next fun other hother heq => hother ?_
        rw [hn] at heq
        exact (Option.some.inj heq).symm.trans hzero
      · exact (r.inUnits_holds_iff ⟨n, exponent⟩).mp (holds_of_pick? hn)
    · next hn =>
      refine next fun other _ heq => ?_
      rw [hn] at heq
      cases heq

theorem ContainsDecimal.stripped {d : Decimal} (h : r.ContainsDecimal d) (fuel : Nat) :
    r.ContainsDecimal (d.stripped fuel) := by
  induction fuel generalizing d with
  | zero => exact h
  | succ fuel ih =>
    unfold Decimal.stripped
    split
    · next hzero =>
      refine ih (h.of_sameValue ?_)
      have hshift := Decimal.sameValue_shift (d.digits / 10) 1 d.exponent
      rwa [show d.digits / 10 * tenTo 1 = d.digits from Nat.div_mul_cancel
        (Nat.dvd_of_mod_eq_zero hzero.2)] at hshift
    · exact h

/-- The last of the grids that are tried is finer than the gap below the number. -/
theorem fine_grid {place : Int} (hleast : -1074 ≤ exponent) (hgreatest : exponent ≤ 971)
    (hplace : 100000 * (place + 19) ≤ (exponent + 52) * 30103) :
    2 ^ (2 - exponent).toNat * tenTo place.toNat ≤
      2 ^ (exponent - 2).toNat * tenTo (-place).toNat := by
  rcases Int.lt_or_le exponent 2 with hsmall | hgreat
  · have hpow : 2 ^ (2 - exponent).toNat ≤ tenTo (-place).toNat := two_pow_le_tenTo (by omega)
    rw [show place.toNat = 0 by omega, show (exponent - 2).toNat = 0 by omega]
    exact (Nat.mul_one _).le.trans (hpow.trans (Nat.one_mul _).ge)
  · have hpow : tenTo place.toNat ≤ 2 ^ (exponent - 2).toNat := tenTo_le_two_pow (by omega)
    rw [show (2 - exponent).toNat = 0 by omega]
    exact (Nat.one_mul _).le.trans (hpow.trans (Nat.le_mul_of_pos_right _ (tenTo_pos _)))

/-- On a grid that is finer than the gap below a number one of the neighbours is found. -/
theorem pick?_around_of_fine (hmantissa : mantissa ≠ 0) {place : Int}
    (h : 2 ^ (2 - exponent).toNat * tenTo place.toNat ≤
      2 ^ (exponent - 2).toNat * tenTo (-place).toNat) (tie : Tie) :
    ∃ n, n ≠ 0 ∧ ((around mantissa exponent).inUnits place).pick? tie = some n := by
  have hreach := Binary64.lowerReach_le mantissa exponent
  have hpos := Binary64.lowerReach_pos mantissa exponent
  have hgap := Nat.mul_pos (Nat.two_pow_pos (exponent - 2).toNat) (tenTo_pos (-place).toNat)
  rw [around_eq]
  refine pick?_of_fine ?_ ?_ ?_ tie
  · exact Nat.mul_pos (Nat.two_pow_pos _) (tenTo_pos _)
  · dsimp only [inUnits]
    rw [Nat.mul_assoc, Nat.mul_assoc]
    have hlow := Nat.mul_le_mul_right (2 ^ (exponent - 2).toNat * tenTo (-place).toNat)
      (show 4 * mantissa - Binary64.lowerReach mantissa exponent + 1 ≤ 4 * mantissa by omega)
    rw [Nat.add_mul, Nat.one_mul] at hlow
    exact (Nat.add_le_add_left h _).trans hlow
  · dsimp only [inUnits]
    rw [Nat.mul_assoc (4 * mantissa), Nat.mul_assoc (4 * mantissa + 2)]
    exact Nat.mul_lt_mul_of_pos_right (by omega) hgap

theorem shortest_contained (tie : Tie) (canonical : Canonical mantissa exponent) :
    (around mantissa exponent).ContainsDecimal (shortest tie mantissa exponent) := by
  unfold shortest
  split
  · next hzero =>
    subst hzero
    rw [around_eq]
    simp [ContainsDecimal, Contains, Decimal.numerator]
  · next hmantissa =>
    have hlog : Nat.log2 mantissa < 53 := (Nat.log2_lt hmantissa).mpr canonical.1
    have hplaces : (((Nat.log2 mantissa : Int) + exponent) * 30103).fdiv 100000 =
        ((Nat.log2 mantissa : Int) + exponent) * 30103 / 100000 :=
      Int.fdiv_eq_ediv_of_nonneg _ (by decide)
    refine (shortestFrom_contained _ _ 21 _ ⟨20, by decide, ?_⟩).stripped 20
    refine pick?_around_of_fine hmantissa (fine_grid canonical.2.1 canonical.2.2.1 ?_) tie
    rw [hplaces]
    omega

end Roundings

/-- Every decimal that is worth as much as the shortest one for a finite number reads as that. -/
theorem Decimal.nearest_of_shortest {mantissa : Nat} {exponent : Int} {tie : Tie} {d : Decimal}
    (canonical : Canonical mantissa exponent) (h : (shortest tie mantissa exponent).SameValue d)
    (negative : Bool) : d.nearest negative = .finite negative mantissa exponent canonical := by
  have hcontained := (Roundings.shortest_contained tie canonical).of_sameValue h
  rw [nearest_eq]
  exact Roundings.Contains.round_eq hcontained (Nat.ne_of_gt d.denominator_pos) negative

end AttrExpr
