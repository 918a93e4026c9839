import AttrExpr.Proofs.Rounding
import Mathlib.Algebra.Order.Ring.Int
import Mathlib.Data.Int.ConditionallyCompleteOrder
import Mathlib.Order.Compare
import Mathlib.Order.WithBot
import Mathlib.Tactic.Positivity

/-! The order of binary numbers is that of their positions on one line. Rounding of integers keeps
the order, and it is exact up to 53 bits. -/
set_option autoImplicit false

namespace AttrExpr.Binary64

section Position

variable {x y : Binary64} {negative : Bool} {mantissa : Nat} {exponent : Int}

/-- A finite number in units of the least positive one. -/
def units (negative : Bool) (mantissa : Nat) (exponent : Int) : Int :=
  let n : Nat := mantissa * 2 ^ (exponent + 1074).toNat
  if negative then -(n : Int) else n

/-- The place of a number in the order. NaN has none, and is put among the infinite ones. -/
def position : Binary64 → WithBot (WithTop Int)
  | .finite negative mantissa exponent _ => ((units negative mantissa exponent : WithTop Int) : _)
  | .infinite negative => if negative then ⊥ else ⊤
  | .nan => ⊥

theorem fraction_units (h : -1074 ≤ exponent) (negative : Bool) (mantissa : Nat) :
    (fraction negative mantissa exponent).1 * 2 ^ 1074 =
      units negative mantissa exponent * (fraction negative mantissa exponent).2 := by
  have hexponent : exponent.toNat + 1074 = (exponent + 1074).toNat + (-exponent).toNat := by omega
  have hmagnitude : (mantissa * 2 ^ exponent.toNat : Int) * 2 ^ 1074 =
      mantissa * 2 ^ (exponent + 1074).toNat * 2 ^ (-exponent).toNat := by
    rw [mul_assoc, ← pow_add, hexponent, pow_add, mul_assoc]
  rw [fraction_snd]
  generalize (2 : Int) ^ 1074 = unit at hmagnitude ⊢
  cases negative
  · simpa [fraction, units, Nat.shiftLeft_eq] using hmagnitude
  · simpa [fraction, units, Nat.shiftLeft_eq] using hmagnitude

/-- The cross products by which finite numbers are compared are their units on a common scale. -/
theorem exists_scale {s t : Bool} {m n : Nat} {e f : Int} (he : -1074 ≤ e) (hf : -1074 ≤ f) :
    ∃ scale > (0 : Int),
      (fraction s m e).1 * (fraction t n f).2 * 2 ^ 1074 = units s m e * scale ∧
      (fraction t n f).1 * (fraction s m e).2 * 2 ^ 1074 = units t n f * scale := by
  have hx := fraction_units he s m
  have hy := fraction_units hf t n
  refine ⟨(fraction s m e).2 * (fraction t n f).2, ?_, ?_, ?_⟩
  · rw [fraction_snd, fraction_snd]
    positivity
  · rw [mul_right_comm, hx, mul_assoc]
  · rw [mul_right_comm, hy, mul_assoc, mul_comm ((fraction t n f).2 : Int)]

theorem lt_iff_position (hx : x ≠ .nan) (hy : y ≠ .nan) :
    x.lt y = true ↔ x.position < y.position := by
  cases x with
  | nan => exact absurd rfl hx
  | infinite s =>
    cases y with
    | nan => exact absurd rfl hy
    | infinite t => cases s <;> cases t <;> simp [lt, position]
    | finite t n f hf => cases s <;> simp [lt, position]
  | finite s m e he =>
    cases y with
    | nan => exact absurd rfl hy
    | infinite t =>
      cases t with
      | false => exact iff_of_true rfl (WithBot.coe_lt_coe.mpr (WithTop.coe_lt_top _))
      | true => simp [lt, position]
    | finite t n f hf =>
      obtain ⟨scale, hscale, hleft, hright⟩ := exists_scale he.2.1 hf.2.1
      have hunit : (0 : Int) < 2 ^ 1074 := pow_pos (by decide) _
      simp only [lt, position, decide_eq_true_eq, WithBot.coe_lt_coe, WithTop.coe_lt_coe]
      rw [← mul_lt_mul_iff_left₀ hunit, hleft, hright, mul_lt_mul_iff_left₀ hscale]

theorem eq_iff_position (hx : x ≠ .nan) (hy : y ≠ .nan) :
    x.eq y = true ↔ x.position = y.position := by
  cases x with
  | nan => exact absurd rfl hx
  | infinite s =>
    cases y with
    | nan => exact absurd rfl hy
    | infinite t => cases s <;> cases t <;> simp [eq, position]
    | finite t n f hf => cases s <;> simp [eq, position]
  | finite s m e he =>
    cases y with
    | nan => exact absurd rfl hy
    | infinite t => cases t <;> simp [eq, position]
    | finite t n f hf =>
      obtain ⟨scale, hscale, hleft, hright⟩ := exists_scale he.2.1 hf.2.1
      have hunit : (2 : Int) ^ 1074 ≠ 0 := ne_of_gt (pow_pos (by decide) _)
      simp only [eq, position, beq_iff_eq, WithBot.coe_inj, WithTop.coe_inj]
      rw [← mul_left_inj' hunit, hleft, hright, mul_left_inj' (ne_of_gt hscale)]

/-- Numbers are compared as their positions are. -/
theorem compare?_eq (hx : x ≠ .nan) (hy : y ≠ .nan) :
    x.compare? y = some (cmp x.position y.position) := by
  unfold compare? cmp cmpUsing
  simp only [lt_iff_position hx hy, lt_iff_position hy hx, eq_iff_position hx hy]
  rcases lt_trichotomy x.position y.position with hlt | heq | hgt
  · simp [hlt]
  · simp [heq]
  · simp [hgt, not_lt_of_gt hgt]

end Position

section Rounding

variable {num greater den : Nat} {m n : Int}

theorem divToEven_mono (h : num ≤ greater) (den : Nat) :
    divToEven num den ≤ divToEven greater den := by
  have hquotient := Nat.div_le_div_right (c := den) h
  have hnum := Nat.div_add_mod num den
  have hgreater := Nat.div_add_mod greater den
  unfold divToEven
  dsimp only
  rcases Nat.lt_or_eq_of_le hquotient with hlt | heq
  · split <;> split <;> omega
  · rw [heq] at hnum ⊢
    -- with one quotient for both, the greater fraction has the greater remainder
    split <;> split <;> omega

theorem divToEven_one (n : Nat) : divToEven n 1 = n := by simp [divToEven, Nat.mod_one]

/-- The magnitude of a rounded fraction in units of the least positive number. -/
def magnitude (num den : Nat) : Nat := significand num den * 2 ^ (exponentFor num den + 1074).toNat

/-- Carried over or not, a mantissa has the same magnitude. -/
theorem position_round (hden : den ≠ 0) (hexponent : exponentFor num den ≤ 970)
    (negative : Bool) : (round negative num den).position =
      (((if negative then -(magnitude num den : Int) else magnitude num den : Int) :
        WithTop Int) : WithBot (WithTop Int)) := by
  obtain ⟨canonical, hround⟩ | ⟨hcarry, canonical, hround⟩ := round_cases hden hexponent negative
  · rw [hround]
    rfl
  · have hleast := (exponentFor_fitting hden num).least
    have hpower : (exponentFor num den + 1 + 1074).toNat =
        (exponentFor num den + 1074).toNat + 1 := by omega
    have hmagnitude :
        1 <<< 52 * 2 ^ (exponentFor num den + 1 + 1074).toNat = magnitude num den := by
      rw [magnitude, hcarry, hpower, Nat.shiftLeft_eq]
      ring
    rw [hround, position, units, hmagnitude]

theorem exponentFor_mono (hden : den ≠ 0) (h : num ≤ greater) :
    exponentFor num den ≤ exponentFor greater den := by
  by_contra hless
  have hleast := (exponentFor_fitting hden greater).least
  have hbelow : ScaledBelow num den (exponentFor greater den) 53 :=
    Nat.lt_of_le_of_lt (Nat.mul_le_mul_right _ h) (exponentFor_fitting hden greater).below
  rcases (exponentFor_fitting hden num).notBelow with hnum | hnot
  · omega
  · exact hnot (scaledBelow_pred_iff.mp (hbelow.mono (by omega)))

/-- Rounding keeps the order of fractions of one denominator. -/
theorem magnitude_mono (hden : den ≠ 0) (h : num ≤ greater) :
    magnitude num den ≤ magnitude greater den := by
  rcases lt_or_eq_of_le (exponentFor_mono hden h) with hlt | heq
  · -- the last mantissa of an exponent and the first one of the next have one magnitude
    have hleast := (exponentFor_fitting hden num).least
    have hnormal := (le_significand hden greater).resolve_left (by omega)
    have hpower :
        (exponentFor num den + 1074).toNat + 1 ≤ (exponentFor greater den + 1074).toNat := by
      omega
    calc magnitude num den
        ≤ 2 ^ 53 * 2 ^ (exponentFor num den + 1074).toNat :=
          Nat.mul_le_mul_right _ (significand_le hden num)
      _ = 2 ^ 52 * 2 ^ ((exponentFor num den + 1074).toNat + 1) := by rw [Nat.pow_succ]; ring
      _ ≤ 2 ^ 52 * 2 ^ (exponentFor greater den + 1074).toNat :=
          Nat.mul_le_mul_left _ (Nat.pow_le_pow_right (by decide) hpower)
      _ ≤ magnitude greater den := Nat.mul_le_mul_right _ hnormal
  · rw [magnitude, magnitude, significand, significand, heq]
    exact Nat.mul_le_mul_right _ (divToEven_mono (Nat.mul_le_mul_right _ h) _)

/-- The magnitude of an integer of 53 bits is exact. -/
theorem magnitude_one (h : num ≤ 2 ^ 53) : magnitude num 1 = num * 2 ^ 1074 := by
  rcases Nat.lt_or_eq_of_le h with hlt | rfl
  · have hexponent : exponentFor num 1 ≤ 0 := by
      by_cases hnum : num = 0
      · rw [exponentFor, if_pos hnum]
        decide
      · have hlog := (Nat.log2_lt hnum).mpr hlt
        have hbounds := (exponentFor_bounds hnum 1).2
        have hone : Nat.log2 1 = 0 := rfl
        omega
    have hleast := (exponentFor_fitting (by decide : 1 ≠ 0) num).least
    have hpower : (-exponentFor num 1).toNat + (exponentFor num 1 + 1074).toNat = 1074 := by omega
    have hpos : (exponentFor num 1).toNat = 0 := by omega
    rw [magnitude, significand, hpos, Nat.pow_zero, Nat.mul_one, divToEven_one, Nat.mul_assoc,
      ← Nat.pow_add]
    exact congrArg (num * 2 ^ ·) hpower
  · have hexponent : exponentFor (2 ^ 53) 1 = 1 := by decide +kernel
    have hsignificand : significand (2 ^ 53) 1 = 2 ^ 52 := by decide +kernel
    have hpower : (1 + 1074 : Int).toNat = 1074 + 1 := by decide
    rw [magnitude, hsignificand, hexponent, hpower, pow_succ 2 1074]
    generalize (2 : Nat) ^ 1074 = unit
    omega

/-- An integer after rounding, in units of the least positive number. -/
def rounded (n : Int) : Int :=
  if n < 0 then -(magnitude n.natAbs 1 : Int) else magnitude n.natAbs 1

theorem position_ofInt (h : n.natAbs ≤ 2 ^ 63) :
    (ofInt n).position = ((rounded n : WithTop Int) : WithBot (WithTop Int)) := by
  have hexponent : exponentFor n.natAbs 1 ≤ exponentFor (2 ^ 63) 1 := exponentFor_mono (by decide) h
  have hlast : exponentFor (2 ^ 63) 1 ≤ 970 := by decide +kernel
  rw [ofInt, ofFraction, position_round (by decide) (hexponent.trans hlast)]
  simp only [decide_eq_true_eq, rounded]

/-- Rounding keeps the order of integers. -/
theorem rounded_mono (h : m ≤ n) : rounded m ≤ rounded n := by
  unfold rounded
  split
  · split
    · have hmagnitude : magnitude n.natAbs 1 ≤ magnitude m.natAbs 1 :=
        magnitude_mono (by decide) (by omega)
      omega
    · omega
  · split
    · omega
    · have hmagnitude : magnitude m.natAbs 1 ≤ magnitude n.natAbs 1 :=
        magnitude_mono (by decide) (by omega)
      omega

theorem rounded_exact (h : n.natAbs ≤ 2 ^ 53) : rounded n = n * 2 ^ 1074 := by
  rw [rounded, magnitude_one h, Nat.cast_mul, Nat.cast_pow, ← neg_mul, ← ite_mul]
  congr 1
  split <;> omega

/-- Different integers of which one has less than 54 bits stay different. -/
theorem natAbs_of_rounded_eq (hne : m ≠ n) (h : rounded m = rounded n) : 2 ^ 53 ≤ m.natAbs := by
  by_contra hsmall
  have hunit : (0 : Int) < 2 ^ 1074 := pow_pos (by decide) _
  have hm : rounded m = m * 2 ^ 1074 := rounded_exact (by omega)
  rcases lt_or_gt_of_ne hne with hlt | hgt
  · have hnext : rounded (m + 1) = (m + 1) * 2 ^ 1074 := rounded_exact (by omega)
    have hle : rounded (m + 1) ≤ rounded n := rounded_mono (by omega)
    rw [hnext, ← h, hm, add_mul, one_mul] at hle
    omega
  · have hnext : rounded (m - 1) = (m - 1) * 2 ^ 1074 := rounded_exact (by omega)
    have hle : rounded n ≤ rounded (m - 1) := rounded_mono (by omega)
    rw [hnext, ← h, hm, sub_mul, one_mul] at hle
    omega

end Rounding

end AttrExpr.Binary64
