import AttrExpr.Binary64.Basic
import Mathlib.Tactic.Ring

/-! Rounding of fractions of moderate size gives finite numbers. Fractions are compared by their
cross products. -/
set_option autoImplicit false

namespace AttrExpr.Binary64

variable {num den k : Nat} {exponent : Int}

theorem scaled_eq (num den : Nat) (exponent : Int) :
    scaled num den exponent = (num * 2 ^ (-exponent).toNat, den * 2 ^ exponent.toNat) := by
  unfold scaled
  split
  · next h =>
    have hzero : (-exponent).toNat = 0 := by omega
    rw [hzero, Nat.shiftLeft_eq, Nat.pow_zero, Nat.mul_one]
  · next h =>
    have hzero : exponent.toNat = 0 := by omega
    rw [hzero, Nat.shiftLeft_eq, Nat.pow_zero, Nat.mul_one]

/-- `num / den` is less than `2 ^ (exponent + k)`. -/
def ScaledBelow (num den : Nat) (exponent : Int) (k : Nat) : Prop :=
  num * 2 ^ (-exponent).toNat < den * 2 ^ exponent.toNat * 2 ^ k

theorem scaledBelow_of_log2 (hden : den ≠ 0)
    (h : (Nat.log2 num : Int) + 1 ≤ Nat.log2 den + exponent + k) :
    ScaledBelow num den exponent k := by
  have hexp : Nat.log2 num + 1 + (-exponent).toNat ≤ Nat.log2 den + (exponent.toNat + k) := by omega
  calc num * 2 ^ (-exponent).toNat
      < 2 ^ (Nat.log2 num + 1) * 2 ^ (-exponent).toNat :=
        Nat.mul_lt_mul_of_pos_right Nat.lt_log2_self (Nat.two_pow_pos _)
    _ = 2 ^ (Nat.log2 num + 1 + (-exponent).toNat) := (Nat.pow_add 2 _ _).symm
    _ ≤ 2 ^ (Nat.log2 den + (exponent.toNat + k)) := Nat.pow_le_pow_right (by omega) hexp
    _ = 2 ^ Nat.log2 den * (2 ^ exponent.toNat * 2 ^ k) := by rw [Nat.pow_add, Nat.pow_add]
    _ ≤ den * (2 ^ exponent.toNat * 2 ^ k) := Nat.mul_le_mul_right _ (Nat.log2_self_le hden)
    _ = den * 2 ^ exponent.toNat * 2 ^ k := by rw [Nat.mul_assoc]

theorem not_scaledBelow_of_log2 (hnum : num ≠ 0)
    (h : (Nat.log2 den : Int) + 1 + exponent + k ≤ Nat.log2 num) :
    ¬ ScaledBelow num den exponent k := by
  have hexp : Nat.log2 den + 1 + (exponent.toNat + k) ≤ Nat.log2 num + (-exponent).toNat := by omega
  refine Nat.not_lt.mpr ?_
  calc den * 2 ^ exponent.toNat * 2 ^ k
      = den * (2 ^ exponent.toNat * 2 ^ k) := Nat.mul_assoc _ _ _
    _ ≤ 2 ^ (Nat.log2 den + 1) * (2 ^ exponent.toNat * 2 ^ k) :=
        Nat.mul_le_mul_right _ (Nat.le_of_lt Nat.lt_log2_self)
    _ = 2 ^ (Nat.log2 den + 1 + (exponent.toNat + k)) := by
        rw [Nat.pow_add 2 (Nat.log2 den + 1), Nat.pow_add 2 exponent.toNat]
    _ ≤ 2 ^ (Nat.log2 num + (-exponent).toNat) := Nat.pow_le_pow_right (by omega) hexp
    _ = 2 ^ Nat.log2 num * 2 ^ (-exponent).toNat := Nat.pow_add 2 _ _
    _ ≤ num * 2 ^ (-exponent).toNat := Nat.mul_le_mul_right _ (Nat.log2_self_le hnum)

/-- One less in the exponent is a factor of two in the fraction. -/
theorem scaledBelow_pred_iff :
    ScaledBelow num den (exponent - 1) (k + 1) ↔ ScaledBelow num den exponent k := by
  unfold ScaledBelow
  rcases Int.lt_or_le 0 exponent with he | he
  · have hneg : (-(exponent - 1)).toNat = (-exponent).toNat := by omega
    have hpos : exponent.toNat = (exponent - 1).toNat + 1 := by omega
    have hpower : den * 2 ^ (exponent - 1).toNat * 2 ^ (k + 1) =
        den * 2 ^ exponent.toNat * 2 ^ k := by
      rw [hpos]
      ring
    rw [hneg, hpower]
  · have hneg : (-(exponent - 1)).toNat = (-exponent).toNat + 1 := by omega
    have hpos : (exponent - 1).toNat = exponent.toNat := by omega
    rw [hneg, hpos, Nat.pow_succ, Nat.pow_succ, ← Nat.mul_assoc, ← Nat.mul_assoc]
    exact Nat.mul_lt_mul_right (by omega)

theorem ScaledBelow.mono {greater : Int} (h : ScaledBelow num den exponent k)
    (he : exponent ≤ greater) : ScaledBelow num den greater k :=
  calc num * 2 ^ (-greater).toNat
      ≤ num * 2 ^ (-exponent).toNat :=
        Nat.mul_le_mul_left _ (Nat.pow_le_pow_right (by omega) (by omega))
    _ < den * 2 ^ exponent.toNat * 2 ^ k := h
    _ ≤ den * 2 ^ greater.toNat * 2 ^ k :=
        Nat.mul_le_mul_right _ (Nat.mul_le_mul_left _ (Nat.pow_le_pow_right (by omega) (by omega)))

/-- What the exponent of a fraction is chosen for: the fraction has at most 53 bits, and it has that
many unless the exponent is the least one. -/
structure Fitting (num den : Nat) (exponent : Int) : Prop where
  below : ScaledBelow num den exponent 53
  least : -1074 ≤ exponent
  notBelow : exponent = -1074 ∨ ¬ ScaledBelow num den exponent 52

theorem exponentFor_eq (hnum : num ≠ 0) (den : Nat) :
    exponentFor num den = max
      (if num * 2 ^ (-((Nat.log2 num : Int) - Nat.log2 den - 52)).toNat <
        den * 2 ^ ((Nat.log2 num : Int) - Nat.log2 den - 52).toNat * 2 ^ 52
      then (Nat.log2 num : Int) - Nat.log2 den - 52 - 1
      else (Nat.log2 num : Int) - Nat.log2 den - 52) (-1074) := by
  rw [exponentFor, if_neg hnum]
  simp only [scaled_eq, Nat.shiftLeft_eq]

/-- The exponent follows the difference of the logarithms, but for the least one. -/
theorem exponentFor_bounds (hnum : num ≠ 0) (den : Nat) :
    (Nat.log2 num : Int) - Nat.log2 den - 53 ≤ exponentFor num den ∧
      (exponentFor num den = -1074 ∨
        exponentFor num den ≤ (Nat.log2 num : Int) - Nat.log2 den - 52) := by
  rw [exponentFor_eq hnum]
  split <;> omega

theorem exponentFor_fitting (hden : den ≠ 0) (num : Nat) :
    Fitting num den (exponentFor num den) := by
  by_cases hnum : num = 0
  · have hexponent : exponentFor num den = -1074 := by rw [exponentFor, if_pos hnum]
    refine ⟨?_, by omega, .inl hexponent⟩
    rw [ScaledBelow, hnum, Nat.zero_mul]
    exact Nat.mul_pos (Nat.mul_pos (Nat.pos_of_ne_zero hden) (Nat.two_pow_pos _))
      (Nat.two_pow_pos _)
  · rw [exponentFor_eq hnum]
    generalize hguess : (Nat.log2 num : Int) - Nat.log2 den - 52 = guess
    have fitting (exponent : Int) (hbelow : ScaledBelow num den exponent 53)
        (hnot : ¬ ScaledBelow num den exponent 52) : Fitting num den (max exponent (-1074)) := by
      refine ⟨hbelow.mono (by omega), by omega, ?_⟩
      rcases Int.lt_or_le exponent (-1074) with he | he
      · exact .inl (by omega)
      · rw [max_eq_left he]
        exact .inr hnot
    split
    · next hless =>
      refine fitting _ (scaledBelow_pred_iff.mpr hless) (not_scaledBelow_of_log2 hnum ?_)
      omega
    · next hless => exact fitting _ (scaledBelow_of_log2 hden (by omega)) hless

theorem divToEven_le {high : Nat} (hden : 0 < den) (h : num < den * high) :
    divToEven num den ≤ high := by
  have hceil : num / den < high := (Nat.div_lt_iff_lt_mul hden).mpr (by rwa [Nat.mul_comm])
  unfold divToEven
  dsimp only
  split <;> omega

theorem le_divToEven {low : Nat} (hden : 0 < den) (h : den * low ≤ num) :
    low ≤ divToEven num den := by
  have hfloor : low ≤ num / den := (Nat.le_div_iff_mul_le hden).mpr (by rwa [Nat.mul_comm])
  unfold divToEven
  dsimp only
  split <;> omega

/-- The mantissa of a rounded fraction before it is carried over, if it is. -/
def significand (num den : Nat) : Nat :=
  divToEven (num * 2 ^ (-exponentFor num den).toNat) (den * 2 ^ (exponentFor num den).toNat)

theorem significand_le (hden : den ≠ 0) (num : Nat) : significand num den ≤ 2 ^ 53 :=
  divToEven_le (Nat.mul_pos (Nat.pos_of_ne_zero hden) (Nat.two_pow_pos _))
    (exponentFor_fitting hden num).below

theorem le_significand (hden : den ≠ 0) (num : Nat) :
    exponentFor num den = -1074 ∨ 2 ^ 52 ≤ significand num den :=
  (exponentFor_fitting hden num).notBelow.imp_right fun hnot =>
    le_divToEven (Nat.mul_pos (Nat.pos_of_ne_zero hden) (Nat.two_pow_pos _)) (Nat.not_lt.mp hnot)

theorem round_eq (negative : Bool) (num den : Nat) :
    round negative num den =
      if h : Canonical (significand num den) (exponentFor num den) then
        .finite negative (significand num den) (exponentFor num den) h
      else if h : Canonical (1 <<< 52) (exponentFor num den + 1) then
        .finite negative (1 <<< 52) (exponentFor num den + 1) h
      else .infinite negative := by
  have hmantissa : divToEven (scaled num den (exponentFor num den)).1
      (scaled num den (exponentFor num den)).2 = significand num den := by
    rw [scaled_eq, significand]
  rw [← hmantissa]
  rfl

/-- A fraction is rounded to its mantissa at its exponent, as long as that is not among the last. A
mantissa that has one bit too many is carried over to the next exponent. -/
theorem round_cases (hden : den ≠ 0) (hexponent : exponentFor num den ≤ 970) (negative : Bool) :
    (∃ canonical, round negative num den =
      .finite negative (significand num den) (exponentFor num den) canonical) ∨
    significand num den = 2 ^ 53 ∧ ∃ canonical, round negative num den =
      .finite negative (1 <<< 52) (exponentFor num den + 1) canonical := by
  have hleast := (exponentFor_fitting hden num).least
  have hhigh := significand_le hden num
  have hlow := le_significand hden num
  rw [round_eq]
  generalize significand num den = mantissa at *
  by_cases hcarry : mantissa = 2 ^ 53
  · have hnext : Canonical (1 <<< 52) (exponentFor num den + 1) :=
      ⟨by decide, by omega, by omega, .inr (by decide)⟩
    have hover : ¬ Canonical mantissa (exponentFor num den) := fun h => by
      have := h.1
      rw [hcarry] at this
      exact absurd this (by decide)
    rw [dif_neg hover, dif_pos hnext]
    exact .inr ⟨hcarry, hnext, rfl⟩
  · have hcanonical : Canonical mantissa (exponentFor num den) := by
      refine ⟨?_, hleast, by omega, ?_⟩ <;> simp only [Nat.shiftLeft_eq, Nat.one_mul] <;> omega
    rw [dif_pos hcanonical]
    exact .inl ⟨hcanonical, rfl⟩

theorem round_finite (hden : den ≠ 0) (hexponent : exponentFor num den ≤ 970) (negative : Bool) :
    ∃ mantissa exponent canonical, round negative num den =
        .finite negative mantissa exponent canonical ∧
      exponentFor num den ≤ exponent ∧ exponent ≤ exponentFor num den + 1 := by
  obtain ⟨canonical, hround⟩ | ⟨-, canonical, hround⟩ := round_cases hden hexponent negative
  · exact ⟨_, _, canonical, hround, by omega, by omega⟩
  · exact ⟨_, _, canonical, hround, by omega, by omega⟩

/-- A fraction that is less than a certain power of two is rounded to a finite number. -/
theorem isFinite_round_of_lt (hden : den ≠ 0) (h : num < den * 2 ^ 200) (negative : Bool) :
    (round negative num den).isFinite = true := by
  have hexponent : exponentFor num den ≤ 970 := by
    by_cases hnum : num = 0
    · rw [exponentFor, if_pos hnum]
      omega
    · have hpow : 2 ^ Nat.log2 num < 2 ^ (Nat.log2 den + 1 + 200) :=
        calc 2 ^ Nat.log2 num ≤ num := Nat.log2_self_le hnum
          _ < den * 2 ^ 200 := h
          _ ≤ 2 ^ (Nat.log2 den + 1) * 2 ^ 200 :=
            Nat.mul_le_mul_right _ (Nat.le_of_lt Nat.lt_log2_self)
          _ = 2 ^ (Nat.log2 den + 1 + 200) := (Nat.pow_add 2 _ _).symm
      have hlog := (Nat.pow_lt_pow_iff_right (by omega)).mp hpow
      have hbounds := (exponentFor_bounds hnum den).2
      omega
  obtain ⟨mantissa, exponent, canonical, hround, -⟩ := round_finite hden hexponent negative
  rw [hround]
  rfl

theorem isFinite_roundOrZero {num : Int} (hden : den ≠ 0) (h : num.natAbs < den * 2 ^ 200)
    (zeroNegative : Bool) : (roundOrZero zeroNegative num den).isFinite = true := by
  unfold roundOrZero
  split
  · rfl
  · exact isFinite_round_of_lt hden h _

@[simp] theorem fraction_natAbs (negative : Bool) (mantissa : Nat) (exponent : Int) :
    (fraction negative mantissa exponent).1.natAbs = mantissa * 2 ^ exponent.toNat := by
  cases negative <;> simp [fraction, Nat.shiftLeft_eq, Int.natAbs_mul, Int.natAbs_pow]

@[simp] theorem fraction_snd (negative : Bool) (mantissa : Nat) (exponent : Int) :
    (fraction negative mantissa exponent).2 = 2 ^ (-exponent).toNat := by
  simp [fraction, Nat.shiftLeft_eq]

/-- A finite number that is not too large and, unless it is zero, not too small. -/
inductive Moderate : Binary64 → Prop
  | mk {negative : Bool} {mantissa : Nat} {exponent : Int} (canonical : Canonical mantissa exponent)
      (hupper : exponent ≤ 12) (hlower : mantissa = 0 ∨ -53 ≤ exponent) :
      Moderate (.finite negative mantissa exponent canonical)

theorem Moderate.isFinite {x : Binary64} (h : x.Moderate) : x.isFinite = true := by
  cases h with
  | mk canonical hupper hlower => rfl

theorem isFinite_abs {x : Binary64} (h : x.isFinite = true) : x.abs.isFinite = true := by
  cases x with
  | finite => rfl
  | infinite | nan => cases h

/-- The form of an integer of 64 bits but zero. -/
theorem ofInt_finite {n : Int} (h : n.natAbs ≤ 2 ^ 63) (hn : n ≠ 0) :
    ∃ mantissa exponent canonical, ofInt n = .finite (n < 0) mantissa exponent canonical ∧
      -53 ≤ exponent ∧ exponent ≤ 12 := by
  have hnum : n.natAbs ≠ 0 := by omega
  have hlog : Nat.log2 n.natAbs < 64 :=
    (Nat.log2_lt hnum).mpr (Nat.lt_of_le_of_lt h (by decide))
  have hbounds := exponentFor_bounds hnum 1
  have hone : Nat.log2 1 = 0 := rfl
  obtain ⟨mantissa, exponent, canonical, hround, hlower, hupper⟩ :=
    @round_finite n.natAbs 1 (by decide) (by omega) (decide (n < 0))
  exact ⟨mantissa, exponent, canonical, hround, by omega, by omega⟩

/-- Integers of 64 bits are moderate. -/
theorem moderate_ofInt {n : Int} (h : n.natAbs ≤ 2 ^ 63) : (ofInt n).Moderate := by
  by_cases hn : n = 0
  · subst hn
    exact (show Moderate (zero false) from .mk _ (by decide) (.inl rfl))
  · obtain ⟨mantissa, exponent, canonical, hround, hlower, hupper⟩ := ofInt_finite h hn
    rw [hround]
    exact .mk canonical hupper (.inr hlower)

theorem isZero_ofInt {n : Int} (h : n.natAbs ≤ 2 ^ 63) (hn : n ≠ 0) : (ofInt n).isZero = false := by
  obtain ⟨mantissa, exponent, canonical, hround, hlower, -⟩ := ofInt_finite h hn
  have hnormal := canonical.2.2.2
  have hmantissa : mantissa ≠ 0 := by
    rintro rfl
    rcases hnormal with hnormal | hnormal
    · omega
    · exact absurd hnormal (by decide)
  rw [hround]
  exact beq_eq_false_iff_ne.mpr hmantissa

section Moderate

variable {negative : Bool} {mantissa : Nat} {x y : Binary64}

theorem natAbs_fraction_lt (canonical : Canonical mantissa exponent) (hupper : exponent ≤ 12) :
    mantissa * 2 ^ exponent.toNat < 2 ^ 65 := by
  have hmantissa : mantissa < 2 ^ 53 := canonical.1
  calc mantissa * 2 ^ exponent.toNat
      ≤ mantissa * 2 ^ 12 := Nat.mul_le_mul_left _ (Nat.pow_le_pow_right (by omega) (by omega))
    _ < 2 ^ 53 * 2 ^ 12 := Nat.mul_lt_mul_of_pos_right hmantissa (by decide)
    _ = 2 ^ 65 := by decide

theorem Moderate.neg (h : x.Moderate) : x.neg.Moderate := by
  cases h with
  | mk canonical hupper hlower => exact .mk canonical hupper hlower

theorem Moderate.add (hx : x.Moderate) (hy : y.Moderate) : (x.add y).isFinite = true := by
  cases hx with
  | @mk s m e hm heupper _ =>
    cases hy with
    | @mk t n f hn hfupper _ =>
      change (roundOrZero (s && t)
        ((fraction s m e).1 * (fraction t n f).2 + (fraction t n f).1 * (fraction s m e).2)
        ((fraction s m e).2 * (fraction t n f).2)).isFinite = true
      have ha := natAbs_fraction_lt hm heupper
      have hc := natAbs_fraction_lt hn hfupper
      have hb := Nat.two_pow_pos (-e).toNat
      have hd := Nat.two_pow_pos (-f).toNat
      refine isFinite_roundOrZero (Nat.mul_ne_zero (by simp) (by simp)) ?_ _
      refine Nat.lt_of_le_of_lt (Int.natAbs_add_le _ _) ?_
      simp only [Int.natAbs_mul, fraction_natAbs, fraction_snd, Int.natAbs_natCast]
      generalize 2 ^ (-e).toNat = b at *
      generalize 2 ^ (-f).toNat = d at *
      have had := Nat.mul_le_mul (Nat.le_of_lt ha) (Nat.le_mul_of_pos_left d hb)
      have hcb := Nat.mul_le_mul (Nat.le_of_lt hc) (Nat.le_mul_of_pos_right b hd)
      have hpos := Nat.mul_pos hb hd
      omega

theorem Moderate.mul (hx : x.Moderate) (hy : y.Moderate) : (x.mul y).isFinite = true := by
  cases hx with
  | @mk s m e hm heupper _ =>
    cases hy with
    | @mk t n f hn hfupper _ =>
      change (roundOrZero (s != t) ((fraction s m e).1 * (fraction t n f).1)
        ((fraction s m e).2 * (fraction t n f).2)).isFinite = true
      have ha := natAbs_fraction_lt hm heupper
      have hc := natAbs_fraction_lt hn hfupper
      refine isFinite_roundOrZero (Nat.mul_ne_zero (by simp) (by simp)) ?_ _
      simp only [Int.natAbs_mul, fraction_natAbs, fraction_snd]
      have hpos := Nat.mul_pos (Nat.two_pow_pos (-e).toNat) (Nat.two_pow_pos (-f).toNat)
      have hac := Nat.mul_le_mul (Nat.le_of_lt ha) (Nat.le_of_lt hc)
      omega

theorem Moderate.div (hx : x.Moderate) (hy : y.Moderate) (hzero : y.isZero = false) :
    (x.div y).isFinite = true := by
  cases hx with
  | @mk s m e hm heupper _ =>
    cases hy with
    | @mk t n f hn _ hflower =>
      have hn0 : n ≠ 0 := beq_eq_false_iff_ne.mp hzero
      have hflower : -53 ≤ f := hflower.resolve_left hn0
      change (if n = 0 then (if m = 0 then .nan else .infinite (s != t))
        else if m = 0 then zero (s != t)
          else round (s != t) ((fraction s m e).1.natAbs * (fraction t n f).2)
            ((fraction s m e).2 * (fraction t n f).1.natAbs) : Binary64).isFinite = true
      rw [if_neg hn0]
      split
      · rfl
      · have ha := natAbs_fraction_lt hm heupper
        have hd : 2 ^ (-f).toNat ≤ 2 ^ 53 := Nat.pow_le_pow_right (by omega) (by omega)
        have hc := Nat.mul_ne_zero hn0 (Nat.ne_of_gt (Nat.two_pow_pos f.toNat))
        simp only [fraction_natAbs, fraction_snd]
        have hden := Nat.mul_ne_zero (Nat.ne_of_gt (Nat.two_pow_pos (-e).toNat)) hc
        refine isFinite_round_of_lt hden ?_ _
        have had := Nat.mul_le_mul (Nat.le_of_lt ha) hd
        omega

theorem Moderate.rem (hx : x.Moderate) (hy : y.Moderate) (hzero : y.isZero = false) :
    (x.rem y).isFinite = true := by
  cases hx with
  | @mk s m e hm heupper _ =>
    cases hy with
    | @mk t n f hn _ _ =>
      have hn0 : n ≠ 0 := beq_eq_false_iff_ne.mp hzero
      change (if n = 0 then .nan else roundOrZero s
        (((fraction s m e).1 * (fraction t n f).2).tmod
          ((fraction t n f).1 * (fraction s m e).2))
        ((fraction s m e).2 * (fraction t n f).2) : Binary64).isFinite = true
      rw [if_neg hn0]
      have ha := natAbs_fraction_lt hm heupper
      have hb := Nat.two_pow_pos (-e).toNat
      refine isFinite_roundOrZero (Nat.mul_ne_zero (by simp) (by simp)) ?_ _
      rw [Int.natAbs_tmod]
      refine Nat.lt_of_le_of_lt (Nat.mod_le _ _) ?_
      simp only [Int.natAbs_mul, fraction_natAbs, fraction_snd, Int.natAbs_natCast]
      have hd := Nat.two_pow_pos (-f).toNat
      generalize 2 ^ (-e).toNat = b at *
      generalize 2 ^ (-f).toNat = d at *
      have had := Nat.mul_le_mul (Nat.le_of_lt ha) (Nat.le_mul_of_pos_left d hb)
      have hpos := Nat.mul_pos hb hd
      omega

end Moderate

/-- Of two finite numbers one is less than the other, or they are equal. -/
theorem compare?_isSome {x y : Binary64} (hx : x.isFinite = true) (hy : y.isFinite = true) :
    (x.compare? y).isSome = true := by
  cases x with
  | infinite | nan => cases hx
  | finite s m e hm =>
    cases y with
    | infinite | nan => cases hy
    | finite t n f hn =>
      change (if decide ((fraction s m e).1 * (fraction t n f).2 <
          (fraction t n f).1 * (fraction s m e).2) = true then some Ordering.lt
        else if decide ((fraction t n f).1 * (fraction s m e).2 <
          (fraction s m e).1 * (fraction t n f).2) = true then some Ordering.gt
        else if ((fraction s m e).1 * (fraction t n f).2 ==
          (fraction t n f).1 * (fraction s m e).2) = true then some Ordering.eq
        else none).isSome = true
      generalize (fraction s m e).1 * ((fraction t n f).2 : Int) = a
      generalize (fraction t n f).1 * ((fraction s m e).2 : Int) = b
      rcases Int.lt_trichotomy a b with hlt | heq | hgt
      · simp [hlt]
      · simp [heq]
      · simp [hgt, Int.lt_asymm hgt]

end AttrExpr.Binary64
