import AttrExpr.Binary64.Shortest
import AttrExpr.Proofs.Rounding

/-! Which fractions are rounded to a number: those between the middles to its two neighbours, and
the middles themselves when its mantissa is even. -/
set_option autoImplicit false

namespace AttrExpr

open Binary64

namespace Binary64

variable {num den n d m : Nat} {exponent other : Int}

/-- The nearest whole number, by its distance. A half goes to the even one. -/
theorem divToEven_eq (hd : 0 < d) (hlow : 2 * (m * d) ≤ 2 * n + d) (hhigh : 2 * n ≤ 2 * (m * d) + d)
    (heven : m % 2 = 0 ∨ 2 * (m * d) < 2 * n + d ∧ 2 * n < 2 * (m * d) + d) :
    divToEven n d = m := by
  have hdiv := Nat.div_add_mod n d
  have hmod := Nat.mod_lt n hd
  have hle : n / d ≤ m := by
    by_contra hgt
    have hmul := Nat.mul_le_mul_left d (show m + 1 ≤ n / d by omega)
    rw [Nat.mul_succ, Nat.mul_comm d m] at hmul
    omega
  have hge : m ≤ n / d + 1 := by
    by_contra hlt
    have hmul := Nat.mul_le_mul_right d (show n / d + 2 ≤ m by omega)
    rw [Nat.add_mul, Nat.mul_comm (n / d)] at hmul
    omega
  unfold divToEven
  dsimp only
  rcases Nat.lt_or_eq_of_le hle with hlt | heq
  · have hm : m = n / d + 1 := by omega
    have hmul : m * d = d * (n / d) + d := by rw [hm, Nat.succ_mul, Nat.mul_comm]
    split <;> omega
  · have hmul : m * d = d * (n / d) := by rw [heq, Nat.mul_comm]
    split <;> omega

/-- A fraction fits one exponent only. -/
theorem Fitting.unique (h : Fitting num den exponent) (h' : Fitting num den other) :
    exponent = other := by
  have notLess {first second : Int} (hfirst : Fitting num den first)
      (hsecond : Fitting num den second) : ¬ first < second := by
    intro hless
    rcases hsecond.notBelow with hleast | hnot
    · have := hfirst.least
      omega
    · exact hnot (scaledBelow_pred_iff.mp (hfirst.below.mono (by omega)))
  have := notLess h h'
  have := notLess h' h
  omega

theorem Fitting.exponentFor_eq (hden : den ≠ 0) (h : Fitting num den exponent) :
    exponentFor num den = exponent :=
  (exponentFor_fitting hden num).unique h

/-- The fraction at an exponent and at the one before it. -/
theorem scaled_pred (num den : Nat) (exponent : Int) :
    num * 2 ^ (-(exponent - 1)).toNat = 2 * (num * 2 ^ (-exponent).toNat) ∧
        den * 2 ^ (exponent - 1).toNat = den * 2 ^ exponent.toNat ∨
      num * 2 ^ (-(exponent - 1)).toNat = num * 2 ^ (-exponent).toNat ∧
        2 * (den * 2 ^ (exponent - 1).toNat) = den * 2 ^ exponent.toNat := by
  rcases Int.lt_or_le 0 exponent with he | he
  · have hneg : (-(exponent - 1)).toNat = (-exponent).toNat := by omega
    have hpos : exponent.toNat = (exponent - 1).toNat + 1 := by omega
    rw [hneg, hpos, Nat.pow_succ]
    exact .inr ⟨rfl, by ring⟩
  · have hneg : (-(exponent - 1)).toNat = (-exponent).toNat + 1 := by omega
    have hpos : (exponent - 1).toNat = exponent.toNat := by omega
    rw [hneg, hpos, Nat.pow_succ]
    exact .inl ⟨by ring, rfl⟩

/-- The distance from a number to the middle below it, in fourths of the gap above it: below a power
of two the gap is half as wide. -/
def lowerReach (mantissa : Nat) (exponent : Int) : Nat :=
  if mantissa = 1 <<< 52 ∧ exponent ≠ -1074 then 1 else 2

theorem lowerReach_le (mantissa : Nat) (exponent : Int) : lowerReach mantissa exponent ≤ 2 := by
  unfold lowerReach
  split <;> omega

theorem lowerReach_pos (mantissa : Nat) (exponent : Int) : 0 < lowerReach mantissa exponent := by
  unfold lowerReach
  split <;> omega

/-- A fraction between the middles around a whole number, or one of them when that is even. -/
structure Near (n d mantissa reach : Nat) : Prop where
  low : 4 * (mantissa * d) ≤ 4 * n + reach * d
  high : 4 * n ≤ 4 * (mantissa * d) + 2 * d
  inner : mantissa % 2 = 0 ∨
    4 * (mantissa * d) < 4 * n + reach * d ∧ 4 * n < 4 * (mantissa * d) + 2 * d

variable {canonical : Canonical m exponent}

theorem Near.divToEven_eq (hd : 0 < d) {reach : Nat} (h : Near n d m reach) (hreach : reach ≤ 2) :
    divToEven n d = m := by
  obtain ⟨hlow, hhigh, hinner⟩ := h
  have hreach := Nat.mul_le_mul_right d hreach
  exact Binary64.divToEven_eq hd (by omega) (by omega) (hinner.imp_right fun h => by omega)

/-- Where the mantissa has 53 bits, or the exponent is the least one, a fraction near a number has
the exponent of that. -/
theorem Near.fitting (hm : m < 2 ^ 53) (hleast : -1074 ≤ exponent)
    (hd : 0 < den * 2 ^ exponent.toNat) {reach : Nat}
    (h : Near (num * 2 ^ (-exponent).toNat) (den * 2 ^ exponent.toNat) m reach)
    (hbits : exponent = -1074 ∨ ¬ ScaledBelow num den exponent 52) :
    Fitting num den exponent := by
  refine ⟨?_, hleast, hbits⟩
  have hhigh := h.high
  unfold ScaledBelow
  generalize num * 2 ^ (-exponent).toNat = n at *
  generalize den * 2 ^ exponent.toNat = d at *
  have hmul := Nat.mul_le_mul_right d (show m ≤ 2 ^ 53 - 1 by omega)
  omega

/-- Below a power of two, near it, a fraction has the exponent before that of the power, and a
mantissa that is carried over. -/
theorem Near.fitting_pred (hleast : -1074 < exponent) (hd : 0 < den * 2 ^ exponent.toNat)
    (h : Near (num * 2 ^ (-exponent).toNat) (den * 2 ^ exponent.toNat) (2 ^ 52) 1)
    (hbelow : ScaledBelow num den exponent 52) :
    Fitting num den (exponent - 1) ∧
      divToEven (num * 2 ^ (-(exponent - 1)).toNat) (den * 2 ^ (exponent - 1).toNat) = 2 ^ 53 := by
  have hlow := h.low
  constructor
  · refine ⟨scaledBelow_pred_iff.mpr hbelow, by omega, .inr fun hless => ?_⟩
    have hless := scaledBelow_pred_iff.mp hless
    unfold ScaledBelow at hless
    omega
  · unfold ScaledBelow at hbelow
    have hscaled := scaled_pred num den exponent
    exact Binary64.divToEven_eq (by omega) (by omega) (by omega) (.inl (by decide))

/-- A fraction near a number is rounded to it. -/
theorem Near.round_eq (hden : den ≠ 0)
    (h : Near (num * 2 ^ (-exponent).toNat) (den * 2 ^ exponent.toNat) m (lowerReach m exponent))
    (negative : Bool) : round negative num den = .finite negative m exponent canonical := by
  have hd : 0 < den * 2 ^ exponent.toNat :=
    Nat.mul_pos (Nat.pos_of_ne_zero hden) (Nat.two_pow_pos _)
  have hm : m < 2 ^ 53 := canonical.1
  -- below a power of two the fraction has the exponent before, and is carried over
  by_cases hbits : exponent = -1074 ∨ ¬ ScaledBelow num den exponent 52
  · have hexponent := (h.fitting hm canonical.2.1 hd hbits).exponentFor_eq hden
    have hsignificand : significand num den = m := by
      rw [significand, hexponent]
      exact h.divToEven_eq hd (lowerReach_le m exponent)
    simp only [Binary64.round_eq, hexponent, hsignificand, dif_pos canonical]
  · obtain ⟨hother, hbelow⟩ := not_or.mp hbits
    rw [not_not] at hbelow
    have hnormal : 2 ^ 52 ≤ m := canonical.2.2.2.resolve_left hother
    have hpower : m = 2 ^ 52 := by
      have hlow := h.low
      have hless := hbelow
      unfold ScaledBelow at hless
      have hreach := Nat.mul_le_mul_right (den * 2 ^ exponent.toNat) (lowerReach_le m exponent)
      by_contra hne
      have hmul := Nat.mul_le_mul_right (den * 2 ^ exponent.toNat) (show 2 ^ 52 + 1 ≤ m by omega)
      omega
    subst hpower
    have hreach : lowerReach (2 ^ 52) exponent = 1 := if_pos ⟨by decide, hother⟩
    rw [hreach] at h
    obtain ⟨hfitting, hdiv⟩ := h.fitting_pred (by have := canonical.2.1; omega) hd hbelow
    have hexponent := hfitting.exponentFor_eq hden
    have hsignificand : significand num den = 2 ^ 53 := by rw [significand, hexponent, hdiv]
    have hlast : exponentFor num den ≤ 970 := by
      have := canonical.2.2.1
      omega
    obtain ⟨hover, -⟩ | ⟨-, carried, hround⟩ := round_cases hden hlast negative
    · have := hover.1
      rw [hsignificand] at this
      exact absurd this (by decide)
    · simp only [hexponent, Int.sub_add_cancel] at hround
      exact hround

/-- A fraction that is at most `2 ^ -1075`, half of the least number, is rounded to zero. -/
theorem round_zero (hden : den ≠ 0) (h : num * 2 ^ (1074 + 1) ≤ den) (negative : Bool) :
    round negative num den = zero negative := by
  refine Near.round_eq hden ⟨?_, ?_, .inl rfl⟩ negative
  · rw [Nat.zero_mul]
    exact Nat.zero_le _
  · rw [pow_succ, ← Nat.mul_assoc] at h
    rw [show (-(-1074 : Int)).toNat = 1074 from rfl, show (-1074 : Int).toNat = 0 from rfl]
    generalize num * 2 ^ 1074 = n at *
    omega

/-- A fraction that is at least `2 ^ 1024` is rounded to infinity. -/
theorem round_infinite (hden : den ≠ 0) (h : den * 2 ^ (971 + 53) ≤ num) (negative : Bool) :
    round negative num den = .infinite negative := by
  have hexponent : 971 < exponentFor num den := by
    by_contra hle
    have hbelow : ScaledBelow num den 971 53 :=
      (exponentFor_fitting hden num).below.mono (by omega)
    rw [ScaledBelow, show (-971 : Int).toNat = 0 from rfl, show (971 : Int).toNat = 971 from rfl,
      Nat.mul_assoc, ← pow_add, pow_zero, Nat.mul_one] at hbelow
    exact Nat.not_lt.mpr h hbelow
  have hlast {mantissa : Nat} {exponent : Int} (h : 971 < exponent) :
      ¬ Canonical mantissa exponent := fun hcanonical => by
    have := hcanonical.2.2.1
    omega
  rw [Binary64.round_eq, dif_neg (hlast hexponent), dif_neg (hlast (by omega))]

end Binary64

/-! The same neighbourhoods as the writer of decimals has them. -/

namespace Roundings

/-- Whether a fraction lies among the numbers. -/
def Contains (r : Roundings) (num den : Nat) : Prop :=
  if r.closed then r.low * den ≤ num * r.unit ∧ num * r.unit ≤ r.high * den
  else r.low * den < num * r.unit ∧ num * r.unit < r.high * den

variable {r : Roundings} {num den num' den' mantissa : Nat} {exponent : Int}

/-- Equal fractions lie among the same numbers. -/
theorem Contains.of_eq (h : r.Contains num den) (hden : 0 < den) (hden' : 0 < den')
    (heq : num * den' = num' * den) : r.Contains num' den' := by
  have hnum : num * r.unit * den' = num' * r.unit * den := by
    rw [Nat.mul_right_comm, heq, Nat.mul_right_comm]
  have hlow : r.low * den * den' = r.low * den' * den := Nat.mul_right_comm _ _ _
  have hhigh : r.high * den * den' = r.high * den' * den := Nat.mul_right_comm _ _ _
  unfold Contains at h ⊢
  split
  · next hclosed =>
    rw [if_pos hclosed] at h
    constructor
    · exact Nat.le_of_mul_le_mul_right (hlow ▸ hnum ▸ Nat.mul_le_mul_right den' h.1) hden
    · exact Nat.le_of_mul_le_mul_right (hhigh ▸ hnum ▸ Nat.mul_le_mul_right den' h.2) hden
  · next hclosed =>
    rw [if_neg hclosed] at h
    constructor
    · exact Nat.lt_of_mul_lt_mul_right (hlow ▸ hnum ▸ Nat.mul_lt_mul_of_pos_right h.1 hden')
    · exact Nat.lt_of_mul_lt_mul_right (hhigh ▸ hnum ▸ Nat.mul_lt_mul_of_pos_right h.2 hden')

/-- Multiples of the unit of the numbers around a number, compared as fourths of a power of two. -/
theorem fourths_le (multiple num den : Nat) (exponent : Int) :
    (multiple * 2 ^ (exponent - 2).toNat * den ≤ num * 2 ^ (2 - exponent).toNat ↔
      multiple * (den * 2 ^ exponent.toNat) ≤ 4 * (num * 2 ^ (-exponent).toNat)) ∧
    (num * 2 ^ (2 - exponent).toNat ≤ multiple * 2 ^ (exponent - 2).toNat * den ↔
      4 * (num * 2 ^ (-exponent).toNat) ≤ multiple * (den * 2 ^ exponent.toNat)) := by
  have hunit : 2 ^ (2 - exponent).toNat * 2 ^ exponent.toNat =
      2 ^ 2 * 2 ^ (-exponent).toNat * 2 ^ (exponent - 2).toNat := by
    rw [← Nat.pow_add, ← Nat.pow_add, ← Nat.pow_add]
    congr 1
    omega
  have hp := Nat.two_pow_pos exponent.toNat
  have hs := Nat.two_pow_pos (exponent - 2).toNat
  generalize 2 ^ (exponent - 2).toNat = s at *
  generalize 2 ^ (2 - exponent).toNat = u at *
  generalize 2 ^ exponent.toNat = p at *
  generalize 2 ^ (-exponent).toNat = q at *
  have hmultiple : multiple * s * den * p = multiple * (den * p) * s := by ring
  have hvalue : num * u * p = 4 * (num * q) * s := by
    rw [Nat.mul_assoc, hunit]
    ring
  constructor
  · rw [← Nat.mul_le_mul_right_iff hp, hmultiple, hvalue, Nat.mul_le_mul_right_iff hs]
  · rw [← Nat.mul_le_mul_right_iff hp, hmultiple, hvalue, Nat.mul_le_mul_right_iff hs]

theorem around_eq (mantissa : Nat) (exponent : Int) :
    around mantissa exponent =
      { low := (4 * mantissa - Binary64.lowerReach mantissa exponent) * 2 ^ (exponent - 2).toNat
        mid := 4 * mantissa * 2 ^ (exponent - 2).toNat
        high := (4 * mantissa + 2) * 2 ^ (exponent - 2).toNat
        unit := 2 ^ (2 - exponent).toNat
        closed := mantissa % 2 == 0 } := by
  simp only [around, Nat.shiftLeft_eq, Nat.one_mul]
  rfl

/-- What lies among the numbers around a number is near it. -/
theorem Contains.near (h : (around mantissa exponent).Contains num den) :
    Binary64.Near (num * 2 ^ (-exponent).toNat) (den * 2 ^ exponent.toNat) mantissa
      (Binary64.lowerReach mantissa exponent) := by
  obtain ⟨hlowLe, hlowGe⟩ :=
    fourths_le (4 * mantissa - Binary64.lowerReach mantissa exponent) num den exponent
  obtain ⟨hhighLe, hhighGe⟩ := fourths_le (4 * mantissa + 2) num den exponent
  rw [around_eq, Contains] at h
  have hlow := Nat.sub_mul (4 * mantissa) (Binary64.lowerReach mantissa exponent)
    (den * 2 ^ exponent.toNat)
  have hhigh := Nat.add_mul (4 * mantissa) 2 (den * 2 ^ exponent.toNat)
  have hmid := Nat.mul_assoc 4 mantissa (den * 2 ^ exponent.toNat)
  split at h
  · next heven =>
    rw [hlowLe, hhighGe] at h
    exact ⟨by omega, by omega, .inl (beq_iff_eq.mp heven)⟩
  · rw [← Nat.not_le, hlowGe, ← Nat.not_le, hhighLe] at h
    exact ⟨by omega, by omega, .inr (by omega)⟩

/-- A fraction among the numbers that round to a number is rounded to it. -/
theorem Contains.round_eq {canonical : Canonical mantissa exponent}
    (h : (around mantissa exponent).Contains num den) (hden : den ≠ 0) (negative : Bool) :
    Binary64.round negative num den = .finite negative mantissa exponent canonical :=
  h.near.round_eq hden negative

end Roundings

end AttrExpr
