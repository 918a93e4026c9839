import AttrExpr.Proofs.Blame
import AttrExpr.Proofs.Literals
import AttrExpr.Proofs.Rounding

/-! No evaluation gives a number that is infinite or not a number. -/
set_option autoImplicit false

namespace AttrExpr

open Binary64 (Moderate)

namespace Number

theorem moderate_whole (k : Int64) : (Number.whole k).toBinary.Moderate := by
  have hlow := k.le_toInt
  have hhigh := k.toInt_lt
  exact Binary64.moderate_ofInt (by omega)

theorem isZero_whole {k : Int64} (h : (Number.whole k).isZero = false) :
    (Number.whole k).toBinary.isZero = false := by
  have hlow := k.le_toInt
  have hhigh := k.toInt_lt
  refine Binary64.isZero_ofInt (by omega) fun hk => ?_
  have hzero : k = 0 := Int64.toInt_inj.mp hk
  simp [isZero, hzero] at h

theorem toBinary_isFinite {x : Number} (h : x.isFinite = true) : x.toBinary.isFinite = true := by
  cases x with
  | whole k => exact (moderate_whole k).isFinite
  | decimal d => exact h

theorem finite_ok {d : Binary64} {n : Number} (h : finite d = .ok n) : n.isFinite = true := by
  unfold finite at h
  split at h <;> cases h
  assumption

theorem finite_error {d : Binary64} (h : d.isFinite = false) : finite d = .error .outOfRange := by
  rw [finite, if_neg (by simp [h])]

/-- An operation on numbers and what it is on binary ones: all results are finite, and it fails
where the binary result is not. -/
structure Guarded (compute : Number → Number → Except ArithmeticError Number)
    (binary : Binary64 → Binary64 → Binary64) : Prop where
  finite : ∀ x y n, compute x y = .ok n → n.isFinite = true
  fails : ∀ x y, (binary x.toBinary y.toBinary).isFinite = false →
    ∃ error, compute x y = .error error

theorem combine_guarded (exact : Int → Int → Int) {binary : Binary64 → Binary64 → Binary64}
    (hbinary : ∀ {x y : Binary64}, x.Moderate → y.Moderate → (binary x y).isFinite = true) :
    Guarded (combine exact binary) binary where
  finite x y n h := by
    cases x with
    | decimal d => exact finite_ok h
    | whole a =>
      cases y with
      | decimal d => exact finite_ok h
      | whole b =>
        simp only [combine] at h
        split at h
        · cases h
          rfl
        · exact finite_ok h
  fails x y h := by
    cases x with
    | decimal d => exact ⟨.outOfRange, finite_error h⟩
    | whole a =>
      cases y with
      | decimal d => exact ⟨.outOfRange, finite_error h⟩
      | whole b =>
        rw [hbinary (moderate_whole a) (moderate_whole b)] at h
        cases h

theorem plus_guarded : Guarded plus .add := combine_guarded _ fun hx hy => hx.add hy

theorem minus_guarded : Guarded minus .sub := combine_guarded _ fun hx hy => hx.add hy.neg

theorem times_guarded : Guarded times .mul := combine_guarded _ fun hx hy => hx.mul hy

theorem divide_guarded : Guarded divide .div where
  finite x y n h := by
    unfold divide at h
    split at h
    · cases h
    · next hzero =>
      have hzero : y.isZero = false := by simpa using hzero
      cases x with
      | decimal d => exact finite_ok h
      | whole a =>
        cases y with
        | decimal d => exact finite_ok h
        | whole b =>
          dsimp only at h
          split at h
          · split at h <;> cases h
            · rfl
            · exact (moderate_whole a).div (moderate_whole b) (isZero_whole hzero)
          · exact finite_ok h
  fails x y h := by
    unfold divide
    split
    · exact ⟨.divisionByZero, rfl⟩
    · next hzero =>
      have hzero : y.isZero = false := by simpa using hzero
      cases x with
      | decimal d => exact ⟨.outOfRange, finite_error h⟩
      | whole a =>
        cases y with
        | decimal d => exact ⟨.outOfRange, finite_error h⟩
        | whole b =>
          rw [(moderate_whole a).div (moderate_whole b) (isZero_whole hzero)] at h
          cases h

theorem modulo_guarded : Guarded modulo .rem where
  finite x y n h := by
    unfold modulo at h
    split at h
    · cases h
    · split at h
      · cases h
        rfl
      · exact finite_ok h
  fails x y h := by
    unfold modulo
    split
    · exact ⟨.divisionByZero, rfl⟩
    · next hzero =>
      have hzero : y.isZero = false := by simpa using hzero
      cases x with
      | decimal d => exact ⟨.outOfRange, finite_error h⟩
      | whole a =>
        cases y with
        | decimal d => exact ⟨.outOfRange, finite_error h⟩
        | whole b =>
          rw [(moderate_whole a).rem (moderate_whole b) (isZero_whole hzero)] at h
          cases h

theorem abs_isFinite {x : Number} (h : x.isFinite = true) : x.abs.isFinite = true := by
  -- unfolding `abs` would have its bounds of 64 bits computed in unary
  fun_cases abs x with
  | case1 k m hm => rfl
  | case2 k hm => exact Binary64.isFinite_abs (moderate_whole k).isFinite
  | case3 d => exact Binary64.isFinite_abs h

theorem compare?_isSome {x y : Number} (hx : x.isFinite = true) (hy : y.isFinite = true) :
    (x.compare? y).isSome = true := by
  have binary := Binary64.compare?_isSome (toBinary_isFinite hx) (toBinary_isFinite hy)
  cases x with
  | decimal d => exact binary
  | whole a =>
    cases y with
    | decimal d => exact binary
    | whole b => rfl

end Number

theorem readNumber?_isFinite {text : String} {n : Number} (h : readNumber? text = some n) :
    n.isFinite = true := by
  unfold readNumber? at h
  dsimp only at h
  split at h
  · cases h
  · split at h
    · cases h
      rfl
    · split at h
      · split at h <;> cases h
        assumption
      · cases h

namespace Value

/-- A value that is no infinite or undefined number. -/
def Finite : Value → Prop
  | .number n => n.isFinite = true
  | _ => True

theorem Is.finite {value : Value} {kind : Kind} (h : value.Is kind) (hk : kind ≠ .number) :
    value.Finite := by
  cases value with
  | number n =>
    rcases h with h | ⟨h, -⟩
    · cases n with
      | whole k => rfl
      | decimal d =>
        cases h
        exact absurd rfl hk
    · exact absurd h hk
  | unset | string | boolean | date | instant => trivial

theorem Fits.finite {value : Value} {kind : Kind} (h : value.Fits kind) (hk : kind ≠ .number) :
    value.Finite := by
  rcases h with h | ⟨rfl, -⟩
  · exact h.finite hk
  · trivial

/-- Finite values stay finite when they are turned into another kind, and text is only read as a
finite number. -/
theorem coerce_finite {formats : Formats} {target : Kind} {value result : Value}
    (hv : value.Finite) (h : value.coerce formats target = .ok result) : result.Finite := by
  by_cases ht : target = .number
  · subst ht
    cases value with
    | string text =>
      simp only [coerce, coerceText] at h
      split at h <;> cases h
      exact readNumber?_isFinite ‹_›
    | number n =>
      cases h
      exact hv
    | unset | boolean | date | instant => cases h
  · exact (coerce_is h).finite ht

end Value

end AttrExpr
