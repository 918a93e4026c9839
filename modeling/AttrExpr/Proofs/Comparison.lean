import AttrExpr.Number
import AttrExpr.Proofs.BinaryOrder

/-! The order of numbers. It is a total preorder but for whole numbers that have the same nearest
binary number: they differ, and yet both are equal to that one. -/
set_option autoImplicit false

namespace AttrExpr.Number

open Binary64 (rounded)

variable {x y z : Number}

/-- Two whole numbers that differ and have the same nearest binary number. -/
inductive Merges : Number → Number → Prop
  | mk {a b : Int64} (hne : a ≠ b)
      (heq : (Binary64.ofInt a.toInt).eq (Binary64.ofInt b.toInt) = true) :
      Merges (.whole a) (.whole b)

/-- The first number is less than the second or equal to it. -/
def AtMost (x y : Number) : Prop := x.compare? y = some .lt ∨ x.compare? y = some .eq

theorem natAbs_toInt_le (a : Int64) : a.toInt.natAbs ≤ 2 ^ 63 := by
  have hlow := a.le_toInt
  have hhigh := a.toInt_lt
  omega

/-- The place of a number among the binary ones. -/
def place (x : Number) : WithBot (WithTop Int) := x.toBinary.position

@[simp] theorem place_whole (a : Int64) :
    (Number.whole a).place = ((rounded a.toInt : WithTop Int) : WithBot (WithTop Int)) :=
  Binary64.position_ofInt (natAbs_toInt_le a)

theorem toBinary_ne_nan (hx : x ≠ .decimal .nan) : x.toBinary ≠ .nan := by
  cases x with
  | decimal d =>
    rintro rfl
    exact hx rfl
  | whole a =>
    intro hnan
    have hplace := place_whole a
    rw [place, hnan] at hplace
    cases hplace

theorem Merges.place_eq (h : Merges x y) : x.place = y.place := by
  cases h with
  | @mk a b _ heq =>
    have ha : (Number.whole a).toBinary ≠ .nan := toBinary_ne_nan (by simp)
    have hb : (Number.whole b).toBinary ≠ .nan := toBinary_ne_nan (by simp)
    exact (Binary64.eq_iff_position ha hb).mp heq

/-- Numbers are compared by their places, unless both are whole. -/
theorem compare?_cases (hx : x ≠ .decimal .nan) (hy : y ≠ .decimal .nan) :
    (∃ a b : Int64, x = .whole a ∧ y = .whole b) ∨
      x.compare? y = some (cmp x.place y.place) ∧ (x.eq y = true ↔ x.place = y.place) := by
  have hcompare := Binary64.compare?_eq (toBinary_ne_nan hx) (toBinary_ne_nan hy)
  have heq := Binary64.eq_iff_position (toBinary_ne_nan hx) (toBinary_ne_nan hy)
  cases x with
  | decimal d => exact .inr ⟨hcompare, heq⟩
  | whole a =>
    cases y with
    | decimal d => exact .inr ⟨hcompare, heq⟩
    | whole b => exact .inl ⟨a, b, rfl, rfl⟩

@[simp] theorem compare?_whole (a b : Int64) :
    (Number.whole a).compare? (.whole b) = some (cmp a.toInt b.toInt) := by
  rw [cmp_eq_compare]
  rfl

/-- Equality is one of the orders. -/
theorem eq_iff_compare? (hx : x ≠ .decimal .nan) (hy : y ≠ .decimal .nan) :
    x.eq y = true ↔ x.compare? y = some .eq := by
  obtain ⟨a, b, rfl, rfl⟩ | ⟨hcompare, heq⟩ := compare?_cases hx hy
  · rw [eq, beq_iff_eq, compare?_whole, Option.some_inj, cmp_eq_eq_iff, Int64.toInt_inj]
  · rw [heq, hcompare, Option.some_inj, cmp_eq_eq_iff]

theorem compare?_swap (hx : x ≠ .decimal .nan) (hy : y ≠ .decimal .nan) :
    ∃ order, x.compare? y = some order ∧ y.compare? x = some order.swap := by
  obtain ⟨a, b, rfl, rfl⟩ | ⟨hcompare, -⟩ := compare?_cases hx hy
  · exact ⟨_, compare?_whole a b, by rw [compare?_whole, cmp_swap]⟩
  · obtain ⟨a, b, rfl, rfl⟩ | ⟨hback, -⟩ := compare?_cases hy hx
    · exact ⟨_, compare?_whole b a, by rw [compare?_whole, cmp_swap]⟩
    · exact ⟨_, hcompare, by rw [hback, cmp_swap]⟩

theorem place_lt_place {a b : Int64} (h : (Number.whole a).place < (Number.whole b).place) :
    a.toInt < b.toInt := by
  rw [place_whole, place_whole, WithBot.coe_lt_coe, WithTop.coe_lt_coe] at h
  by_contra hab
  exact absurd (Binary64.rounded_mono (not_lt.mp hab)) (not_le.mpr h)

/-- Numbers are in the order of their places, but for whole ones that share a place. -/
theorem compare?_place (hx : x ≠ .decimal .nan) (hy : y ≠ .decimal .nan) :
    x.compare? y = some (cmp x.place y.place) ∨ Merges x y := by
  obtain ⟨a, b, rfl, rfl⟩ | ⟨hcompare, -⟩ := compare?_cases hx hy
  · rw [compare?_whole]
    rcases lt_trichotomy (Number.whole a).place (Number.whole b).place with hlt | heq | hgt
    · exact .inl (by rw [(cmp_eq_lt_iff _ _).mpr hlt, (cmp_eq_lt_iff _ _).mpr (place_lt_place hlt)])
    · by_cases hab : a = b
      · exact .inl (by rw [hab, cmp_self_eq_eq, cmp_self_eq_eq])
      · refine .inr (.mk hab ?_)
        exact (Binary64.eq_iff_position (toBinary_ne_nan hx) (toBinary_ne_nan hy)).mpr heq
    · exact .inl (by rw [(cmp_eq_gt_iff _ _).mpr hgt, (cmp_eq_gt_iff _ _).mpr (place_lt_place hgt)])
  · exact .inl hcompare

theorem AtMost.place_le (hx : x ≠ .decimal .nan) (hy : y ≠ .decimal .nan) (h : AtMost x y) :
    x.place ≤ y.place := by
  rcases compare?_place hx hy with hplace | hmerges
  · rw [AtMost, hplace, Option.some_inj, Option.some_inj, cmp_eq_lt_iff, cmp_eq_eq_iff] at h
    exact h.elim le_of_lt le_of_eq
  · exact le_of_eq hmerges.place_eq

theorem place_eq_of_eq (hx : x ≠ .decimal .nan) (hy : y ≠ .decimal .nan) (h : x.eq y = true) :
    x.place = y.place := by
  rcases compare?_place hx hy with hplace | hmerges
  · exact (cmp_eq_eq_iff _ _).mp
      (Option.some_inj.mp (hplace.symm.trans ((eq_iff_compare? hx hy).mp h)))
  · exact hmerges.place_eq

theorem atMost_of_place_le (hx : x ≠ .decimal .nan) (hy : y ≠ .decimal .nan)
    (h : x.place ≤ y.place) : AtMost x y ∨ Merges x y := by
  refine (compare?_place hx hy).imp_left fun hplace => ?_
  rw [AtMost, hplace, Option.some_inj, Option.some_inj, cmp_eq_lt_iff, cmp_eq_eq_iff]
  exact lt_or_eq_of_le h

/-- Whole numbers that share a place have more than 53 bits, or the least magnitude that has. -/
theorem Merges.natAbs_le {a b : Int64} (h : Merges (.whole a) (.whole b)) :
    2 ^ 53 ≤ a.toInt.natAbs ∧ 2 ^ 53 ≤ b.toInt.natAbs := by
  have hplace := h.place_eq
  rw [place_whole, place_whole, WithBot.coe_inj, WithTop.coe_inj] at hplace
  cases h with
  | mk hne _ =>
    have hne : a.toInt ≠ b.toInt := fun hab => hne (Int64.toInt_inj.mp hab)
    exact ⟨Binary64.natAbs_of_rounded_eq hne hplace,
      Binary64.natAbs_of_rounded_eq hne.symm hplace.symm⟩

@[simp] theorem atMost_whole {a b : Int64} :
    AtMost (.whole a) (.whole b) ↔ a.toInt ≤ b.toInt := by
  rw [AtMost, compare?_whole, Option.some_inj, Option.some_inj, cmp_eq_lt_iff, cmp_eq_eq_iff]
  exact le_iff_lt_or_eq.symm

theorem eq_whole {a b : Int64} : (Number.whole a).eq (.whole b) = true ↔ a = b := beq_iff_eq

theorem eq_self (hx : x ≠ .decimal .nan) : x.eq x = true := by
  cases x with
  | whole a => exact eq_whole.mpr rfl
  | decimal d => exact (Binary64.eq_iff_position (toBinary_ne_nan hx) (toBinary_ne_nan hx)).mpr rfl

theorem eq_comm (hx : x ≠ .decimal .nan) (hy : y ≠ .decimal .nan) : x.eq y = y.eq x := by
  obtain ⟨order, horder, hswap⟩ := compare?_swap hx hy
  rw [Bool.eq_iff_iff, eq_iff_compare? hx hy, eq_iff_compare? hy hx, horder, hswap,
    Option.some_inj, Option.some_inj]
  exact Ordering.swap_eq_eq.symm

theorem eq_trans (hx : x ≠ .decimal .nan) (hy : y ≠ .decimal .nan) (hz : z ≠ .decimal .nan)
    (hxy : x.eq y = true) (hyz : y.eq z = true) :
    x.eq z = true ∨ y.isWhole = false ∧ Merges x z := by
  have hplace := (place_eq_of_eq hx hy hxy).trans (place_eq_of_eq hy hz hyz)
  rcases compare?_place hx hz with hcompare | hmerges
  · rw [hplace, cmp_self_eq_eq] at hcompare
    exact .inl ((eq_iff_compare? hx hz).mpr hcompare)
  · cases y with
    | decimal d => exact .inr ⟨rfl, hmerges⟩
    | whole b =>
      cases hmerges
      exact .inl (eq_whole.mpr ((eq_whole.mp hxy).trans (eq_whole.mp hyz)))

theorem AtMost.trans (hx : x ≠ .decimal .nan) (hy : y ≠ .decimal .nan) (hz : z ≠ .decimal .nan)
    (hxy : AtMost x y) (hyz : AtMost y z) : AtMost x z ∨ y.isWhole = false ∧ Merges x z := by
  rcases atMost_of_place_le hx hz ((hxy.place_le hx hy).trans (hyz.place_le hy hz)) with
    hxz | hmerges
  · exact .inl hxz
  · cases y with
    | decimal d => exact .inr ⟨rfl, hmerges⟩
    | whole b =>
      cases hmerges
      exact .inl (atMost_whole.mpr ((atMost_whole.mp hxy).trans (atMost_whole.mp hyz)))

/-- Equal numbers compare alike with a third one, unless they are of both kinds and it shares the
place of the whole one. -/
theorem compare?_of_eq (hx : x ≠ .decimal .nan) (hy : y ≠ .decimal .nan) (hz : z ≠ .decimal .nan)
    (hxy : x.eq y = true) :
    x.compare? z = y.compare? z ∨ x.isWhole ≠ y.isWhole ∧ (Merges x z ∨ Merges y z) := by
  have hplace := place_eq_of_eq hx hy hxy
  rcases compare?_place hx hz with hxz | hxz
  · rcases compare?_place hy hz with hyz | hyz
    · exact .inl (by rw [hxz, hyz, hplace])
    · cases x with
      | decimal d =>
        cases hyz
        exact .inr ⟨Bool.false_ne_true, .inr (.mk ‹_› ‹_›)⟩
      | whole a =>
        cases hyz
        exact .inl (by rw [eq_whole.mp hxy])
  · cases y with
    | decimal d =>
      cases hxz
      exact .inr ⟨Bool.false_ne_true.symm, .inl (.mk ‹_› ‹_›)⟩
    | whole b =>
      cases hxz
      exact .inl (by rw [eq_whole.mp hxy])

theorem Merges.eq_toDecimal (h : Merges x z) :
    x.eq x.toDecimal = true ∧ x.toDecimal.eq z = true ∧ x.eq z = false := by
  cases h with
  | @mk a b hne heq =>
    have ha : (Number.whole a).toBinary ≠ .nan := toBinary_ne_nan (by simp)
    exact ⟨(Binary64.eq_iff_position ha ha).mpr rfl, heq, beq_eq_false_iff_ne.mpr hne⟩

/-- The order of three numbers, whatever mix of whole and binary ones they are. Of two one is less,
or they are equal. The order is transitive and equal numbers compare alike, but for the whole
numbers that share a place: they differ, and both are equal to the binary number there. -/
theorem compare_numbers (hx : x ≠ .decimal .nan) (hy : y ≠ .decimal .nan) (hz : z ≠ .decimal .nan) :
    (∃ order, x.compare? y = some order ∧ y.compare? x = some order.swap ∧
      (x.eq y = true ↔ order = .eq)) ∧
    x.eq x = true ∧ x.eq y = y.eq x ∧
    (x.eq y = true → y.eq z = true → x.eq z = true ∨ y.isWhole = false ∧ Merges x z) ∧
    (AtMost x y → AtMost y z → AtMost x z ∨ y.isWhole = false ∧ Merges x z) ∧
    (x.eq y = true → x.compare? z = y.compare? z ∨
      x.isWhole ≠ y.isWhole ∧ (Merges x z ∨ Merges y z)) ∧
    (Merges x z → x.eq x.toDecimal = true ∧ x.toDecimal.eq z = true ∧ x.eq z = false) ∧
    ∀ a b : Int64, Merges (.whole a) (.whole b) →
      2 ^ 53 ≤ a.toInt.natAbs ∧ 2 ^ 53 ≤ b.toInt.natAbs := by
  obtain ⟨order, horder, hswap⟩ := compare?_swap hx hy
  have heq : x.eq y = true ↔ order = .eq := by rw [eq_iff_compare? hx hy, horder, Option.some_inj]
  exact ⟨⟨order, horder, hswap, heq⟩, eq_self hx, eq_comm hx hy, eq_trans hx hy hz,
    AtMost.trans hx hy hz, compare?_of_eq hx hy hz, Merges.eq_toDecimal,
    fun _ _ => Merges.natAbs_le⟩

/-- The binary number 2 ^ 53. -/
def twoPow53 : Number := .decimal (.ofInt 0x20000000000000)

/-- The least whole number that is not exact as a binary one, that binary one, and its whole
neighbour: the first and the last are equal to the one between, and not to each other. -/
theorem compare_numbers_twoPow53 :
    Number.whole 0x20000000000001 ≠ .decimal .nan ∧ twoPow53 ≠ .decimal .nan ∧
      Number.whole 0x20000000000000 ≠ .decimal .nan ∧
      (Number.whole 0x20000000000001).compare? twoPow53 = some .eq ∧
      Merges (.whole 0x20000000000001) (.whole 0x20000000000000) := by
  have hbinary : twoPow53 ≠ .decimal .nan := by decide +kernel
  have hleft : (Number.whole 0x20000000000001).eq twoPow53 = true := by decide +kernel
  have hright : twoPow53.eq (.whole 0x20000000000000) = true := by decide +kernel
  have hne : ¬ (Number.whole 0x20000000000001).eq (.whole 0x20000000000000) = true := by
    decide +kernel
  obtain ⟨⟨order, horder, -, heq⟩, -, -, htrans, -⟩ :=
    compare_numbers (x := .whole 0x20000000000001) (z := .whole 0x20000000000000) (by simp) hbinary
      (by simp)
  rw [heq.mp hleft] at horder
  exact ⟨by simp, hbinary, by simp, horder, ((htrans hleft hright).resolve_left hne).2⟩

/-- Equality is not transitive, nor is the order, and equal numbers do not compare alike. -/
theorem order_of_numbers_broken :
    (Number.whole 0x20000000000001).eq twoPow53 = true ∧
      twoPow53.eq (.whole 0x20000000000000) = true ∧
      (Number.whole 0x20000000000001).eq (.whole 0x20000000000000) = false ∧
      AtMost (.whole 0x20000000000001) twoPow53 ∧ AtMost twoPow53 (.whole 0x20000000000000) ∧
      ¬ AtMost (.whole 0x20000000000001) (.whole 0x20000000000000) := by
  refine ⟨by decide +kernel, by decide +kernel, by decide +kernel, .inr (by decide +kernel),
    .inr (by decide +kernel), ?_⟩
  rw [atMost_whole]
  decide +kernel

end AttrExpr.Number
