import AttrExpr.Evaluation.Text
import AttrExpr.Proofs.Candidates
import Mathlib.Data.List.Infix

/-! Where a text stands in another: the first and the last place, and the parts that two positions
cut out. Positions count characters. -/
set_option autoImplicit false

namespace AttrExpr

namespace Text

theorem length_le_byteLength (cs : List Char) : cs.length ≤ byteLength cs := by
  induction cs with
  | nil => exact Nat.le_refl 0
  | cons c cs ih =>
    have hpos : 0 < c.utf8Size := Char.utf8Size_pos c
    rw [List.length_cons, byteLength_cons]
    omega

/-- `needle` stands in a text after `k` characters. -/
def StandsAt (needle cs : List Char) (k : Nat) : Prop :=
  ∃ before after, cs = before ++ needle ++ after ∧ before.length = k

variable {needle cs before after : List Char} {k : Nat}

theorem StandsAt.append (needle before after : List Char) :
    StandsAt needle (before ++ needle ++ after) before.length := ⟨before, after, rfl, rfl⟩

theorem standsAt_iff : StandsAt needle cs k ↔
    k + needle.length ≤ cs.length ∧ (cs.drop k).take needle.length = needle := by
  constructor
  · rintro ⟨before, after, rfl, rfl⟩
    simp
  · rintro ⟨hle, htake⟩
    refine ⟨cs.take k, (cs.drop k).drop needle.length, ?_, by rw [List.length_take]; omega⟩
    calc cs = cs.take k ++ cs.drop k := (List.take_append_drop k cs).symm
      _ = cs.take k ++ ((cs.drop k).take needle.length ++ (cs.drop k).drop needle.length) := by
        rw [List.take_append_drop needle.length, List.take_append_drop]
      _ = cs.take k ++ needle ++ (cs.drop k).drop needle.length := by
        rw [htake, List.append_assoc]

theorem standsAt_zero_iff : StandsAt needle cs 0 ↔ needle <+: cs := by
  constructor
  · rintro ⟨before, after, rfl, hbefore⟩
    obtain rfl := List.length_eq_zero_iff.mp hbefore
    exact ⟨after, rfl⟩
  · rintro ⟨after, rfl⟩
    exact StandsAt.append needle [] after

theorem cutLast?_none (h : cutLast? needle cs = none) (k : Nat) : ¬ StandsAt needle cs k := by
  induction cs generalizing k with
  | nil =>
    rintro ⟨before, after, hcs, -⟩
    obtain ⟨rfl, rfl, rfl⟩ : before = [] ∧ needle = [] ∧ after = [] := by simpa using hcs.symm
    cases h
  | cons c cs ih =>
    simp only [cutLast?] at h
    split at h
    · cases h
    · next hrest =>
      rintro ⟨_ | ⟨b, before⟩, after, hcs, hk⟩
      · have hsome := (after?_eq_some_iff needle (c :: cs) after).mpr hcs
        rw [hsome] at h
        cases h
      · rw [List.cons_append, List.cons_append, List.cons.injEq] at hcs
        exact ih hrest before.length ⟨before, after, hcs.2, rfl⟩

/-- No occurrence is later than the one that is found from the end. -/
theorem cutLast?_last (h : cutLast? needle cs = some (before, after)) (hk : StandsAt needle cs k) :
    k ≤ before.length := by
  induction cs generalizing before k with
  | nil =>
    obtain ⟨hle, -⟩ := standsAt_iff.mp hk
    rw [List.length_nil] at hle
    omega
  | cons c cs ih =>
    obtain ⟨first, rest, hcs, rfl⟩ := hk
    simp only [cutLast?] at h
    cases first with
    | nil => exact Nat.zero_le _
    | cons b first =>
      rw [List.cons_append, List.cons_append, List.cons.injEq] at hcs
      have hstands : StandsAt needle cs first.length := ⟨first, rest, hcs.2, rfl⟩
      -- an occurrence in the rest is preferred to one at the start
      split at h
      · next hlast =>
        cases h
        exact Nat.succ_le_succ (ih hlast hstands)
      · next hnone => exact absurd hstands (cutLast?_none hnone _)

theorem cutFirst?_standsAt (h : cutFirst? needle cs = some (before, after))
    (hk : StandsAt needle cs k) : before.length ≤ k := by
  obtain ⟨first, rest, hcs, rfl⟩ := hk
  exact cutFirst?_first h first rest hcs

/-- The two searches find nothing together. -/
theorem cutLast?_eq_none_iff : cutLast? needle cs = none ↔ cutFirst? needle cs = none := by
  constructor <;> intro h
  · cases hcut : cutFirst? needle cs with
    | none => rfl
    | some cut =>
      obtain ⟨before, after⟩ := cut
      exact absurd ⟨before, after, cutFirst?_append _ _ _ _ hcut, rfl⟩ (cutLast?_none h _)
  · cases hcut : cutLast? needle cs with
    | none => rfl
    | some cut =>
      obtain ⟨before, after⟩ := cut
      exact absurd (cutLast?_append _ _ _ _ hcut) (cutFirst?_none h before after)

end Text

theorem startsWith_iff {cs needle : List Char} :
    startsWith cs needle = true ↔ needle <+: cs := by
  rw [startsWith, Option.isSome_iff_exists]
  exact exists_congr fun rest => by rw [Text.after?_eq_some_iff, eq_comm]

theorem endsWith_iff {cs needle : List Char} : endsWith cs needle = true ↔ needle <:+ cs := by
  rw [endsWith, startsWith_iff, List.reverse_prefix]

/-- A text starts with another if and only if that is first found at its start. -/
theorem startsWith_iff_first {cs needle before after : List Char}
    (h : Text.cutFirst? needle cs = some (before, after)) :
    startsWith cs needle = true ↔ before.length = 0 := by
  rw [startsWith_iff, ← Text.standsAt_zero_iff]
  constructor
  · intro hstands
    exact Nat.le_zero.mp (Text.cutFirst?_standsAt h hstands)
  · intro hzero
    exact ⟨before, after, Text.cutFirst?_append _ _ _ _ h, hzero⟩

/-- A text ends with another if and only if that is last found at its end. -/
theorem endsWith_iff_last {cs needle before after : List Char}
    (h : Text.cutLast? needle cs = some (before, after)) :
    endsWith cs needle = true ↔ before.length + needle.length = cs.length := by
  have hcs := Text.cutLast?_append _ _ _ _ h
  have hcount : cs.length = before.length + needle.length + after.length := by
    rw [hcs, List.length_append, List.length_append]
  rw [endsWith_iff]
  constructor
  · rintro ⟨front, hfront⟩
    have hlast := Text.cutLast?_last h ⟨front, [], by rw [List.append_nil, hfront], rfl⟩
    have hlength := congrArg List.length hfront
    rw [List.length_append] at hlength
    omega
  · intro hlength
    have hafter : after = [] := List.length_eq_zero_iff.mp (by omega)
    exact ⟨before, by rw [hcs, hafter, List.append_nil]⟩

section Substring

variable {cs : List Char} {start stop : Int64}

theorem boundWithin?_of_le {length : Nat} {n : Int64} (h : 0 ≤ n.toInt ∧ n.toInt ≤ length) :
    boundWithin? length n = some n.toInt.toNat := if_pos h

theorem boundWithin?_of_not {length : Nat} {n : Int64} (h : ¬ (0 ≤ n.toInt ∧ n.toInt ≤ length)) :
    boundWithin? length n = none := if_neg h

/-- Bounds in order and within the text give the characters between them. -/
theorem substring_of_bounds
    (h : 0 ≤ start.toInt ∧ start.toInt ≤ stop.toInt ∧ stop.toInt ≤ cs.length) :
    substring cs start (some stop) =
      .ok ((cs.drop start.toInt.toNat).take (stop.toInt - start.toInt).toNat) := by
  obtain ⟨hstart, horder, hstop⟩ := h
  have hwithin : 0 ≤ start.toInt ∧ start.toInt ≤ cs.length := ⟨hstart, by omega⟩
  have hle : start.toInt.toNat ≤ stop.toInt.toNat := by omega
  have hlength : stop.toInt.toNat - start.toInt.toNat = (stop.toInt - start.toInt).toNat := by omega
  simp only [substring, boundWithin?_of_le hwithin,
    boundWithin?_of_le ⟨show 0 ≤ stop.toInt by omega, hstop⟩, if_pos hle, hlength]

theorem substring_of_not_bounds
    (h : ¬ (0 ≤ start.toInt ∧ start.toInt ≤ stop.toInt ∧ stop.toInt ≤ cs.length)) :
    ∃ cause, cause.code = .arithmetic ∧ substring cs start (some stop) = .error cause := by
  by_cases hstart : 0 ≤ start.toInt ∧ start.toInt ≤ cs.length
  · refine ⟨.substringEnd stop start cs.length, rfl, ?_⟩
    by_cases hstop : 0 ≤ stop.toInt ∧ stop.toInt ≤ cs.length
    · have hle : ¬ start.toInt.toNat ≤ stop.toInt.toNat := by omega
      simp only [substring, boundWithin?_of_le hstart, boundWithin?_of_le hstop, if_neg hle]
    · simp only [substring, boundWithin?_of_le hstart, boundWithin?_of_not hstop]
  · exact ⟨.substringStart start cs.length, rfl, by
      simp only [substring, boundWithin?_of_not hstart]⟩

theorem bounds_of_substring {part : List Char} (h : substring cs start (some stop) = .ok part) :
    0 ≤ start.toInt ∧ start.toInt ≤ stop.toInt ∧ stop.toInt ≤ cs.length := by
  by_contra hbounds
  obtain ⟨cause, -, herror⟩ := substring_of_not_bounds hbounds
  rw [herror] at h
  cases h

/-- A bound that is left out is the end of the text. -/
theorem substring_none (hstop : stop.toInt = cs.length) :
    substring cs start none = substring cs start (some stop) := by
  by_cases hstart : 0 ≤ start.toInt ∧ start.toInt ≤ cs.length
  · rw [substring_of_bounds ⟨hstart.1, by omega, by omega⟩]
    simp only [substring, boundWithin?_of_le hstart]
    rw [List.take_of_length_le (by rw [List.length_drop]; omega)]
  · simp only [substring, boundWithin?_of_not hstart]

/-- A part as long as a text is that text where it stands. -/
theorem substring_eq_iff {needle : List Char} {position : Int64}
    (hstop : stop.toInt = position.toInt + needle.length) :
    substring cs position (some stop) = .ok needle ↔
      0 ≤ position.toInt ∧ Text.StandsAt needle cs position.toInt.toNat := by
  have hlength : (stop.toInt - position.toInt).toNat = needle.length := by omega
  by_cases hbounds : 0 ≤ position.toInt ∧ position.toInt ≤ stop.toInt ∧ stop.toInt ≤ cs.length
  · rw [substring_of_bounds hbounds, hlength, Except.ok.injEq, Text.standsAt_iff]
    constructor
    · exact fun h => ⟨hbounds.1, by omega, h⟩
    · exact fun h => h.2.2
  · obtain ⟨cause, -, herror⟩ := substring_of_not_bounds hbounds
    rw [herror, Text.standsAt_iff]
    constructor
    · intro h
      cases h
    · rintro ⟨hpos, hle, -⟩
      omega

end Substring

end AttrExpr
