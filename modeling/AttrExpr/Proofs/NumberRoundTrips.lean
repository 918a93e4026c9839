import AttrExpr.Coercion
import AttrExpr.Proofs.NumberLiterals

/-! Numbers as texts and back. Whatever the style, what is written for a finite number is a numeral
that is read as that number. -/
set_option autoImplicit false

namespace AttrExpr

/-! Values of digits. -/

theorem digitsValue_append_zeros (cs : List Char) (zeros : Nat) :
    digitsValue (cs ++ List.replicate zeros '0') = digitsValue cs * tenTo zeros := by
  rw [digitsValue_eq, digitsValue_eq, Nat.ofDigitChars_append, Nat.ofDigitChars_replicate_zero,
    Nat.mul_comm]
  rfl

theorem digitsValue_zeros_append (zeros : Nat) (cs : List Char) :
    digitsValue (List.replicate zeros '0' ++ cs) = digitsValue cs := by
  rw [digitsValue_eq, digitsValue_eq, Nat.ofDigitChars_append, Nat.ofDigitChars_replicate_zero,
    Nat.mul_zero]

theorem isDigit_of_mem_zeros {zeros : Nat} {c : Char} (h : c ∈ List.replicate zeros '0') :
    c.isDigit = true := by
  rw [List.eq_of_mem_replicate h]
  decide

theorem Digits.append_zeros {digits : List Char} (h : Digits digits) (zeros : Nat) :
    Digits (digits ++ List.replicate zeros '0') :=
  ⟨List.append_ne_nil_of_left_ne_nil h.1 _,
    fun c hc => (List.mem_append.mp hc).elim (h.2 c) isDigit_of_mem_zeros⟩

theorem Digits.zeros_append {digits : List Char} (h : Digits digits) (zeros : Nat) :
    Digits (List.replicate zeros '0' ++ digits) :=
  ⟨List.append_ne_nil_of_right_ne_nil _ h.1,
    fun c hc => (List.mem_append.mp hc).elim isDigit_of_mem_zeros (h.2 c)⟩

theorem digits_zero : Digits ['0'] := ⟨List.cons_ne_nil _ _, by simp⟩

/-- The exponent of a number as it is written, with a sign before it or without. -/
theorem exponentPart_intText (n : Int) (signed : Bool) :
    ExponentPart ('e' :: ((if signed && 0 ≤ n then ['+'] else []) ++ intText n)) n := by
  have hdigits := natText_digits n.natAbs
  have hvalue := digitsValue_natText n.natAbs
  unfold intText
  rcases Int.lt_or_le n 0 with hneg | hnonneg
  · have hsign : (signed && decide (0 ≤ n)) = false := by simp; omega
    have hpart := ExponentPart.negative (.inl rfl) hdigits
    rw [hvalue, show -(n.natAbs : Int) = n by omega] at hpart
    simpa [hsign, hneg] using hpart
  · have hsign : (if signed && 0 ≤ n then ['+'] else []) = [] ∨
        (if signed && 0 ≤ n then ['+'] else []) = ['+'] := by
      split <;> simp
    have hpart := ExponentPart.positive (.inl rfl) hsign hdigits
    rw [hvalue, show (n.natAbs : Int) = n by omega] at hpart
    rwa [if_neg (show ¬ n < 0 by omega)]

namespace Decimal

variable {sign : List Char} {negative : Bool}

theorem SameValue.refl (d : Decimal) : d.SameValue d := rfl

/-- Digits with a point among them, as a numeral of the value of all of them. -/
theorem numeral_point (hsign : SignPart sign negative) {digits more : List Char}
    (hdigits : Digits digits) (hmore : Digits more) :
    Numeral (sign ++ (digits ++ '.' :: more)) negative
      ⟨digitsValue (digits ++ more), -(more.length : Int)⟩ := by
  simpa using Numeral.mk hsign hdigits (.present hmore) .absent

/-- A point among the digits, with some of them behind it. -/
theorem numeral_split (hsign : SignPart sign negative) {digits : List Char}
    (hdigits : Digits digits) {places : Nat} (hsome : 0 < places) (hless : places < digits.length) :
    Numeral (sign ++ (digits.take (digits.length - places) ++
        '.' :: digits.drop (digits.length - places))) negative
      ⟨digitsValue digits, -(places : Int)⟩ := by
  have hfirst : Digits (digits.take (digits.length - places)) :=
    ⟨List.ne_nil_of_length_pos (by rw [List.length_take]; omega),
      fun c hc => hdigits.2 c (List.mem_of_mem_take hc)⟩
  have hlast : Digits (digits.drop (digits.length - places)) :=
    ⟨List.ne_nil_of_length_pos (by rw [List.length_drop]; omega),
      fun c hc => hdigits.2 c (List.mem_of_mem_drop hc)⟩
  have hnumeral := numeral_point hsign hfirst hlast
  rwa [List.take_append_drop, List.length_drop, Nat.sub_sub_self hless.le] at hnumeral

/-- All digits behind the point, after zeros. -/
theorem numeral_zeros (hsign : SignPart sign negative) {digits : List Char}
    (hdigits : Digits digits) (zeros : Nat) :
    Numeral (sign ++ '0' :: '.' :: (List.replicate zeros '0' ++ digits)) negative
      ⟨digitsValue digits, -((zeros + digits.length : Nat) : Int)⟩ := by
  have hnumeral := numeral_point hsign digits_zero (hdigits.zeros_append zeros)
  have hvalue : digitsValue (['0'] ++ (List.replicate zeros '0' ++ digits)) = digitsValue digits :=
    digitsValue_zeros_append (zeros + 1) digits
  rwa [hvalue, List.length_append, List.length_replicate] at hnumeral

theorem sameValue_zeros {digits zeros : Nat} {exponent other : Int}
    (h : other + zeros = exponent) : SameValue ⟨digits, exponent⟩ ⟨digits * tenTo zeros, other⟩ :=
  h ▸ (sameValue_shift digits zeros other).symm

theorem positional_numeral (d : Decimal) (keepsFraction : Bool) (hsign : SignPart sign negative) :
    ∃ value, Numeral (sign ++ d.positional keepsFraction) negative value ∧ d.SameValue value := by
  obtain ⟨digits, exponent⟩ := d
  have hdigits := natText_digits digits
  have hvalue := digitsValue_natText digits
  unfold positional
  dsimp only
  split
  · next hexponent =>
    have hzeros := hdigits.append_zeros exponent.toNat
    cases keepsFraction with
    | false =>
      refine ⟨_, by simpa using Numeral.mk hsign hzeros .absent .absent, ?_⟩
      rw [digitsValue_append_zeros, hvalue]
      exact sameValue_zeros (by omega)
    | true =>
      refine ⟨_, numeral_point hsign hzeros digits_zero, ?_⟩
      rw [List.append_assoc, ← List.replicate_succ', digitsValue_append_zeros, hvalue]
      exact sameValue_zeros (by simp; omega)
  · next hexponent =>
    have hplace : -((-exponent).toNat : Int) = exponent := by omega
    split
    · next hplaces =>
      refine ⟨_, numeral_split hsign hdigits (by omega) hplaces, ?_⟩
      rw [hvalue, hplace]
      exact .refl _
    · next hplaces =>
      refine ⟨_, numeral_zeros hsign hdigits _, ?_⟩
      rw [hvalue, Nat.sub_add_cancel (Nat.not_lt.mp hplaces), hplace]
      exact .refl _

theorem scientific_numeral (d : Decimal) (signsExponent : Bool) (hsign : SignPart sign negative) :
    Numeral (sign ++ d.scientific signsExponent) negative d := by
  obtain ⟨digits, exponent⟩ := d
  have hdigits := natText_digits digits
  have hvalue := digitsValue_natText digits
  have hexponent := exponentPart_intText (Decimal.leading ⟨digits, exponent⟩) signsExponent
  have hleading : Decimal.leading ⟨digits, exponent⟩ = exponent + (natText digits).length - 1 := rfl
  unfold scientific
  dsimp only
  generalize Decimal.leading ⟨digits, exponent⟩ = leading at *
  generalize natText digits = ds at *
  subst hvalue
  obtain ⟨c, cs, rfl⟩ := List.exists_cons_of_ne_nil hdigits.1
  have hfirst : Digits [c] := ⟨List.cons_ne_nil _ _, by simpa using hdigits.2 c (by simp)⟩
  cases cs with
  | nil =>
    have hnumeral := Numeral.mk hsign hfirst .absent hexponent
    rw [List.length_singleton] at hleading
    rw [List.append_nil, List.append_nil, List.length_nil,
      show leading - (0 : Nat) = exponent by omega] at hnumeral
    simpa using hnumeral
  | cons d ds =>
    have hmore : Digits (d :: ds) :=
      ⟨List.cons_ne_nil _ _, fun x hx => hdigits.2 x (List.mem_cons_of_mem c hx)⟩
    have hnumeral := Numeral.mk hsign hfirst (.present hmore) hexponent
    rw [List.length_cons] at hleading
    rw [show leading - (d :: ds).length = exponent by omega] at hnumeral
    simpa using hnumeral

/-- What is written for a decimal is a numeral that is worth as much. -/
theorem write_numeral (d : Decimal) (style : NumberStyle) (hsign : SignPart sign negative) :
    ∃ value, Numeral (sign ++ d.write style) negative value ∧ d.SameValue value := by
  unfold write
  split
  · exact d.positional_numeral _ hsign
  · exact ⟨d, d.scientific_numeral _ hsign, .refl d⟩

end Decimal

/-! Finite numbers. -/

namespace Binary64

variable {x : Binary64}

/-- What is written for a finite number is a numeral that is rounded to it. -/
theorem write_numeral (hx : x.isFinite = true) (style : NumberStyle) :
    ∃ negative value, Numeral (x.write style) negative value ∧ value.rounded negative = x := by
  cases x with
  | infinite | nan => cases hx
  | finite negative mantissa exponent canonical =>
    have hsign : SignPart (if negative then ['-'] else []) negative := by
      cases negative with
      | false => exact .absent
      | true => exact .minus
    obtain ⟨value, hnumeral, hsame⟩ :=
      (shortest style.tie mantissa exponent).write_numeral style hsign
    refine ⟨negative, value, hnumeral, ?_⟩
    rw [← Decimal.nearest_eq]
    exact Decimal.nearest_of_shortest canonical hsame negative

theorem eq_self (hx : x.isFinite = true) : x.eq x = true := by
  cases x with
  | infinite | nan => cases hx
  | finite negative mantissa exponent canonical => simp [eq]

end Binary64

/-- A whole number as a text is rounded to its nearest binary number, but for the sign of zero. -/
theorem WholeText.eq_rounded {cs : List Char} {n : Int64} (h : WholeText cs n.toInt)
    {negative : Bool} {value : Decimal} (htext : NumberText cs negative value) :
    (Number.whole n).eq (.decimal (value.rounded negative)) = true := by
  obtain ⟨sign, hwhole, hsign⟩ := h.numberText
  have hsame : value.rounded negative = Decimal.rounded sign ⟨n.toInt.natAbs, 0⟩ :=
    Option.some.inj ((readDecimal?_eq_some_iff.mpr ⟨_, _, htext, rfl⟩).symm.trans
      (readDecimal?_eq_some_iff.mpr ⟨_, _, hwhole, rfl⟩))
  have hrounded (sign : Bool) :
      Decimal.rounded sign ⟨n.toInt.natAbs, 0⟩ = .round sign n.toInt.natAbs 1 :=
    congrArg (Binary64.round sign · 1) (Nat.mul_one _)
  have hfinite := Decimal.isFinite_rounded_whole n (n.toInt < 0)
  change (Binary64.round (n.toInt < 0) n.toInt.natAbs 1).eq (value.rounded negative) = true
  rw [hsame, hrounded]
  rw [hrounded] at hfinite
  by_cases hzero : n.toInt = 0
  · rw [hzero]
    cases sign <;> decide
  · rw [hsign hzero]
    exact Binary64.eq_self hfinite

/-- Whatever the style, what is written for a finite number is read as an equal number. -/
theorem readNumber?_write {x : Binary64} (hx : x.isFinite = true) (style : NumberStyle) :
    ∃ m, readNumber? (.ofList (x.write style)) = some m ∧ m.eq (.decimal x) = true := by
  obtain ⟨negative, value, hnumeral, hrounded⟩ := Binary64.write_numeral hx style
  have htext := hnumeral.numberText
  generalize x.write style = cs at *
  subst hrounded
  by_cases hwhole : ∃ n : Int64, WholeText cs n.toInt
  · obtain ⟨n, hn⟩ := hwhole
    refine ⟨.whole n, readNumber?_eq_some_iff.mpr ?_, hn.eq_rounded htext⟩
    rw [String.toList_ofList, htext.trim_self]
    exact .whole hn
  · refine ⟨.decimal _, readNumber?_eq_some_iff.mpr ?_, Binary64.eq_self hx⟩
    rw [String.toList_ofList, htext.trim_self]
    exact .decimal htext (not_exists.mp hwhole) hx

/-- What is written for a whole number is read as that, with any blanks around it. -/
theorem readNumber?_whole (k : Int64) {before after : String}
    (hbefore : ∀ c ∈ before.toList, Unicode.isWhiteSpace c = true)
    (hafter : ∀ c ∈ after.toList, Unicode.isWhiteSpace c = true) :
    readNumber? (before ++ (Number.whole k).text ++ after) = some (.whole k) := by
  have hwhole : WholeText (intText k.toInt) k.toInt :=
    readWhole_eq_some_iff.mp (intText_whole k).read.2
  obtain ⟨_, htext, -⟩ := hwhole.numberText
  have hlist : (before ++ (Number.whole k).text ++ after).toList =
      before.toList ++ (intText k.toInt ++ after.toList) := by
    simp [Number.text]
  rw [readNumber?_eq_some_iff, hlist, htext.trim_eq hbefore hafter]
  exact .whole hwhole

/-- A finite number that is turned into text and back is equal to what it was. A whole number stays
whole, also with blanks around its text, and as a literal of a source. -/
theorem Number.survives_text (formats : Formats) :
    (∀ n : Number, n.isFinite = true →
      ∃ m, ((Value.number n).coerce formats .string).bind (·.coerce formats .number) =
        .ok (.number m) ∧ m.eq n = true) ∧
    ∀ k : Int64, ∃ text, (Value.number (.whole k)).coerce formats .string = .ok (.string text) ∧
      (∀ target, target = .number ∨ target = .whole → ∀ before after : String,
        (∀ c ∈ before.toList, Unicode.isWhiteSpace c = true) →
        (∀ c ∈ after.toList, Unicode.isWhiteSpace c = true) →
          (Value.string (before ++ text ++ after)).coerce formats target =
            .ok (.number (.whole k))) ∧
      ∀ compiler : Compiler, ∃ compiled, compiler.compile (relaying text) = .ok compiled ∧
        compiled.kind = .whole ∧
          ∀ attributes clock, compiled.evaluate attributes clock = .ok (.number (.whole k)) := by
  constructor
  · intro n hn
    obtain ⟨m, hread, heq⟩ : ∃ m, readNumber? n.text = some m ∧ m.eq n = true := by
      cases n with
      | whole k =>
        have hread := @readNumber?_whole k "" "" (by simp) (by simp)
        exact ⟨.whole k, by simpa using hread, by simp [Number.eq]⟩
      | decimal d => exact readNumber?_write hn plainStyle
    refine ⟨m, ?_, heq⟩
    change coerceText formats .number n.text = .ok (.number m)
    simp only [coerceText, hread]
  · intro k
    refine ⟨_, rfl, fun target htarget before after hbefore hafter => ?_, fun compiler => ?_⟩
    · have hread := readNumber?_whole k hbefore hafter
      change coerceText formats target (before ++ (Number.whole k).text ++ after) = _
      rcases htarget with rfl | rfl
      · simp only [coerceText, hread]
      · simp only [coerceText, hread]
        rfl
    · exact (Numeral.Denotes.whole (intText_whole k)).compile_relaying compiler

/-- The number nearest to a tenth. -/
theorem Number.survives_text_tenth :
    let tenth : Number := .decimal (.finite false 7205759403792794 (-56) (by decide))
    tenth.isFinite = true ∧
      ∃ m, ((Value.number tenth).coerce .standard .string).bind (·.coerce .standard .number) =
        .ok (.number m) ∧ m.eq tenth = true :=
  ⟨rfl, (Number.survives_text .standard).1 _ rfl⟩

end AttrExpr
