import AttrExpr.Proofs.Lexemes
import AttrExpr.Proofs.ShortestDecimals

/-! The texts that are read as numbers, and what they are read as. A literal of a source is read as
its text is. -/
set_option autoImplicit false

namespace AttrExpr

/-! The grammar of the texts. -/

/-- Digits with a point behind, between or before them, or without one. The digits before the point
and those behind it come apart. -/
inductive FixedPart : List Char → List Char → List Char → Prop
  | whole {digits : List Char} (h : Digits digits) : FixedPart digits digits []
  | point {digits more : List Char} (h : Digits digits) (hmore : ∀ c ∈ more, c.isDigit = true) :
    FixedPart (digits ++ '.' :: more) digits more
  | leading {more : List Char} (h : Digits more) : FixedPart ('.' :: more) [] more

/-- A sign, digits with a point, and an exponent. Only the digits have to be there. -/
inductive NumberText : List Char → Bool → Decimal → Prop
  | mk {sign fixed digits more exponent : List Char} {negative : Bool} {power : Int}
    (hsign : AnySign sign negative) (hfixed : FixedPart fixed digits more)
    (hexponent : ExponentPart exponent power) :
    NumberText (sign ++ (fixed ++ exponent)) negative
      ⟨digitsValue (digits ++ more), power - more.length⟩

/-- A sign and digits, and nothing else. -/
inductive WholeText : List Char → Int → Prop
  | positive {sign digits : List Char} (hsign : AnySign sign false) (h : Digits digits) :
    WholeText (sign ++ digits) (digitsValue digits)
  | negative {sign digits : List Char} (hsign : AnySign sign true) (h : Digits digits) :
    WholeText (sign ++ digits) (-(digitsValue digits : Int))

/-! Readers of the parts. -/

theorem takeSign_sign (cs : List Char) :
    ∃ sign, AnySign sign (takeSign cs).1 ∧ cs = sign ++ (takeSign cs).2 := by
  unfold takeSign
  split
  · exact ⟨_, .minus, rfl⟩
  · exact ⟨_, .plus, rfl⟩
  · exact ⟨_, .absent, rfl⟩

theorem readInt?_eq_some_iff {cs : List Char} {n : Int} :
    readInt? cs = some n ↔ WholeText cs n := by
  constructor
  · intro h
    obtain ⟨sign, hsign, hcs⟩ := takeSign_sign cs
    unfold readInt? at h
    generalize takeSign cs = taken at h hsign hcs
    obtain ⟨negative, digits⟩ := taken
    dsimp only at h hsign hcs
    subst hcs
    split at h
    · cases h
    · next hdigits =>
      have hdigits : Digits digits := by simpa [Digits] using hdigits
      cases h
      cases negative with
      | false => exact .positive hsign hdigits
      | true => exact .negative hsign hdigits
  · intro h
    cases h with
    | positive hsign hdigits | negative hsign hdigits => exact hsign.readInt?_eq hdigits

theorem readFixed?_part {cs rest : List Char} {d : Decimal} (h : readFixed? cs = some (d, rest)) :
    ∃ fixed digits more, FixedPart fixed digits more ∧ cs = fixed ++ rest ∧
      d = ⟨digitsValue (digits ++ more), -(more.length : Int)⟩ := by
  unfold readFixed? at h
  obtain ⟨digits, behind, hdigits⟩ : ∃ digits behind, takeDigits cs = (digits, behind) :=
    ⟨_, _, rfl⟩
  obtain ⟨hcs, hall⟩ := takeDigits_digits hdigits
  simp only [hdigits] at h
  split at h
  · next after =>
    obtain ⟨more, last, hmore⟩ : ∃ more last, takeDigits after = (more, last) := ⟨_, _, rfl⟩
    obtain ⟨hafter, hallMore⟩ := takeDigits_digits hmore
    simp only [hmore] at h
    split at h
    · cases h
    · next hsome =>
      cases h
      subst hcs hafter
      by_cases hnil : digits = []
      · subst hnil
        exact ⟨_, [], more, .leading ⟨by simpa using hsome, hallMore⟩, rfl, rfl⟩
      · exact ⟨_, digits, more, .point ⟨hnil, hall⟩ hallMore, by simp, rfl⟩
  · dsimp only at h
    split at h
    · cases h
    · next hsome =>
      cases h
      exact ⟨digits, digits, [], .whole ⟨by simpa using hsome, hall⟩, hcs, rfl⟩

theorem takeDigits_append {digits rest : List Char} (hdigits : ∀ c ∈ digits, c.isDigit = true)
    (hrest : ∀ c ∈ rest.head?, c.isDigit = false) :
    takeDigits (digits ++ rest) = (digits, rest) := by
  cases digits with
  | nil =>
    cases rest with
    | nil => rfl
    | cons c cs => simp [takeDigits, hrest c rfl]
  | cons c cs => exact Digits.takeDigits_eq ⟨List.cons_ne_nil c cs, hdigits⟩ hrest

/-- The first of the digits, or the point. -/
theorem FixedPart.head {fixed digits more : List Char} (h : FixedPart fixed digits more)
    (rest : List Char) : ∀ c ∈ (fixed ++ rest).head?, c.isDigit = true ∨ c = '.' := by
  cases h with
  | whole hdigits => exact hdigits.head_isDigit rest
  | point hdigits hmore =>
    rw [List.append_assoc]
    exact hdigits.head_isDigit _
  | leading hmore => simp

theorem FixedPart.readFixed?_eq {fixed digits more rest : List Char}
    (h : FixedPart fixed digits more)
    (hrest : ∀ c ∈ rest.head?, c.isDigit = false ∧ c ≠ '.') :
    readFixed? (fixed ++ rest) =
      some (⟨digitsValue (digits ++ more), -(more.length : Int)⟩, rest) := by
  cases h with
  | whole hdigits =>
    exact FractionPart.absent.readFixed?_eq hdigits hrest
  | point hdigits hmore =>
    have htake := hdigits.takeDigits_eq (show ∀ c ∈ ('.' :: (more ++ rest)).head?, c.isDigit = false
      by simp)
    have htakeMore := takeDigits_append hmore fun c hc => (hrest c hc).1
    have hne : digits.isEmpty = false := by simpa using hdigits.1
    simp [readFixed?, htake, htakeMore, hne]
  | leading hmore =>
    have htake : takeDigits ('.' :: (more ++ rest)) = ([], '.' :: (more ++ rest)) := by
      simp [takeDigits]
    have htakeMore := hmore.takeDigits_eq fun c hc => (hrest c hc).1
    have hne : more.isEmpty = false := by simpa using hmore.1
    simp [readFixed?, htake, htakeMore, hne]

theorem readExponent?_part {cs : List Char} {power : Int} (h : readExponent? cs = some power) :
    ExponentPart cs power := by
  unfold readExponent? at h
  split at h
  · cases h
    exact .absent
  · next mark rest =>
    split at h
    · next hmark =>
      split at h
      next negative digits hsign =>
        split at h
        · cases h
        · next hdigits =>
          have hdigits : Digits digits := by simpa [Digits] using hdigits
          cases h
          split at hsign
          · cases hsign
            exact .negative hmark hdigits
          · cases hsign
            exact .positive hmark (.inr rfl) hdigits
          · cases hsign
            exact .positive hmark (.inl rfl) hdigits
    · cases h

/-- A text is read as a decimal if it has the form of one, and then it is rounded once. -/
theorem readDecimal?_eq_some_iff {cs : List Char} {d : Binary64} :
    readDecimal? cs = some d ↔
      ∃ negative value, NumberText cs negative value ∧ value.rounded negative = d := by
  constructor
  · intro h
    obtain ⟨sign, hsign, hcs⟩ := takeSign_sign cs
    simp only [readDecimal?, Option.bind_eq_bind, Option.bind_eq_some_iff, Option.pure_def] at h
    obtain ⟨⟨fixed, behind⟩, hfixed, power, hpower, heq⟩ := h
    obtain ⟨token, digits, more, hpart, hsplit, rfl⟩ := readFixed?_part hfixed
    obtain rfl := Option.some.inj heq
    have htext := NumberText.mk hsign hpart (readExponent?_part hpower)
    rw [← hsplit, ← hcs] at htext
    refine ⟨_, _, htext, ?_⟩
    rw [Decimal.nearest_eq, show -(more.length : Int) + power = power - more.length by omega]
  · rintro ⟨negative, value, htext, rfl⟩
    cases htext with
    | @mk sign fixed digits more exponent _ power hsign hfixed hexponent =>
      have hend := hexponent.head (show ∀ c ∈ [].head?, c.isDigit = false ∧ c ≠ '.' by simp)
      rw [List.append_nil] at hend
      simp only [readDecimal?, hsign.takeSign_eq (hfixed.head exponent), hfixed.readFixed?_eq hend,
        hexponent.readExponent?_eq, Option.bind_eq_bind, Option.bind_some, Option.pure_def,
        Decimal.nearest_eq]
      rw [show -(more.length : Int) + power = power - more.length by omega]

theorem readWhole_eq_some_iff {cs : List Char} {n : Int64} :
    (readInt? cs).bind wholeOfInt? = some n ↔ WholeText cs n.toInt := by
  simp only [Option.bind_eq_some_iff, readInt?_eq_some_iff]
  constructor
  · rintro ⟨value, htext, hvalue⟩
    rwa [wholeOfInt?_eq_some hvalue]
  · intro h
    exact ⟨_, h, wholeOfInt?_toInt n⟩

/-! Characters of number texts. -/

theorem isNumeric_of_isDigit {c : Char} (h : c.isDigit = true) : isNumeric c = true := by
  simp [isNumeric, h]

theorem Digits.all_isNumeric {digits : List Char} (h : ∀ c ∈ digits, c.isDigit = true) :
    digits.all isNumeric = true :=
  List.all_eq_true.mpr fun c hc => isNumeric_of_isDigit (h c hc)

theorem AnySign.all_isNumeric {sign : List Char} {negative : Bool} (h : AnySign sign negative) :
    sign.all isNumeric = true := by
  cases h <;> rfl

theorem FixedPart.all_isNumeric {fixed digits more : List Char} (h : FixedPart fixed digits more) :
    fixed.all isNumeric = true ∧ ∃ c ∈ fixed, c.isDigit = true := by
  cases h with
  | whole hdigits =>
    obtain ⟨c, cs, rfl, hc⟩ := hdigits.head
    exact ⟨Digits.all_isNumeric hdigits.2, c, by simp, hc⟩
  | point hdigits hmore =>
    have hfirst := Digits.all_isNumeric hdigits.2
    have hlast := Digits.all_isNumeric hmore
    obtain ⟨c, cs, rfl, hc⟩ := hdigits.head
    refine ⟨?_, c, by simp, hc⟩
    rw [List.all_append, hfirst, List.all_cons, hlast]
    rfl
  | leading hmore =>
    have hlast := Digits.all_isNumeric hmore.2
    obtain ⟨c, cs, rfl, hc⟩ := hmore.head
    refine ⟨?_, c, by simp, hc⟩
    rw [List.all_cons, hlast]
    rfl

theorem ExponentPart.all_isNumeric {exponent : List Char} {power : Int}
    (h : ExponentPart exponent power) : exponent.all isNumeric = true := by
  rcases h.parts with rfl | ⟨mark, sign, digits, rfl, hmark, hsign, hdigits⟩
  · rfl
  · have hlast := Digits.all_isNumeric hdigits.2
    rw [List.all_cons, List.all_append, hlast]
    rcases hmark with rfl | rfl <;> rcases hsign with rfl | rfl | rfl <;> rfl

theorem NumberText.all_isNumeric {cs : List Char} {negative : Bool} {value : Decimal}
    (h : NumberText cs negative value) :
    cs.all isNumeric = true ∧ cs.any Char.isDigit = true := by
  cases h with
  | mk hsign hfixed hexponent =>
    obtain ⟨hall, c, hc, hdigit⟩ := hfixed.all_isNumeric
    constructor
    · rw [List.all_append, List.all_append, hsign.all_isNumeric, hall, hexponent.all_isNumeric]
      rfl
    · exact List.any_eq_true.mpr ⟨c, by simp [hc], hdigit⟩

/-- The sign is that of the value, but for that of zero. -/
theorem WholeText.numberText {cs : List Char} {n : Int} (h : WholeText cs n) :
    ∃ negative, NumberText cs negative ⟨n.natAbs, 0⟩ ∧ (n ≠ 0 → negative = decide (n < 0)) := by
  cases h with
  | positive hsign hdigits =>
    exact ⟨_, by simpa using NumberText.mk hsign (.whole hdigits) .absent,
      fun _ => (decide_eq_false (by omega)).symm⟩
  | negative hsign hdigits =>
    exact ⟨_, by simpa using NumberText.mk hsign (.whole hdigits) .absent,
      fun _ => (decide_eq_true (by omega)).symm⟩

/-- The number of a text: a whole one if it has only a sign and digits and fits, and the nearest
binary one otherwise. -/
inductive NumberText.Denotes (cs : List Char) : Number → Prop
  | whole {n : Int64} (h : WholeText cs n.toInt) : Denotes cs (.whole n)
  | decimal {negative : Bool} {value : Decimal} (h : NumberText cs negative value)
    (hwhole : ∀ n : Int64, ¬ WholeText cs n.toInt)
    (hfinite : (value.rounded negative).isFinite = true) :
    Denotes cs (.decimal (value.rounded negative))

/-- What is read is the number of the text without the blanks around it. -/
theorem readNumber?_eq_some_iff {text : String} {n : Number} :
    readNumber? text = some n ↔ NumberText.Denotes (Unicode.trim text.toList) n := by
  unfold readNumber?
  dsimp only
  generalize Unicode.trim text.toList = cs
  constructor
  · intro h
    split at h
    · cases h
    · split at h
      · next k hk =>
        cases h
        exact .whole (readWhole_eq_some_iff.mp hk)
      · next hnone =>
        split at h
        · next d hd =>
          split at h
          · next hfinite =>
            cases h
            obtain ⟨negative, value, htext, rfl⟩ := readDecimal?_eq_some_iff.mp hd
            refine .decimal htext (fun k hk => ?_) hfinite
            rw [readWhole_eq_some_iff.mpr hk] at hnone
            cases hnone
          · cases h
        · cases h
  · intro h
    obtain ⟨negative, value, htext⟩ : ∃ negative value, NumberText cs negative value := by
      cases h with
      | whole h =>
        obtain ⟨negative, htext, -⟩ := h.numberText
        exact ⟨_, _, htext⟩
      | decimal h => exact ⟨_, _, h⟩
    obtain ⟨hnumeric, hdigit⟩ := htext.all_isNumeric
    rw [hnumeric, hdigit]
    cases h with
    | whole h => simp [readWhole_eq_some_iff.mpr h]
    | @decimal negative value htext hwhole hfinite =>
      have hnone : (readInt? cs).bind wholeOfInt? = none :=
        Option.eq_none_iff_forall_ne_some.mpr fun k hk => hwhole k (readWhole_eq_some_iff.mp hk)
      simp [hnone, readDecimal?_eq_some_iff.mpr ⟨_, _, htext, rfl⟩, hfinite]

/-- A whole number of 64 bits is finite when it is rounded. -/
theorem Decimal.isFinite_rounded_whole (n : Int64) (negative : Bool) :
    (rounded negative ⟨n.toInt.natAbs, 0⟩).isFinite = true := by
  refine Binary64.isFinite_round_of_lt (Nat.ne_of_gt (denominator_pos _)) ?_ negative
  have hle := n.le_toInt
  have hlt := n.toInt_lt
  change n.toInt.natAbs * 1 < 1 * 2 ^ 200
  omega

theorem readNumber?_isSome_iff {text : String} :
    (readNumber? text).isSome = true ↔
      ∃ negative value, NumberText (Unicode.trim text.toList) negative value ∧
        (value.rounded negative).isFinite = true := by
  rw [Option.isSome_iff_exists]
  simp only [readNumber?_eq_some_iff]
  constructor
  · rintro ⟨n, h⟩
    cases h with
    | @whole n h =>
      obtain ⟨negative, htext, -⟩ := h.numberText
      exact ⟨negative, _, htext, Decimal.isFinite_rounded_whole n negative⟩
    | decimal h _ hfinite => exact ⟨_, _, h, hfinite⟩
  · rintro ⟨negative, value, h, hfinite⟩
    by_cases hwhole : ∃ n : Int64, WholeText (Unicode.trim text.toList) n.toInt
    · obtain ⟨n, hn⟩ := hwhole
      exact ⟨_, .whole hn⟩
    · exact ⟨_, .decimal h (not_exists.mp hwhole) hfinite⟩

/-! Blanks around a text. -/

theorem isDigit_toNat {c : Char} (h : c.isDigit = true) : 48 ≤ c.toNat ∧ c.toNat ≤ 57 := by
  simpa [Char.isDigit, UInt32.le_iff_toNat_le] using h

theorem isWhiteSpace_of_isNumeric {c : Char} (h : isNumeric c = true) :
    Unicode.isWhiteSpace c = false := by
  simp only [isNumeric, Bool.or_eq_true, beq_iff_eq] at h
  rcases h with ((((h | rfl) | rfl) | rfl) | rfl) | rfl
  · have hclass := isDigit_toNat h
    unfold Unicode.isWhiteSpace
    rw [if_pos (by omega)]
    simp
    omega
  all_goals decide

namespace Unicode

theorem trimStart_append {blanks rest : List Char}
    (hblanks : ∀ c ∈ blanks, isWhiteSpace c = true)
    (hrest : ∀ c ∈ rest.head?, isWhiteSpace c = false) : trimStart (blanks ++ rest) = rest := by
  rw [trimStart, List.dropWhile_append_of_pos hblanks]
  cases rest with
  | nil => rfl
  | cons c cs => rw [List.dropWhile_cons_of_neg (by simp [hrest c rfl])]

/-- Blanks around a text that has none at its ends are taken off. -/
theorem trim_eq {before cs after : List Char} (hbefore : ∀ c ∈ before, isWhiteSpace c = true)
    (hafter : ∀ c ∈ after, isWhiteSpace c = true) (hne : cs ≠ [])
    (hcs : ∀ c ∈ cs, isWhiteSpace c = false) : trim (before ++ (cs ++ after)) = cs := by
  have hfirst : trimStart (before ++ (cs ++ after)) = cs ++ after := by
    refine trimStart_append hbefore fun c hc => hcs c ?_
    obtain ⟨d, ds, rfl⟩ := List.exists_cons_of_ne_nil hne
    exact List.mem_of_mem_head? hc
  have hlast : trimStart (after.reverse ++ cs.reverse) = cs.reverse := by
    refine trimStart_append (fun c hc => hafter c (List.mem_reverse.mp hc)) fun c hc => hcs c ?_
    exact List.mem_reverse.mp (List.mem_of_mem_head? hc)
  rw [trim, hfirst, List.reverse_append, hlast, List.reverse_reverse]

end Unicode

theorem NumberText.trim_eq {before cs after : List Char} {negative : Bool} {value : Decimal}
    (h : NumberText cs negative value) (hbefore : ∀ c ∈ before, Unicode.isWhiteSpace c = true)
    (hafter : ∀ c ∈ after, Unicode.isWhiteSpace c = true) :
    Unicode.trim (before ++ (cs ++ after)) = cs := by
  obtain ⟨hall, hany⟩ := h.all_isNumeric
  refine Unicode.trim_eq hbefore hafter ?_ fun c hc =>
    isWhiteSpace_of_isNumeric (List.all_eq_true.mp hall c hc)
  rintro rfl
  cases hany

theorem NumberText.trim_self {cs : List Char} {negative : Bool} {value : Decimal}
    (h : NumberText cs negative value) : Unicode.trim cs = cs := by
  simpa using h.trim_eq (show ∀ c ∈ [], _ by simp) (show ∀ c ∈ [], _ by simp)

/-! Numerals of sources are such texts. -/

theorem Numeral.numberText {token : List Char} {negative : Bool} {value : Decimal}
    (h : Numeral token negative value) : NumberText token negative value := by
  cases h with
  | @mk sign digits fraction more exponent _ _ hsign hdigits hfraction hexponent =>
    have hfixed : FixedPart (digits ++ fraction) digits more := by
      cases hfraction with
      | absent => simpa using FixedPart.whole hdigits
      | present hmore => exact .point hdigits hmore.2
    rw [List.append_assoc, List.append_assoc, ← List.append_assoc digits]
    exact .mk hsign.anySign hfixed hexponent

theorem WholeText.any_isMark {cs : List Char} {n : Int} (h : WholeText cs n) :
    cs.any isMark = false := by
  cases h with
  | positive hsign hdigits | negative hsign hdigits =>
    rw [List.any_append, hdigits.any_isMark]
    cases hsign <;> rfl

/-- A literal of a source has the value that its text is read as. -/
theorem Numeral.numberOfToken?_eq {token : List Char} {negative : Bool} {value : Decimal}
    (h : Numeral token negative value) : numberOfToken? token = readNumber? (.ofList token) := by
  obtain ⟨hall, hany⟩ := h.numberText.all_isNumeric
  have hwhole : (if token.any isMark then none else (readInt? token).bind wholeOfInt?) =
      (readInt? token).bind wholeOfInt? := by
    split
    · next hmark =>
      refine (Option.eq_none_iff_forall_ne_some.mpr fun n hn => ?_).symm
      rw [(readWhole_eq_some_iff.mp hn).any_isMark] at hmark
      cases hmark
    · rfl
  have hmarks : (token.any fun c => c == '.' || c == 'e' || c == 'E') = token.any isMark := rfl
  unfold numberOfToken? readNumber?
  dsimp only
  rw [hmarks, hwhole, String.toList_ofList, h.numberText.trim_self, hall, hany]
  rfl

/-- At every place of a source the numeral found there gives its number, or no number at all. -/
theorem readNumberLiteral?_eq {s : Rest} {token rest : List Char}
    (h : takeNumber? s.chars = some (token, rest)) :
    readNumberLiteral? s = some (match readNumber? (.ofList token) with
      | some n => .ok (n, s.past token rest)
      | none => s.fail (.invalidNumber (.ofList token))) := by
  obtain ⟨_, _, hnumeral, -⟩ := takeNumber?_eq_some h
  cases hread : readNumber? (.ofList token) with
  | none => simp only [readNumberLiteral?, h, hnumeral.numberOfToken?_eq, hread]
  | some n => simp only [readNumberLiteral?, h, hnumeral.numberOfToken?_eq, hread]

end AttrExpr
