import AttrExpr.Proofs.Spelling

/-! The readers of the smallest parts of expressions read exactly what is spelled, up to a place
where the token cannot go on. -/
set_option autoImplicit false

namespace AttrExpr

/-! Classes of characters. -/

theorem isNameChar_of_isWordChar {c : Char} (h : isWordChar c = true) : isNameChar c = true := by
  simp only [isWordChar, Bool.or_eq_true, beq_iff_eq] at h
  rcases h with h | rfl
  · have hascii : c.toNat < 128 := by
      have hclass : (decide (c.val ≥ 'A'.val ∧ c.val ≤ 'Z'.val) ||
          decide (c.val ≥ 'a'.val) && decide (c.val ≤ 'z'.val) ||
          decide (c.val ≥ '0'.val) && decide (c.val ≤ '9'.val)) = true := h
      simp only [Bool.or_eq_true, Bool.and_eq_true, decide_eq_true_eq, ge_iff_le,
        UInt32.le_iff_toNat_le] at hclass
      have hc : c.toNat = c.val.toNat := rfl
      have hZ : 'Z'.val.toNat = 90 := rfl
      have hz : 'z'.val.toNat = 122 := rfl
      have h9 : '9'.val.toNat = 57 := rfl
      omega
    simp [isNameChar, Unicode.isAlphanumeric, hascii, h]
  · decide

theorem isWordChar_of_isDigit {c : Char} (h : c.isDigit = true) : isWordChar c = true := by
  simp [isWordChar, Char.isAlphanum, h]

theorem not_isWordChar_of_not_isNameChar {c : Char} (h : isNameChar c = false) :
    isWordChar c = false :=
  Bool.eq_false_iff.mpr fun hc => by simp [isNameChar_of_isWordChar hc] at h

theorem not_isDigit_of_not_isNameChar {c : Char} (h : isNameChar c = false) :
    c.isDigit = false :=
  Bool.eq_false_iff.mpr fun hc => by simp [isNameChar_of_isWordChar (isWordChar_of_isDigit hc)] at h

theorem isBlank_cases {c : Char} (h : isBlank c = true) :
    c = ' ' ∨ c = '\t' ∨ c = '\r' ∨ c = '\n' := by
  simpa [isBlank, or_assoc] using h

theorem isNameChar_of_isBlank {c : Char} (h : isBlank c = true) : isNameChar c = false := by
  rcases isBlank_cases h with rfl | rfl | rfl | rfl <;> decide

namespace Rest

variable {s t u : Rest} {token : List Char}

theorem Passes.eq_past (h : s.Passes token t) : t = s.past token t.chars := by
  obtain ⟨offset, chars⟩ := t
  rw [past, ← h.2]

theorem passes_past (s : Rest) (token cs : List Char) (h : s.chars = token ++ cs) :
    s.Passes token (s.past token cs) := ⟨h, rfl⟩

theorem Passes.unique (h : s.Passes token t) (h' : s.Passes token u) : t = u := by
  have hchars : t.chars = u.chars := List.append_cancel_left (h.1.symm.trans h'.1)
  rw [h.eq_past, h'.eq_past, hchars]

theorem after?_eq_some_iff {c : Char} : s.after? c = some t ↔ s.Passes [c] t := by
  obtain ⟨offset, chars⟩ := s
  obtain ⟨offset', chars'⟩ := t
  cases chars with
  | nil => simp [after?, Passes]
  | cons x cs =>
    by_cases hx : x = c
    · subst hx
      simp [after?, Passes]
      exact ⟨fun h => ⟨h.2, h.1.symm⟩, fun h => ⟨h.2.symm, h.1⟩⟩
    · simp [after?, Passes, hx]

theorem after?_eq_none {c : Char} (h : s.chars.head? ≠ some c) : s.after? c = none := by
  cases hafter : s.after? c with
  | none => rfl
  | some t =>
    have hpasses := after?_eq_some_iff.mp hafter
    simp [hpasses.1] at h

theorem afterOpening?_eq_some_iff : s.afterOpening? = some t ↔ s.Passes ['$', '\x7b'] t := by
  simp only [afterOpening?, Option.bind_eq_some_iff, after?_eq_some_iff]
  constructor
  · rintro ⟨between, hdollar, hbrace⟩
    exact hdollar.trans hbrace
  · intro h
    have hdollar := s.passes_past ['$'] ('\x7b' :: t.chars) h.1
    refine ⟨_, hdollar, rfl, ?_⟩
    rw [h.2, hdollar.2]
    simp [Nat.add_assoc]

theorem afterOpening?_eq_none (h : s.chars.head? ≠ some '$') : s.afterOpening? = none := by
  rw [afterOpening?, after?_eq_none h]
  rfl

theorem takeWhile_passes (p : Char → Bool) (s : Rest) :
    s.Passes (s.takeWhile p).1 (s.takeWhile p).2 :=
  s.passes_past _ _ List.takeWhile_append_dropWhile.symm

theorem of_mem_takeWhile {p : Char → Bool} {c : Char} (h : c ∈ (s.takeWhile p).1) : p c = true :=
  List.all_eq_true.mp List.all_takeWhile c h

theorem Passes.takeWhile_eq {p : Char → Bool} (h : s.Passes token t) (hp : ∀ c ∈ token, p c = true)
    (hnext : ∀ c ∈ t.chars.head?, p c = false) : s.takeWhile p = (token, t) := by
  have htake : s.chars.takeWhile p = token := by
    rw [h.1, List.takeWhile_append_of_pos hp]
    cases hchars : t.chars with
    | nil => simp
    | cons c cs => simp [hnext c (by simp [hchars])]
  have hdrop : s.chars.dropWhile p = t.chars := by
    rw [h.1, List.dropWhile_append_of_pos hp]
    cases hchars : t.chars with
    | nil => simp
    | cons c cs => simp [hnext c (by simp [hchars])]
  rw [takeWhile, htake, hdrop, ← h.eq_past]

theorem skips_skipBlanks (s : Rest) : s.Skips s.skipBlanks :=
  ⟨_, s.takeWhile_passes isBlank, fun _ hc => of_mem_takeWhile hc⟩

/-- Blanks are skipped up to the first character that is none. -/
theorem Skips.skipBlanks_eq (h : s.Skips t) (hnext : ∀ c ∈ t.chars.head?, isBlank c = false) :
    s.skipBlanks = t := by
  obtain ⟨blanks, hpasses, hblanks⟩ := h
  rw [skipBlanks, hpasses.takeWhile_eq hblanks hnext]

theorem Passes.head {c : Char} {cs : List Char} (h : s.Passes (c :: cs) t) :
    s.chars.head? = some c := by
  rw [h.1]
  rfl

end Rest

/-! Quoted strings. -/

theorem quotedFrom?_eq_some {quote : Char} {offset : Nat}
    {cs text : List Char} {t : Rest} (h : quotedFrom? quote offset cs = some (text, t)) :
    ∃ token, QuotedContent quote token text ∧ (Rest.mk offset cs).Passes (token ++ [quote]) t := by
  fun_induction quotedFrom? quote offset cs generalizing text t with
  | case1 => cases h
  | case2 => cases h
  | case3 offset c cs ih =>
    obtain ⟨⟨more, rest⟩, hmore, heq⟩ := Option.map_eq_some_iff.mp h
    cases heq
    obtain ⟨token, hcontent, hchars, hoffset⟩ := ih hmore
    refine ⟨'\\' :: c :: token, .escaped hcontent, by simpa using hchars, ?_⟩
    rw [hoffset]
    simp [show '\\'.utf8Size = 1 from rfl]
    omega
  | case4 offset cs =>
    cases h
    exact ⟨[], .nil, rfl, by simp⟩
  | case5 offset c cs hlast hescaped hc ih =>
    obtain ⟨⟨more, rest⟩, hmore, heq⟩ := Option.map_eq_some_iff.mp h
    cases heq
    obtain ⟨token, hcontent, hchars, hoffset⟩ := ih hmore
    have hbackslash : c ≠ '\\' := by
      rintro rfl
      cases cs with
      | nil => exact hlast rfl rfl
      | cons d ds => exact hescaped d ds rfl rfl
    refine ⟨c :: token, .plain hc hbackslash hcontent, by simpa using hchars, ?_⟩
    rw [hoffset]
    simp
    omega

theorem QuotedContent.quotedFrom?_eq {quote : Char} (hquote : quote ≠ '\\') {token text : List Char}
    (h : QuotedContent quote token text) (offset : Nat) {cs : List Char} {t : Rest}
    (hpasses : (Rest.mk offset cs).Passes (token ++ [quote]) t) :
    quotedFrom? quote offset cs = some (text, t) := by
  obtain ⟨offset', chars⟩ := t
  obtain ⟨hchars, hoffset⟩ := hpasses
  dsimp only at hchars hoffset
  subst hchars hoffset
  induction h generalizing offset with
  | nil => simp [quotedFrom?, hquote]
  | @plain c token text hc hbackslash hcontent ih =>
    have hnext := ih (offset + c.utf8Size)
    rw [List.cons_append, List.cons_append, quotedFrom?.eq_4 _ _ _ _ (by simp [hbackslash])
      (by simp [hbackslash]), if_neg hc, hnext]
    simp [Nat.add_assoc]
  | @escaped c token text hcontent ih =>
    have hnext := ih (offset + 1 + c.utf8Size)
    simp only [List.cons_append, quotedFrom?, hnext]
    simp [Nat.add_assoc, show '\\'.utf8Size = 1 from rfl]

theorem readQuoted?_eq_none {s : Rest} (h : ∀ c ∈ s.chars.head?, c ≠ '\'' ∧ c ≠ '"') :
    readQuoted? s = none := by
  unfold readQuoted?
  split
  · rfl
  · next c cs hchars =>
    have hc := h c (by simp [hchars])
    rw [if_neg (by simp [hc])]

theorem readQuoted?_ok {s t : Rest} {text : List Char}
    (h : readQuoted? s = some (.ok (text, t))) : ∃ token, Quoted token text ∧ s.Passes token t := by
  unfold readQuoted? at h
  split at h
  · cases h
  · next c cs hchars =>
    split at h
    · next hquote =>
      rw [Option.some.injEq] at h
      split at h
      · next found hfound =>
        cases h
        obtain ⟨token, hcontent, hpasses⟩ := quotedFrom?_eq_some hfound
        have hopening : s.Passes [c] ⟨s.offset + c.utf8Size, cs⟩ := ⟨hchars, rfl⟩
        exact ⟨c :: (token ++ [c]), .mk hquote hcontent, hopening.trans hpasses⟩
      · cases h
    · cases h

theorem Quoted.read {token text : List Char} (h : Quoted token text) {s t : Rest}
    (hpasses : s.Passes token t) : readQuoted? s = some (.ok (text, t)) := by
  cases h with
  | @mk quote token text hquote hcontent =>
    have hchars : s.chars = quote :: (token ++ [quote] ++ t.chars) := hpasses.1
    have hrest : (Rest.mk (s.offset + quote.utf8Size) (token ++ [quote] ++ t.chars)).Passes
        (token ++ [quote]) t := by
      refine ⟨rfl, ?_⟩
      rw [hpasses.2, Text.byteLength_cons, Nat.add_assoc]
    have hfound := hcontent.quotedFrom?_eq (by rcases hquote with rfl | rfl <;> decide) _ hrest
    simp only [readQuoted?, hchars, hquote, if_true, hfound]

/-! Numerals. -/

theorem takeDigits_digits {cs digits rest : List Char} (h : takeDigits cs = (digits, rest)) :
    cs = digits ++ rest ∧ ∀ c ∈ digits, c.isDigit = true := by
  cases h
  exact ⟨List.takeWhile_append_dropWhile.symm,
    fun c hc => List.all_eq_true.mp List.all_takeWhile c hc⟩

theorem Digits.takeDigits_eq {digits rest : List Char} (h : Digits digits)
    (hnext : ∀ c ∈ rest.head?, c.isDigit = false) :
    takeDigits (digits ++ rest) = (digits, rest) := by
  have hpasses : (Rest.mk 0 (digits ++ rest)).Passes digits ⟨Text.byteLength digits, rest⟩ :=
    ⟨rfl, by simp⟩
  have htake := hpasses.takeWhile_eq h.2 hnext
  exact congrArg (fun r => (r.1, r.2.chars)) htake

/-- What is taken off the front of some text as one of the parts of a numeral. -/
theorem takeFraction_part (cs : List Char) :
    ∃ more, FractionPart (takeFraction cs).1 more ∧
      cs = (takeFraction cs).1 ++ (takeFraction cs).2 := by
  unfold takeFraction
  split
  · next rest =>
    obtain ⟨digits, more, hdigits⟩ : ∃ digits more, takeDigits rest = (digits, more) := ⟨_, _, rfl⟩
    obtain ⟨hsplit, hall⟩ := takeDigits_digits hdigits
    simp only [hdigits]
    split
    · exact ⟨_, .absent, rfl⟩
    · next hne => exact ⟨_, .present ⟨by simpa using hne, hall⟩, by simp [hsplit]⟩
  · exact ⟨_, .absent, rfl⟩

theorem takeExponentSign_sign (cs : List Char) :
    ((takeExponentSign cs).1 = [] ∨ (takeExponentSign cs).1 = ['+'] ∨
      (takeExponentSign cs).1 = ['-']) ∧
      cs = (takeExponentSign cs).1 ++ (takeExponentSign cs).2 := by
  unfold takeExponentSign
  split <;> simp

theorem ExponentPart.of_sign {mark : Char} {sign digits : List Char}
    (hmark : mark = 'e' ∨ mark = 'E') (hsign : sign = [] ∨ sign = ['+'] ∨ sign = ['-'])
    (h : Digits digits) : ∃ power, ExponentPart (mark :: (sign ++ digits)) power := by
  rcases hsign with rfl | rfl | rfl
  · exact ⟨_, .positive hmark (.inl rfl) h⟩
  · exact ⟨_, .positive hmark (.inr rfl) h⟩
  · exact ⟨_, .negative hmark h⟩

theorem takeExponent_part (cs : List Char) :
    ∃ power, ExponentPart (takeExponent cs).1 power ∧
      cs = (takeExponent cs).1 ++ (takeExponent cs).2 := by
  unfold takeExponent
  split
  · exact ⟨_, .absent, rfl⟩
  · next mark rest =>
    split
    · next hmark =>
      obtain ⟨hsign, hrest⟩ := takeExponentSign_sign rest
      obtain ⟨digits, more, hdigits⟩ : ∃ digits more,
        takeDigits (takeExponentSign rest).2 = (digits, more) := ⟨_, _, rfl⟩
      obtain ⟨hsplit, hall⟩ := takeDigits_digits hdigits
      simp only [hdigits]
      split
      · exact ⟨_, .absent, rfl⟩
      · next hne =>
        obtain ⟨power, hpower⟩ := ExponentPart.of_sign hmark hsign ⟨by simpa using hne, hall⟩
        rw [hsplit] at hrest
        exact ⟨power, hpower, by simpa using hrest⟩
    · exact ⟨_, .absent, rfl⟩

theorem takeMinus_part (cs : List Char) :
    ∃ negative, SignPart (takeMinus cs).1 negative ∧ cs = (takeMinus cs).1 ++ (takeMinus cs).2 := by
  unfold takeMinus
  split
  · exact ⟨_, .minus, rfl⟩
  · exact ⟨_, .absent, rfl⟩

theorem takeNumber?_eq_some {cs token rest : List Char} (h : takeNumber? cs = some (token, rest)) :
    ∃ negative value, Numeral token negative value ∧ cs = token ++ rest := by
  unfold takeNumber? at h
  obtain ⟨negative, hsign, hminus⟩ := takeMinus_part cs
  obtain ⟨digits, more, hdigits⟩ : ∃ digits more,
    takeDigits (takeMinus cs).2 = (digits, more) := ⟨_, _, rfl⟩
  obtain ⟨hsplit, hall⟩ := takeDigits_digits hdigits
  obtain ⟨_, hfraction, hfrom⟩ := takeFraction_part more
  obtain ⟨_, hexponent, hlast⟩ := takeExponent_part (takeFraction more).2
  simp only [hdigits] at h
  split at h
  · cases h
  · next hne =>
    cases h
    refine ⟨_, _, .mk hsign ⟨by simpa using hne, hall⟩ hfraction hexponent, ?_⟩
    rw [hlast] at hfrom
    rw [hfrom] at hsplit
    rw [hsplit] at hminus
    simpa using hminus

theorem Digits.head {digits : List Char} (h : Digits digits) :
    ∃ c cs, digits = c :: cs ∧ c.isDigit = true := by
  obtain ⟨c, cs, rfl⟩ := List.exists_cons_of_ne_nil h.1
  exact ⟨c, cs, rfl, h.2 c (by simp)⟩

theorem FractionPart.takeFraction_eq {fraction more rest : List Char}
    (h : FractionPart fraction more)
    (hnext : ∀ c ∈ rest.head?, c.isDigit = false ∧ c ≠ '.') :
    takeFraction (fraction ++ rest) = (fraction, rest) := by
  cases h with
  | absent =>
    rw [List.nil_append]
    unfold takeFraction
    split
    · next more => simp at hnext
    · rfl
  | present hdigits =>
    have htake := hdigits.takeDigits_eq fun c hc => (hnext c hc).1
    have hne : more.isEmpty = false := by simpa using hdigits.1
    simp [takeFraction, htake, hne]

theorem Digits.takeExponentSign_eq {digits : List Char} (h : Digits digits) {sign : List Char}
    (hsign : sign = [] ∨ sign = ['+'] ∨ sign = ['-']) (rest : List Char) :
    takeExponentSign (sign ++ digits ++ rest) = (sign, digits ++ rest) := by
  rcases hsign with rfl | rfl | rfl
  · obtain ⟨c, cs, rfl, hc⟩ := h.head
    simp only [List.nil_append, List.cons_append]
    unfold takeExponentSign
    split
    · next heq => cases heq; exact absurd hc (by decide)
    · next heq => cases heq; exact absurd hc (by decide)
    · rfl
  · rfl
  · rfl

/-- An exponent that is there, as its mark, a sign and digits. -/
theorem ExponentPart.parts {exponent : List Char} {power : Int} (h : ExponentPart exponent power) :
    exponent = [] ∨ ∃ mark sign digits, exponent = mark :: (sign ++ digits) ∧
      (mark = 'e' ∨ mark = 'E') ∧ (sign = [] ∨ sign = ['+'] ∨ sign = ['-']) ∧ Digits digits := by
  cases h with
  | absent => exact .inl rfl
  | positive hmark hsign h =>
    exact .inr ⟨_, _, _, rfl, hmark, hsign.imp_right .inl, h⟩
  | negative hmark h => exact .inr ⟨_, ['-'], _, rfl, hmark, .inr (.inr rfl), h⟩

theorem ExponentPart.takeExponent_eq {exponent rest : List Char} {power : Int}
    (h : ExponentPart exponent power) (hnext : ∀ c ∈ rest.head?, isNameChar c = false) :
    takeExponent (exponent ++ rest) = (exponent, rest) := by
  rcases h.parts with rfl | ⟨mark, sign, digits, rfl, hmark, hsign, hdigits⟩
  · rw [List.nil_append]
    cases rest with
    | nil => rfl
    | cons c cs =>
      have hc := hnext c rfl
      have hmark : ¬ (c = 'e' ∨ c = 'E') := by
        rintro (rfl | rfl) <;> exact absurd hc (by decide)
      simp only [takeExponent, if_neg hmark]
  · have htake := hdigits.takeDigits_eq fun c hc => not_isDigit_of_not_isNameChar (hnext c hc)
    have hne : digits.isEmpty = false := by simpa using hdigits.1
    rw [List.cons_append]
    simp only [takeExponent, hmark, if_true, hdigits.takeExponentSign_eq hsign, htake, hne]
    rfl

/-- What comes after the digits of a numeral or of its fraction goes on with neither. -/
theorem ExponentPart.head {exponent rest : List Char} {power : Int}
    (h : ExponentPart exponent power) (hnext : ∀ c ∈ rest.head?, c.isDigit = false ∧ c ≠ '.') :
    ∀ c ∈ (exponent ++ rest).head?, c.isDigit = false ∧ c ≠ '.' := by
  intro c hc
  rcases h.parts with rfl | ⟨mark, sign, digits, rfl, hmark, _⟩
  · exact hnext c hc
  · obtain rfl := Option.some.inj hc
    rcases hmark with rfl | rfl <;> decide

theorem FractionPart.head {fraction more rest : List Char} (h : FractionPart fraction more)
    (hnext : ∀ c ∈ rest.head?, c.isDigit = false ∧ c ≠ '.') :
    ∀ c ∈ (fraction ++ rest).head?, c.isDigit = false := by
  intro c hc
  cases h with
  | absent => exact (hnext c hc).1
  | present =>
    obtain rfl := Option.some.inj hc
    decide

theorem SignPart.takeMinus_eq {sign : List Char} {negative : Bool} (h : SignPart sign negative)
    {digits : List Char} (hdigits : Digits digits) (rest : List Char) :
    takeMinus (sign ++ (digits ++ rest)) = (sign, digits ++ rest) := by
  cases h with
  | absent =>
    obtain ⟨c, cs, rfl, hc⟩ := hdigits.head
    simp only [List.nil_append, List.cons_append]
    unfold takeMinus
    split
    · next heq => cases heq; exact absurd hc (by decide)
    · rfl
  | minus => rfl

/-- A numeral is taken as a whole unless the next character goes on with it. -/
theorem Numeral.takeNumber?_eq {token rest : List Char} {negative : Bool} {value : Decimal}
    (h : Numeral token negative value) (hnext : ∀ c ∈ rest.head?, isNameChar c = false) :
    takeNumber? (token ++ rest) = some (token, rest) := by
  cases h with
  | @mk sign digits fraction more exponent _ _ hsign hdigits hfraction hexponent =>
    have hend (c : Char) (hc : c ∈ rest.head?) : c.isDigit = false ∧ c ≠ '.' := by
      refine ⟨not_isDigit_of_not_isNameChar (hnext c hc), ?_⟩
      rintro rfl
      exact absurd (hnext _ hc) (by decide)
    have hmark := hexponent.head hend
    have hne : digits.isEmpty = false := by simpa using hdigits.1
    unfold takeNumber?
    simp only [List.append_assoc, hsign.takeMinus_eq hdigits,
      hdigits.takeDigits_eq (hfraction.head hmark), hfraction.takeFraction_eq hmark,
      hexponent.takeExponent_eq hnext, hne]
    rfl

/-! Numbers. -/

theorem wholeOfInt?_eq_some {value : Int} {n : Int64} (h : wholeOfInt? value = some n) :
    n.toInt = value := by
  unfold wholeOfInt? at h
  split at h
  · next hrange =>
    cases h
    exact Int64.toInt_ofInt_of_le (by omega) (by omega)
  · cases h

theorem wholeOfInt?_toInt (n : Int64) : wholeOfInt? n.toInt = some n := by
  have hle := n.le_toInt
  have hlt := n.toInt_lt
  rw [wholeOfInt?, if_pos (by omega), Int64.ofInt_toInt]

def isMark (c : Char) : Bool := c == '.' || c == 'e' || c == 'E'

theorem Digits.any_isMark {digits : List Char} (h : Digits digits) : digits.any isMark = false := by
  refine List.any_eq_false.mpr fun c hc hmark => ?_
  have hdigit := h.2 c hc
  simp only [isMark, Bool.or_eq_true, beq_iff_eq] at hmark
  rcases hmark with (rfl | rfl) | rfl <;> exact absurd hdigit (by decide)

/-- A sign before digits, or nothing at all. -/
inductive AnySign : List Char → Bool → Prop
  | absent : AnySign [] false
  | plus : AnySign ['+'] false
  | minus : AnySign ['-'] true

theorem SignPart.anySign {sign : List Char} {negative : Bool} (h : SignPart sign negative) :
    AnySign sign negative := by
  cases h with
  | absent => exact .absent
  | minus => exact .minus

theorem AnySign.takeSign_eq {sign rest : List Char} {negative : Bool} (h : AnySign sign negative)
    (hrest : ∀ c ∈ rest.head?, c.isDigit = true ∨ c = '.') :
    takeSign (sign ++ rest) = (negative, rest) := by
  cases h with
  | plus | minus => rfl
  | absent =>
    rw [List.nil_append]
    unfold takeSign
    split
    · exact absurd (hrest '-' rfl) (by decide)
    · exact absurd (hrest '+' rfl) (by decide)
    · rfl

theorem Digits.head_isDigit {digits : List Char} (h : Digits digits) (rest : List Char) :
    ∀ c ∈ (digits ++ rest).head?, c.isDigit = true ∨ c = '.' := by
  obtain ⟨c, cs, rfl, hc⟩ := h.head
  intro d hd
  cases hd
  exact .inl hc

theorem SignPart.takeSign_eq {sign : List Char} {negative : Bool} (h : SignPart sign negative)
    {digits : List Char} (hdigits : Digits digits) (rest : List Char) :
    takeSign (sign ++ (digits ++ rest)) = (negative, digits ++ rest) :=
  h.anySign.takeSign_eq (hdigits.head_isDigit rest)

theorem AnySign.readInt?_eq {sign digits : List Char} {negative : Bool} (h : AnySign sign negative)
    (hdigits : Digits digits) : readInt? (sign ++ digits) =
      some (if negative then -(digitsValue digits : Int) else digitsValue digits) := by
  have htake := h.takeSign_eq fun c hc => hdigits.head_isDigit [] c (by simpa using hc)
  have hne := hdigits.1
  have hall := List.all_eq_true.mpr hdigits.2
  simp [readInt?, htake, hne, hall]

theorem Digits.readInt?_eq {digits : List Char} (h : Digits digits) :
    readInt? digits = some (digitsValue digits : Int) ∧
      readInt? ('-' :: digits) = some (-(digitsValue digits : Int)) :=
  ⟨AnySign.absent.readInt?_eq h, AnySign.minus.readInt?_eq h⟩

theorem WholeNumeral.numeral {token : List Char} {n : Int64} (h : WholeNumeral token n) :
    ∃ negative value, Numeral token negative value := by
  cases h with
  | positive hdigits _ => exact ⟨_, _, by simpa using Numeral.mk .absent hdigits .absent .absent⟩
  | negative hdigits _ => exact ⟨_, _, by simpa using Numeral.mk .minus hdigits .absent .absent⟩

theorem WholeNumeral.read {token : List Char} {n : Int64} (h : WholeNumeral token n) :
    token.any isMark = false ∧ (readInt? token).bind wholeOfInt? = some n := by
  cases h with
  | positive hdigits hvalue =>
    refine ⟨hdigits.any_isMark, ?_⟩
    rw [hdigits.readInt?_eq.1, ← hvalue, Option.bind_some, wholeOfInt?_toInt]
  | negative hdigits hvalue =>
    refine ⟨by rw [List.any_cons, hdigits.any_isMark]; decide, ?_⟩
    rw [hdigits.readInt?_eq.2, ← hvalue, Option.bind_some, wholeOfInt?_toInt]

theorem Numeral.wholeNumeral {token : List Char} {negative : Bool} {value : Decimal}
    (h : Numeral token negative value) (hmark : token.any isMark = false) {n : Int64}
    (hread : (readInt? token).bind wholeOfInt? = some n) : WholeNumeral token n := by
  cases h with
  | @mk sign digits fraction more exponent _ _ hsign hdigits hfraction hexponent =>
    simp only [List.any_append, Bool.or_eq_false_iff] at hmark
    obtain ⟨⟨⟨_, _⟩, hfractionMark⟩, hexponentMark⟩ := hmark
    obtain rfl : fraction = [] := by
      cases hfraction with
      | absent => rfl
      | present => simp [isMark] at hfractionMark
    obtain rfl : exponent = [] := by
      rcases hexponent.parts with h | ⟨mark, sign, digits, rfl, hmark, _⟩
      · exact h
      · rcases hmark with rfl | rfl <;> simp [isMark] at hexponentMark
    simp only [List.append_nil] at hread ⊢
    cases hsign with
    | absent =>
      rw [List.nil_append, hdigits.readInt?_eq.1, Option.bind_some] at hread
      exact .positive hdigits (wholeOfInt?_eq_some hread)
    | minus =>
      rw [List.singleton_append, hdigits.readInt?_eq.2, Option.bind_some] at hread
      exact .negative hdigits (wholeOfInt?_eq_some hread)

theorem ExponentPart.readExponent?_eq {exponent : List Char} {power : Int}
    (h : ExponentPart exponent power) : readExponent? exponent = some power := by
  cases h with
  | absent => rfl
  | @positive mark sign digits hmark hsign hdigits =>
    have hne : digits.isEmpty = false := by simpa using hdigits.1
    have hall : digits.all Char.isDigit = true := List.all_eq_true.mpr hdigits.2
    rcases hsign with rfl | rfl
    · obtain ⟨c, cs, rfl, hc⟩ := hdigits.head
      rw [List.nil_append, readExponent?, if_pos hmark]
      split
      · next hbad => simp [hall] at hbad
      · rfl
      · rintro _ heq
        cases heq
        exact absurd hc (by decide)
      · rintro _ heq
        cases heq
        exact absurd hc (by decide)
    · simp [readExponent?, hmark, hne, hall]
  | @negative mark digits hmark hdigits =>
    have hne : digits.isEmpty = false := by simpa using hdigits.1
    have hall : digits.all Char.isDigit = true := List.all_eq_true.mpr hdigits.2
    simp [readExponent?, hmark, hne, hall]

theorem FractionPart.readFixed?_eq {fraction more rest digits : List Char}
    (h : FractionPart fraction more) (hdigits : Digits digits)
    (hnext : ∀ c ∈ rest.head?, c.isDigit = false ∧ c ≠ '.') :
    readFixed? (digits ++ (fraction ++ rest)) =
      some (⟨digitsValue (digits ++ more), -(more.length : Int)⟩, rest) := by
  have hne : digits.isEmpty = false := by simpa using hdigits.1
  have htake := hdigits.takeDigits_eq (h.head hnext)
  simp only [readFixed?, htake, hne, Bool.false_and, Bool.false_eq_true, if_false]
  cases h with
  | absent =>
    rw [List.nil_append]
    split
    · simp at hnext
    · simp
  | present hmore =>
    have hfraction := hmore.takeDigits_eq fun c hc => (hnext c hc).1
    simp [hfraction]

/-- The whole of a numeral is read, and rounded once. -/
theorem Numeral.readDecimal?_eq {token : List Char} {negative : Bool} {value : Decimal}
    (h : Numeral token negative value) : readDecimal? token = some (value.nearest negative) := by
  cases h with
  | @mk sign digits fraction more exponent _ power hsign hdigits hfraction hexponent =>
    have hend := hexponent.head (show ∀ c ∈ [].head?, c.isDigit = false ∧ c ≠ '.' by simp)
    have hfixed := hfraction.readFixed?_eq hdigits hend
    rw [List.append_nil] at hfixed
    simp only [readDecimal?, List.append_assoc, hsign.takeSign_eq hdigits, hfixed,
      hexponent.readExponent?_eq, Option.bind_eq_bind, Option.bind_some, Option.pure_def]
    rw [show -(more.length : Int) + power = power - more.length by omega]

/-- The number that is read off a numeral is the one that it stands for. -/
theorem Numeral.denotes_iff {token : List Char} {negative : Bool} {value : Decimal}
    (h : Numeral token negative value) (n : Number) :
    numberOfToken? token = some n ↔ Numeral.Denotes token n := by
  have hmarks : (token.any fun c => c == '.' || c == 'e' || c == 'E') = token.any isMark := rfl
  unfold numberOfToken?
  rw [hmarks]
  cases hwhole : (if token.any isMark then none else (readInt? token).bind wholeOfInt?) with
  | some m =>
    have hm : WholeNumeral token m := by
      split at hwhole
      · cases hwhole
      · next hmark => exact h.wholeNumeral (by simpa using hmark) hwhole
    simp only [Option.some.injEq]
    constructor
    · rintro rfl
      exact .whole hm
    · intro hn
      cases hn with
      | whole hn =>
        obtain rfl := Option.some.inj (hm.read.2.symm.trans hn.read.2)
        rfl
      | decimal _ hnone => exact absurd hm (hnone m)
  | none =>
    have hnone (m : Int64) : ¬ WholeNumeral token m := by
      intro hm
      simp [hm.read] at hwhole
    dsimp only
    constructor
    · intro hn
      rw [h.readDecimal?_eq] at hn
      dsimp only at hn
      split at hn
      · next hfinite =>
        cases hn
        exact .decimal h hnone hfinite
      · cases hn
    · intro hn
      cases hn with
      | whole hm => exact absurd hm (hnone _)
      | decimal h _ hfinite => simp [h.readDecimal?_eq, hfinite]

theorem Numeral.Denotes.numeral {token : List Char} {n : Number} (h : Numeral.Denotes token n) :
    ∃ negative value, Numeral token negative value := by
  cases h with
  | whole h => exact h.numeral
  | decimal h => exact ⟨_, _, h⟩

theorem readNumberLiteral?_ok {s t : Rest} {n : Number}
    (h : readNumberLiteral? s = some (.ok (n, t))) :
    ∃ token, Numeral.Denotes token n ∧ s.Passes token t := by
  unfold readNumberLiteral? at h
  split at h
  · cases h
  · next token rest htake =>
    obtain ⟨_, _, hnumeral, hchars⟩ := takeNumber?_eq_some htake
    rw [Option.some.injEq] at h
    split at h
    · next m hm =>
      cases h
      exact ⟨token, (hnumeral.denotes_iff _).mp hm, s.passes_past token rest hchars⟩
    · cases h

theorem Numeral.Denotes.read {token : List Char} {n : Number} (h : Numeral.Denotes token n)
    {s t : Rest} (hpasses : s.Passes token t) (hnext : ∀ c ∈ t.chars.head?, isNameChar c = false) :
    readNumberLiteral? s = some (.ok (n, t)) := by
  obtain ⟨_, _, hnumeral⟩ := h.numeral
  have htake := hnumeral.takeNumber?_eq hnext
  have hvalue := (hnumeral.denotes_iff n).mpr h
  rw [← hpasses.1] at htake
  simp only [readNumberLiteral?, htake, hvalue, ← hpasses.eq_past]

/-! Literals. -/

theorem readBoolean?_eq_some {s t : Rest} {b : Bool} (h : readBoolean? s = some (b, t)) :
    ∃ token, (Literal.boolean b).Spelled token ∧ s.Passes token t := by
  have hpasses := s.takeWhile_passes isWordChar
  unfold readBoolean? at h
  split at h
  next word rest heq =>
    rw [heq] at hpasses
    split at h
    · next hword =>
      cases h
      exact ⟨word, hword ▸ .boolean true, hpasses⟩
    · split at h
      · next hword =>
        cases h
        exact ⟨word, hword ▸ .boolean false, hpasses⟩
      · cases h

theorem readBoolean?_eq {token : List Char} {b : Bool} (h : (Literal.boolean b).Spelled token)
    {s t : Rest} (hpasses : s.Passes token t)
    (hnext : ∀ c ∈ t.chars.head?, isNameChar c = false) : readBoolean? s = some (b, t) := by
  have hword (c : Char) (hc : c ∈ t.chars.head?) : isWordChar c = false :=
    not_isWordChar_of_not_isNameChar (hnext c hc)
  cases h with
  | boolean b =>
    have hall (c : Char) : c ∈ (if b then "true" else "false").toList → isWordChar c = true :=
      List.all_eq_true.mp (by cases b <;> decide) c
    have htake := hpasses.takeWhile_eq hall hword
    cases b <;> simp [readBoolean?, htake]

theorem readLiteral?_ok {s t : Rest} {value : Literal}
    (h : readLiteral? s = some (.ok (value, t))) :
    ∃ token, value.Spelled token ∧ s.Passes token t := by
  unfold readLiteral? at h
  split at h
  · next quoted hquoted =>
    cases quoted with
    | error error => cases h
    | ok found =>
      obtain ⟨text, rest⟩ := found
      cases h
      obtain ⟨token, hspelled, hpasses⟩ := readQuoted?_ok hquoted
      exact ⟨token, .string hspelled, hpasses⟩
  · split at h
    · next number hnumber =>
      cases number with
      | error error => cases h
      | ok found =>
        obtain ⟨n, rest⟩ := found
        cases h
        obtain ⟨token, hspelled, hpasses⟩ := readNumberLiteral?_ok hnumber
        exact ⟨token, .number hspelled, hpasses⟩
    · obtain ⟨⟨b, rest⟩, hboolean, heq⟩ := Option.map_eq_some_iff.mp h
      cases heq
      exact readBoolean?_eq_some hboolean

theorem Numeral.head {token : List Char} {negative : Bool} {value : Decimal}
    (h : Numeral token negative value) :
    ∃ c cs, token = c :: cs ∧ (c = '-' ∨ c.isDigit = true) := by
  cases h with
  | @mk sign digits fraction more exponent _ _ hsign hdigits _ _ =>
    cases hsign with
    | absent =>
      obtain ⟨c, cs, rfl, hc⟩ := hdigits.head
      exact ⟨c, cs ++ fraction ++ exponent, rfl, .inr hc⟩
    | minus => exact ⟨'-', digits ++ fraction ++ exponent, rfl, .inl rfl⟩

theorem Numeral.readQuoted?_eq_none {token : List Char} {negative : Bool} {value : Decimal}
    (h : Numeral token negative value) {s t : Rest} (hpasses : s.Passes token t) :
    readQuoted? s = none := by
  obtain ⟨c, cs, rfl, hc⟩ := h.head
  refine AttrExpr.readQuoted?_eq_none fun d hd => ?_
  obtain rfl := Option.some.inj (hpasses.head.symm.trans hd)
  constructor <;> rintro rfl <;> exact absurd hc (by decide)

/-- A literal starts with a quote, a minus sign, a digit or a letter. -/
theorem Literal.Spelled.head {value : Literal} {token : List Char} (h : value.Spelled token) :
    ∃ c cs, token = c :: cs ∧ (c = '\'' ∨ c = '"' ∨ c = '-' ∨ isWordChar c = true) := by
  cases h with
  | string hquoted =>
    cases hquoted with
    | mk hquote => exact ⟨_, _, rfl, hquote.imp_right .inl⟩
  | number hn =>
    obtain ⟨_, _, hnumeral⟩ := hn.numeral
    obtain ⟨c, cs, rfl, hc⟩ := hnumeral.head
    exact ⟨c, cs, rfl, .inr (.inr (hc.imp_right isWordChar_of_isDigit))⟩
  | boolean b =>
    cases b with
    | true => exact ⟨'t', _, rfl, by decide⟩
    | false => exact ⟨'f', _, rfl, by decide⟩

theorem takeNumber?_eq_none {cs : List Char}
    (h : ∀ c ∈ cs.head?, c ≠ '-' ∧ c.isDigit = false) : takeNumber? cs = none := by
  have hminus : takeMinus cs = ([], cs) := by
    unfold takeMinus
    split
    · simp at h
    · rfl
  have hdigits : takeDigits cs = ([], cs) := by
    cases cs with
    | nil => rfl
    | cons c cs => simp [takeDigits, h c rfl]
  simp [takeNumber?, hminus, hdigits]

theorem Literal.Spelled.read {value : Literal} {token : List Char} (h : value.Spelled token)
    {s t : Rest} (hpasses : s.Passes token t)
    (hnext : ∀ c ∈ t.chars.head?, isNameChar c = false) :
    readLiteral? s = some (.ok (value, t)) := by
  cases h with
  | string hquoted =>
    rw [readLiteral?, hquoted.read hpasses]
    rfl
  | number hn =>
    obtain ⟨_, _, hnumeral⟩ := hn.numeral
    rw [readLiteral?, hnumeral.readQuoted?_eq_none hpasses, hn.read hpasses hnext]
    rfl
  | boolean b =>
    have hhead : s.chars.head? = some (if b then 't' else 'f') := by
      rw [hpasses.1]
      cases b <;> rfl
    have hquoted : readQuoted? s = none := by
      refine readQuoted?_eq_none fun d hd => ?_
      obtain rfl := Option.some.inj (hhead.symm.trans hd)
      cases b <;> decide
    have hnumber : takeNumber? s.chars = none := by
      refine takeNumber?_eq_none fun d hd => ?_
      obtain rfl := Option.some.inj (hhead.symm.trans hd)
      cases b <;> decide
    rw [readLiteral?, hquoted, readNumberLiteral?, hnumber,
      readBoolean?_eq (.boolean b) hpasses hnext]
    rfl

end AttrExpr
