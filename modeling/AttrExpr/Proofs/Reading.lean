import AttrExpr.Proofs.Lexemes

/-! The readers of expressions and templates find what is spelled, and nothing else: a source reads
as a template exactly when it spells it. -/
set_option autoImplicit false

namespace AttrExpr

section

variable {ε α β : Type}

theorem bind_eq_ok {x : Except ε α} {f : α → Except ε β} {b : β} :
    (x >>= f) = .ok b ↔ ∃ a, x = .ok a ∧ f a = .ok b := by
  cases x with
  | error error => simp [bind, Except.bind]
  | ok a => simp [bind, Except.bind]

theorem map_eq_ok {x : Except ε α} {f : α → β} {b : β} :
    x.map f = .ok b ↔ ∃ a, x = .ok a ∧ f a = b := by
  cases x with
  | error error => simp [Except.map]
  | ok a => simp [Except.map]

theorem Rest.fail_ne_ok {s : Rest} {fault : Fault} {a : α} : s.fail fault ≠ .ok a := nofun

/-- A reader finds only what is spelled. -/
def Read.Sound (read : Read α) (Spelled : α → Rest → Rest → Prop) : Prop :=
  ∀ s found t, read s = .ok (found, t) → Spelled found s t

end

/-! Nothing but what is spelled is read. -/

theorem readClosing_ok {opening s t : Rest} (h : readClosing opening s = .ok t) :
    ∃ closing, s.Skips closing ∧ closing.Passes ['\x7d'] t := by
  simp only [readClosing] at h
  split at h
  · exact absurd h Rest.fail_ne_ok
  · split at h
    · next hclosing =>
      cases h
      exact ⟨_, s.skips_skipBlanks, Rest.after?_eq_some_iff.mp hclosing⟩
    · exact absurd h Rest.fail_ne_ok

section

variable {expression : Read Expression} (hexpression : expression.Sound Expression.Spelled)

include hexpression

theorem readEmbedded?_ok {expr : Expression} {s t : Rest}
    (h : readEmbedded? expression s = some (.ok (expr, t))) : EmbeddedSpelled expr s t := by
  unfold readEmbedded? at h
  split at h
  · cases h
  · next inner hopening =>
    obtain ⟨⟨found, last⟩, hfound, h⟩ := bind_eq_ok.mp (Option.some.inj h)
    obtain ⟨rest, hclosing, h⟩ := bind_eq_ok.mp h
    cases h
    obtain ⟨closing, hbefore, hclosing⟩ := readClosing_ok hclosing
    exact .mk (Rest.afterOpening?_eq_some_iff.mp hopening) inner.skips_skipBlanks
      (hexpression _ _ _ hfound) hbefore hclosing

theorem readArgument_sound : (readArgument expression).Sound Argument.Spelled := by
  intro s arg t h
  unfold readArgument at h
  split at h
  · exact absurd h Rest.fail_ne_ok
  · split at h
    · next embedded hembedded =>
      obtain ⟨⟨expr, rest⟩, hok, heq⟩ := map_eq_ok.mp h
      cases heq
      exact .expression (readEmbedded?_ok hexpression (hembedded.trans (congrArg some hok)))
    · split at h
      · next literal hliteral =>
        obtain ⟨⟨value, rest⟩, hok, heq⟩ := map_eq_ok.mp h
        cases heq
        obtain ⟨token, hvalue, hpasses⟩ := readLiteral?_ok (hliteral.trans (congrArg some hok))
        exact .literal hvalue hpasses
      · exact absurd h Rest.fail_ne_ok

theorem readArgumentsFrom_sound (fuel : Nat) :
    (readArgumentsFrom expression fuel).Sound MoreArgumentsSpelled := by
  induction fuel with
  | zero => exact fun s args t h => absurd h Rest.fail_ne_ok
  | succ fuel ih =>
    intro s args t h
    rw [readArgumentsFrom] at h
    dsimp only at h
    split at h
    · next next hcomma =>
      obtain ⟨⟨arg, between⟩, harg, h⟩ := bind_eq_ok.mp h
      obtain ⟨⟨more, last⟩, hmore, h⟩ := bind_eq_ok.mp h
      cases h
      exact .cons s.skips_skipBlanks (Rest.after?_eq_some_iff.mp hcomma) next.skips_skipBlanks
        (readArgument_sound hexpression _ _ _ harg) (ih _ _ _ hmore)
    · split at h
      · exact absurd h Rest.fail_ne_ok
      · split at h
        · next rest hclosing =>
          cases h
          exact .nil s.skips_skipBlanks (Rest.after?_eq_some_iff.mp hclosing)
        · exact absurd h Rest.fail_ne_ok

theorem readArguments_sound : (readArguments expression).Sound ArgumentsSpelled := by
  intro s args t h
  unfold readArguments at h
  split at h
  · exact absurd h Rest.fail_ne_ok
  · next inner hopening =>
    dsimp only at h
    split at h
    · next rest hclosing =>
      cases h
      exact .none (Rest.after?_eq_some_iff.mp hopening) inner.skips_skipBlanks
        (Rest.after?_eq_some_iff.mp hclosing)
    · obtain ⟨⟨arg, between⟩, harg, h⟩ := bind_eq_ok.mp h
      obtain ⟨⟨more, last⟩, hmore, h⟩ := bind_eq_ok.mp h
      cases h
      exact .some (Rest.after?_eq_some_iff.mp hopening) inner.skips_skipBlanks
        (readArgument_sound hexpression _ _ _ harg)
        (readArgumentsFrom_sound hexpression _ _ _ _ hmore)

theorem readCall_sound : (readCall expression).Sound Call.Spelled := by
  intro s call t h
  have hpasses := s.takeWhile_passes isWordChar
  have hname (c : Char) : c ∈ (s.takeWhile isWordChar).1 → isWordChar c = true :=
    Rest.of_mem_takeWhile
  unfold readCall at h
  generalize s.takeWhile isWordChar = word at h hpasses hname
  obtain ⟨name, rest⟩ := word
  dsimp only at h hpasses hname
  split at h
  · exact absurd h Rest.fail_ne_ok
  · next hne =>
    split at h
    · exact absurd h Rest.fail_ne_ok
    · obtain ⟨⟨args, last⟩, hargs, h⟩ := bind_eq_ok.mp h
      cases h
      exact .mk (by simpa using hne) hname hpasses rest.skips_skipBlanks
        (readArguments_sound hexpression _ _ _ hargs)

theorem readChain_sound (fuel : Nat) : (readChain expression fuel).Sound ChainSpelled := by
  induction fuel with
  | zero =>
    intro s calls t h
    cases h
    exact .nil
  | succ fuel ih =>
    intro s calls t h
    rw [readChain] at h
    split at h
    · cases h
      exact .nil
    · next next hcolon =>
      obtain ⟨⟨call, between⟩, hcall, h⟩ := bind_eq_ok.mp h
      obtain ⟨⟨more, last⟩, hmore, h⟩ := bind_eq_ok.mp h
      cases h
      exact .cons s.skips_skipBlanks (Rest.after?_eq_some_iff.mp hcolon) next.skips_skipBlanks
        (readCall_sound hexpression _ _ _ hcall) (ih _ _ _ hmore)

theorem readSubject_sound : (readSubject expression).Sound Subject.Spelled := by
  intro s subject t h
  have hpasses := s.takeWhile_passes isNameChar
  have hname (c : Char) : c ∈ (s.takeWhile isNameChar).1 → isNameChar c = true :=
    Rest.of_mem_takeWhile
  unfold readSubject at h
  generalize s.takeWhile isNameChar = word at h hpasses hname
  obtain ⟨name, rest⟩ := word
  dsimp only at h hpasses hname
  split at h
  · next quoted hquoted =>
    obtain ⟨⟨found, last⟩, hok, heq⟩ := map_eq_ok.mp h
    cases heq
    obtain ⟨token, hspelled, hpasses⟩ := readQuoted?_ok (hquoted.trans (congrArg some hok))
    exact .quoted hspelled hpasses
  · split at h
    · exact absurd h Rest.fail_ne_ok
    · next hne =>
      split at h
      · obtain ⟨⟨inner, last⟩, hok, heq⟩ := map_eq_ok.mp h
        cases heq
        exact .call (readCall_sound hexpression _ _ _ hok)
      · cases h
        exact .bare (by simpa using hne) hname hpasses

end

theorem readExpression_sound (fuel : Nat) : (readExpression fuel).Sound Expression.Spelled := by
  induction fuel with
  | zero => exact fun s expr t h => absurd h Rest.fail_ne_ok
  | succ fuel ih =>
    intro s expr t h
    rw [readExpression] at h
    obtain ⟨⟨subject, between⟩, hsubject, h⟩ := bind_eq_ok.mp h
    obtain ⟨⟨chain, last⟩, hchain, h⟩ := bind_eq_ok.mp h
    cases h
    exact .mk (readSubject_sound ih _ _ _ hsubject) (readChain_sound ih _ _ _ _ hchain)

/-! Text. -/

theorem TextSpelled.append {following token more text moreText : List Char}
    (h : TextSpelled (more ++ following) token text) (h' : TextSpelled following more moreText) :
    TextSpelled following (token ++ more) (text ++ moreText) := by
  induction h with
  | nil => exact h'
  | pair _ ih => exact .pair ih
  | dollar hnext _ ih => exact .dollar (by simpa using hnext) ih
  | plain hc _ ih => exact .plain hc ih

theorem TextSpelled.of_plain (following : List Char) {token : List Char}
    (h : ∀ c ∈ token, c ≠ '$') : TextSpelled following token token := by
  induction token with
  | nil => exact .nil
  | cons c cs ih =>
    exact .plain (h c (by simp)) (ih fun d hd => h d (by simp [hd]))

theorem Rest.Reaches.merge_upTo {s t u : Rest} (h : s.Reaches t) (h' : t.Reaches u) :
    (s.upTo t).merge (t.upTo u) = s.upTo u := by
  have hst := h.offset_le
  have htu := h'.offset_le
  simp [upTo, Span.merge, Nat.min_eq_left hst, Nat.max_eq_right htu]

/-- Text in front of segments stays apart from them or becomes part of the first. -/
theorem SegmentsSpelled.consText {segments : List Segment} {t : Rest}
    (h : SegmentsSpelled segments t) {token text : List Char} {s : Rest} (hne : token ≠ [])
    (hpasses : s.Passes token t)
    (htext : TextSpelled t.chars token text) :
    SegmentsSpelled (consText text (s.upTo t) segments) s := by
  cases h with
  | nil hend => exact .text hne hpasses htext (by simp) (.nil hend)
  | @text more moreText segments _ u hmore hpasses' htext' hapart hsegments =>
    rw [AttrExpr.consText, hpasses.reaches.merge_upTo hpasses'.reaches]
    rw [hpasses'.1] at htext
    exact .text (by simp [hne]) (hpasses.trans hpasses') (htext.append htext') hapart hsegments
  | expression hexpr hsegments =>
    exact .text hne hpasses htext (by simp [Segment.isText]) (.expression hexpr hsegments)

theorem EmbeddedSpelled.length_lt {expr : Expression} {s t : Rest} (h : EmbeddedSpelled expr s t) :
    t.chars.length < s.chars.length := by
  cases h with
  | mk hopening hafter hexpr hbefore hclosing =>
    have hfirst := hopening.length_eq
    have hrest := (hafter.reaches.trans (hexpr.reaches.trans
      (hbefore.reaches.trans hclosing.reaches))).length_le
    simp at hfirst
    omega

theorem readEmbedded?_eq_none {expression : Read Expression} {s : Rest}
    (h : s.afterOpening? = none) : readEmbedded? expression s = none := by
  rw [readEmbedded?, h]

theorem afterOpening?_of_readEmbedded?_eq_none {expression : Read Expression} {s : Rest}
    (h : readEmbedded? expression s = none) : s.afterOpening? = none := by
  unfold readEmbedded? at h
  split at h
  · assumption
  · cases h

/-- What follows a dollar sign that stands for itself. -/
theorem Rest.next_of_lone_dollar {s : Rest} {cs : List Char} (hchars : s.chars = '$' :: cs)
    (hpair : ∀ more, cs = '$' :: more → False) (hopening : s.afterOpening? = none) :
    ∀ c ∈ cs.head?, c ≠ '$' ∧ c ≠ '\x7b' := by
  intro c hc
  obtain ⟨more, rfl⟩ := List.head?_eq_some_iff.mp hc
  refine ⟨?_, ?_⟩
  · rintro rfl
    exact hpair more rfl
  · rintro rfl
    simp [Rest.afterOpening?, Rest.after?, hchars] at hopening

theorem Rest.run_ne_nil {s : Rest} (hnil : s.chars ≠ [])
    (hdollar : ∀ cs, s.chars = '$' :: cs → False) : (s.takeWhile (· != '$')).1 ≠ [] := by
  obtain ⟨c, cs, hchars⟩ := List.exists_cons_of_ne_nil hnil
  have hc : c ≠ '$' := by
    rintro rfl
    exact hdollar cs hchars
  simp [Rest.takeWhile, hchars, hc]

theorem readSegments_sound (fuel : Nat) (s : Rest) (segments : List Segment)
    (hfuel : s.chars.length ≤ fuel) (h : readSegments fuel s = .ok segments) :
    SegmentsSpelled segments s := by
  induction fuel generalizing s segments with
  | zero =>
    cases h
    exact .nil (by simpa using hfuel)
  | succ fuel ih =>
    rw [readSegments] at h
    split at h
    · next hchars =>
      cases h
      exact .nil hchars
    · next cs hchars =>
      have hpasses := s.passes_past ['$', '$'] cs hchars
      have hlength := hpasses.length_eq
      obtain ⟨more, hmore, h⟩ := bind_eq_ok.mp h
      cases h
      exact (ih _ _ (by simp at hlength; omega) hmore).consText (by simp) hpasses (.pair .nil)
    · next cs hpair hchars =>
      split at h
      · next embedded hembedded =>
        obtain ⟨⟨expr, rest⟩, hok, h⟩ := bind_eq_ok.mp h
        obtain ⟨more, hmore, h⟩ := bind_eq_ok.mp h
        cases h
        have hexpr := readEmbedded?_ok (readExpression_sound _)
          (hembedded.trans (congrArg some hok))
        have hlength := hexpr.length_lt
        exact .expression hexpr (ih _ _ (by omega) hmore)
      · next hembedded =>
        have hpasses := s.passes_past ['$'] cs hchars
        have hlength := hpasses.length_eq
        have hopening := afterOpening?_of_readEmbedded?_eq_none hembedded
        obtain ⟨more, hmore, h⟩ := bind_eq_ok.mp h
        cases h
        exact (ih _ _ (by simp at hlength; omega) hmore).consText (by simp) hpasses
          (.dollar (Rest.next_of_lone_dollar hchars hpair hopening) .nil)
    · next hnil hpair hdollar =>
      have hpasses := s.takeWhile_passes (· != '$')
      have hplain (c : Char) (hc : c ∈ (s.takeWhile (· != '$')).1) : c ≠ '$' := by
        simpa using Rest.of_mem_takeWhile hc
      have hne := Rest.run_ne_nil hnil hdollar
      generalize s.takeWhile (· != '$') = run at h hpasses hplain hne
      obtain ⟨text, rest⟩ := run
      obtain ⟨more, hmore, h⟩ := bind_eq_ok.mp h
      cases h
      have hlength := hpasses.length_eq
      have hpos := List.length_pos_iff.mpr hne
      exact (ih _ _ (by dsimp only at hlength hpos ⊢; omega) hmore).consText hne hpasses
        (.of_plain _ hplain)

/-! All that is spelled is read. -/

namespace Rest

variable {s t u : Rest} {c d : Char}

theorem after?_eq_none_of_head (hhead : s.chars.head? = some c) (hd : d ≠ c) :
    s.after? d = none :=
  after?_eq_none (by rw [hhead]; simpa using hd.symm)

/-- After blanks comes this character. -/
def Next (s : Rest) (c : Char) : Prop := s.skipBlanks.chars.head? = some c

theorem Next.after?_eq_none (h : s.Next c) (hd : d ≠ c) : s.skipBlanks.after? d = none :=
  after?_eq_none_of_head h hd

theorem Next.head (h : s.Next c) (hc : isNameChar c = false) :
    ∀ first ∈ s.chars.head?, isNameChar first = false := by
  intro first hfirst
  obtain ⟨blanks, hpasses, hblanks⟩ := s.skips_skipBlanks
  cases blanks with
  | nil =>
    rw [show s.chars = s.skipBlanks.chars from hpasses.1, h] at hfirst
    exact Option.some.inj hfirst ▸ hc
  | cons b bs =>
    obtain rfl := Option.some.inj (hpasses.head.symm.trans hfirst)
    exact isNameChar_of_isBlank (hblanks b (by simp))

theorem Skips.skipBlanks_eq_of_head (h : s.Skips t) (hhead : t.chars.head? = some c)
    (hc : isBlank c = false) : s.skipBlanks = t :=
  h.skipBlanks_eq fun _ hfirst => Option.some.inj (hhead.symm.trans hfirst) ▸ hc

theorem Skips.next (h : s.Skips t) (hpasses : t.Passes [c] u) (hc : isBlank c = false) :
    s.Next c := by
  rw [Next, h.skipBlanks_eq_of_head hpasses.head hc]
  exact hpasses.head

end Rest

theorem isBlank_of_isNameChar {c : Char} (h : isNameChar c = true) : isBlank c = false :=
  Bool.eq_false_iff.mpr fun hc => by simp [isNameChar_of_isBlank hc] at h

theorem isBlank_of_isWordChar {c : Char} (h : isWordChar c = true) : isBlank c = false :=
  isBlank_of_isNameChar (isNameChar_of_isWordChar h)

theorem readQuoted?_eq_none_of_isNameChar {s : Rest} {c : Char} (hhead : s.chars.head? = some c)
    (hc : isNameChar c = true) : readQuoted? s = none := by
  refine readQuoted?_eq_none fun d hd => ?_
  obtain rfl := Option.some.inj (hhead.symm.trans hd)
  constructor <;> rintro rfl <;> exact absurd hc (by decide)

theorem Call.Spelled.head {call : Call} {s t : Rest} (h : call.Spelled s t) :
    ∃ c, s.chars.head? = some c ∧ isWordChar c = true := by
  cases h with
  | @mk name args s after opening t hne hname hpasses hafter hargs =>
    obtain ⟨c, cs, rfl⟩ := List.exists_cons_of_ne_nil hne
    exact ⟨c, hpasses.head, hname c (by simp)⟩

theorem Argument.Spelled.head {arg : Argument} {s t : Rest} (h : arg.Spelled s t) :
    ∃ c, s.chars.head? = some c ∧ isBlank c = false ∧ c ≠ ')' := by
  cases h with
  | literal hvalue hpasses =>
    obtain ⟨c, cs, rfl, hc⟩ := hvalue.head
    refine ⟨c, hpasses.head, ?_⟩
    rcases hc with rfl | rfl | rfl | hc
    · decide
    · decide
    · decide
    · refine ⟨isBlank_of_isNameChar (isNameChar_of_isWordChar hc), ?_⟩
      rintro rfl
      exact absurd hc (by decide)
  | expression hexpr =>
    cases hexpr with
    | mk hopening => exact ⟨'$', hopening.head, by decide⟩

theorem ArgumentsSpelled.passes {args : List Argument} {s t : Rest}
    (h : ArgumentsSpelled args s t) : ∃ after, s.Passes ['('] after := by
  cases h with
  | none hopening => exact ⟨_, hopening⟩
  | some hopening => exact ⟨_, hopening⟩

theorem Call.Spelled.name {call : Call} {s t : Rest} (h : call.Spelled s t) :
    ∃ name after, name ≠ [] ∧ (∀ c ∈ name, isNameChar c = true) ∧ s.Passes name after ∧
      after.Next '(' := by
  cases h with
  | mk hne hname hpasses hafter hargs =>
    obtain ⟨inner, hopening⟩ := hargs.passes
    exact ⟨_, _, hne, fun c hc => isNameChar_of_isWordChar (hname c hc), hpasses,
      hafter.next hopening (by decide)⟩

theorem Quoted.head {token text : List Char} (h : Quoted token text) :
    ∃ c cs, token = c :: cs ∧ (c = '\'' ∨ c = '"') := by
  cases h with
  | mk hquote => exact ⟨_, _, rfl, hquote⟩

theorem Subject.Spelled.head {subject : Subject} {s t : Rest} (h : subject.Spelled s t) :
    ∃ c, s.chars.head? = some c ∧ isBlank c = false := by
  cases h with
  | @bare name s t hne hname hpasses =>
    obtain ⟨c, cs, rfl⟩ := List.exists_cons_of_ne_nil hne
    exact ⟨c, hpasses.head, isBlank_of_isNameChar (hname c (by simp))⟩
  | quoted hquoted hpasses =>
    obtain ⟨c, cs, rfl, hc⟩ := hquoted.head
    exact ⟨c, hpasses.head, by rcases hc with rfl | rfl <;> decide⟩
  | call hcall =>
    obtain ⟨c, hhead, hc⟩ := hcall.head
    exact ⟨c, hhead, isBlank_of_isNameChar (isNameChar_of_isWordChar hc)⟩

theorem Expression.Spelled.head {expr : Expression} {s t : Rest} (h : expr.Spelled s t) :
    ∃ c, s.chars.head? = some c ∧ isBlank c = false := by
  cases h with
  | mk hsubject _ => exact hsubject.head

theorem Subject.Spelled.length_lt {subject : Subject} {s t : Rest} (h : subject.Spelled s t) :
    t.chars.length < s.chars.length := by
  cases h with
  | bare hne _ hpasses =>
    have hlength := hpasses.length_eq
    have hpos := List.length_pos_iff.mpr hne
    omega
  | quoted hquoted hpasses =>
    obtain ⟨c, cs, rfl, _⟩ := hquoted.head
    have hlength := hpasses.length_eq
    simp only [List.length_cons] at hlength
    omega
  | call hcall =>
    cases hcall with
    | mk hne _ hpasses hafter hargs =>
      have hlength := hpasses.length_eq
      have hpos := List.length_pos_iff.mpr hne
      have hrest := (hafter.reaches.trans hargs.reaches).length_le
      omega

theorem ChainSpelled.next {calls : List Call} {s t : Rest} (h : ChainSpelled calls s t)
    (hnext : t.Next '\x7d') : s.Next ':' ∨ s.Next '\x7d' := by
  cases h with
  | nil => exact .inr hnext
  | cons hbefore hcolon => exact .inl (hbefore.next hcolon (by decide))

theorem MoreArgumentsSpelled.head {args : List Argument} {s t : Rest}
    (h : MoreArgumentsSpelled args s t) : ∀ c ∈ s.chars.head?, isNameChar c = false := by
  cases h with
  | nil hskips hclosing => exact (hskips.next hclosing (by decide)).head (by decide)
  | cons hbefore hcomma => exact (hbefore.next hcomma (by decide)).head (by decide)

theorem any_eq_false {p : Char → Bool} {next : Option Char} (h : ∀ c ∈ next, p c = false) :
    next.any p = false := by
  cases next with
  | none => rfl
  | some c => exact h c rfl

theorem readClosing_eq {opening s closing t : Rest} (hskips : s.Skips closing)
    (hclosing : closing.Passes ['\x7d'] t) : readClosing opening s = .ok t := by
  have hblanks := hskips.skipBlanks_eq_of_head hclosing.head (by decide)
  simp [readClosing, hblanks, hclosing.1, Rest.after?_eq_some_iff.mpr hclosing]

mutual

theorem Expression.Spelled.read {expr : Expression} {s t : Rest} :
    expr.Spelled s t → ∀ fuel, t.Next '\x7d' → s.chars.length ≤ t.chars.length + fuel →
      readExpression fuel s = .ok (expr, t)
  | .mk hsubject hchain => by
    intro fuel hnext hfuel
    have hlt := hsubject.length_lt
    have hle := hchain.reaches.length_le
    cases fuel with
    | zero => omega
    | succ fuel =>
      have hsubject := hsubject.read fuel (hchain.next hnext) (by omega)
      have hchain := hchain.read fuel _ hnext (by omega) (Nat.le_add_left _ _)
      rw [readExpression, hsubject]
      dsimp only [bind, Except.bind]
      rw [hchain]
      rfl

theorem Subject.Spelled.read {subject : Subject} {s t : Rest} :
    subject.Spelled s t → ∀ fuel, t.Next ':' ∨ t.Next '\x7d' →
      s.chars.length ≤ t.chars.length + fuel + 1 →
      readSubject (readExpression fuel) s = .ok (subject, t)
  | .bare hne hname hpasses => by
    intro fuel hnext _
    obtain ⟨c, cs, rfl⟩ := List.exists_cons_of_ne_nil hne
    have hquoted := readQuoted?_eq_none_of_isNameChar hpasses.head (hname c (by simp))
    have hhead : ∀ d ∈ t.chars.head?, isNameChar d = false :=
      hnext.elim (·.head (by decide)) (·.head (by decide))
    have hcall : t.skipBlanks.after? '(' = none :=
      hnext.elim (·.after?_eq_none (by decide)) (·.after?_eq_none (by decide))
    simp [readSubject, hquoted, hpasses.takeWhile_eq hname hhead, hcall]
  | .quoted hquoted hpasses => by
    intro fuel hnext hfuel
    rw [readSubject, hquoted.read hpasses]
    rfl
  | .call hcall => by
    intro fuel _ hfuel
    obtain ⟨name, after, hne, hname, hpasses, hafter⟩ := hcall.name
    obtain ⟨c, cs, rfl⟩ := List.exists_cons_of_ne_nil hne
    have hquoted := readQuoted?_eq_none_of_isNameChar hpasses.head (hname c (by simp))
    have htake := hpasses.takeWhile_eq hname (hafter.head (by decide))
    have hopening : after.skipBlanks.after? '(' ≠ none := by
      rw [Rest.after?]
      obtain ⟨cs, hchars⟩ := List.head?_eq_some_iff.mp hafter
      simp [hchars]
    obtain ⟨inner, hinner⟩ := Option.ne_none_iff_exists'.mp hopening
    have hread := hcall.read fuel hfuel
    simp [readSubject, hquoted, htake, hinner, hread, Except.map]

theorem ChainSpelled.read {calls : List Call} {s t : Rest} :
    ChainSpelled calls s t → ∀ fuel count, t.Next '\x7d' →
      s.chars.length ≤ t.chars.length + fuel + 1 → s.chars.length ≤ t.chars.length + count →
      readChain (readExpression fuel) count s = .ok (calls, t)
  | .nil => by
    intro fuel count hnext _ _
    cases count with
    | zero => rfl
    | succ count => rw [readChain, hnext.after?_eq_none (by decide)]
  | .cons hbefore hcolon hafter hcall hcalls => by
    intro fuel count hnext hfuel hcount
    obtain ⟨c, hhead, hc⟩ := hcall.head
    have hlength := hcolon.length_eq
    have hbeforeLe := hbefore.reaches.length_le
    have hafterLe := hafter.reaches.length_le
    have hcallLe := hcall.reaches.length_le
    have hcallsLe := hcalls.reaches.length_le
    simp only [List.length_singleton] at hlength
    cases count with
    | zero => omega
    | succ count =>
      have hblanks := hbefore.skipBlanks_eq_of_head hcolon.head (by decide)
      have hfirst := hafter.skipBlanks_eq_of_head hhead (isBlank_of_isWordChar hc)
      have hcall := hcall.read fuel (by omega)
      have hcalls := hcalls.read fuel count hnext (by omega) (by omega)
      rw [readChain, hblanks, Rest.after?_eq_some_iff.mpr hcolon]
      simp only [hfirst, hcall, hcalls, bind, Except.bind, pure, Except.pure]

theorem Call.Spelled.read {call : Call} {s t : Rest} :
    call.Spelled s t → ∀ fuel, s.chars.length ≤ t.chars.length + fuel + 1 →
      readCall (readExpression fuel) s = .ok (call, t)
  | .mk hne hname hpasses hafter hargs => by
    intro fuel hfuel
    obtain ⟨inner, hopening⟩ := hargs.passes
    have hhead := (hafter.next hopening (by decide)).head (by decide)
    have hword := hpasses.takeWhile_eq hname fun c hc =>
      not_isWordChar_of_not_isNameChar (hhead c hc)
    have hblanks := hafter.skipBlanks_eq_of_head hopening.head (by decide)
    have hpassesLe := hpasses.reaches.length_le
    have hafterLe := hafter.reaches.length_le
    have hargs := hargs.read fuel (by omega)
    have hinvalid := any_eq_false hhead
    simp [readCall, hword, hne, hinvalid, hblanks, hargs, bind, Except.bind, pure, Except.pure]

theorem ArgumentsSpelled.read {args : List Argument} {s t : Rest} :
    ArgumentsSpelled args s t → ∀ fuel, s.chars.length ≤ t.chars.length + fuel + 1 →
      readArguments (readExpression fuel) s = .ok (args, t)
  | .none hopening hskips hclosing => by
    intro fuel _
    have hblanks := hskips.skipBlanks_eq_of_head hclosing.head (by decide)
    simp only [readArguments, Rest.after?_eq_some_iff.mpr hopening, hblanks,
      Rest.after?_eq_some_iff.mpr hclosing]
  | .some hopening hskips harg hargs => by
    intro fuel hfuel
    obtain ⟨c, hhead, hc, hclosing⟩ := harg.head
    have hblanks := hskips.skipBlanks_eq_of_head hhead hc
    have hnone := Rest.after?_eq_none_of_head hhead hclosing.symm
    have hopeningLe := hopening.reaches.length_le
    have hskipsLe := hskips.reaches.length_le
    have hargLe := harg.reaches.length_le
    have hargsLe := hargs.reaches.length_le
    have harg := harg.read fuel hargs.head (by omega)
    have hargs := hargs.read fuel _ (by omega) (Nat.le_add_left _ _)
    simp only [readArguments, Rest.after?_eq_some_iff.mpr hopening, hblanks, hnone, harg, hargs,
      bind, Except.bind, pure, Except.pure]

theorem MoreArgumentsSpelled.read {args : List Argument} {s t : Rest} :
    MoreArgumentsSpelled args s t → ∀ fuel count, s.chars.length ≤ t.chars.length + fuel + 1 →
      s.chars.length ≤ t.chars.length + count →
      readArgumentsFrom (readExpression fuel) count s = .ok (args, t)
  | .nil hskips hclosing => by
    intro fuel count _ hcount
    have hlength := hclosing.length_eq
    have hskipsLe := hskips.reaches.length_le
    simp only [List.length_singleton] at hlength
    cases count with
    | zero => omega
    | succ count =>
      have hblanks := hskips.skipBlanks_eq_of_head hclosing.head (by decide)
      have hnone := Rest.after?_eq_none_of_head hclosing.head (show ',' ≠ ')' by decide)
      simp [readArgumentsFrom, hblanks, hnone, hclosing.1, Rest.after?_eq_some_iff.mpr hclosing]
  | .cons hbefore hcomma hafter harg hargs => by
    intro fuel count hfuel hcount
    obtain ⟨c, hhead, hc, _⟩ := harg.head
    have hlength := hcomma.length_eq
    have hbeforeLe := hbefore.reaches.length_le
    have hafterLe := hafter.reaches.length_le
    have hargLe := harg.reaches.length_le
    have hargsLe := hargs.reaches.length_le
    simp only [List.length_singleton] at hlength
    cases count with
    | zero => omega
    | succ count =>
      have hblanks := hbefore.skipBlanks_eq_of_head hcomma.head (by decide)
      have hfirst := hafter.skipBlanks_eq_of_head hhead hc
      have harg := harg.read fuel hargs.head (by omega)
      have hargs := hargs.read fuel count (by omega) (by omega)
      simp only [readArgumentsFrom, hblanks, Rest.after?_eq_some_iff.mpr hcomma, hfirst, harg,
        hargs, bind, Except.bind, pure, Except.pure]

theorem Argument.Spelled.read {arg : Argument} {s t : Rest} :
    arg.Spelled s t → ∀ fuel, (∀ c ∈ t.chars.head?, isNameChar c = false) →
      s.chars.length ≤ t.chars.length + fuel + 1 →
      readArgument (readExpression fuel) s = .ok (arg, t)
  | .literal hvalue hpasses => by
    intro fuel hnext _
    obtain ⟨c, cs, rfl, hc⟩ := hvalue.head
    have hdollar : c ≠ '$' := by
      rintro rfl
      exact absurd hc (by decide)
    have hopening := Rest.afterOpening?_eq_none (by rw [hpasses.head]; simpa using hdollar)
    have hchars := hpasses.1
    rw [List.cons_append] at hchars
    simp [readArgument, hchars, readEmbedded?_eq_none hopening, hvalue.read hpasses hnext,
      Except.map]
  | .expression hexpr => by
    intro fuel _ hfuel
    obtain ⟨c, hhead, _⟩ := (Argument.Spelled.expression hexpr).head
    obtain ⟨cs, hchars⟩ := List.head?_eq_some_iff.mp hhead
    have hembedded := hexpr.read fuel hfuel
    simp [readArgument, hchars, hembedded, Except.map]

theorem EmbeddedSpelled.read {expr : Expression} {s t : Rest} :
    EmbeddedSpelled expr s t → ∀ fuel, s.chars.length ≤ t.chars.length + fuel + 1 →
      readEmbedded? (readExpression fuel) s = some (.ok (expr, t))
  | .mk hopening hafter hexpr hbefore hclosing => by
    intro fuel hfuel
    obtain ⟨c, hhead, hc⟩ := hexpr.head
    have hfirst := hafter.skipBlanks_eq_of_head hhead hc
    have hopeningLength := hopening.length_eq
    have hclosingLength := hclosing.length_eq
    have hafterLe := hafter.reaches.length_le
    have hbeforeLe := hbefore.reaches.length_le
    simp only [List.length_cons, List.length_nil] at hopeningLength hclosingLength
    have hexpr := hexpr.read fuel (hbefore.next hclosing (by decide)) (by omega)
    simp only [readEmbedded?, Rest.afterOpening?_eq_some_iff.mpr hopening, hfirst, hexpr,
      readClosing_eq hbefore hclosing, bind, Except.bind, pure, Except.pure]

end

/-! Segments. -/

theorem TextSpelled.run {following token text : List Char} (h : TextSpelled following token text) :
    ∃ run more moreText, token = run ++ more ∧ text = run ++ moreText ∧ (∀ c ∈ run, c ≠ '$') ∧
      (∀ c ∈ more.head?, c = '$') ∧ TextSpelled following more moreText := by
  induction h with
  | nil => exact ⟨[], [], [], rfl, rfl, by simp, by simp, .nil⟩
  | pair h => exact ⟨[], _, _, rfl, rfl, by simp, by simp, .pair h⟩
  | dollar hnext h => exact ⟨[], _, _, rfl, rfl, by simp, by simp, .dollar hnext h⟩
  | @plain c _ _ hc h ih =>
    obtain ⟨run, more, moreText, rfl, rfl, hrun, hmore, hspelled⟩ := ih
    refine ⟨c :: run, more, moreText, rfl, rfl, ?_, hmore, hspelled⟩
    simpa [hc] using hrun

theorem TextSpelled.text_eq_nil {following text : List Char} (h : TextSpelled following [] text) :
    text = [] := by
  cases h
  rfl

theorem SegmentsSpelled.head {segments : List Segment} {s : Rest} (h : SegmentsSpelled segments s)
    (hapart : ∀ segment ∈ segments.head?, segment.isText = false) :
    ∀ c ∈ s.chars.head?, c = '$' := by
  cases h with
  | nil hend => simp [hend]
  | text => simp [Segment.isText] at hapart
  | expression hexpr =>
    cases hexpr with
    | mk hopening => simp [hopening.head]

/-- Text in front of segments that start with no text, when there is any. -/
def withText (text : List Char) (span : Span) (token : List Char) (segments : List Segment) :
    List Segment :=
  if token.isEmpty then segments else .text text span :: segments

theorem consText_withText {segments : List Segment}
    (hapart : ∀ segment ∈ segments.head?, segment.isText = false) {s between t : Rest}
    {token text : List Char} (hreaches : s.Reaches between) (hpasses : between.Passes token t)
    (htext : TextSpelled t.chars token text) (before : List Char) :
    consText before (s.upTo between) (withText text (between.upTo t) token segments) =
      .text (before ++ text) (s.upTo t) :: segments := by
  cases token with
  | nil =>
    obtain rfl := htext.text_eq_nil
    obtain rfl := hpasses.unique (.refl between)
    rw [withText, List.isEmpty_nil, if_pos rfl, List.append_nil]
    cases segments with
    | nil => rfl
    | cons segment segments =>
      cases segment with
      | text => simp [Segment.isText] at hapart
      | expression => rfl
  | cons c cs =>
    rw [withText, List.isEmpty_cons, if_neg (by simp), consText,
      hreaches.merge_upTo hpasses.reaches]

/-- Text before a place, in two parts. -/
theorem Rest.Passes.split (token : List Char) {s t : Rest} {more : List Char}
    (h : s.Passes (token ++ more) t) :
    s.Passes token (s.past token (more ++ t.chars)) ∧
      (s.past token (more ++ t.chars)).Passes more t := by
  refine ⟨s.passes_past _ _ (by rw [h.1, List.append_assoc]), rfl, ?_⟩
  rw [h.2, Text.byteLength_append, Rest.past, Nat.add_assoc]

section

variable {s : Rest} {cs : List Char} (fuel : Nat)

theorem readSegments_pair (h : s.chars = '$' :: '$' :: cs) :
    readSegments (fuel + 1) s = (readSegments fuel (s.past ['$', '$'] cs)).map
      (consText ['$'] (s.upTo (s.past ['$', '$'] cs))) := by
  rw [readSegments, h]
  rfl

theorem readSegments_dollar (h : s.chars = '$' :: cs)
    (hnext : ∀ c ∈ cs.head?, c ≠ '$' ∧ c ≠ '\x7b') :
    readSegments (fuel + 1) s = (readSegments fuel (s.past ['$'] cs)).map
      (consText ['$'] (s.upTo (s.past ['$'] cs))) := by
  have hopening : s.afterOpening? = none := by
    have hdollar := Rest.after?_eq_some_iff.mpr (s.passes_past ['$'] cs h)
    rw [Rest.afterOpening?, hdollar]
    exact Rest.after?_eq_none fun hc => (hnext _ hc).2 rfl
  rw [readSegments, h]
  split
  · next heq => cases heq
  · next heq =>
    cases heq
    simp at hnext
  · next heq =>
    cases heq
    rw [readEmbedded?_eq_none hopening]
    rfl
  · next heq => exact absurd rfl (heq cs)

theorem readSegments_run {c : Char} (h : s.chars = c :: cs) (hc : c ≠ '$') :
    readSegments (fuel + 1) s = (readSegments fuel (s.takeWhile (· != '$')).2).map
      (consText (s.takeWhile (· != '$')).1 (s.upTo (s.takeWhile (· != '$')).2)) := by
  rw [readSegments, h]
  split
  · next heq => cases heq
  · next heq => cases heq; exact absurd rfl hc
  · next heq => cases heq; exact absurd rfl hc
  · rfl

theorem readSegments_embedded {expr : Expression} {t : Rest} (h : s.chars = '$' :: '\x7b' :: cs)
    (hread : readEmbedded? (readExpression (cs.length + 1)) s = some (.ok (expr, t))) :
    readSegments (fuel + 1) s = (readSegments fuel t).map (.expression expr (s.upTo t) :: ·) := by
  rw [readSegments, h]
  split
  · next heq => cases heq
  · next heq => cases heq
  · next heq =>
    cases heq
    rw [List.length_cons, hread]
    rfl
  · next heq => exact absurd rfl (heq _)

end

/-- Text is read in runs and dollar signs, which join to one segment. -/
theorem readSegments_text {t : Rest} {segments : List Segment}
    (hread : ∀ fuel, t.chars.length ≤ fuel → readSegments fuel t = .ok segments)
    (hapart : ∀ segment ∈ segments.head?, segment.isText = false)
    (hnext : ∀ c ∈ t.chars.head?, c = '$') (fuel : Nat) {s : Rest} {token text : List Char}
    (htext : TextSpelled t.chars token text) (hpasses : s.Passes token t)
    (hfuel : s.chars.length ≤ fuel) :
    readSegments fuel s = .ok (withText text (s.upTo t) token segments) := by
  induction fuel generalizing s token text with
  | zero =>
    have hlength := hpasses.length_eq
    obtain rfl : token = [] := List.length_eq_zero_iff.mp (by omega)
    obtain rfl := hpasses.unique (.refl s)
    exact hread 0 hfuel
  | succ fuel ih =>
    have hchars := hpasses.1
    have hlength := hpasses.length_eq
    cases htext with
    | nil =>
      obtain rfl := hpasses.unique (.refl s)
      exact hread _ hfuel
    | @pair token text htext =>
      obtain ⟨hfirst, hrest⟩ := hpasses.split ['$', '$']
      have hmore := hfirst.length_eq
      rw [List.cons_append, List.cons_append] at hchars
      rw [readSegments_pair fuel hchars, ih htext hrest (by simp at hmore ⊢; omega)]
      exact congrArg _ (consText_withText hapart hfirst.reaches hrest htext ['$'])
    | @dollar token text hfollowing htext =>
      obtain ⟨hfirst, hrest⟩ := hpasses.split ['$']
      have hmore := hfirst.length_eq
      rw [List.cons_append] at hchars
      rw [readSegments_dollar fuel hchars hfollowing, ih htext hrest (by simp at hmore ⊢; omega)]
      exact congrArg _ (consText_withText hapart hfirst.reaches hrest htext ['$'])
    | @plain c token text hc htext =>
      obtain ⟨run, more, moreText, rfl, rfl, hrun, hmoreHead, htext⟩ := htext.run
      obtain ⟨hfirst, hrest⟩ := hpasses.split (c :: run)
      have hmore := hfirst.length_eq
      have hplain : ∀ d ∈ c :: run, (d != '$') = true := by simpa [hc] using hrun
      have hend : ∀ d ∈ (more ++ t.chars).head?, (d != '$') = false := by
        intro d hd
        rw [List.head?_append, Option.mem_def, Option.or_eq_some_iff] at hd
        simpa using hd.elim (hmoreHead d) fun hd => hnext d hd.2
      rw [readSegments_run fuel hchars hc, hfirst.takeWhile_eq hplain hend,
        ih htext hrest (by simp at hmore ⊢; omega)]
      exact congrArg _ (consText_withText hapart hfirst.reaches hrest htext (c :: run))

theorem SegmentsSpelled.read {segments : List Segment} {s : Rest} (h : SegmentsSpelled segments s)
    (fuel : Nat) (hfuel : s.chars.length ≤ fuel) : readSegments fuel s = .ok segments := by
  induction h generalizing fuel with
  | nil hend => cases fuel <;> simp [readSegments, hend]
  | @text token text segments s t hne hpasses htext hapart hsegments ih =>
    rw [readSegments_text ih hapart (hsegments.head hapart) fuel htext hpasses hfuel, withText,
      if_neg (by simpa using hne)]
  | @expression expr segments s t hexpr hsegments ih =>
    obtain ⟨cs, hchars⟩ : ∃ cs, s.chars = '$' :: '\x7b' :: cs := by
      cases hexpr with
      | mk hopening => exact ⟨_, hopening.1⟩
    have hlt := hexpr.length_lt
    have hlength : s.chars.length = cs.length + 2 := by simp [hchars]
    cases fuel with
    | zero => omega
    | succ fuel =>
      rw [readSegments_embedded fuel hchars (hexpr.read _ (by omega)), ih fuel (by omega)]
      rfl

/-- A source reads as a template exactly when it spells it. -/
theorem Template.read_eq_ok_iff {source : List Char} {template : Template} :
    Template.read source = .ok template ↔ template.Spelled source := by
  rw [Template.read, map_eq_ok]
  constructor
  · rintro ⟨segments, hread, rfl⟩
    exact readSegments_sound _ _ _ (Nat.le_refl _) hread
  · intro h
    exact ⟨template.segments, SegmentsSpelled.read h _ (Nat.le_refl _), rfl⟩

end AttrExpr
