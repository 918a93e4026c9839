import AttrExpr.Compilation.Report
import AttrExpr.Proofs.Lines
import AttrExpr.Proofs.Reading
import Mathlib.Logic.Relation

/-! Where sources that are no templates go wrong. What comes before the place of an error can still
be completed to a template. -/
set_option autoImplicit false

namespace AttrExpr

namespace Rest

/-- A token leads from one place to another wherever it stands and whatever follows it. -/
def Spells (R : Rest → Rest → Prop) (token : List Char) : Prop :=
  ∀ (k : Nat) (following : List Char),
    R ⟨k, token ++ following⟩ ⟨k + Text.byteLength token, following⟩

/-- What lies between two places would lead from the one to the other elsewhere, too. -/
def Portable (R : Rest → Rest → Prop) (s t : Rest) : Prop :=
  ∃ token, s.Passes token t ∧ Spells R token

/-- An error is reported at a place. -/
def Blames (s : Rest) (error : SourceError) : Prop :=
  error.offset = s.offset ∧ error.found = s.chars.head?

/-- An error is reported at a place such that what comes before it can be completed. -/
def Stops (R : Rest → Rest → Prop) (s : Rest) (error : SourceError) : Prop :=
  ∃ token place, s.Passes token place ∧ place.Blames error ∧ ∃ more, Spells R (token ++ more)

/-- The characters of a token. -/
def Token (token : List Char) (s t : Rest) : Prop := s.Passes token t

/-- A name of a function. -/
def Word (s t : Rest) : Prop :=
  ∃ name, name ≠ [] ∧ (∀ c ∈ name, isWordChar c = true) ∧ s.Passes name t

/-- Something is spelled between two places, whatever it is. -/
def Spelling {α : Type} (Spelled : α → Rest → Rest → Prop) (s t : Rest) : Prop := ∃ a, Spelled a s t

open Relation (Comp)

variable {R S : Rest → Rest → Prop} {s t u : Rest} {token more : List Char} {error : SourceError}

theorem fail_blames {α : Type} {fault : Fault}
    (h : s.fail fault = (.error error : Except SourceError α)) : s.Blames error := by
  cases h
  exact ⟨rfl, rfl⟩

theorem Spells.mono (h : Spells R token) (hRS : ∀ s t, R s t → S s t) : Spells S token :=
  fun k following => hRS _ _ (h k following)

theorem Spells.append (hR : Spells R token) (hS : Spells S more) :
    Spells (Comp R S) (token ++ more) := by
  intro k following
  refine ⟨⟨k + Text.byteLength token, more ++ following⟩, ?_, ?_⟩
  · rw [List.append_assoc]
    exact hR k (more ++ following)
  · rw [Text.byteLength_append, ← Nat.add_assoc]
    exact hS (k + Text.byteLength token) following

theorem spells_token (token : List Char) : Spells (Token token) token := fun _ _ => ⟨rfl, rfl⟩

theorem spells_nothing : Spells Skips [] := fun k following => ⟨[], .refl _, by simp⟩

namespace Portable

theorem mono (h : Portable R s t) (hRS : ∀ s t, R s t → S s t) : Portable S s t :=
  have ⟨token, hpasses, hspells⟩ := h
  ⟨token, hpasses, hspells.mono hRS⟩

theorem comp (hR : Portable R s t) (hS : Portable S t u) : Portable (Comp R S) s u := by
  obtain ⟨token, hpasses, hspells⟩ := hR
  obtain ⟨more, hpasses', hspells'⟩ := hS
  exact ⟨token ++ more, hpasses.trans hpasses', hspells.append hspells'⟩

theorem passes (h : s.Passes token t) : Portable (Token token) s t :=
  ⟨token, h, spells_token token⟩

theorem skips (h : s.Skips t) : Portable Skips s t := by
  obtain ⟨blanks, hpasses, hblanks⟩ := h
  exact ⟨blanks, hpasses, fun k following => ⟨blanks, ⟨rfl, rfl⟩, hblanks⟩⟩

theorem word {name : List Char} (hne : name ≠ []) (hname : ∀ c ∈ name, isWordChar c = true)
    (h : s.Passes name t) : Portable Word s t :=
  ⟨name, h, fun _ _ => ⟨name, hne, hname, rfl, rfl⟩⟩

end Portable

namespace Stops

theorem mono (h : Stops R s error) (hRS : ∀ s t, R s t → S s t) : Stops S s error :=
  have ⟨token, place, hpasses, hplace, more, hspells⟩ := h
  ⟨token, place, hpasses, hplace, more, hspells.mono hRS⟩

/-- An error in what comes after something that is complete. -/
theorem after (hR : Portable R s t) (hS : Stops S t error) : Stops (Comp R S) s error := by
  obtain ⟨token, hpasses, hspells⟩ := hR
  obtain ⟨inner, place, hinner, hplace, more, hmore⟩ := hS
  refine ⟨token ++ inner, place, hpasses.trans hinner, hplace, more, ?_⟩
  rw [List.append_assoc]
  exact hspells.append hmore

/-- An error in something after which more has to come. -/
theorem before (hR : Stops R s error) (hS : Spells S more) : Stops (Comp R S) s error := by
  obtain ⟨token, place, hpasses, hplace, inner, hinner⟩ := hR
  refine ⟨token, place, hpasses, hplace, inner ++ more, ?_⟩
  rw [← List.append_assoc]
  exact hinner.append hS

theorem here (h : s.Blames error) (hR : Spells R more) : Stops R s error :=
  ⟨[], s, .refl s, h, more, hR⟩

end Stops

/-! Parts of expressions from their own parts, one after the other. -/

theorem expression_of (s t : Rest)
    (h : Comp (Spelling Subject.Spelled) (Spelling ChainSpelled) s t) :
    Spelling Expression.Spelled s t := by
  obtain ⟨_, ⟨_, hsubject⟩, ⟨_, hchain⟩⟩ := h
  exact ⟨_, .mk hsubject hchain⟩

theorem subject_of (s t : Rest) (h : Spelling Call.Spelled s t) : Spelling Subject.Spelled s t := by
  obtain ⟨_, hcall⟩ := h
  exact ⟨_, .call hcall⟩

theorem chain_of (s t : Rest)
    (h : Comp Skips (Comp (Token [':']) (Comp Skips
      (Comp (Spelling Call.Spelled) (Spelling ChainSpelled)))) s t) :
    Spelling ChainSpelled s t := by
  obtain ⟨_, hbefore, _, hcolon, _, hafter, _, ⟨_, hcall⟩, ⟨_, hcalls⟩⟩ := h
  exact ⟨_, .cons hbefore hcolon hafter hcall hcalls⟩

theorem call_of (s t : Rest) (h : Comp Word (Comp Skips (Spelling ArgumentsSpelled)) s t) :
    Spelling Call.Spelled s t := by
  obtain ⟨_, ⟨_, hne, hname, hpasses⟩, _, hafter, ⟨_, hargs⟩⟩ := h
  exact ⟨_, .mk hne hname hpasses hafter hargs⟩

theorem noArguments_of (s t : Rest) (h : Comp (Token ['(']) (Comp Skips (Token [')'])) s t) :
    Spelling ArgumentsSpelled s t := by
  obtain ⟨_, hopening, _, hskips, hclosing⟩ := h
  exact ⟨_, .none hopening hskips hclosing⟩

theorem arguments_of (s t : Rest)
    (h : Comp (Token ['(']) (Comp Skips
      (Comp (Spelling Argument.Spelled) (Spelling MoreArgumentsSpelled))) s t) :
    Spelling ArgumentsSpelled s t := by
  obtain ⟨_, hopening, _, hskips, _, ⟨_, harg⟩, ⟨_, hargs⟩⟩ := h
  exact ⟨_, .some hopening hskips harg hargs⟩

theorem noMoreArguments_of (s t : Rest) (h : Comp Skips (Token [')']) s t) :
    Spelling MoreArgumentsSpelled s t := by
  obtain ⟨_, hskips, hclosing⟩ := h
  exact ⟨_, .nil hskips hclosing⟩

theorem moreArguments_of (s t : Rest)
    (h : Comp Skips (Comp (Token [',']) (Comp Skips
      (Comp (Spelling Argument.Spelled) (Spelling MoreArgumentsSpelled)))) s t) :
    Spelling MoreArgumentsSpelled s t := by
  obtain ⟨_, hbefore, _, hcomma, _, hafter, _, ⟨_, harg⟩, ⟨_, hargs⟩⟩ := h
  exact ⟨_, .cons hbefore hcomma hafter harg hargs⟩

theorem argument_of (s t : Rest) (h : Spelling EmbeddedSpelled s t) :
    Spelling Argument.Spelled s t := by
  obtain ⟨_, hexpr⟩ := h
  exact ⟨_, .expression hexpr⟩

theorem embedded_of (s t : Rest)
    (h : Comp (Token ['$', '\x7b']) (Comp Skips
      (Comp (Spelling Expression.Spelled) (Comp Skips (Token ['\x7d'])))) s t) :
    Spelling EmbeddedSpelled s t := by
  obtain ⟨_, hopening, _, hafter, _, ⟨_, hexpr⟩, _, hbefore, hclosing⟩ := h
  exact ⟨_, .mk hopening hafter hexpr hbefore hclosing⟩

end Rest

/-! What is spelled at one place can be spelled elsewhere. -/

open Rest (Portable Spelling)

mutual

theorem Expression.Spelled.portable {expr : Expression} {s t : Rest} :
    expr.Spelled s t → Portable (Spelling Expression.Spelled) s t
  | .mk hsubject hchain => (hsubject.portable.comp hchain.portable).mono Rest.expression_of

theorem Subject.Spelled.portable {subject : Subject} {s t : Rest} :
    subject.Spelled s t → Portable (Spelling Subject.Spelled) s t
  | .bare hne hname hpasses => ⟨_, hpasses, fun _ _ => ⟨_, .bare hne hname ⟨rfl, rfl⟩⟩⟩
  | .quoted hquoted hpasses => ⟨_, hpasses, fun _ _ => ⟨_, .quoted hquoted ⟨rfl, rfl⟩⟩⟩
  | .call hcall => hcall.portable.mono Rest.subject_of

theorem ChainSpelled.portable {calls : List Call} {s t : Rest} :
    ChainSpelled calls s t → Portable (Spelling ChainSpelled) s t
  | .nil => ⟨[], .refl _, fun _ _ => ⟨[], .nil⟩⟩
  | .cons hbefore hcolon hafter hcall hcalls =>
    ((Portable.skips hbefore).comp ((Portable.passes hcolon).comp ((Portable.skips hafter).comp
      (hcall.portable.comp hcalls.portable)))).mono Rest.chain_of

theorem Call.Spelled.portable {call : Call} {s t : Rest} :
    call.Spelled s t → Portable (Spelling Call.Spelled) s t
  | .mk hne hname hpasses hafter hargs =>
    ((Portable.word hne hname hpasses).comp ((Portable.skips hafter).comp hargs.portable)).mono
      Rest.call_of

theorem ArgumentsSpelled.portable {args : List Argument} {s t : Rest} :
    ArgumentsSpelled args s t → Portable (Spelling ArgumentsSpelled) s t
  | .none hopening hskips hclosing =>
    ((Portable.passes hopening).comp ((Portable.skips hskips).comp
      (Portable.passes hclosing))).mono Rest.noArguments_of
  | .some hopening hskips harg hargs =>
    ((Portable.passes hopening).comp ((Portable.skips hskips).comp
      (harg.portable.comp hargs.portable))).mono Rest.arguments_of

theorem MoreArgumentsSpelled.portable {args : List Argument} {s t : Rest} :
    MoreArgumentsSpelled args s t → Portable (Spelling MoreArgumentsSpelled) s t
  | .nil hskips hclosing =>
    ((Portable.skips hskips).comp (Portable.passes hclosing)).mono Rest.noMoreArguments_of
  | .cons hbefore hcomma hafter harg hargs =>
    ((Portable.skips hbefore).comp ((Portable.passes hcomma).comp ((Portable.skips hafter).comp
      (harg.portable.comp hargs.portable)))).mono Rest.moreArguments_of

theorem Argument.Spelled.portable {arg : Argument} {s t : Rest} :
    arg.Spelled s t → Portable (Spelling Argument.Spelled) s t
  | .literal hvalue hpasses => ⟨_, hpasses, fun _ _ => ⟨_, .literal hvalue ⟨rfl, rfl⟩⟩⟩
  | .expression hexpr => hexpr.portable.mono Rest.argument_of

theorem EmbeddedSpelled.portable {expr : Expression} {s t : Rest} :
    EmbeddedSpelled expr s t → Portable (Spelling EmbeddedSpelled) s t
  | .mk hopening hafter hexpr hbefore hclosing =>
    ((Portable.passes hopening).comp ((Portable.skips hafter).comp (hexpr.portable.comp
      ((Portable.skips hbefore).comp (Portable.passes hclosing))))).mono Rest.embedded_of

end

/-! The least that each part of an expression can be. -/

namespace Rest

theorem spells_chain : Spells (Spelling ChainSpelled) [] := fun _ _ => ⟨[], .nil⟩

theorem spells_subject : Spells (Spelling Subject.Spelled) ['_'] := fun _ _ =>
  ⟨_, .bare (by simp) (by simp [isNameChar]) ⟨rfl, rfl⟩⟩

theorem spells_expression : Spells (Spelling Expression.Spelled) ['_'] :=
  (spells_subject.append spells_chain).mono expression_of

theorem spells_embedded : Spells (Spelling EmbeddedSpelled) ['$', '\x7b', '_', '\x7d'] :=
  ((spells_token ['$', '\x7b']).append (spells_nothing.append (spells_expression.append
    (spells_nothing.append (spells_token ['\x7d']))))).mono embedded_of

theorem spells_argument : Spells (Spelling Argument.Spelled) "true".toList := fun _ _ =>
  ⟨_, .literal (.boolean true) ⟨rfl, rfl⟩⟩

theorem spells_moreArguments : Spells (Spelling MoreArgumentsSpelled) [')'] :=
  (spells_nothing.append (spells_token [')'])).mono noMoreArguments_of

theorem spells_arguments : Spells (Spelling ArgumentsSpelled) ['(', ')'] :=
  ((spells_token ['(']).append (spells_nothing.append (spells_token [')']))).mono noArguments_of

theorem spells_call : Spells (Spelling Call.Spelled) ['_', '(', ')'] := by
  have hword : Spells Word ['_'] := fun _ _ => ⟨['_'], by simp, by simp [isWordChar], rfl, rfl⟩
  exact (hword.append (spells_nothing.append spells_arguments)).mono call_of

end Rest

/-! Each reader stops where what it has read can be completed. -/

section

variable {α β : Type}

theorem bind_eq_error {x : Except SourceError α} {f : α → Except SourceError β}
    {error : SourceError} :
    (x >>= f) = .error error ↔ x = .error error ∨ ∃ a, x = .ok a ∧ f a = .error error := by
  cases x with
  | error other => simp [bind, Except.bind]
  | ok a => simp [bind, Except.bind]

theorem map_eq_error {x : Except SourceError α} {f : α → β} {error : SourceError} :
    x.map f = .error error ↔ x = .error error := by
  cases x with
  | error other => simp [Except.map]
  | ok a => simp [Except.map]

/-- A reader fails only after something that can be completed to what it reads. -/
def Read.Stops (read : Read α) (Spelled : α → Rest → Rest → Prop) : Prop :=
  ∀ s error, read s = .error error → Rest.Stops (Spelling Spelled) s error

end

theorem readClosing_stops {opening s : Rest} {error : SourceError}
    (h : readClosing opening s = .error error) :
    opening.Blames error ∨
      Rest.Stops (Relation.Comp Rest.Skips (Rest.Token ['\x7d'])) s error := by
  simp only [readClosing] at h
  split at h
  · exact .inl (Rest.fail_blames h)
  · split at h
    · cases h
    · exact .inr (.after (.skips s.skips_skipBlanks)
        (.here (Rest.fail_blames h) (Rest.spells_token _)))

theorem readQuoted?_blames {s : Rest} {error : SourceError}
    (h : readQuoted? s = some (.error error)) : s.Blames error := by
  unfold readQuoted? at h
  split at h
  · cases h
  · split at h
    · split at h
      · cases h
      · exact Rest.fail_blames (Option.some.inj h)
    · cases h

theorem readNumberLiteral?_blames {s : Rest} {error : SourceError}
    (h : readNumberLiteral? s = some (.error error)) : s.Blames error := by
  unfold readNumberLiteral? at h
  split at h
  · cases h
  · split at h
    · cases h
    · exact Rest.fail_blames (Option.some.inj h)

theorem readLiteral?_blames {s : Rest} {error : SourceError}
    (h : readLiteral? s = some (.error error)) : s.Blames error := by
  unfold readLiteral? at h
  split at h
  · next quoted hquoted =>
    exact readQuoted?_blames
      (hquoted.trans (congrArg some (map_eq_error.mp (Option.some.inj h))))
  · split at h
    · next number hnumber =>
      exact readNumberLiteral?_blames
        (hnumber.trans (congrArg some (map_eq_error.mp (Option.some.inj h))))
    · obtain ⟨found, _, hfound⟩ := Option.map_eq_some_iff.mp h
      cases hfound

section

variable {expression : Read Expression} (hsound : expression.Sound Expression.Spelled)
  (hstops : expression.Stops Expression.Spelled)

include hsound hstops

theorem readEmbedded?_stops {s : Rest} {error : SourceError}
    (h : readEmbedded? expression s = some (.error error)) :
    Rest.Stops (Spelling EmbeddedSpelled) s error := by
  unfold readEmbedded? at h
  split at h
  · cases h
  · next inner hopening =>
    have hopening := Portable.passes (Rest.afterOpening?_eq_some_iff.mp hopening)
    have hskips := Portable.skips inner.skips_skipBlanks
    rcases bind_eq_error.mp (Option.some.inj h) with h | ⟨⟨expr, last⟩, hok, h⟩
    · have hclosing := Rest.spells_nothing.append (Rest.spells_token ['\x7d'])
      exact (Rest.Stops.after hopening (.after hskips ((hstops _ _ h).before hclosing))).mono
        Rest.embedded_of
    · rcases bind_eq_error.mp h with h | ⟨rest, _, h⟩
      · -- the missing brace is reported at the opening, or at what stands in its place
        have hexpr := (hsound _ _ _ hok).portable
        rcases readClosing_stops h with h | h
        · exact .here h Rest.spells_embedded
        · exact (Rest.Stops.after hopening (.after hskips (.after hexpr h))).mono Rest.embedded_of
      · cases h

theorem readArgument_stops : (readArgument expression).Stops Argument.Spelled := by
  intro s error h
  unfold readArgument at h
  split at h
  · exact .here (Rest.fail_blames h) Rest.spells_argument
  · split at h
    · next embedded hembedded =>
      have h := hembedded.trans (congrArg some (map_eq_error.mp h))
      exact (readEmbedded?_stops hsound hstops h).mono Rest.argument_of
    · split at h
      · next literal hliteral =>
        exact .here (readLiteral?_blames (hliteral.trans (congrArg some (map_eq_error.mp h))))
          Rest.spells_argument
      · exact .here (Rest.fail_blames h) Rest.spells_argument

theorem readArgumentsFrom_stops (fuel : Nat) :
    (readArgumentsFrom expression fuel).Stops MoreArgumentsSpelled := by
  have atBlanks {s : Rest} {fault : Fault} {error : SourceError}
      (h : s.skipBlanks.fail fault = (.error error : Except SourceError (List Argument × Rest))) :
      Rest.Stops (Spelling MoreArgumentsSpelled) s error :=
    (Rest.Stops.after (.skips s.skips_skipBlanks)
      (.here (Rest.fail_blames h) (Rest.spells_token [')']))).mono Rest.noMoreArguments_of
  induction fuel with
  | zero => exact fun s error h => atBlanks h
  | succ fuel ih =>
    intro s error h
    rw [readArgumentsFrom] at h
    dsimp only at h
    split at h
    · next next hcomma =>
      have before {S : Rest → Rest → Prop} (hinner : Rest.Stops S next.skipBlanks error) :=
        Rest.Stops.after (.skips s.skips_skipBlanks)
          (.after (.passes (Rest.after?_eq_some_iff.mp hcomma))
            (.after (.skips next.skips_skipBlanks) hinner))
      rcases bind_eq_error.mp h with h | ⟨⟨arg, between⟩, harg, h⟩
      · exact (before ((readArgument_stops hsound hstops _ _ h).before
          Rest.spells_moreArguments)).mono Rest.moreArguments_of
      · rcases bind_eq_error.mp h with h | ⟨⟨more, last⟩, _, h⟩
        · have harg := (readArgument_sound hsound _ _ _ harg).portable
          exact (before (.after harg (ih _ _ h))).mono Rest.moreArguments_of
        · cases h
    · split at h
      · exact atBlanks h
      · split at h
        · cases h
        · exact atBlanks h

theorem readArguments_stops : (readArguments expression).Stops ArgumentsSpelled := by
  intro s error h
  unfold readArguments at h
  split at h
  · exact .here (Rest.fail_blames h) Rest.spells_arguments
  · next inner hopening =>
    have before {S : Rest → Rest → Prop} (hinner : Rest.Stops S inner.skipBlanks error) :=
      Rest.Stops.after (.passes (Rest.after?_eq_some_iff.mp hopening))
        (.after (.skips inner.skips_skipBlanks) hinner)
    dsimp only at h
    split at h
    · cases h
    · rcases bind_eq_error.mp h with h | ⟨⟨arg, between⟩, harg, h⟩
      · exact (before ((readArgument_stops hsound hstops _ _ h).before
          Rest.spells_moreArguments)).mono Rest.arguments_of
      · rcases bind_eq_error.mp h with h | ⟨⟨more, last⟩, _, h⟩
        · have harg := (readArgument_sound hsound _ _ _ harg).portable
          exact (before (.after harg (readArgumentsFrom_stops hsound hstops _ _ _ h))).mono
            Rest.arguments_of
        · cases h

theorem readCall_stops : (readCall expression).Stops Call.Spelled := by
  intro s error h
  have hpasses := s.takeWhile_passes isWordChar
  have hname (c : Char) : c ∈ (s.takeWhile isWordChar).1 → isWordChar c = true :=
    Rest.of_mem_takeWhile
  unfold readCall at h
  generalize s.takeWhile isWordChar = word at h hpasses hname
  obtain ⟨name, rest⟩ := word
  dsimp only at h hpasses hname
  split at h
  · exact .here (Rest.fail_blames h) Rest.spells_call
  · next hne =>
    have hword := Portable.word (by simpa using hne) hname hpasses
    split at h
    · exact (Rest.Stops.after hword (.here (Rest.fail_blames h)
        (Rest.spells_nothing.append Rest.spells_arguments))).mono Rest.call_of
    · rcases bind_eq_error.mp h with h | ⟨⟨args, last⟩, _, h⟩
      · exact (Rest.Stops.after hword (.after (.skips rest.skips_skipBlanks)
          (readArguments_stops hsound hstops _ _ h))).mono Rest.call_of
      · cases h

theorem readChain_stops (fuel : Nat) : (readChain expression fuel).Stops ChainSpelled := by
  induction fuel with
  | zero =>
    intro s error h
    cases h
  | succ fuel ih =>
    intro s error h
    rw [readChain] at h
    split at h
    · cases h
    · next next hcolon =>
      have before {S : Rest → Rest → Prop} (hinner : Rest.Stops S next.skipBlanks error) :=
        Rest.Stops.after (.skips s.skips_skipBlanks)
          (.after (.passes (Rest.after?_eq_some_iff.mp hcolon))
            (.after (.skips next.skips_skipBlanks) hinner))
      rcases bind_eq_error.mp h with h | ⟨⟨call, between⟩, hcall, h⟩
      · exact (before ((readCall_stops hsound hstops _ _ h).before Rest.spells_chain)).mono
          Rest.chain_of
      · rcases bind_eq_error.mp h with h | ⟨⟨more, last⟩, _, h⟩
        · have hcall := (readCall_sound hsound _ _ _ hcall).portable
          exact (before (.after hcall (ih _ _ h))).mono Rest.chain_of
        · cases h

theorem readSubject_stops : (readSubject expression).Stops Subject.Spelled := by
  intro s error h
  unfold readSubject at h
  split at h
  · next quoted hquoted =>
    exact .here (readQuoted?_blames (hquoted.trans (congrArg some (map_eq_error.mp h))))
      Rest.spells_subject
  · dsimp only at h
    split at h
    · exact .here (Rest.fail_blames h) Rest.spells_subject
    · split at h
      · exact (readCall_stops hsound hstops _ _ (map_eq_error.mp h)).mono Rest.subject_of
      · cases h

end

theorem readExpression_stops (fuel : Nat) : (readExpression fuel).Stops Expression.Spelled := by
  induction fuel with
  | zero => exact fun s error h => .here (Rest.fail_blames h) Rest.spells_expression
  | succ fuel ih =>
    have hsound := readExpression_sound fuel
    intro s error h
    rw [readExpression] at h
    rcases bind_eq_error.mp h with h | ⟨⟨subject, between⟩, hsubject, h⟩
    · exact ((readSubject_stops hsound ih _ _ h).before Rest.spells_chain).mono Rest.expression_of
    · rcases bind_eq_error.mp h with h | ⟨⟨chain, last⟩, _, h⟩
      · have hsubject := (readSubject_sound hsound _ _ _ hsubject).portable
        exact (Rest.Stops.after hsubject (readChain_stops hsound ih _ _ _ h)).mono
          Rest.expression_of
      · cases h

/-! Templates. -/

/-- An error is reported at a place such that what comes before it can be completed to segments that
start with the same character. -/
def SegmentsStop (s : Rest) (error : SourceError) : Prop :=
  ∃ token place more, s.Passes token place ∧ place.Blames error ∧
    (token ++ more).head? = s.chars.head? ∧
      ∃ segments, SegmentsSpelled segments ⟨s.offset, token ++ more⟩

theorem EmbeddedSpelled.head {expr : Expression} {s t : Rest} (h : EmbeddedSpelled expr s t) :
    s.chars.head? = some '$' := by
  cases h with
  | mk hopening => rw [hopening.1]; rfl

namespace SegmentsStop

variable {s t : Rest} {token text : List Char} {error : SourceError}

/-- An error behind text. What comes right behind the text stays the same. -/
theorem behindText (h : SegmentsStop t error) (hne : token ≠ []) (hpasses : s.Passes token t)
    (htext : ∀ following : List Char, following.head? = t.chars.head? →
      TextSpelled following token text) : SegmentsStop s error := by
  obtain ⟨inner, place, more, hinner, hplace, hhead, segments, hsegments⟩ := h
  have hfront : (⟨s.offset, token ++ (inner ++ more)⟩ : Rest).Passes token
      ⟨t.offset, inner ++ more⟩ := ⟨rfl, hpasses.2⟩
  refine ⟨token ++ inner, place, more, hpasses.trans hinner, hplace, ?_, ?_⟩
  · rw [hpasses.1]
    cases token with
    | nil => exact absurd rfl hne
    | cons c token => rfl
  · rw [List.append_assoc]
    exact ⟨_, hsegments.consText hne hfront (htext _ hhead)⟩

/-- An error behind an expression. -/
theorem behindExpression (h : SegmentsStop t error) {expr : Expression}
    (hexpr : EmbeddedSpelled expr s t) : SegmentsStop s error := by
  obtain ⟨inner, place, more, hinner, hplace, -, segments, hsegments⟩ := h
  obtain ⟨token, hpasses, hspells⟩ := hexpr.portable
  obtain ⟨moved, hmoved⟩ := hspells s.offset (inner ++ more)
  rw [← hpasses.2] at hmoved
  refine ⟨token ++ inner, place, more, hpasses.trans hinner, hplace, ?_, ?_⟩
  · rw [hexpr.head, List.append_assoc]
    exact hmoved.head
  · rw [List.append_assoc]
    exact ⟨_, .expression hmoved hsegments⟩

/-- An error in an expression. -/
theorem inside (h : Rest.Stops (Spelling EmbeddedSpelled) s error)
    (hs : s.chars.head? = some '$') : SegmentsStop s error := by
  obtain ⟨token, place, hpasses, hplace, more, hspells⟩ := h
  obtain ⟨expr, hexpr⟩ := hspells s.offset []
  rw [List.append_nil] at hexpr
  exact ⟨token, place, more, hpasses, hplace, hexpr.head.trans hs.symm, _,
    .expression hexpr (.nil rfl)⟩

end SegmentsStop

theorem readSegments_stops (fuel : Nat) (s : Rest) (error : SourceError)
    (h : readSegments fuel s = .error error) : SegmentsStop s error := by
  -- the cases of the reader: the end, two dollar signs, an expression or a lone one, and text
  induction fuel generalizing s with
  | zero => cases h
  | succ fuel ih =>
    rw [readSegments] at h
    split at h
    · cases h
    · next cs hchars =>
      rcases bind_eq_error.mp h with h | ⟨_, _, h⟩
      · exact (ih _ h).behindText (by simp) (s.passes_past ['$', '$'] cs hchars)
          fun _ _ => .pair .nil
      · cases h
    · next cs hpair hchars =>
      split at h
      · next embedded hembedded =>
        rcases bind_eq_error.mp h with h | ⟨⟨expr, rest⟩, hok, h⟩
        · exact .inside (readEmbedded?_stops (readExpression_sound _) (readExpression_stops _)
            (hembedded.trans (congrArg some h))) (by rw [hchars]; rfl)
        · rcases bind_eq_error.mp h with h | ⟨_, _, h⟩
          · exact (ih _ h).behindExpression (readEmbedded?_ok (readExpression_sound _)
              (hembedded.trans (congrArg some hok)))
          · cases h
      · next hembedded =>
        have hnext := Rest.next_of_lone_dollar hchars hpair
          (afterOpening?_of_readEmbedded?_eq_none hembedded)
        rcases bind_eq_error.mp h with h | ⟨_, _, h⟩
        · have htext (following : List Char) (hhead : following.head? = cs.head?) :
              TextSpelled following ['$'] ['$'] :=
            .dollar (fun c hc => hnext c (hhead ▸ hc)) .nil
          exact (ih _ h).behindText (by simp) (s.passes_past ['$'] cs hchars) htext
        · cases h
    · next hnil hpair hdollar =>
      have hpasses := s.takeWhile_passes (· != '$')
      have hplain (c : Char) (hc : c ∈ (s.takeWhile (· != '$')).1) : c ≠ '$' := by
        simpa using Rest.of_mem_takeWhile hc
      rcases bind_eq_error.mp h with h | ⟨_, _, h⟩
      · exact (ih _ h).behindText (Rest.run_ne_nil hnil hdollar) hpasses
          fun _ _ => .of_plain _ hplain
      · cases h

/-! Places of errors. -/

/-- A location is that of the first character of `after`, or that of the end of the source. -/
structure Location.Marks (location : Location) (before after : List Char) : Prop where
  offset : location.offset = Text.byteLength before
  length : location.length = (after.head?.map Char.utf8Size).getD 0
  line : location.line = before.count '\n' + 1
  column : ∃ earlier line, before = earlier ++ line ∧
    (earlier = [] ∨ earlier.getLast? = some '\n') ∧ '\n' ∉ line ∧
      location.column = line.length + 1

namespace SourceError

theorem location_marks {error : SourceError} {before after : List Char}
    (hoffset : error.offset = Text.byteLength before) (hfound : error.found = after.head?) :
    (error.location (before ++ after)).Marks before after := by
  have htext : Location.textBefore error.offset (before ++ after) = before := by
    rw [Location.textBefore, hoffset, Text.splitBytes?_append]
  obtain ⟨earlier, hbefore, hearlier, hline⟩ := Location.lastLine_spec before
  refine ⟨hoffset, ?_, ?_, earlier, _, hbefore, hearlier, hline, ?_⟩
  · rw [SourceError.location, Location.ofSpan, SourceError.span, hfound]
    cases after <;> simp
  · rw [SourceError.location, Location.ofSpan, SourceError.span, htext]
  · rw [SourceError.location, Location.ofSpan, SourceError.span, htext]

theorem code_number (error : SourceError) : 1 ≤ error.code.number ∧ error.code.number ≤ 7 := by
  unfold SourceError.code
  cases error.fault <;> exact ⟨Nat.le_of_ble_eq_true rfl, Nat.le_of_ble_eq_true rfl⟩

end SourceError

/-- A source that is no template is reported with one of the seven codes of the parser, at a
character or at the end. What comes before that place can be completed to a template. -/
theorem Template.read_error_viable (source : List Char) (error : SourceError)
    (h : Template.read source = .error error) :
    (error.report source).stage = .parse ∧
    (1 ≤ (error.report source).code.number ∧ (error.report source).code.number ≤ 7) ∧
    ∃ location before after, (error.report source).location = some location ∧
      source = before ++ after ∧ location.Marks before after ∧
      ∃ more template, Template.read (before ++ more) = .ok template := by
  obtain ⟨token, place, more, hpasses, ⟨hoffset, hfound⟩, -, segments, hsegments⟩ :=
    readSegments_stops _ _ _ (map_eq_error.mp h)
  have hsource : source = token ++ place.chars := hpasses.1
  refine ⟨rfl, error.code_number, error.location source, token, place.chars, rfl, hsource, ?_, more,
    ⟨segments⟩, Template.read_eq_ok_iff.mpr hsegments⟩
  rw [hsource]
  exact SourceError.location_marks (by rw [hoffset, hpasses.2, Nat.zero_add]) hfound

/-- A source with a string that does not end, in an argument of an argument on the second line. -/
def unterminated : List Char := "é\n$\x7ba:f(1, $\x7bb :g( 'x)\x7d)\x7d".toList

/-- The error is at the quotation mark. -/
theorem Template.read_error_viable_unterminated :
    let error : SourceError := ⟨.unterminatedString, 20, some '\''⟩
    Template.read unterminated = .error error ∧ (error.report unterminated).stage = .parse ∧
      (error.report unterminated).location = some ⟨2, 18, 20, 1⟩ ∧
      ∃ before after, unterminated = before ++ after ∧ Text.byteLength before = 20 ∧
        ∃ more template, Template.read (before ++ more) = .ok template := by
  intro error
  have hread : Template.read unterminated = .error error := rfl
  have hplace : (error.report unterminated).location = some ⟨2, 18, 20, 1⟩ := by decide
  obtain ⟨hstage, -, location, before, after, hlocation, hsource, hmarks, hviable⟩ :=
    read_error_viable unterminated error hread
  refine ⟨hread, hstage, hplace, before, after, hsource, ?_, hviable⟩
  obtain rfl := Option.some.inj (hlocation.symm.trans hplace)
  exact hmarks.offset.symm

end AttrExpr
