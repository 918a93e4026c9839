import AttrExpr.Proofs.Enclosing
import AttrExpr.Regex.Class

/-! Sets of characters in front of a closing parenthesis. -/
set_option autoImplicit false

namespace AttrExpr.Regex

open Scan (Within)

variable {whole : List Char} {s s' : Scan}

theorem readClassAtom_continues (h : s.Enclosed whole s') :
    Continues whole Within s (readClassAtom s) (readClassAtom s') := by
  unfold readClassAtom
  rcases h.next_cases with ⟨-, hnext, -⟩ | ⟨c, t, hnext, ht, hnext'⟩
  · rw [hnext]
    exact .error
  · have hlater := Within.next hnext
    rw [hnext, hnext']
    split
    · next h => cases h
    · next h =>
      cases h
      exact (readEscape_continues ht).within hlater
    · next hslash h =>
      cases h
      split
      · next h => cases h
      · next h =>
        cases h
        exact absurd rfl hslash
      · next h =>
        cases h
        exact .ok hlater ht

theorem skipVerbose_blanks (inComment : Bool) {cs : List Char}
    (h : ∀ c ∈ cs, Unicode.isWhiteSpace c = true) : skipVerbose inComment cs = [] := by
  induction cs generalizing inComment with
  | nil => simp [skipVerbose]
  | cons c cs ih =>
    rw [List.forall_mem_cons] at h
    cases inComment with
    | true => exact ih _ h.2
    | false =>
      rw [skipVerbose, if_pos h.1]
      exact ih _ h.2

theorem peekPast_blanks (whole : List Char) (inComment : Bool) {cs : List Char}
    (h : ∀ c ∈ cs, Unicode.isWhiteSpace c = true) :
    peekPast whole inComment cs = whole.head? := by
  induction cs with
  | nil => simp [peekPast]
  | cons c cs ih =>
    rw [List.forall_mem_cons] at h
    rw [peekPast, if_pos h.1]
    exact ih h.2

/-- Looking past blanks in a comment finds a character, or there are only blanks. -/
theorem peekPast_comment (cs : List Char) :
    (∃ c, ∀ whole more, peekPast whole true (cs ++ more) = some c) ∨
      ∀ c ∈ cs, Unicode.isWhiteSpace c = true := by
  induction cs with
  | nil => exact .inr fun _ h => absurd h List.not_mem_nil
  | cons c cs ih =>
    by_cases hblank : Unicode.isWhiteSpace c = true
    · rcases ih with ⟨found, h⟩ | h
      · refine .inl ⟨found, fun whole more => ?_⟩
        rw [List.cons_append, peekPast, if_pos hblank]
        exact h whole more
      · exact .inr (List.forall_mem_cons.mpr ⟨hblank, h⟩)
    · refine .inl ⟨c, fun whole more => ?_⟩
      rw [List.cons_append, peekPast, if_neg hblank, if_neg (by simp)]

/-- Looking past blanks finds a character, or there are only blanks and the sign of a comment. -/
theorem peekPast_cases (cs : List Char) :
    (∃ c, ∀ whole more, peekPast whole false (cs ++ more) = some c) ∨
      skipVerbose false cs = [] ∧ (∀ whole, peekPast whole false cs = whole.head?) ∧
        ∀ c ∈ cs, Unicode.isWhiteSpace c = true ∨ c = '#' := by
  induction cs with
  | nil => exact .inr ⟨rfl, fun whole => by simp [peekPast], fun _ h => absurd h List.not_mem_nil⟩
  | cons c cs ih =>
    by_cases hblank : Unicode.isWhiteSpace c = true
    · rcases ih with ⟨found, h⟩ | ⟨hskip, hpeek, hall⟩
      · refine .inl ⟨found, fun whole more => ?_⟩
        rw [List.cons_append, peekPast, if_pos hblank]
        exact h whole more
      · refine .inr ⟨?_, fun whole => ?_, List.forall_mem_cons.mpr ⟨.inl hblank, hall⟩⟩
        · rwa [skipVerbose, if_pos hblank]
        · rw [peekPast, if_pos hblank]
          exact hpeek whole
    · by_cases hsign : c = '#'
      · subst hsign
        rcases peekPast_comment cs with ⟨found, h⟩ | h
        · refine .inl ⟨found, fun whole more => ?_⟩
          rw [List.cons_append, peekPast, if_neg hblank, if_pos (by simp)]
          exact h whole more
        · refine .inr ⟨?_, fun whole => ?_, List.forall_mem_cons.mpr ⟨.inr rfl, fun c hc => ?_⟩⟩
          · rw [skipVerbose, if_neg hblank, if_pos rfl]
            exact skipVerbose_blanks true h
          · rw [peekPast, if_neg hblank, if_pos (by simp)]
            exact peekPast_blanks whole true h
          · exact .inl (h c hc)
      · refine .inl ⟨c, fun whole more => ?_⟩
        rw [List.cons_append, peekPast, if_neg hblank, if_neg (by simpa using hsign)]

/-- The next character but one is the same in front of a parenthesis. Otherwise nothing is left, and
what is found then ends no set and makes no operation. -/
theorem peek_cases (h : s.Enclosed whole s') :
    peek s'.flags s'.rest = peek s.flags s.rest ∨
      s.space.rest = [] ∧ peek s.flags s.rest ≠ some ']' ∧ peek s.flags s.rest ≠ some '-' := by
  rcases h.same with rfl | ⟨-, -, rfl⟩
  case inr => exact .inl rfl
  rw [h.flags]
  by_cases hverbose : s.flags.verbose = true
  · simp only [peek, hverbose, if_true, Scan.space, Scan.enclosed]
    rcases peekPast_cases s.rest with ⟨c, h⟩ | ⟨hskip, hpeek, hall⟩
    · have hrest := h s.rest []
      rw [List.append_nil] at hrest
      exact .inl ((h _ _).trans hrest.symm)
    · rw [hpeek]
      have hne (c : Char) (hc : Unicode.isWhiteSpace c = false) (hsign : c ≠ '#') :
          s.rest.head? ≠ some c := by
        intro hhead
        rcases hall c (List.mem_of_mem_head? hhead) with h | h
        · rw [hc] at h
          cases h
        · exact hsign h
      exact .inr ⟨hskip, hne ']' (by decide) (by decide), hne '-' (by decide) (by decide)⟩
  · simp only [peek, hverbose, Scan.space, Scan.enclosed]
    cases h : s.rest with
    | nil => exact .inr ⟨by simp [h], by simp, by simp⟩
    | cons c cs => exact .inl rfl

section

variable (h : s.Enclosed whole s')
include h

/-- The end of a range, with the range. -/
theorem rangeEnd_continues (flags : Flags) (first : Atom) :
    Continues whole Within s
      (do
        let (second, rest) ← readClassAtom s
        let low ← classCode flags first
        let high ← classCode flags second
        if low ≤ high then pure (ClassPart.mk (.range low high) 0, rest)
        else .error .invalidClass)
      (do
        let (second, rest) ← readClassAtom s'
        let low ← classCode flags first
        let high ← classCode flags second
        if low ≤ high then pure (ClassPart.mk (.range low high) 0, rest)
        else .error .invalidClass) := by
  refine .bind (readClassAtom_continues h) fun second t t' hlater ht => ?_
  refine .read fun low => .read fun high => ?_
  split
  · exact .ok hlater ht
  · exact .error

theorem readClassItem_continues :
    Continues whole Within s (readClassItem s) (readClassItem s') := by
  unfold readClassItem
  refine .bind (readClassAtom_continues h) fun first t t' hlater ht => ?_
  simp only [h.flags]
  rcases ht.space.next_cases with ⟨-, hnext, -⟩ | ⟨c, u, hnext, hu, hnext'⟩
  · simp only [hnext]
    exact .error
  · have hafter := hlater.space.trans (.next hnext)
    simp only [hnext, hnext']
    split
    · exact .error
    · next h =>
      cases h
      simp only []
      have hrange := (rangeEnd_continues hu.space s.flags first).within hafter.space
      have hpeek := peek_cases hu
      rw [hu.flags, hafter.flags] at hpeek
      rcases hpeek with hpeek | ⟨hend, hclose, hminus⟩
      · rw [hpeek]
        split
        · split
          · exact .ok hlater.space ht.space
          · exact .map hlater.space ht.space
        · exact hrange
      · rw [if_neg (by simp [hclose, hminus])]
        have hnone : readClassAtom u.space = .error .invalidClass := by
          rw [readClassAtom, Scan.next?, hend]
        rw [hnone]
        exact .error
    · next hminus h =>
      cases h
      split
      · split
        · next h => cases h
        · next h =>
          cases h
          exact absurd rfl (hminus u)
        · exact .ok hlater.space ht.space
      · split
        · next h => cases h
        · next h =>
          cases h
          exact absurd rfl (hminus u)
        · exact .map hlater.space ht.space

theorem readHyphens_continues (state : ClassState) {fuel more : Nat}
    (hfuel : s.rest.length ≤ fuel) (hmore : s'.rest.length ≤ more) :
    ∃ after t t', readHyphens fuel state s = (after, t) ∧ s.Within t ∧ t.Enclosed whole t' ∧
      readHyphens more state s' = (after, t') := by
  revert state
  refine Scan.Enclosed.loop (fun fuel more s s' h hnext hend state => ?_)
    (fun fuel more s s' c t h hnext hnext' ht ih state => ?_) h hfuel hmore
  · refine ⟨state, s, s', ?_, .refl s, h, ?_⟩
    · cases fuel <;> simp [readHyphens, hnext]
    · rcases hend with hnext' | ⟨u, hnext'⟩ <;> cases more <;> simp [readHyphens, hnext']
  · by_cases hc : c = '-'
    · subst hc
      obtain ⟨after, u, u', heq, hlater, hu, heq'⟩ := ih (state.add ⟨.single '-', 0⟩)
      refine ⟨after, u, u', ?_, (Within.next hnext).space.trans hlater, hu, ?_⟩
      · simp only [readHyphens, hnext, heq]
      · simp only [readHyphens, hnext', heq']
    · exact ⟨state, s, s', by simp [readHyphens, hnext, hc], .refl s, h,
        by simp [readHyphens, hnext', hc]⟩

end

/-- Reads what follows the sign of negation at the start of a set. -/
def readAfterNegation (negated : Bool) (s : Scan) : Bool × ClassState × Scan :=
  let (state, s) := readHyphens s.rest.length ⟨none, .empty⟩ s
  match s.next? with
  | some (']', rest) =>
    if state.union.count = 0 then (negated, state.add ⟨.single ']', 0⟩, rest.space)
    else (negated, state, s)
  | _ => (negated, state, s)

theorem readClassOpening_negated {t : Scan} (h : s.space.next? = some ('^', t)) :
    readClassOpening s = readAfterNegation true t.space := by
  simp only [readClassOpening, h]
  rfl

theorem readClassOpening_plain (h : ∀ t, s.space.next? = some ('^', t) → False) :
    readClassOpening s = readAfterNegation false s.space := by
  unfold readClassOpening
  extract_lets t
  split
  next negated t hopening =>
  split at hopening
  · next hnext => exact (h _ hnext).elim
  · cases hopening
    rfl

theorem readAfterNegation_continues (h : s.Enclosed whole s') (negated : Bool) :
    ∃ state t t', readAfterNegation negated s = (negated, state, t) ∧ s.Within t ∧
      t.Enclosed whole t' ∧ readAfterNegation negated s' = (negated, state, t') := by
  obtain ⟨state, t, t', heq, hlater, ht, heq'⟩ :=
    readHyphens_continues h ⟨none, .empty⟩ (Nat.le_refl _) (Nat.le_refl _)
  simp only [readAfterNegation, heq, heq']
  rcases ht.next_cases with ⟨-, hnext, hnext' | ⟨u, hnext'⟩⟩ | ⟨c, u, hnext, hu, hnext'⟩
  · rw [hnext, hnext']
    exact ⟨state, t, t', rfl, hlater, ht, rfl⟩
  · rw [hnext, hnext']
    exact ⟨state, t, t', rfl, hlater, ht, rfl⟩
  · rw [hnext, hnext']
    split
    · next h =>
      cases h
      simp only []
      split
      · exact ⟨_, u.space, u.enclosed.space, rfl, (hlater.trans (.next hnext)).space, hu.space, rfl⟩
      · exact ⟨state, t, t', rfl, hlater, ht, rfl⟩
    · next hc =>
      split
      · next h =>
        cases h
        exact absurd rfl (hc u)
      · exact ⟨state, t, t', rfl, hlater, ht, rfl⟩

theorem readClassOpening_continues (h : s.Enclosed whole s') :
    ∃ negated state t t', readClassOpening s = (negated, state, t) ∧ s.Within t ∧
      t.Enclosed whole t' ∧ readClassOpening s' = (negated, state, t') := by
  have hspace := (Within.refl s).space
  have hplain (hs : ∀ t, s.space.next? = some ('^', t) → False)
      (hs' : ∀ t, s'.space.next? = some ('^', t) → False) :
      ∃ negated state t t', readClassOpening s = (negated, state, t) ∧ s.Within t ∧
        t.Enclosed whole t' ∧ readClassOpening s' = (negated, state, t') := by
    obtain ⟨state, t, t', heq, hlater, ht, heq'⟩ := readAfterNegation_continues h.space false
    exact ⟨false, state, t, t', (readClassOpening_plain hs).trans heq, hspace.trans hlater, ht,
      (readClassOpening_plain hs').trans heq'⟩
  rcases h.space.next_cases with ⟨-, hnext, hnext' | ⟨u, hnext'⟩⟩ | ⟨c, t, hnext, ht, hnext'⟩
  · exact hplain (by simp [hnext]) (by simp [hnext'])
  · exact hplain (by simp [hnext]) (by simp [hnext'])
  · by_cases hc : c = '^'
    · subst hc
      have hlater := (hspace.trans (.next hnext)).space
      obtain ⟨state, u, u', heq, hu, henclosed, heq'⟩ := readAfterNegation_continues ht.space true
      exact ⟨true, state, u, u', (readClassOpening_negated hnext).trans heq, hlater.trans hu,
        henclosed, (readClassOpening_negated hnext').trans heq'⟩
    · exact hplain (by simp [hnext, hc]) (by simp [hnext', hc])

theorem classOp_enclosed (s : Scan) :
    classOp? s.enclosed = (classOp? s).map fun (op, t) => (op, t.enclosed) := by
  obtain ⟨rest, flags, groups, names⟩ := s
  rcases rest with - | ⟨c, - | ⟨d, rest⟩⟩
  · rfl
  · simp only [classOp?, Scan.enclosed]
    split <;> simp_all
  · simp only [classOp?, Scan.enclosed]
    split
    case h_1 h | h_2 h | h_3 h =>
      cases h
      rfl
    case h_4 hinter hdiff hsymm =>
      split
      case h_1 h | h_2 h | h_3 h => cases h; simp_all
      case h_4 => rfl

theorem classOp_within {s t : Scan} {op : ClassOp} (h : classOp? s = some (op, t)) :
    s.Within t := by
  unfold classOp? at h
  split at h
  case h_4 => cases h
  all_goals
    next hrest =>
    cases h
    exact ⟨⟨[_, _], hrest.symm⟩, rfl⟩

theorem after_enclosed {needle : List Char} (h : ')' ∉ needle) (cs : List Char) :
    Text.after? needle (cs ++ [')', '$']) = (Text.after? needle cs).map (· ++ [')', '$']) := by
  induction needle generalizing cs with
  | nil => rfl
  | cons n ns ih =>
    rw [List.mem_cons, not_or] at h
    cases cs with
    | nil => simp [Text.after?, Ne.symm h.1]
    | cons c cs =>
      rw [List.cons_append, Text.after?, Text.after?]
      split
      · exact ih h.2 cs
      · rfl

/-- What is searched for is found in front of anything that follows. -/
theorem takeWhile_append_of_dropWhile {cs : List Char} {p : Char → Bool} (h : cs.dropWhile p ≠ [])
    (more : List Char) : (cs ++ more).takeWhile p = cs.takeWhile p := by
  rw [List.takeWhile_append, if_neg]
  intro hlength
  have hall := congrArg List.length (List.takeWhile_append_dropWhile (p := p) (l := cs))
  rw [List.length_append, hlength] at hall
  exact h (List.length_eq_zero_iff.mp (by omega))

theorem className_enclosed (negated : Bool) (inner : List Char) :
    ((asciiClass? (.ofList ((inner ++ [')', '$']).takeWhile (· != ':')))).bind fun set =>
      (Text.after? [':', ']'] ((inner ++ [')', '$']).dropWhile (· != ':'))).bind fun rest =>
        some (negated, set, rest)) =
      ((asciiClass? (.ofList (inner.takeWhile (· != ':')))).bind fun set =>
        (Text.after? [':', ']'] (inner.dropWhile (· != ':'))).bind fun rest =>
          some (negated, set, rest)).map fun (negated, set, rest) =>
            (negated, set, rest ++ [')', '$']) := by
  rw [List.dropWhile_append]
  by_cases hcolon : inner.dropWhile (· != ':') = []
  · rw [if_pos (List.isEmpty_iff.mpr hcolon), hcolon,
      show List.dropWhile (· != ':') [')', '$'] = [] by decide]
    simp [Text.after?, Option.bind_fun_none]
  · rw [if_neg (mt List.isEmpty_iff.mp hcolon), takeWhile_append_of_dropWhile hcolon,
      after_enclosed (by decide)]
    cases asciiClass? (.ofList (inner.takeWhile (· != ':'))) with
    | none => rfl
    | some set => cases Text.after? [':', ']'] (inner.dropWhile (· != ':')) <;> rfl

theorem namedClass_enclosed (cs : List Char) :
    namedClass? (cs ++ [')', '$']) =
      (namedClass? cs).map fun (negated, set, rest) => (negated, set, rest ++ [')', '$']) := by
  unfold namedClass?
  rw [after_enclosed (by decide)]
  cases hopening : Text.after? ['[', ':'] cs with
  | none => rfl
  | some inner =>
    rcases inner with - | ⟨c, inner⟩
    · exact className_enclosed false []
    · by_cases hc : c = '^'
      · subst hc
        exact className_enclosed true inner
      · simp only [Option.map_some, Option.bind_eq_bind, Option.bind_some]
        split
        · next h =>
          cases h
          exact absurd rfl hc
        · split
          · next h =>
            cases h
            exact absurd rfl hc
          · exact className_enclosed false (c :: inner)

theorem namedClass_suffix {cs rest : List Char} {negated : Bool} {set : Unicode.CharSet}
    (h : namedClass? cs = some (negated, set, rest)) : rest <:+ cs := by
  simp only [namedClass?, Option.bind_eq_bind, Option.bind_eq_some_iff, Option.pure_def,
    Option.some.injEq, Prod.mk.injEq, Text.after?_eq_some_iff] at h
  obtain ⟨inner, rfl, _, -, closed, hclosed, -, -, rfl⟩ := h
  have hafter : closed <:+ [':', ']'] ++ closed := List.suffix_append _ _
  rw [← hclosed] at hafter
  refine (hafter.trans (List.dropWhile_suffix _)).trans ?_
  split
  · exact (List.suffix_cons _ _).trans (List.suffix_append _ _)
  · exact List.suffix_append _ _

/-- What follows the end of a text is no part of the sign of an operation. -/
theorem classOp_cases (h : s.Enclosed whole s') :
    (classOp? s = none ∧ classOp? s' = none) ∨
      ∃ op t, classOp? s = some (op, t) ∧ s.Within t ∧ t.Enclosed whole t.enclosed ∧
        classOp? s' = some (op, t.enclosed) := by
  rcases h.same with rfl | ⟨-, hrest, rfl⟩
  · rw [classOp_enclosed]
    cases hop : classOp? s with
    | none => exact .inl ⟨rfl, rfl⟩
    | some found =>
      obtain ⟨op, t⟩ := found
      have ht := classOp_within hop
      exact .inr ⟨op, t, rfl, ht, .of_suffix (ht.suffix.trans h.suffix), rfl⟩
  · exact .inl ⟨by simp [classOp?, hrest], by simp [classOp?, hrest]⟩

/-- What follows the end of a text is no part of the name of a set. -/
theorem namedClass_cases {c : Char} {t : Scan} (h : s.Enclosed whole s')
    (hnext : s.next? = some (c, t)) :
    (namedClass? s.rest = none ∧ namedClass? s'.rest = none) ∨
      ∃ negated set rest, namedClass? s.rest = some (negated, set, rest) ∧
        s.Within { s with rest := rest } ∧
        Scan.Enclosed whole { s with rest := rest } { s' with rest := rest ++ [')', '$'] } ∧
        namedClass? s'.rest = some (negated, set, rest ++ [')', '$']) := by
  obtain rfl := h.eq_enclosed (Scan.rest_of_next hnext)
  rw [show s.enclosed.rest = s.rest ++ [')', '$'] from rfl, namedClass_enclosed]
  cases hnamed : namedClass? s.rest with
  | none => exact .inl ⟨rfl, rfl⟩
  | some found =>
    obtain ⟨negated, set, rest⟩ := found
    have hsuffix := namedClass_suffix hnamed
    exact .inr ⟨negated, set, rest, rfl, ⟨hsuffix, rfl⟩, .of_suffix (hsuffix.trans h.suffix), rfl⟩

section

variable {nested nested' : Scan → Except PatternError (ClassPart × Scan)}

theorem readClassItems_continues (h : s.Enclosed whole s')
    (hnested : ∀ t t', t.Enclosed whole t' → Continues whole Within t (nested t) (nested' t'))
    (negated : Bool) (state : ClassState) {fuel more : Nat} (hfuel : fuel ≤ more) :
    Continues whole Within s (readClassItems nested negated fuel state s)
      (readClassItems nested' negated more state s') := by
  induction fuel generalizing s s' state more with
  | zero => exact .error
  | succ fuel ih =>
    obtain ⟨more, rfl⟩ : ∃ n, more = n + 1 := ⟨more - 1, by omega⟩
    have hspace := (Within.refl s).space
    rw [readClassItems, readClassItems]
    simp only [h.space.flags]
    rcases classOp_cases h.space with ⟨hop, hop'⟩ | ⟨op, t, hop, hafter, ht, hop'⟩
    case inr =>
      simp only [hop, hop']
      exact .read fun left => (ih ht _ (by omega)).within (hspace.trans hafter)
    case inl =>
      simp only [hop, hop']
      rcases h.space.next_cases with ⟨-, hnext, -⟩ | ⟨c, t, hnext, ht, hnext'⟩
      · simp only [hnext]
        exact .error
      · have hlater := hspace.trans (.next hnext)
        simp only [hnext, hnext']
        split
        · next h => cases h
        · next h => cases h
        · next h =>
          cases h
          exact .read fun part => .read fun set => .ok hlater ht
        · next h =>
          cases h
          rcases namedClass_cases h.space hnext with
            ⟨hnamed, hnamed'⟩ | ⟨negated', set, rest, hnamed, hafter, hrest, hnamed'⟩
          · simp only [hnamed, hnamed']
            refine .bind ((hnested _ _ ht).within hlater) fun part u u' hlater hu => ?_
            exact (ih hu _ (by omega)).within hlater
          · simp only [hnamed, hnamed']
            rw [h.space.flags] at hrest
            exact .read fun set => (ih hrest _ (by omega)).within (hspace.trans hafter)
        · next hclose hopen _ h =>
          cases h
          split
          · next h => cases h
          · next h => cases h
          · next h =>
            cases h
            exact absurd rfl (hclose t)
          · next h =>
            cases h
            exact absurd rfl (hopen t)
          · refine .bind ((readClassItem_continues h.space).within hspace)
              fun part u u' hlater hu => ?_
            exact (ih hu _ (by omega)).within hlater

theorem readClass_continues (h : s.Enclosed whole s') {fuel more : Nat} (hfuel : fuel ≤ more) :
    Continues whole Within s (readClass fuel s) (readClass more s') := by
  induction fuel generalizing s s' more with
  | zero => exact .error
  | succ fuel ih =>
    obtain ⟨more, rfl⟩ : ∃ n, more = n + 1 := ⟨more - 1, by omega⟩
    obtain ⟨negated, state, t, t', heq, hlater, ht, heq'⟩ := readClassOpening_continues h
    rw [readClass, readClass, heq, heq']
    refine (readClassItems_continues ht (fun u u' hu => ?_) negated state ?_).within hlater
    · exact ih hu (by omega)
    · exact Nat.succ_le_succ ht.le_length

end

end AttrExpr.Regex
