import AttrExpr.Proofs.EnclosingSets
import AttrExpr.Regex.Reader

/-! Repetitions, groups and whole expressions in front of a closing parenthesis. -/
set_option autoImplicit false

namespace AttrExpr.Regex

open Scan (Within)

variable {whole : List Char} {s s' : Scan}

section

variable (h : s.Enclosed whole s')
include h

theorem skipAllBlanks_continues {fuel more : Nat} (hfuel : s.rest.length ≤ fuel)
    (hmore : s'.rest.length ≤ more) :
    s.Within (skipAllBlanks fuel s) ∧
      (skipAllBlanks fuel s).Enclosed whole (skipAllBlanks more s') := by
  refine Scan.Enclosed.loop (fun fuel more s s' h hnext hend => ?_)
    (fun fuel more s s' c t h hnext hnext' ht ih => ?_) h hfuel hmore
  · have hstay : skipAllBlanks fuel s = s := by cases fuel <;> simp [skipAllBlanks, hnext]
    have hstay' : skipAllBlanks more s' = s' := by
      have hclose : Unicode.isWhiteSpace ')' = false := by decide
      rcases hend with hnext' | ⟨u, hnext'⟩ <;> cases more <;>
        simp [skipAllBlanks, hnext', hclose]
    rw [hstay, hstay']
    exact ⟨.refl s, h⟩
  · rw [skipAllBlanks, skipAllBlanks, hnext, hnext']
    dsimp only
    split
    · exact ⟨(Within.next hnext).space.trans ih.1, ih.2⟩
    · exact ⟨.refl s, h⟩

theorem readCountDigits_continues {fuel more : Nat} (hfuel : s.rest.length ≤ fuel)
    (hmore : s'.rest.length ≤ more) :
    ∃ digits t t', readCountDigits fuel s = (digits, t) ∧ s.Within t ∧ t.Enclosed whole t' ∧
      readCountDigits more s' = (digits, t') := by
  refine Scan.Enclosed.loop (fun fuel more s s' h hnext hend => ?_)
    (fun fuel more s s' c t h hnext hnext' ht ih => ?_) h hfuel hmore
  · refine ⟨[], s, s', ?_, .refl s, h, ?_⟩
    · cases fuel <;> simp [readCountDigits, hnext]
    · rcases hend with hnext' | ⟨u, hnext'⟩ <;> cases more <;> simp [readCountDigits, hnext']
  · rw [readCountDigits, readCountDigits, hnext, hnext']
    dsimp only
    split
    · obtain ⟨digits, u, u', heq, hlater, hu, heq'⟩ := ih
      exact ⟨c :: digits, u, u', by rw [heq], (Within.next hnext).space.trans hlater, hu,
        by rw [heq']⟩
    · exact ⟨[], s, s', rfl, .refl s, h, rfl⟩

theorem readCount_continues : Continues whole Within s (readCount s) (readCount s') := by
  obtain ⟨hlater, ht⟩ := skipAllBlanks_continues h (Nat.le_refl _) (Nat.le_refl _)
  obtain ⟨digits, u, u', heq, hdigits, hu, heq'⟩ :=
    readCountDigits_continues ht (Nat.le_refl _) (Nat.le_refl _)
  obtain ⟨hlast, hv⟩ := skipAllBlanks_continues hu (Nat.le_refl _) (Nat.le_refl _)
  have hlater := (hlater.trans hdigits).trans hlast
  unfold readCount
  simp only [heq, heq']
  split
  · exact .ok hlater hv
  · split
    · exact .ok hlater hv
    · exact .error

end

/-- The number after the comma of a repetition, and the closing brace. -/
def readUpperCount (low : Nat) (s : Scan) : Except PatternError (Nat × Option Nat × Scan) := do
  let (high, rest) ← readCount s
  match high, rest.next? with
  | some high, some ('\x7d', rest) =>
    if low ≤ high then pure (low, some high, rest.space) else .error .invalidRepetition
  | _, _ => .error .invalidRepetition

/-- What follows the comma of a repetition. -/
def readAfterComma (low : Nat) (s : Scan) : Except PatternError (Nat × Option Nat × Scan) :=
  match s.next? with
  | some ('\x7d', rest) => pure (low, none, rest.space)
  | _ => readUpperCount low s

theorem readCounts_eq (s : Scan) :
    readCounts s =
      (do
        let (low, rest) ← readCount s.space
        match low, rest.next? with
        | some low, some ('\x7d', rest) => pure (low, some low, rest.space)
        | some low, some (',', rest) => readAfterComma low rest.space
        | _, _ => .error .invalidRepetition) := rfl

theorem readAfterComma_of_open (low : Nat) (h : ∀ t, s.next? ≠ some ('\x7d', t)) :
    readAfterComma low s = readUpperCount low s := by
  unfold readAfterComma
  split
  · next t heq => exact absurd heq (h t)
  · rfl

section

variable {α : Type} {R : Scan → Scan → Prop} {t u u' : Scan} {low : Nat}
  {f g : Nat × Option Nat × Scan → Except PatternError (α × Scan)}

theorem readUpperCount_continues (hu : u.Enclosed whole u') (hlater : s.Within u)
    (hf : ∀ high v v', s.Within v → v.Enclosed whole v' →
      Continues whole R t (f (low, high, v)) (g (low, high, v'))) :
    Continues whole R t (readUpperCount low u >>= f) (readUpperCount low u' >>= g) := by
  unfold readUpperCount
  simp only [bind_assoc]
  refine .bind ((readCount_continues hu).within hlater) fun high w w' hlater hw => ?_
  cases high with
  | none => exact .error
  | some high =>
    rcases hw.next_cases with ⟨-, hnext, -⟩ | ⟨c, x, hnext, hx, hnext'⟩
    · simp only [hnext]
      exact .error
    · simp only [hnext, hnext']
      by_cases hclose : c = '\x7d'
      · subst hclose
        simp only []
        split
        · exact hf _ _ _ (hlater.trans (.next hnext)).space hx.space
        · exact .error
      · split
        · next heq =>
          cases heq
          exact absurd rfl hclose
        · exact .error

theorem readAfterComma_continues (hu : u.Enclosed whole u') (hlater : s.Within u)
    (hf : ∀ high v v', s.Within v → v.Enclosed whole v' →
      Continues whole R t (f (low, high, v)) (g (low, high, v'))) :
    Continues whole R t (readAfterComma low u >>= f) (readAfterComma low u' >>= g) := by
  rcases hu.next_cases with ⟨hend, hnext, -⟩ | ⟨c, v, hnext, hv, hnext'⟩
  · -- no digit is left to read
    have hnone : readCount u = .ok (none, u) := by
      simp [readCount, skipAllBlanks, readCountDigits, hend]
    simp only [readAfterComma, readUpperCount, hnext, hnone]
    exact .error
  · by_cases hclose : c = '\x7d'
    · subst hclose
      simp only [readAfterComma, hnext, hnext']
      exact hf _ _ _ (hlater.trans (.next hnext)).space hv.space
    · rw [readAfterComma_of_open low (by simp [hnext, hclose]),
        readAfterComma_of_open low (by simp [hnext', hclose])]
      exact readUpperCount_continues hu hlater hf

/-- The numbers of a repetition and what is read after them. -/
theorem readCounts_continues (h : s.Enclosed whole s')
    (hf : ∀ low high u u', s.Within u → u.Enclosed whole u' →
      Continues whole R t (f (low, high, u)) (g (low, high, u'))) :
    Continues whole R t (readCounts s >>= f) (readCounts s' >>= g) := by
  have hspace := (Within.refl s).space
  rw [readCounts_eq, readCounts_eq]
  simp only [bind_assoc]
  refine .bind ((readCount_continues h.space).within hspace) fun low t t' hlater ht => ?_
  cases low with
  | none => exact .error
  | some low =>
    rcases ht.next_cases with ⟨-, hnext, -⟩ | ⟨c, u, hnext, hu, hnext'⟩
    · simp only [hnext]
      exact .error
    · have hlater := (hlater.trans (.next hnext)).space
      simp only [hnext, hnext']
      by_cases hclose : c = '\x7d'
      · subst hclose
        exact hf _ _ _ _ hlater hu.space
      by_cases hcomma : c = ','
      · subst hcomma
        exact readAfterComma_continues hu.space hlater (hf _)
      · split
        · next h =>
          cases h
          exact absurd rfl hclose
        · next h =>
          cases h
          exact absurd rfl hcomma
        · exact .error

end

theorem repeatLast_continues (h : s.Enclosed whole s') (branches : Branches) (low : Nat)
    (high : Option Nat) :
    Continues whole Within s (branches.repeatLast low high s)
      (branches.repeatLast low high s') := by
  unfold Branches.repeatLast
  rw [h.flags]
  split
  · exact .error
  · split
    · exact .error
    · rcases h.next_cases with ⟨-, hnext, hnext' | ⟨u, hnext'⟩⟩ | ⟨c, t, hnext, ht, hnext'⟩
      · rw [hnext, hnext']
        exact .ok (.refl s) h
      · rw [hnext, hnext']
        exact .ok (.refl s) h
      · rw [hnext, hnext']
        split
        next lazy u hu =>
        split
        next lazy' u' hu' =>
        split at hu
        · next h =>
          cases h
          cases hu
          cases hu'
          exact .ok (.next hnext) ht
        · next hlazy =>
          split at hu'
          · next h =>
            cases h
            exact absurd rfl (hlazy t)
          · cases hu
            cases hu'
            exact .ok (.refl s) h

/-! Groups. -/

theorem readFlags_enclosed {seen : List Char} {value : Bool} {flags flags' : Flags}
    {cs rest : List Char} (h : readFlags seen value flags cs = .ok (flags', rest)) :
    rest <:+ cs ∧ (∃ c after, rest = c :: after ∧ (c = ':' ∨ c = ')')) ∧
      readFlags seen value flags (cs ++ [')', '$']) = .ok (flags', rest ++ [')', '$']) := by
  induction cs generalizing seen value flags with
  | nil => cases h
  | cons c cs ih =>
    have hstep (seen : List Char) (value : Bool) (flags : Flags)
        (h : readFlags seen value flags cs = .ok (flags', rest)) :=
      And.imp_left (List.IsSuffix.trans · (List.suffix_cons c cs)) (ih h)
    rw [readFlags] at h
    rw [List.cons_append, readFlags]
    split at h
    · next hend =>
      rw [if_pos hend]
      split at h
      · cases h
      · next hdash =>
        cases h
        rw [if_neg hdash]
        exact ⟨List.suffix_refl _, ⟨c, cs, rfl, hend⟩, rfl⟩
    · next hend =>
      rw [if_neg hend]
      split at h
      · cases h
      · next hseen =>
        rw [if_neg hseen]
        split at h
        · next hdash =>
          rw [if_pos hdash]
          exact hstep _ _ _ h
        · next hdash =>
          rw [if_neg hdash]
          split at h
          · exact hstep _ _ _ h
          · cases h

/-- Openings of one kind, in front of places that go on in the same way. -/
inductive Opening.Enclosed (whole : List Char) : Opening → Opening → Prop
  | flags {s s' : Scan} (h : s.Enclosed whole s') : Enclosed whole (.flags s) (.flags s')
  | plain {s s' : Scan} (h : s.Enclosed whole s') : Enclosed whole (.plain s) (.plain s')
  | capture {s s' : Scan} (index : Nat) (h : s.Enclosed whole s') :
    Enclosed whole (.capture index s) (.capture index s')

/-- What is left after an opening. -/
def Opening.scan : Opening → Scan
  | .flags s | .plain s | .capture _ s => s

theorem readGroupName_continues {opening : Opening} (hs : s.rest <:+ whole)
    (h : readGroupName s = .ok opening) :
    opening.scan.rest <:+ s.rest ∧ ∃ opening', opening.Enclosed whole opening' ∧
      readGroupName s.enclosed = .ok opening' := by
  unfold readGroupName at h ⊢
  dsimp only at h
  split at h
  · next c cs rest hname hclose =>
    split at h
    · cases h
    · next hvalid =>
      cases h
      have hfound : s.rest.dropWhile (· != '>') ≠ [] := by simp [hclose]
      have hrest : rest <:+ s.rest :=
        (List.suffix_cons '>' rest).trans (hclose ▸ List.dropWhile_suffix _)
      have hname' : s.enclosed.rest.takeWhile (· != '>') = c :: cs :=
        (takeWhile_append_of_dropWhile hfound _).trans hname
      have hclose' : s.enclosed.rest.dropWhile (· != '>') = '>' :: (rest ++ [')', '$']) := by
        rw [Scan.enclosed, List.dropWhile_append, if_neg (by simpa using hfound), hclose,
          List.cons_append]
      refine ⟨hrest, _, .capture _ (.of_suffix (hrest.trans hs)), ?_⟩
      simp only [hname, hname', hclose'] at hvalid ⊢
      exact if_neg hvalid
  · cases h

theorem readOpening_capture (h : ∀ cs, s.space.rest ≠ '?' :: cs) :
    readOpening s =
      .ok (.capture (s.space.groups + 1) { s.space with groups := s.space.groups + 1 }) := by
  unfold readOpening
  dsimp only
  split
  case h_9 => rfl
  all_goals
    next hrest => exact absurd hrest (h _)

theorem readOpening_named {after : List Char} (h : s.space.rest = '?' :: 'P' :: '<' :: after) :
    readOpening s = readGroupName { s.space with rest := after } := by
  simp only [readOpening, h]

theorem readOpening_shortNamed {c : Char} {cs : List Char}
    (h : s.space.rest = '?' :: '<' :: c :: cs) (hc : c ≠ '=') (hc' : c ≠ '!') :
    readOpening s = readGroupName { s.space with rest := c :: cs } := by
  simp only [readOpening, h]
  split
  case h_6 hrest =>
    cases hrest
    rfl
  case h_8 hangle _ hrest =>
    cases hrest
    exact (hangle _ rfl).elim
  all_goals simp_all

theorem flags_head {c : Char} {cs : List Char} {flags : Flags} {result : Flags × List Char}
    (h : readFlags [] true flags (c :: cs) = .ok result) :
    c ≠ '=' ∧ c ≠ '!' ∧ c ≠ '<' ∧ c ≠ 'P' := by
  refine ⟨?_, ?_, ?_, ?_⟩
  all_goals
    rintro rfl
    cases h

theorem readOpening_flags {c d : Char} {cs after : List Char} {flags : Flags}
    (h : s.space.rest = '?' :: c :: cs) (hc : c ≠ ')')
    (hread : readFlags [] true s.space.flags (c :: cs) = .ok (flags, d :: after)) :
    readOpening s = .ok (if d = ':' then .plain { s.space with rest := after, flags := flags }
      else .flags { s.space with rest := after, flags := flags }) := by
  obtain ⟨hequal, hnot, hangle, hname⟩ := flags_head hread
  simp only [readOpening, h]
  split
  case h_8 hrest =>
    cases hrest
    rw [hread]
    by_cases hcolon : d = ':'
    · subst hcolon
      rfl
    · rw [if_neg hcolon]
      simp only [bind, Except.bind]
      split
      · next h =>
        cases h
        exact absurd rfl hcolon
      · next h =>
        cases h
        rfl
  all_goals simp_all

/-- Flags are read, or a group that they open. -/
theorem readOpening_flags_continues {after rest : List Char} {flags : Flags} {opening : Opening}
    (h : s.Enclosed whole s') (hrest : s.space.rest = '?' :: after)
    (hclose : ∀ cs, after ≠ ')' :: cs)
    (hflags : readFlags [] true s.space.flags after = .ok (flags, rest))
    (hread : readOpening s = .ok opening) :
    opening.scan.rest <:+ s.rest ∧ ∃ opening', opening.Enclosed whole opening' ∧
      readOpening s' = .ok opening' := by
  obtain ⟨hsuffix, ⟨d, ds, rfl, -⟩, hflags'⟩ := readFlags_enclosed hflags
  cases after with
  | nil => cases hflags
  | cons c cs =>
    have hc : c ≠ ')' := fun hc => hclose cs (hc ▸ rfl)
    have hafter : ds <:+ s.space.rest :=
      ((List.suffix_cons d ds).trans hsuffix).trans ⟨['?'], hrest.symm⟩
    have hds := hafter.trans s.space_suffix
    have hplace : Scan.Enclosed whole { s.space with rest := ds, flags := flags }
        { s'.space with rest := ds ++ [')', '$'], flags := flags } := by
      rw [h.space.eq_enclosed hrest]
      exact .of_suffix (hds.trans h.suffix)
    rw [← h.space.flags] at hflags'
    rw [readOpening_flags hrest hc hflags] at hread
    rw [readOpening_flags (h.space.rest_eq hrest) hc hflags']
    cases hread
    split
    · exact ⟨hds, _, .plain hplace, rfl⟩
    · exact ⟨hds, _, .flags hplace, rfl⟩

/-- A group, or flags, for characters that are not taken to be the start of something else. -/
theorem readOpening_continues {opening : Opening} (h : s.Enclosed whole s')
    (hread : readOpening s = .ok opening) :
    opening.scan.rest <:+ s.rest ∧ ∃ opening', opening.Enclosed whole opening' ∧
      readOpening s' = .ok opening' := by
  have hspace := s.space_suffix
  have heq {c : Char} {cs : List Char} (hrest : s.space.rest = c :: cs) :
      s'.space.rest = c :: (cs ++ [')', '$']) := h.space.rest_eq hrest
  have hnamed {after : List Char} (hafter : after <:+ s.space.rest)
      (hname : readGroupName { s.space with rest := after } = .ok opening) :=
    And.imp_left (List.IsSuffix.trans · (hafter.trans hspace))
      (readGroupName_continues (hafter.trans (hspace.trans h.suffix)) hname)
  have hopening := hread
  unfold readOpening at hread
  dsimp only at hread
  split at hread
  case h_1 | h_2 | h_3 | h_4 | h_7 => cases hread
  case h_5 after hrest =>
    obtain ⟨hsuffix, opening', henclosed, hname⟩ := hnamed ⟨['?', 'P', '<'], hrest.symm⟩ hread
    refine ⟨hsuffix, opening', henclosed, ?_⟩
    rw [readOpening_named (heq hrest), h.space.eq_enclosed hrest]
    exact hname
  case h_6 after hequal hnot hrest =>
    obtain ⟨hsuffix, opening', henclosed, hname⟩ := hnamed ⟨['?', '<'], hrest.symm⟩ hread
    cases after with
    | nil => cases hread
    | cons c cs =>
      refine ⟨hsuffix, opening', henclosed, ?_⟩
      rw [readOpening_shortNamed (heq hrest) (fun hc => hequal cs (hc ▸ rfl))
        (fun hc => hnot cs (hc ▸ rfl)), h.space.eq_enclosed hrest]
      exact hname
  case h_8 after _ _ _ _ _ _ hclose hrest =>
    cases hflags : readFlags [] true s.space.flags after with
    | error e =>
      rw [hflags] at hread
      cases hread
    | ok found => exact readOpening_flags_continues h hrest hclose hflags hopening
  case h_9 hother =>
    cases hread
    refine ⟨hspace, _, .capture _ (h.space.withGroups _), ?_⟩
    rw [readOpening_capture (h.space.rest_ne (by decide) hother), h.space.groups]

/-- What is left is later in a text. -/
def Later (s t : Scan) : Prop := t.rest <:+ s.rest

/-- The inside of a group and the parenthesis after it. -/
theorem groupEnd_continues {inner inner' : Except PatternError (Item × Scan)}
    (h : s.Enclosed whole s') (wrap : Tree → Tree)
    (hinside : Continues whole Later s inner inner') :
    Continues whole Later s
      (do
        let (item, rest) ← inner
        match rest.next? with
        | some (')', rest) =>
          pure (Item.mk (wrap item.tree) (item.depth + 1) true, { rest with flags := s.flags })
        | _ => .error .unclosedGroup)
      (do
        let (item, rest) ← inner'
        match rest.next? with
        | some (')', rest) =>
          pure (Item.mk (wrap item.tree) (item.depth + 1) true, { rest with flags := s'.flags })
        | _ => .error .unclosedGroup) := by
  refine .bind hinside fun item t t' hlater ht => ?_
  rcases ht.next_cases with ⟨-, hnext, -⟩ | ⟨c, u, hnext, hu, hnext'⟩
  · simp only [hnext]
    exact .error
  · simp only [hnext, hnext', h.flags]
    split
    · next heq =>
      cases heq
      exact .ok ((Within.next hnext).suffix.trans hlater) (hu.withFlags _)
    · exact .error

theorem readGroup_continues {body body' : Scan → Except PatternError (Item × Scan)}
    (h : s.Enclosed whole s')
    (hbody : ∀ t t', t.Enclosed whole t' → t.rest <:+ s.rest →
      Continues whole Later t (body t) (body' t')) :
    Continues whole Later s (readGroup body s) (readGroup body' s') := by
  have hinside {inner inner' : Scan} (hsuffix : inner.rest <:+ s.rest)
      (hinner : inner.Enclosed whole inner') :
      Continues whole Later s (body inner) (body' inner') :=
    (hbody _ _ hinner hsuffix).mono fun u hu => hu.trans hsuffix
  unfold readGroup
  dsimp only
  cases hopening : readOpening s with
  | error e => exact .error
  | ok opening =>
    obtain ⟨hsuffix, opening', henclosed, hopening'⟩ := readOpening_continues h hopening
    rw [hopening']
    cases henclosed with
    | flags ht => exact .ok hsuffix ht
    | plain ht => exact groupEnd_continues h id (hinside hsuffix ht)
    | capture index ht => exact groupEnd_continues h (.group index) (hinside hsuffix ht)

/-- A repetition of what was read last, and what is read after it. -/
theorem repeatLast_bind_continues {next next' : Branches → Scan → Except PatternError (Item × Scan)}
    {t t' : Scan} (ht : t.Enclosed whole t') (branches : Branches) (low : Nat)
    (high : Option Nat)
    (hnext : ∀ branches u u', Within t u → u.Enclosed whole u' →
      Continues whole Later s (next branches u) (next' branches u')) :
    Continues whole Later s
      (do
        let (branches, rest) ← branches.repeatLast low high t
        next branches rest)
      (do
        let (branches, rest) ← branches.repeatLast low high t'
        next' branches rest) :=
  .bind (repeatLast_continues ht branches low high) hnext

theorem readBranches_continues {body body' : Scan → Except PatternError (Item × Scan)}
    {fuel more : Nat} (branches : Branches) (h : s.Enclosed whole s')
    (hfuel : s.rest.length < fuel) (hmore : s'.rest.length < more)
    (hbody : ∀ t t', t.Enclosed whole t' → t.rest.length < s.rest.length →
      t'.rest.length < s'.rest.length → Continues whole Later t (body t) (body' t')) :
    Continues whole Later s (readBranches body fuel branches s)
      (readBranches body' more branches s') := by
  induction fuel generalizing s s' branches more with
  | zero => exact absurd hfuel (Nat.not_lt_zero _)
  | succ fuel ih =>
    obtain ⟨more, rfl⟩ : ∃ n, more = n + 1 := ⟨more - 1, by omega⟩
    have hspace := (Within.refl s).space
    rw [readBranches, readBranches]
    simp only [h.space.flags]
    rcases h.space.next_cases with ⟨-, hnext, hnext' | ⟨u, hnext'⟩⟩ | ⟨c, t, hnext, ht, hnext'⟩
    · simp only [hnext, hnext']
      exact .ok hspace.suffix h.space
    · simp only [hnext, hnext']
      exact .ok hspace.suffix h.space
    · have hlater := hspace.trans (.next hnext)
      have hlength := Scan.length_of_next hnext
      have hlength' := Scan.length_of_next hnext'
      have hspaceLength := s.space_suffix.length_le
      have hspaceLength' := s'.space_suffix.length_le
      have henclosed : t.enclosed.rest.length = t.rest.length + 2 := by simp [Scan.enclosed]
      have hgo (branches : Branches) {u u' : Scan} (hu : u.rest <:+ t.rest)
          (hu' : u.Enclosed whole u') :
          Continues whole Later s (readBranches body fuel branches u)
            (readBranches body' more branches u') := by
        have hle := hu.length_le
        have hle' := hu'.length_le
        refine (ih branches hu' (by omega) (by omega) fun v v' hv hlt hlt' => ?_).mono
          fun v hv => List.IsSuffix.trans hv (hu.trans hlater.suffix)
        exact hbody v v' hv (by omega) (by omega)
      have hlast (low : Nat) (high : Option Nat) :=
        repeatLast_bind_continues ht branches low high fun branches u u' hu hu' =>
          hgo branches hu.suffix hu'
      simp only [hnext, hnext']
      split
      case h_1 heq => cases heq
      case h_2 heq =>
        cases heq
        exact .ok hspace.suffix h.space
      case h_3 heq =>
        cases heq
        refine .bind (readGroup_continues ht fun u u' hu hsuffix => ?_) fun item u u' hu hu' =>
          hgo _ hu hu'
        have hle := hsuffix.length_le
        have hle' := hu.length_le
        exact hbody u u' hu (by omega) (by omega)
      case h_4 heq =>
        cases heq
        exact hgo _ (List.suffix_refl _) ht
      case h_5 heq =>
        cases heq
        exact .bind (readClass_continues ht ht.le_length) fun part u u' hu hu' =>
          hgo _ hu.suffix hu'
      case h_6 heq | h_7 heq | h_8 heq =>
        cases heq
        exact hlast _ _
      case h_9 heq =>
        cases heq
        refine readCounts_continues ht fun low high u u' hu hu' => ?_
        exact .bind (repeatLast_continues hu' branches low high) fun branches v v' hv hv' =>
          hgo branches (hv.suffix.trans hu.suffix) hv'
      case h_10 heq =>
        cases heq
        exact .read fun set => hgo _ (List.suffix_refl _) ht
      case h_11 heq | h_12 heq =>
        cases heq
        exact hgo _ (List.suffix_refl _) ht
      case h_13 heq =>
        cases heq
        exact .bind (readEscape_continues ht) fun atom u u' hu hu' =>
          .read fun item => hgo _ hu.suffix hu'
      case h_14 heq =>
        cases heq
        split
        case h_14 heq =>
          cases heq
          exact .read fun set => hgo _ (List.suffix_refl _) ht
        all_goals simp_all

/-- The inside of a group is read as on its own. -/
theorem readBody_continues {fuel more : Nat} (h : s.Enclosed whole s')
    (hfuel : s.rest.length < fuel) (hmore : s'.rest.length < more) :
    Continues whole Later s (readBody fuel s) (readBody more s') := by
  induction fuel generalizing s s' more with
  | zero => exact absurd hfuel (Nat.not_lt_zero _)
  | succ fuel ih =>
    obtain ⟨more, rfl⟩ : ∃ n, more = n + 1 := ⟨more - 1, by omega⟩
    rw [readBody, readBody]
    exact readBranches_continues _ h (Nat.lt_succ_self _) (Nat.lt_succ_self _)
      fun t t' ht hlt hlt' => ih ht (by omega) (by omega)

end AttrExpr.Regex
