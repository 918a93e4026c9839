import AttrExpr.Regex.Scan
import Mathlib.Data.List.Infix

/-! Regular expressions in front of a closing parenthesis. What is read up to the end of a text is
read in the same way when a parenthesis follows, unless a comment takes it up. -/
set_option autoImplicit false

namespace AttrExpr.Regex

/-- The sign of a comment is there, and not the end of its line. -/
def CommentOpen (cs : List Char) : Prop := ∃ comment, '#' :: comment <:+ cs ∧ '\n' ∉ comment

theorem CommentOpen.of_suffix {cs ds : List Char} (h : CommentOpen ds) (hds : ds <:+ cs) :
    CommentOpen cs :=
  let ⟨comment, hsuffix, hend⟩ := h
  ⟨comment, hsuffix.trans hds, hend⟩

theorem skipVerbose_suffix (inComment : Bool) (cs : List Char) :
    skipVerbose inComment cs <:+ cs := by
  fun_induction skipVerbose inComment cs with
  | case1 => exact List.suffix_refl _
  | case2 c cs ih => exact ih.trans (List.suffix_cons c cs)
  | case3 c cs hblank ih => exact ih.trans (List.suffix_cons c cs)
  | case4 cs hblank ih => exact ih.trans (List.suffix_cons _ cs)
  | case5 c cs hblank hsign => exact List.suffix_refl _

/-- Blanks and comments are passed over in the same way, or nothing is left of either text. -/
theorem skipVerbose_enclosed (inComment : Bool) (cs : List Char) :
    skipVerbose inComment (cs ++ [')', '$']) = skipVerbose inComment cs ++ [')', '$'] ∨
      (inComment = true ∧ '\n' ∉ cs ∨ CommentOpen cs) ∧ skipVerbose inComment cs = [] ∧
        skipVerbose inComment (cs ++ [')', '$']) = [] := by
  fun_induction skipVerbose inComment cs with
  | case1 inComment =>
    cases inComment with
    | true => exact .inr ⟨.inl ⟨rfl, List.not_mem_nil⟩, rfl, by decide⟩
    | false => exact .inl (by decide)
  | case2 c cs ih =>
    rw [List.cons_append, skipVerbose]
    refine ih.imp_right (And.imp_left fun hopen => ?_)
    rcases hopen with ⟨hc, hend⟩ | hopen
    · have hc : '\n' ≠ c := Ne.symm (bne_iff_ne.mp hc)
      exact .inl ⟨rfl, by simp [hc, hend]⟩
    · exact .inr (hopen.of_suffix (List.suffix_cons c cs))
  | case3 c cs hblank ih =>
    rw [List.cons_append, skipVerbose, if_pos hblank]
    refine ih.imp_right (And.imp_left fun hopen => ?_)
    rcases hopen with ⟨hc, -⟩ | hopen
    · cases hc
    · exact .inr (hopen.of_suffix (List.suffix_cons c cs))
  | case4 cs hblank ih =>
    rw [List.cons_append, skipVerbose, if_neg hblank, if_pos rfl]
    refine ih.imp_right (And.imp_left fun hopen => .inr ?_)
    rcases hopen with ⟨-, hend⟩ | hopen
    · exact ⟨cs, List.suffix_refl _, hend⟩
    · exact hopen.of_suffix (List.suffix_cons _ cs)
  | case5 c cs hblank hsign =>
    exact .inl (by rw [List.cons_append, skipVerbose, if_neg hblank, if_neg hsign])

namespace Scan

variable {whole : List Char} {s s' t u u' : Scan} {c : Char}

@[simp] theorem space_flags (s : Scan) : s.space.flags = s.flags := by
  unfold space
  split <;> rfl

theorem space_suffix (s : Scan) : s.space.rest <:+ s.rest := by
  unfold space
  split
  · exact skipVerbose_suffix false s.rest
  · exact List.suffix_refl _

/-- Later in a text, with the same flags. -/
structure Within (s t : Scan) : Prop where
  suffix : t.rest <:+ s.rest
  flags : t.flags = s.flags

namespace Within

theorem refl (s : Scan) : s.Within s := ⟨List.suffix_refl _, rfl⟩

theorem trans (h : s.Within t) (h' : t.Within u) : s.Within u :=
  ⟨h'.suffix.trans h.suffix, h'.flags.trans h.flags⟩

theorem space (h : s.Within t) : s.Within t.space :=
  ⟨t.space_suffix.trans h.suffix, t.space_flags.trans h.flags⟩

theorem next (h : s.next? = some (c, t)) : s.Within t := by
  unfold next? at h
  split at h
  · cases h
  · next hrest =>
    cases h
    exact ⟨hrest ▸ List.suffix_cons _ _, rfl⟩

end Within

/-- The same in front of a closing parenthesis and an anchor. -/
def enclosed (s : Scan) : Scan := { s with rest := s.rest ++ [')', '$'] }

/-- The same place of a whole text, in front of a closing parenthesis and an anchor. Nothing is left
of them where an open comment has taken them up. -/
structure Enclosed (whole : List Char) (s s' : Scan) : Prop where
  suffix : s.rest <:+ whole
  same : s' = s.enclosed ∨ CommentOpen whole ∧ s.rest = [] ∧ s' = s

namespace Enclosed

theorem of_suffix (h : s.rest <:+ whole) : s.Enclosed whole s.enclosed := ⟨h, .inl rfl⟩

theorem flags (h : s.Enclosed whole s') : s'.flags = s.flags := by
  rcases h.same with rfl | ⟨-, -, rfl⟩ <;> rfl

theorem groups (h : s.Enclosed whole s') : s'.groups = s.groups := by
  rcases h.same with rfl | ⟨-, -, rfl⟩ <;> rfl

theorem withFlags (h : s.Enclosed whole s') (flags : Flags) :
    Enclosed whole { s with flags := flags } { s' with flags := flags } := by
  refine ⟨h.suffix, ?_⟩
  rcases h.same with rfl | ⟨hopen, hrest, rfl⟩
  · exact .inl rfl
  · exact .inr ⟨hopen, hrest, rfl⟩

theorem withGroups (h : s.Enclosed whole s') (groups : Nat) :
    Enclosed whole { s with groups := groups } { s' with groups := groups } := by
  refine ⟨h.suffix, ?_⟩
  rcases h.same with rfl | ⟨hopen, hrest, rfl⟩
  · exact .inl rfl
  · exact .inr ⟨hopen, hrest, rfl⟩

theorem space (h : s.Enclosed whole s') : s.space.Enclosed whole s'.space := by
  refine ⟨s.space_suffix.trans h.suffix, ?_⟩
  rcases h.same with rfl | ⟨hopen, hrest, rfl⟩
  · by_cases hverbose : s.flags.verbose = true
    · simp only [Scan.space, enclosed, hverbose, if_true]
      rcases skipVerbose_enclosed false s.rest with h' | ⟨⟨hin, -⟩ | hopen, hskip, hskip'⟩
      · exact .inl (by rw [h'])
      · cases hin
      · exact .inr ⟨hopen.of_suffix h.suffix, hskip, by rw [hskip, hskip']⟩
    · simp [Scan.space, enclosed, hverbose]
  · have hspace : s'.space.rest = [] := List.suffix_nil.mp (hrest ▸ s'.space_suffix)
    exact .inr ⟨hopen, hspace, rfl⟩

/-- At the end of a text a parenthesis follows, or nothing. Before the end the next character is
the same. -/
theorem next_cases (h : s.Enclosed whole s') :
    (s.rest = [] ∧ s.next? = none ∧ (s'.next? = none ∨ ∃ t, s'.next? = some (')', t))) ∨
      ∃ c t, s.next? = some (c, t) ∧ t.Enclosed whole t.enclosed ∧
        s'.next? = some (c, t.enclosed) := by
  obtain ⟨rest, flags, groups, names⟩ := s
  cases rest with
  | nil =>
    refine .inl ⟨rfl, rfl, ?_⟩
    rcases h.same with rfl | ⟨-, -, rfl⟩
    · exact .inr ⟨_, rfl⟩
    · exact .inl rfl
  | cons c cs =>
    refine .inr ⟨c, ⟨cs, flags, groups, names⟩, rfl,
      .of_suffix ((List.suffix_cons c cs).trans h.suffix), ?_⟩
    rcases h.same with rfl | ⟨-, hrest, -⟩
    · rfl
    · cases hrest

theorem eq_enclosed {cs : List Char} (h : s.Enclosed whole s') (hrest : s.rest = c :: cs) :
    s' = s.enclosed := by
  rcases h.same with rfl | ⟨-, hend, -⟩
  · rfl
  · rw [hrest] at hend
    cases hend

theorem rest_eq {cs : List Char} (h : s.Enclosed whole s') (hrest : s.rest = c :: cs) :
    s'.rest = c :: (cs ++ [')', '$']) := by
  rw [h.eq_enclosed hrest, enclosed, hrest, List.cons_append]

theorem rest_ne (h : s.Enclosed whole s') (hc : c ≠ ')') (hne : ∀ cs, s.rest ≠ c :: cs) :
    ∀ cs, s'.rest ≠ c :: cs := by
  intro cs hcs
  rcases h.same with rfl | ⟨-, -, rfl⟩
  · cases hrest : s.rest with
    | nil =>
      rw [enclosed, hrest] at hcs
      exact hc (List.cons.inj hcs).1.symm
    | cons d ds =>
      rw [enclosed, hrest] at hcs
      exact hne ds (hrest.trans (by rw [(List.cons.inj hcs).1]))
  · exact hne cs hcs

theorem length_le (h : s.Enclosed whole s') : s'.rest.length ≤ s.rest.length + 2 := by
  rcases h.same with rfl | ⟨-, -, rfl⟩
  · simp [enclosed]
  · omega

theorem le_length (h : s.Enclosed whole s') : s.rest.length ≤ s'.rest.length := by
  rcases h.same with rfl | ⟨-, -, rfl⟩
  · simp [enclosed]
  · exact Nat.le_refl _

end Enclosed

theorem rest_of_next (h : s.next? = some (c, t)) : s.rest = c :: t.rest := by
  unfold next? at h
  split at h
  · cases h
  · next hrest =>
    cases h
    exact hrest

theorem length_of_next (h : s.next? = some (c, t)) : s.rest.length = t.rest.length + 1 := by
  rw [rest_of_next h, List.length_cons]

/-- What comes after the next character is shorter. -/
theorem Enclosed.shorter (hnext : s'.next? = some (c, t.enclosed)) (ht : t.Within u)
    (hu : u.Enclosed whole u') : u'.rest.length < s'.rest.length := by
  have hlength := length_of_next hnext
  have hsuffix := ht.suffix.length_le
  have henclosed := hu.length_le
  simp only [enclosed, List.length_append, List.length_cons, List.length_nil] at hlength
  omega

/-- Induction for loops that take one character in each round, and the blanks after it. -/
@[elab_as_elim]
theorem Enclosed.loop {motive : Nat → Nat → Scan → Scan → Prop}
    (stop : ∀ fuel more s s', s.Enclosed whole s' → s.next? = none →
      (s'.next? = none ∨ ∃ t, s'.next? = some (')', t)) → motive fuel more s s')
    (step : ∀ fuel more s s' c t, s.Enclosed whole s' → s.next? = some (c, t) →
      s'.next? = some (c, t.enclosed) → t.space.Enclosed whole t.enclosed.space →
      motive fuel more t.space t.enclosed.space → motive (fuel + 1) (more + 1) s s')
    {fuel more : Nat} (h : s.Enclosed whole s') (hfuel : s.rest.length ≤ fuel)
    (hmore : s'.rest.length ≤ more) : motive fuel more s s' := by
  induction fuel generalizing s s' more with
  | zero =>
    rcases h.next_cases with ⟨-, hnext, hend⟩ | ⟨c, t, hnext, -⟩
    · exact stop _ _ _ _ h hnext hend
    · have hlength := length_of_next hnext
      omega
  | succ fuel ih =>
    rcases h.next_cases with ⟨-, hnext, hend⟩ | ⟨c, t, hnext, ht, hnext'⟩
    · exact stop _ _ _ _ h hnext hend
    · have hlength := length_of_next hnext
      have hspace := t.space_suffix.length_le
      have hshorter := shorter hnext' (Within.refl t).space ht.space
      obtain ⟨more, rfl⟩ : ∃ n, more = n + 1 := ⟨more - 1, by omega⟩
      exact step _ _ _ _ _ _ h hnext hnext' ht.space (ih ht.space (by omega) (by omega))

end Scan

open Scan (Within)

variable {α β : Type} {whole : List Char} {R : Scan → Scan → Prop} {s s' t t' : Scan}

/-- What is read before the end of a text is also read in front of a closing parenthesis, and
reading comes to the same place. -/
def Continues (whole : List Char) (R : Scan → Scan → Prop) (s : Scan)
    (x y : Except PatternError (α × Scan)) : Prop :=
  ∀ a t, x = .ok (a, t) → R s t ∧ ∃ t', t.Enclosed whole t' ∧ y = .ok (a, t')

namespace Continues

variable {x y : Except PatternError (α × Scan)}

theorem error {e : PatternError} : Continues whole R s (.error e) y := by
  intro a t h
  cases h

theorem ok {a : α} (h : R s t) (ht : t.Enclosed whole t') :
    Continues whole R s (.ok (a, t)) (.ok (a, t')) := by
  intro b u hu
  cases hu
  exact ⟨h, t', ht, rfl⟩

theorem bind {S : Scan → Scan → Prop} {f g : α × Scan → Except PatternError (β × Scan)}
    (h : Continues whole S t x y)
    (hf : ∀ a u u', S t u → u.Enclosed whole u' → Continues whole R s (f (a, u)) (g (a, u'))) :
    Continues whole R s (x >>= f) (y >>= g) := by
  rcases x with e | ⟨a, u⟩
  · exact error
  · obtain ⟨hlater, u', hu, rfl⟩ := h a u rfl
    exact hf a u u' hlater hu

theorem read {x : Except PatternError α} {f g : α → Except PatternError (β × Scan)}
    (hf : ∀ a, Continues whole R s (f a) (g a)) : Continues whole R s (x >>= f) (x >>= g) := by
  cases x with
  | error e => exact error
  | ok a => exact hf a

theorem map {x : Except PatternError α} {f : α → β} (h : R s t) (ht : t.Enclosed whole t') :
    Continues whole R s (x.map fun a => (f a, t)) (x.map fun a => (f a, t')) := by
  cases x with
  | error e => exact error
  | ok a => exact ok h ht

theorem mono {S : Scan → Scan → Prop} (h : Continues whole R t x y) (hR : ∀ u, R t u → S s u) :
    Continues whole S s x y := fun a u hu => ⟨hR u (h a u hu).1, (h a u hu).2⟩

theorem within (h : Continues whole Within t x y) (ht : s.Within t) :
    Continues whole Within s x y := h.mono fun _ => ht.trans

end Continues

section

variable (h : s.Enclosed whole s')
include h

theorem readHexDigits_continues (count : Nat) :
    Continues whole Within s (readHexDigits count s) (readHexDigits count s') := by
  induction count generalizing s s' with
  | zero => exact .ok (.refl s) h
  | succ count ih =>
    rw [readHexDigits, readHexDigits]
    rcases h.next_cases with ⟨-, hnext, -⟩ | ⟨c, t, hnext, ht, hnext'⟩
    · rw [hnext]
      exact .error
    · rw [hnext, hnext']
      dsimp only
      split
      · exact .bind ((ih ht.space).within (Within.next hnext).space) fun _ _ _ => .ok
      · exact .error

theorem readBraced_continues (error : PatternError) {fuel more : Nat} (hfuel : fuel ≤ more) :
    Continues whole Within s (readBraced error fuel s) (readBraced error more s') := by
  induction fuel generalizing s s' more with
  | zero => exact .error
  | succ fuel ih =>
    obtain ⟨more, rfl⟩ : ∃ n, more = n + 1 := ⟨more - 1, by omega⟩
    rw [readBraced, readBraced]
    rcases h.space.next_cases with ⟨-, hnext, -⟩ | ⟨c, t, hnext, ht, hnext'⟩
    · rw [hnext]
      exact .error
    · have hlater := (Within.refl s).space.trans (.next hnext)
      rw [hnext, hnext']
      split
      · next h => cases h
      · next h =>
        cases h
        exact .ok hlater ht
      · next hc h =>
        cases h
        split
        · next h => cases h
        · next h =>
          cases h
          exact absurd rfl hc
        · next h =>
          cases h
          exact .bind ((ih ht (by omega)).within hlater) fun _ _ _ => .ok

/-- An escape by as many digits as its letter asks for. -/
theorem fixedHexEscape_continues (count : Nat) :
    Continues whole Within s
      (do
        let (digits, rest) ← readHexDigits count s.space
        match charOfHex? digits with
        | some c => pure (Atom.literal c (count == 2), rest)
        | none => .error .invalidEscape)
      (do
        let (digits, rest) ← readHexDigits count s'.space
        match charOfHex? digits with
        | some c => pure (Atom.literal c (count == 2), rest)
        | none => .error .invalidEscape) := by
  refine .bind ((readHexDigits_continues h.space count).within (Within.refl s).space)
    fun digits t t' hlater ht => ?_
  dsimp only
  split
  · exact .ok hlater ht
  · exact .error

theorem readHexEscape_continues (count : Nat) :
    Continues whole Within s (readHexEscape count s) (readHexEscape count s') := by
  have hspace := (Within.refl s).space
  have hdigits := fixedHexEscape_continues h count
  unfold readHexEscape
  rcases h.space.next_cases with ⟨-, hnext, hnext' | ⟨u, hnext'⟩⟩ | ⟨c, t, hnext, ht, hnext'⟩
  · rw [hnext, hnext']
    exact hdigits
  · rw [hnext, hnext']
    exact hdigits
  · have hlater := hspace.trans (.next hnext)
    rw [hnext, hnext']
    split
    · next h =>
      cases h
      refine .bind ((readBraced_continues ht _ ht.le_length).within hlater)
        fun digits u u' hlater hu => ?_
      dsimp only
      split
      · exact .error
      · split
        · exact .ok hlater.space hu.space
        · exact .error
    · next hc =>
      split
      · next h =>
        cases h
        exact absurd rfl (hc t)
      · exact hdigits

theorem readPerl_continues (letter : Char) :
    Continues whole Within s (readPerl letter s) (readPerl letter s') := by
  unfold readPerl
  rw [h.flags]
  dsimp only
  split
  · exact .ok (Within.refl s) h
  · split
    · exact .ok (Within.refl s) h
    · exact .error

theorem readPropertyName_continues :
    Continues whole Within s (readPropertyName s) (readPropertyName s') := by
  unfold readPropertyName
  rcases h.space.next_cases with ⟨-, hnext, -⟩ | ⟨c, t, hnext, ht, hnext'⟩
  · rw [hnext]
    exact .error
  · have hlater := (Within.refl s).space.trans (.next hnext)
    rw [hnext, hnext']
    split
    · next h => cases h
    · next h =>
      cases h
      exact (readBraced_continues ht _ ht.le_length).within hlater
    · exact .error
    · next hbrace hslash h =>
      cases h
      split
      · next h => cases h
      · next h =>
        cases h
        exact absurd rfl hbrace
      · next h =>
        cases h
        exact absurd rfl hslash
      · next h =>
        cases h
        exact .ok hlater.space ht.space

theorem readProperty_continues (negated : Bool) :
    Continues whole Within s (readProperty negated s) (readProperty negated s') := by
  unfold readProperty
  refine .bind (readPropertyName_continues h) fun name t t' hlater ht => ?_
  dsimp only
  rw [h.flags]
  split
  · exact .error
  · split
    · exact .error
    · exact .read fun set => .ok hlater ht

theorem readBoundaryName_continues {fuel more : Nat} (hfuel : s.rest.length ≤ fuel)
    (hmore : s'.rest.length ≤ more) :
    ∃ name t t', readBoundaryName fuel s = (name, t) ∧ s.Within t ∧ t.Enclosed whole t' ∧
      readBoundaryName more s' = (name, t') := by
  refine Scan.Enclosed.loop (fun fuel more s s' h hnext hend => ?_)
    (fun fuel more s s' c t h hnext hnext' ht ih => ?_) h hfuel hmore
  · refine ⟨[], s, s', ?_, .refl s, h, ?_⟩
    · cases fuel <;> simp [readBoundaryName, hnext]
    · rcases hend with hnext' | ⟨u, hnext'⟩ <;> cases more <;> simp [readBoundaryName, hnext']
  · rw [readBoundaryName, readBoundaryName, hnext, hnext']
    dsimp only
    split
    · obtain ⟨name, u, u', heq, hlater, hu, heq'⟩ := ih
      exact ⟨c :: name, u, u', by rw [heq], (Within.next hnext).space.trans hlater, hu,
        by rw [heq']⟩
    · exact ⟨[], s, s', rfl, .refl s, h, rfl⟩

/-- The boundary that a name in braces stands for. -/
def readNamedBoundary (unicode : Bool) (s : Scan) : Except PatternError (Atom × Scan) :=
  let (name, rest) := readBoundaryName s.rest.length s
  match rest.next?, String.ofList name with
  | some ('\x7d', rest), "start" => .ok (.look (.wordStart unicode), rest)
  | some ('\x7d', rest), "end" => .ok (.look (.wordEnd unicode), rest)
  | some ('\x7d', rest), "start-half" => .ok (.look (.wordStartHalf unicode), rest)
  | some ('\x7d', rest), "end-half" => .ok (.look (.wordEndHalf unicode), rest)
  | _, _ => .error .invalidEscape

theorem readNamedBoundary_continues (unicode : Bool) :
    Continues whole Within s (readNamedBoundary unicode s) (readNamedBoundary unicode s') := by
  obtain ⟨name, u, u', heq, hlater, hu, heq'⟩ :=
    readBoundaryName_continues h (Nat.le_refl _) (Nat.le_refl _)
  unfold readNamedBoundary
  rw [heq, heq']
  dsimp only
  generalize String.ofList name = word
  rcases hu.next_cases with ⟨-, hnext, -⟩ | ⟨c, v, hnext, hv, hnext'⟩
  · simp only [hnext]
    exact .error
  · have hlater := hlater.trans (.next hnext)
    simp only [hnext, hnext']
    split
    case h_1 h | h_2 h | h_3 h | h_4 h =>
      cases h
      exact .ok hlater hv
    case h_5 => exact .error

theorem readBoundary_continues :
    Continues whole Within s (readBoundary s) (readBoundary s') := by
  have hplain : Continues whole Within s (.ok (Atom.look (.wordBoundary s.flags.unicode), s))
      (.ok (Atom.look (.wordBoundary s.flags.unicode), s')) := .ok (.refl s) h
  unfold readBoundary
  rw [h.flags]
  rcases h.next_cases with ⟨-, hnext, hnext' | ⟨u, hnext'⟩⟩ | ⟨c, t, hnext, ht, hnext'⟩
  · rw [hnext, hnext']
    exact hplain
  · rw [hnext, hnext']
    exact hplain
  · rw [hnext, hnext']
    dsimp only
    split
    · next h =>
      cases h
      simp only []
      split
      · exact .error
      · next first cs hfirst =>
        have hnamed := readNamedBoundary_continues ht.space s.flags.unicode
        rw [ht.space.rest_eq hfirst]
        dsimp only
        split
        · exact hplain
        · rw [← ht.space.rest_eq hfirst]
          exact hnamed.within (Within.next hnext).space
    · next hc =>
      split
      · next h =>
        cases h
        exact absurd rfl (hc t)
      · exact hplain

theorem readEscape_continues : Continues whole Within s (readEscape s) (readEscape s') := by
  unfold readEscape
  rcases h.next_cases with ⟨-, hnext, -⟩ | ⟨c, t, hnext, ht, hnext'⟩
  · rw [hnext]
    exact .error
  · have hlater := Within.next hnext
    rw [hnext, hnext']
    dsimp only
    rw [h.flags]
    split
    · exact .error
    · split
      case h_1 | h_2 | h_3 => exact (readHexEscape_continues ht _).within hlater
      case h_4 | h_5 => exact (readProperty_continues ht _).within hlater
      case h_6 | h_7 | h_8 | h_9 | h_10 | h_11 => exact (readPerl_continues ht _).within hlater
      case h_20 => exact (readBoundary_continues ht).within hlater
      case h_24 =>
        split
        · exact .ok hlater ht
        · exact .error
      all_goals exact .ok hlater ht

end

end AttrExpr.Regex
