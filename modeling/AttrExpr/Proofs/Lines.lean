import AttrExpr.Diagnostic.Basic
import AttrExpr.Text.Utf8

/-! Lines of a source: where the line that a place is on starts, and what a reader is shown of it. -/
set_option autoImplicit false

namespace AttrExpr

/-- What ends with a line break, or is nothing at all, so that a line starts behind it. -/
def EndsLine (above : List Char) : Prop := above = [] ∨ above.getLast? = some '\n'

theorem not_mem_takeWhile_break (cs : List Char) : '\n' ∉ cs.takeWhile (· != '\n') := by
  intro hmem
  simpa using List.all_eq_true.mp List.all_takeWhile '\n' hmem

theorem dropWhile_break (cs : List Char) :
    cs.dropWhile (· != '\n') = [] ∨ (cs.dropWhile (· != '\n')).head? = some '\n' := by
  have hhead := List.head?_dropWhile_not (· != '\n') cs
  cases hrest : cs.dropWhile (· != '\n') with
  | nil => exact .inl rfl
  | cons c rest =>
    rw [hrest] at hhead
    exact .inr (by simpa using hhead)

/-- The last line is what follows the last line break. -/
theorem Location.lastLine_spec (cs : List Char) :
    ∃ earlier, cs = earlier ++ lastLine cs ∧ EndsLine earlier ∧ '\n' ∉ lastLine cs := by
  refine ⟨(cs.reverse.dropWhile (· != '\n')).reverse, ?_, ?_, ?_⟩
  · rw [lastLine, ← List.reverse_append, List.takeWhile_append_dropWhile, List.reverse_reverse]
  · rw [EndsLine, List.reverse_eq_nil_iff, List.getLast?_reverse]
    exact dropWhile_break cs.reverse
  · exact fun hmem => not_mem_takeWhile_break cs.reverse (List.mem_reverse.mp hmem)

theorem linesFrom_cons_of_ne {c : Char} (h : c ≠ '\n') (line cs : List Char) :
    linesFrom line (c :: cs) = linesFrom (c :: line) cs := if_neg h

/-- A line break ends the line in front of it, which is shown without a carriage return. -/
theorem linesFrom_cons_break (line cs : List Char) :
    ∃ shown, linesFrom line ('\n' :: cs) = shown :: lines cs ∧
      (line.reverse = shown ∨ line.reverse = shown ++ ['\r']) := by
  unfold linesFrom
  rw [if_pos rfl]
  refine ⟨_, rfl, ?_⟩
  split
  · exact .inr (List.reverse_cons)
  · exact .inl rfl

theorem linesFrom_append_of_not_mem {cs : List Char} (h : '\n' ∉ cs) (line rest : List Char) :
    linesFrom line (cs ++ rest) = linesFrom (cs.reverse ++ line) rest := by
  induction cs generalizing line with
  | nil => rfl
  | cons c cs ih =>
    have hc : c ≠ '\n' := fun heq => h (heq ▸ List.mem_cons_self)
    have hcs : '\n' ∉ cs := fun hmem => h (List.mem_cons_of_mem _ hmem)
    rw [List.cons_append, linesFrom_cons_of_ne hc, ih hcs, List.reverse_cons, List.append_assoc]
    rfl

/-- Every line break ends a line, whatever stands on it. -/
theorem linesFrom_break (line above rest : List Char) :
    ∃ earlier, earlier.length = above.count '\n' + 1 ∧
      linesFrom line (above ++ '\n' :: rest) = earlier ++ lines rest := by
  induction above generalizing line with
  | nil =>
    obtain ⟨shown, hlines, -⟩ := linesFrom_cons_break line rest
    exact ⟨[shown], rfl, hlines⟩
  | cons c above ih =>
    by_cases hc : c = '\n'
    · subst hc
      obtain ⟨shown, hfirst, -⟩ := linesFrom_cons_break line (above ++ '\n' :: rest)
      obtain ⟨earlier, hlength, hlines⟩ := ih []
      refine ⟨shown :: earlier, ?_, ?_⟩
      · rw [List.length_cons, hlength, List.count_cons_self]
      · rw [List.cons_append, hfirst, lines, hlines]
        rfl
    · obtain ⟨earlier, hlength, hlines⟩ := ih (c :: line)
      refine ⟨earlier, ?_, ?_⟩
      · rw [hlength, List.count_cons_of_ne hc]
      · rw [List.cons_append, linesFrom_cons_of_ne hc, hlines]

/-- The line behind some line breaks is the one of that number. -/
theorem lines_getElem?_count {above : List Char} (h : EndsLine above) (rest : List Char) :
    (lines (above ++ rest))[above.count '\n']? = (lines rest).head? := by
  rcases h with rfl | h
  · rw [List.nil_append, List.count_nil, List.head?_eq_getElem?]
  · obtain ⟨above, rfl⟩ := List.getLast?_eq_some_iff.mp h
    obtain ⟨earlier, hlength, hlines⟩ := linesFrom_break [] above rest
    rw [List.append_assoc, List.singleton_append, lines, hlines, List.count_append,
      List.count_singleton_self, ← hlength, List.getElem?_append_right (Nat.le_refl _), Nat.sub_self,
      List.head?_eq_getElem?]

/-- The first line is shown up to the line break, with or without a carriage return before that. -/
theorem head?_lines {cs line rest : List Char} (h : '\n' ∉ cs)
    (hrest : rest = [] ∨ rest.head? = some '\n') (hline : (lines (cs ++ rest)).head? = some line) :
    cs = line ∨ cs = line ++ ['\r'] ∧ rest.head? = some '\n' := by
  rw [lines, linesFrom_append_of_not_mem h, List.append_nil] at hline
  rcases hrest with rfl | hrest
  · rw [linesFrom] at hline
    split at hline
    · cases hline
    · exact .inl (by simpa using hline)
  · obtain ⟨rest, rfl⟩ := List.head?_eq_some_iff.mp hrest
    obtain ⟨shown, hfirst, hshown⟩ := linesFrom_cons_break cs.reverse rest
    rw [hfirst, List.head?_cons, Option.some.injEq] at hline
    rw [List.reverse_reverse, hline] at hshown
    exact hshown.imp_right fun h => ⟨h, rfl⟩

/-- The line of a source that has a number, between what is above it and what is below. It is shown
without what ends it: a line break, with or without a carriage return, or the end of the source. -/
structure LineOf (source : List Char) (number : Nat) (above line below : List Char) : Prop where
  source_eq : source = above ++ (line ++ below)
  above_ends : EndsLine above
  number_eq : number = above.count '\n' + 1
  no_break : '\n' ∉ line
  below_starts : below = [] ∨ below.head? = some '\n' ∨ ['\r', '\n'] <+: below

/-- A place of a source, on a line that is shown: `front` is what stands on the line before it. The
place may lie behind the carriage return that is not shown. -/
theorem exists_lineOf {source before after line : List Char} (hsource : source = before ++ after)
    (hline : (lines source)[before.count '\n']? = some line) :
    ∃ above below front, LineOf source (before.count '\n' + 1) above line below ∧
      before = above ++ front ∧ front = Location.lastLine before ∧
      (front <+: line ∨ front = line ++ ['\r']) := by
  obtain ⟨above, hbefore, habove, hfront⟩ := Location.lastLine_spec before
  generalize Location.lastLine before = front at *
  have hcount : before.count '\n' = above.count '\n' := by
    rw [hbefore, List.count_append, List.count_eq_zero.mpr hfront, Nat.add_zero]
  have hafter : after = after.takeWhile (· != '\n') ++ after.dropWhile (· != '\n') :=
    List.takeWhile_append_dropWhile.symm
  have hsegment := not_mem_takeWhile_break after
  have hrest := dropWhile_break after
  generalize after.takeWhile (· != '\n') = segment at *
  generalize after.dropWhile (· != '\n') = rest at *
  have hnone : '\n' ∉ front ++ segment := by simp [hfront, hsegment]
  have hsplit : source = above ++ ((front ++ segment) ++ rest) := by
    rw [hsource, hbefore, hafter, List.append_assoc, List.append_assoc]
  rw [hsplit, hcount, lines_getElem?_count habove] at hline
  rcases head?_lines hnone hrest hline with heq | ⟨heq, hbreak⟩
  · refine ⟨above, rest, front, ⟨heq ▸ hsplit, habove, by rw [hcount], heq ▸ hnone,
      hrest.imp_right .inl⟩, hbefore, rfl, .inl (heq ▸ List.prefix_append front segment)⟩
  · obtain ⟨rest, rfl⟩ := List.head?_eq_some_iff.mp hbreak
    rw [heq, List.append_assoc] at hsplit
    have hprefix : front <+: line ++ ['\r'] := heq ▸ List.prefix_append front segment
    refine ⟨above, '\r' :: '\n' :: rest, front, ⟨hsplit, habove, by rw [hcount], fun hmem => ?_,
      .inr (.inr ⟨rest, rfl⟩)⟩, hbefore, rfl, (List.prefix_concat_iff.mp hprefix).symm⟩
    exact hnone (heq ▸ List.mem_append_left _ hmem)

end AttrExpr
