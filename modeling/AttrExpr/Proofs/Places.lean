import AttrExpr.Proofs.Lines
import AttrExpr.Source.Location

/-! Offsets in a source and the lines and columns that they stand for. Each determines the other. -/
set_option autoImplicit false

namespace AttrExpr

theorem length_splitOn_break (cs : List Char) :
    (cs.splitOn '\n').length = cs.count '\n' + 1 := by
  induction cs with
  | nil => rfl
  | cons c cs ih =>
    rw [List.splitOn_cons_eq_if_modifyHead, List.count_cons]
    split
    · rw [List.length_cons, ih]
    · rw [List.length_modifyHead, ih]

/-- Whole lines are pieces of their own, whatever follows them. -/
theorem EndsLine.splitOn_append {above : List Char} (h : EndsLine above) :
    ∃ pieces, pieces.length = above.count '\n' ∧
      ∀ rest, (above ++ rest).splitOn '\n' = pieces ++ rest.splitOn '\n' := by
  rcases h with rfl | h
  · exact ⟨[], rfl, fun rest => rfl⟩
  · obtain ⟨above, rfl⟩ := List.getLast?_eq_some_iff.mp h
    refine ⟨above.splitOn '\n', ?_, fun rest => ?_⟩
    · rw [length_splitOn_break, List.count_append, List.count_singleton_self]
    · rw [List.append_assoc, List.singleton_append, List.splitOn_append_cons_self]

/-- Text without a break belongs to the first piece of what follows it. -/
theorem splitOn_append_of_not_mem {front : List Char} (h : '\n' ∉ front) (rest : List Char) :
    ∃ piece pieces, (front ++ rest).splitOn '\n' = (front ++ piece) :: pieces := by
  induction front with
  | nil =>
    obtain ⟨piece, pieces, hsplit⟩ := List.exists_cons_of_ne_nil (List.splitOn_ne_nil '\n' rest)
    exact ⟨piece, pieces, hsplit⟩
  | cons c front ih =>
    rw [List.mem_cons, not_or] at h
    obtain ⟨piece, pieces, hsplit⟩ := ih h.2
    have hc : (c == '\n') = false := beq_false_of_ne (Ne.symm h.1)
    refine ⟨piece, pieces, ?_⟩
    rw [List.cons_append, List.splitOn_cons_eq_if_modifyHead, hc, hsplit]
    rfl

namespace Location

variable {source before : List Char}

theorem textBefore_of_leading (h : before <+: source) :
    textBefore (Text.byteLength before) source = before := by
  obtain ⟨after, rfl⟩ := h
  rw [textBefore, Text.splitBytes?_append]

theorem line_of_leading (h : before <+: source) (stop : Nat) :
    (ofSpan ⟨Text.byteLength before, stop⟩ source).line = before.count '\n' + 1 :=
  congrArg (List.count '\n' · + 1) (textBefore_of_leading h)

theorem column_of_leading (h : before <+: source) (stop : Nat) :
    (ofSpan ⟨Text.byteLength before, stop⟩ source).column = (lastLine before).length + 1 :=
  congrArg (fun cs => (lastLine cs).length + 1) (textBefore_of_leading h)

theorem lastLine_append_of_not_mem (before : List Char) {text : List Char} (h : '\n' ∉ text) :
    lastLine (before ++ text) = lastLine before ++ text := by
  have hpassed (c : Char) (hc : c ∈ text.reverse) : (c != '\n') = true :=
    bne_iff_ne.mpr fun heq => h (heq ▸ List.mem_reverse.mp hc)
  rw [lastLine, List.reverse_append, List.takeWhile_append_of_pos hpassed, List.reverse_append,
    List.reverse_reverse, lastLine]

/-- The offset of a line and a column, both from one. The pieces of a source between its line breaks
are the lines: those above stand before the place, and so do the characters of the line up to the
column. -/
def offsetAt? (source : List Char) : Nat → Nat → Option Nat
  | above + 1, front + 1 =>
    let pieces := source.splitOn '\n'
    match pieces[above]? with
    | some piece =>
      if front ≤ piece.length then
        some (Text.byteLength (['\n'].intercalate (pieces.take above ++ [piece.take front])))
      else none
    | none => none
  | _, _ => none

theorem offsetAt?_of_leading (h : before <+: source) :
    offsetAt? source (before.count '\n' + 1) ((lastLine before).length + 1) =
      some (Text.byteLength before) := by
  obtain ⟨after, rfl⟩ := h
  obtain ⟨above, hbefore, habove, hfront⟩ := lastLine_spec before
  generalize lastLine before = front at *
  subst hbefore
  obtain ⟨pieces, hlength, hpieces⟩ := habove.splitOn_append
  obtain ⟨piece, more, hsplit⟩ := splitOn_append_of_not_mem hfront after
  have hcount : (above ++ front).count '\n' = pieces.length := by
    rw [List.count_append, List.count_eq_zero.mpr hfront, hlength, Nat.add_zero]
  have hsource : (above ++ front ++ after).splitOn '\n' = pieces ++ (front ++ piece) :: more := by
    rw [List.append_assoc, hpieces, hsplit]
  -- the lines above and the front of the line are the pieces of what stands before the place
  have hjoined : ['\n'].intercalate (pieces ++ [front]) = above ++ front := by
    have hsingle : front.splitOn '\n' = [front] := List.splitOn_eq_singleton hfront
    rw [← hsingle, ← hpieces, List.intercalate_splitOn]
  unfold offsetAt?
  simp only [hcount, hsource, List.getElem?_append_right (Nat.le_refl _), Nat.sub_self,
    List.getElem?_cons_zero, List.length_append, Nat.le_add_right, if_true, List.take_left, hjoined]

/-- What lies further on is on a later line, or on the same line at a later column. -/
theorem place_lt_of_append (before : List Char) {text : List Char} (h : text ≠ []) :
    before.count '\n' < (before ++ text).count '\n' ∨
      before.count '\n' = (before ++ text).count '\n' ∧
        (lastLine before).length < (lastLine (before ++ text)).length := by
  rw [List.count_append]
  by_cases hbreak : '\n' ∈ text
  · have hpos : 0 < text.count '\n' := List.count_pos_iff.mpr hbreak
    exact .inl (by omega)
  · have hpos : 0 < text.length := List.length_pos_iff.mpr h
    rw [lastLine_append_of_not_mem before hbreak, List.count_eq_zero.mpr hbreak, List.length_append]
    exact .inr (by omega)

/-- Offsets between characters and places determine each other. The line of an offset tells how many
line breaks are before it, line and column lead back to the offset, and they grow with it. -/
theorem places_determine_offsets (source : List Char) :
    (∀ (before : List Char) (stop : Nat), before <+: source →
      let place := ofSpan ⟨Text.byteLength before, stop⟩ source
      place.line = before.count '\n' + 1 ∧
        offsetAt? source place.line place.column = some (Text.byteLength before)) ∧
    ∀ (before upTo : List Char) (stop stop' : Nat), before <+: source → upTo <+: source →
      Text.byteLength before < Text.byteLength upTo →
        let first := ofSpan ⟨Text.byteLength before, stop⟩ source
        let second := ofSpan ⟨Text.byteLength upTo, stop'⟩ source
        first.line < second.line ∨ first.line = second.line ∧ first.column < second.column := by
  refine ⟨fun before stop h => ?_, fun before upTo stop stop' h h' hlt => ?_⟩
  · intro place
    have hline : place.line = _ := line_of_leading h stop
    have hcolumn : place.column = _ := column_of_leading h stop
    exact ⟨hline, by rw [hline, hcolumn, offsetAt?_of_leading h]⟩
  · intro first second
    have hline : first.line = _ := line_of_leading h stop
    have hline' : second.line = _ := line_of_leading h' stop'
    have hcolumn : first.column = _ := column_of_leading h stop
    have hcolumn' : second.column = _ := column_of_leading h' stop'
    have hprefix : before <+: upTo := by
      rcases List.prefix_or_prefix_of_prefix h h' with hprefix | ⟨text, rfl⟩
      · exact hprefix
      · rw [Text.byteLength_append] at hlt
        omega
    obtain ⟨text, rfl⟩ := hprefix
    have htext : text ≠ [] := by
      rintro rfl
      rw [List.append_nil] at hlt
      exact Nat.lt_irrefl _ hlt
    have hplace := place_lt_of_append before htext
    omega

/-- The second line starts behind a line break, and the third, which is empty, at the end of the
source. A character of two bytes takes one column. -/
theorem places_determine_offsets_lastLine :
    let source := "é\nb\n".toList
    let before := "é\n".toList
    let second := ofSpan ⟨3, 4⟩ source
    let third := ofSpan ⟨5, 5⟩ source
    before <+: source ∧ source <+: source ∧ Text.byteLength before < Text.byteLength source ∧
      second = ⟨2, 1, 3, 1⟩ ∧ third = ⟨3, 1, 5, 0⟩ ∧ second.line = before.count '\n' + 1 ∧
      offsetAt? source second.line second.column = some 3 ∧
      offsetAt? source third.line third.column = some 5 ∧
      (second.line < third.line ∨ second.line = third.line ∧ second.column < third.column) := by
  intro source before second third
  have hbefore : before <+: source := by decide
  have hsource : source <+: source := List.prefix_refl source
  have hlt : Text.byteLength before < Text.byteLength source := by decide
  obtain ⟨hplaces, hgrows⟩ := places_determine_offsets source
  exact ⟨hbefore, hsource, hlt, by decide, by decide, (hplaces before 4 hbefore).1,
    (hplaces before 4 hbefore).2, (hplaces source 5 hsource).2,
    hgrows before source 4 5 hbefore hsource hlt⟩

end Location

end AttrExpr
