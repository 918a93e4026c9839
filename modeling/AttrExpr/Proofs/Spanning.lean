import AttrExpr.Proofs.EnclosingGroups
import AttrExpr.Proofs.Searching

/-! Matches that span whole texts. A regular expression between anchors matches the texts that it
spans on its own. -/
set_option autoImplicit false

namespace AttrExpr.Regex

namespace Place

theorem before_advance {place : Place} (h : place.before ≠ none) (n : Nat) :
    (place.advance n).before ≠ none := by
  induction n generalizing place with
  | zero => exact h
  | succ n ih =>
    rw [advance]
    split
    · next c after hnext =>
      refine ih ?_
      unfold next? at hnext
      split at hnext
      · cases hnext
      · cases hnext
        simp
    · exact h

/-- Only the first place of a text has nothing before it. -/
theorem advance_eq_self {place : Place} {n : Nat} (h : (place.advance n).before = none) :
    place.advance n = place := by
  cases n with
  | zero => rfl
  | succ n =>
    rw [advance] at h ⊢
    split at h
    · next c after hnext =>
      unfold next? at hnext
      split at hnext
      · cases hnext
      · cases hnext
        exact absurd h (before_advance (by simp) n)
    · rfl

end Place

/-- A tree between the start and the end of a text. -/
def Tree.anchored (tree : Tree) : Tree := .concat [.look .textStart, tree, .look .textEnd]

theorem Tree.leads_anchored (tree : Tree) (place stop : Place) :
    tree.anchored.Leads place stop ↔
      place.before = none ∧ tree.Leads place stop ∧ stop.rest = [] := by
  rw [anchored, leads_concat]
  simp only [LeadsInOrder, Leads, Look.holds, Relation.Comp, Option.isNone_iff_eq_none,
    List.head?_eq_none_iff]
  constructor
  · rintro ⟨_, ⟨hstart, rfl⟩, _, hleads, _, ⟨hend, rfl⟩, rfl⟩
    exact ⟨hstart, hleads, hend⟩
  · rintro ⟨hstart, hleads, hend⟩
    exact ⟨place, ⟨hstart, rfl⟩, stop, hleads, stop, ⟨hend, rfl⟩, rfl⟩

/-- Between anchors a tree matches what it spans. -/
theorem isMatch_anchored (text : String) (tree : Tree) (names : List (String × Nat))
    (subject : List Char) :
    Regex.isMatch ⟨text, tree.anchored, names⟩ subject = true ↔ tree.Spans subject := by
  simp only [isMatch_iff, Tree.leads_anchored, Tree.Spans]
  constructor
  · rintro ⟨n, stop, hstart, hleads, hend⟩
    rw [Place.advance_eq_self hstart] at hleads
    exact ⟨stop, hleads, hend⟩
  · rintro ⟨stop, hleads, hend⟩
    exact ⟨0, stop, rfl, hleads, hend⟩

/-- How deep a regular expression is nested. -/
def nesting (pattern : String) : Except PatternError Nat :=
  (readBody (pattern.toList.length + 1) (.start pattern.toList)).map fun (item, _) => item.depth

theorem read_ok {pattern : String} {regex : Regex} (h : Regex.read pattern = .ok regex) :
    ∃ item rest, readBody (pattern.toList.length + 1) (.start pattern.toList) = .ok (item, rest) ∧
      rest.rest = [] ∧ regex.tree = item.tree := by
  unfold Regex.read at h
  dsimp only at h
  cases hbody : readBody (pattern.toList.length + 1) (.start pattern.toList) with
  | error e =>
    rw [hbody] at h
    cases h
  | ok found =>
    obtain ⟨item, rest⟩ := found
    rw [hbody] at h
    simp only [bind, Except.bind] at h
    split at h
    · cases h
    · next hrest =>
      split at h
      · cases h
      · split at h
        · cases h
        · cases h
          exact ⟨item, rest, rfl, by simpa using hrest, rfl⟩

/-- What is put around a regular expression is refused when the inside takes up all that is left. -/
theorem readBody_unclosed (fuel : Nat) {cs : List Char} {item : Item} {rest : Scan}
    (h : readBody fuel (.start cs) = .ok (item, rest)) (hrest : rest.rest = []) :
    readBody (fuel + 1) (.start ("^(?:".toList ++ cs)) = .error .unclosedGroup := by
  have hlength : ("^(?:".toList ++ cs).length + 1 = cs.length + 3 + 1 + 1 := by simp
  rw [readBody, Scan.start]
  dsimp only
  rw [hlength]
  change ((readBody fuel (.start cs) >>= fun inner => _) >>= _) = _
  have hnext : rest.next? = none := by rw [Scan.next?, hrest]
  rw [h]
  simp only [bind, Except.bind, hnext]

/-- Otherwise it makes a tree with the anchors around the inside. -/
theorem readBody_anchored (fuel : Nat) {cs : List Char} {item : Item} {rest : Scan}
    (h : readBody fuel (.start cs) = .ok (item, rest)) (hrest : rest.rest = [')', '$']) :
    readBody (fuel + 1) (.start ("^(?:".toList ++ cs)) =
      .ok (⟨item.tree.anchored, item.depth + 2, true⟩,
        ⟨[], Flags.initial, rest.groups, rest.names⟩) := by
  have hlength : ("^(?:".toList ++ cs).length + 1 = cs.length + 3 + 1 + 1 := by simp
  rw [readBody, Scan.start]
  dsimp only
  rw [hlength]
  change ((readBody fuel (.start cs) >>= fun inner => _) >>= _) = _
  rw [h]
  obtain ⟨rest, flags, groups, names⟩ := rest
  cases hrest
  rfl

theorem toList_between (pattern : String) :
    ("^(?:" ++ pattern ++ ")$").toList = "^(?:".toList ++ (pattern.toList ++ [')', '$']) := by
  rw [String.toList_append, String.toList_append, List.append_assoc]
  rfl

section

variable {pattern : String} {item : Item} {rest : Scan}
  (h : readBody (pattern.toList.length + 6) (.start (pattern.toList ++ [')', '$'])) =
    .ok (item, rest))
include h

theorem readWhole_unclosed (hrest : rest.rest = []) :
    Regex.readWhole pattern = .error .unclosedGroup := by
  have hfuel : ("^(?:".toList ++ (pattern.toList ++ [')', '$'])).length + 1 =
      pattern.toList.length + 6 + 1 := by simp
  unfold Regex.readWhole Regex.read
  dsimp only
  rw [toList_between, hfuel, readBody_unclosed _ h hrest]
  rfl

theorem readWhole_anchored (hrest : rest.rest = [')', '$']) :
    Regex.readWhole pattern =
      if depthLimit < item.depth + 2 then .error .nestedTooDeep
      else if !item.tree.anchored.isWithinLimit then .error .tooLarge
      else .ok ⟨"^(?:" ++ pattern ++ ")$", item.tree.anchored, rest.names⟩ := by
  have hfuel : ("^(?:".toList ++ (pattern.toList ++ [')', '$'])).length + 1 =
      pattern.toList.length + 6 + 1 := by simp
  unfold Regex.readWhole Regex.read
  dsimp only
  rw [toList_between, hfuel, readBody_anchored _ h hrest]
  rfl

end

/-- A regular expression that is read on its own, and what becomes of it when a whole text has to
match: an open comment takes up the parenthesis after it, the expression between anchors exceeds a
limit, or it matches the texts that the one inside spans. -/
theorem readWhole_spans {pattern : String} {regex : Regex} (h : Regex.read pattern = .ok regex) :
    (CommentOpen pattern.toList ∧ Regex.readWhole pattern = .error .unclosedGroup) ∨
      ((∃ depth, nesting pattern = .ok depth ∧ depthLimit < depth + 2) ∧
        Regex.readWhole pattern = .error .nestedTooDeep) ∨
      (regex.tree.anchored.isWithinLimit = false ∧
        Regex.readWhole pattern = .error .tooLarge) ∨
      ∃ whole, Regex.readWhole pattern = .ok whole ∧
        ∀ text, whole.isMatch text = true ↔ regex.tree.Spans text := by
  obtain ⟨item, rest, hbody, hrest, htree⟩ := read_ok h
  rw [htree]
  have hstart : Scan.Enclosed pattern.toList (.start pattern.toList)
      (.start (pattern.toList ++ [')', '$'])) := .of_suffix (List.suffix_refl _)
  have hlength : (pattern.toList ++ [')', '$']).length < pattern.toList.length + 6 := by simp
  obtain ⟨-, rest', henclosed, hbody'⟩ :=
    readBody_continues hstart (Nat.lt_succ_self _) hlength item rest hbody
  rcases henclosed.same with rfl | ⟨hopen, -, rfl⟩
  · rw [readWhole_anchored hbody' (by rw [Scan.enclosed, hrest]; rfl)]
    by_cases hdepth : depthLimit < item.depth + 2
    · exact .inr (.inl ⟨⟨item.depth, by rw [nesting, hbody]; rfl, hdepth⟩, if_pos hdepth⟩)
    · rw [if_neg hdepth]
      cases hlimit : item.tree.anchored.isWithinLimit with
      | false => exact .inr (.inr (.inl ⟨rfl, rfl⟩))
      | true => exact .inr (.inr (.inr ⟨_, rfl, isMatch_anchored _ _ _⟩))
  · exact .inl ⟨hopen, readWhole_unclosed hbody' hrest⟩

end AttrExpr.Regex
