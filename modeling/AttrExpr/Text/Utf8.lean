/-! Lengths and cuts of text in UTF-8 bytes. A cut exists only between two characters. -/
set_option autoImplicit false

namespace AttrExpr.Text

/-- The number of bytes that the characters take in UTF-8. -/
def byteLength : List Char → Nat
  | [] => 0
  | c :: cs => c.utf8Size + byteLength cs

@[simp] theorem byteLength_nil : byteLength [] = 0 := rfl

@[simp] theorem byteLength_cons (c : Char) (cs : List Char) :
    byteLength (c :: cs) = c.utf8Size + byteLength cs := rfl

@[simp] theorem byteLength_append (xs ys : List Char) :
    byteLength (xs ++ ys) = byteLength xs + byteLength ys := by
  induction xs with
  | nil => simp
  | cons c cs ih => simp [ih]; omega

/-- Splits after `n` bytes; nothing when that falls inside a character or past the end. -/
def splitBytes? : Nat → List Char → Option (List Char × List Char)
  | 0, cs => some ([], cs)
  | _ + 1, [] => none
  | n + 1, c :: cs =>
    if c.utf8Size ≤ n + 1 then
      (splitBytes? (n + 1 - c.utf8Size) cs).map fun (before, after) => (c :: before, after)
    else none

/-- The two parts of a split are the whole text, and the first has the bytes asked for. -/
theorem splitBytes?_sound (n : Nat) (cs before after : List Char)
    (h : splitBytes? n cs = some (before, after)) :
    cs = before ++ after ∧ byteLength before = n := by
  induction cs generalizing n before after with
  | nil =>
    cases n with
    | zero =>
      simp [splitBytes?] at h
      obtain ⟨rfl, rfl⟩ := h
      simp
    | succ n => simp [splitBytes?] at h
  | cons c cs ih =>
    cases n with
    | zero =>
      simp [splitBytes?] at h
      obtain ⟨rfl, rfl⟩ := h
      simp
    | succ n =>
      simp only [splitBytes?] at h
      split at h
      · obtain ⟨⟨b, a⟩, hs, hp⟩ := Option.map_eq_some_iff.1 h
        obtain ⟨rfl, rfl⟩ := Prod.mk.inj hp
        obtain ⟨hcs, hb⟩ := ih _ _ _ hs
        simp [hcs, hb]
        omega
      · cases h

/-- A text splits where one of its parts ends. -/
theorem splitBytes?_append (xs ys : List Char) :
    splitBytes? (byteLength xs) (xs ++ ys) = some (xs, ys) := by
  induction xs with
  | nil => cases ys <;> rfl
  | cons c cs ih =>
    have hc : 0 < c.utf8Size := Char.utf8Size_pos c
    obtain ⟨k, hk⟩ : ∃ k, c.utf8Size + byteLength cs = k + 1 :=
      ⟨c.utf8Size + byteLength cs - 1, by omega⟩
    have hsub : k + 1 - c.utf8Size = byteLength cs := by omega
    simp only [byteLength_cons, List.cons_append, hk, splitBytes?, hsub, ih]
    rw [if_pos (by omega)]
    rfl

/-- The characters from byte `start` up to byte `stop`, when both are character boundaries. -/
def slice? (start stop : Nat) (cs : List Char) : Option (List Char) :=
  if start ≤ stop then do
    let (_, after) ← splitBytes? start cs
    let (inside, _) ← splitBytes? (stop - start) after
    pure inside
  else none

end AttrExpr.Text
