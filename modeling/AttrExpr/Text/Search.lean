/-! Searching a text for another: first and last occurrence, splitting and replacing.
Positions count characters. -/
set_option autoImplicit false

namespace AttrExpr.Text

/-- What follows `needle`, when the text starts with it. -/
def after? : List Char → List Char → Option (List Char)
  | [], cs => some cs
  | _ :: _, [] => none
  | n :: ns, c :: cs => if n = c then after? ns cs else none

/-- The part before the first occurrence of `needle` and the part after it. -/
def cutFirst? (needle : List Char) : List Char → Option (List Char × List Char)
  | [] => if needle = [] then some ([], []) else none
  | c :: cs =>
    match after? needle (c :: cs) with
    | some rest => some ([], rest)
    | none => (cutFirst? needle cs).map fun (before, rest) => (c :: before, rest)

/-- The part before the last occurrence of `needle` and the part after it. -/
def cutLast? (needle : List Char) : List Char → Option (List Char × List Char)
  | [] => if needle = [] then some ([], []) else none
  | c :: cs =>
    match cutLast? needle cs with
    | some (before, rest) => some (c :: before, rest)
    | none => (after? needle (c :: cs)).map fun rest => ([], rest)

theorem after?_eq_some_iff (needle cs rest : List Char) :
    after? needle cs = some rest ↔ cs = needle ++ rest := by
  induction needle generalizing cs with
  | nil => simp [after?]
  | cons n ns ih =>
    cases cs with
    | nil => simp [after?]
    | cons c cs =>
      by_cases h : n = c
      · simp [after?, h, ih]
      · simp [after?, h]
        intro hc
        exact absurd hc.symm h

theorem cutFirst?_append (needle cs before rest : List Char)
    (h : cutFirst? needle cs = some (before, rest)) : cs = before ++ needle ++ rest := by
  induction cs generalizing before rest with
  | nil =>
    simp only [cutFirst?] at h
    split at h
    · cases h; simp [*]
    · cases h
  | cons c cs ih =>
    simp only [cutFirst?] at h
    split at h
    · next r hr => cases h; simpa using (after?_eq_some_iff _ _ _).1 hr
    · obtain ⟨⟨b, r⟩, hs, hp⟩ := Option.map_eq_some_iff.1 h
      obtain ⟨rfl, rfl⟩ := Prod.mk.inj hp
      simp [ih _ _ hs]

theorem cutLast?_append (needle cs before rest : List Char)
    (h : cutLast? needle cs = some (before, rest)) : cs = before ++ needle ++ rest := by
  induction cs generalizing before rest with
  | nil =>
    simp only [cutLast?] at h
    split at h
    · cases h; simp [*]
    · cases h
  | cons c cs ih =>
    simp only [cutLast?] at h
    split at h
    · next b r hs => cases h; simp [ih _ _ hs]
    · obtain ⟨r, hr, hp⟩ := Option.map_eq_some_iff.1 h
      obtain ⟨rfl, rfl⟩ := Prod.mk.inj hp
      simpa using (after?_eq_some_iff _ _ _).1 hr

/-- The pieces between the occurrences of a non-empty delimiter, left to right; never none. `skip`
counts the characters of a delimiter that are still to be passed over. -/
def piecesFrom (delimiter : List Char) (skip : Nat) : List Char → List (List Char)
  | [] => [[]]
  | c :: cs =>
    match skip with
    | k + 1 => piecesFrom delimiter k cs
    | 0 =>
      if (after? delimiter (c :: cs)).isSome then
        [] :: piecesFrom delimiter (delimiter.length - 1) cs
      else (piecesFrom delimiter 0 cs).modifyHead (c :: ·)

/-- The pieces of a text between the occurrences of `delimiter`, which is not empty. -/
def pieces (delimiter cs : List Char) : List (List Char) := piecesFrom delimiter 0 cs

/-- The text with every occurrence of `target` replaced, left to right and without overlap. -/
def replaceFrom (target replacement : List Char) (skip : Nat) : List Char → List Char
  | [] => []
  | c :: cs =>
    match skip with
    | k + 1 => replaceFrom target replacement k cs
    | 0 =>
      if (after? target (c :: cs)).isSome then
        replacement ++ replaceFrom target replacement (target.length - 1) cs
      else c :: replaceFrom target replacement 0 cs

/-- Every occurrence of the non-empty `target` becomes `replacement`. -/
def replaceAll (target replacement cs : List Char) : List Char :=
  replaceFrom target replacement 0 cs

/-- Texts joined with a separator between them. -/
def joined (separator : List Char) : List (List Char) → List Char
  | [] => []
  | [cs] => cs
  | cs :: rest => cs ++ separator ++ joined separator rest

end AttrExpr.Text
