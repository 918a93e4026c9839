import AttrExpr.Evaluation.Quantifier
import Mathlib.Tactic.SplitIfs

/-! The candidates of a quantifier: names in the order of their bytes, and the pieces of a text. -/
set_option autoImplicit false

namespace AttrExpr

namespace Text

/-- The digits of a number to the base 64, the highest first. -/
def digits (n : Nat) : List Nat := [n / 262144, n / 4096 % 64, n / 64 % 64, n % 64]

theorem digits_lt {m n : Nat} (h : m < n) : digits m < digits n := by
  have hm : m = 64 * (64 * (64 * (m / 262144) + m / 4096 % 64) + m / 64 % 64) + m % 64 := by omega
  have hn : n = 64 * (64 * (64 * (n / 262144) + n / 4096 % 64) + n / 64 % 64) + n % 64 := by omega
  have hbound (k : Nat) : k % 64 < 64 := Nat.mod_lt k (by decide)
  have hm₁ := hbound (m / 4096)
  have hm₂ := hbound (m / 64)
  have hm₃ := hbound m
  have hn₁ := hbound (n / 4096)
  have hn₂ := hbound (n / 64)
  have hn₃ := hbound n
  simp only [digits, List.cons_lt_cons_iff, List.lt_irrefl, and_false, or_false]
  generalize m / 262144 = a at *
  generalize m / 4096 % 64 = b at *
  generalize m / 64 % 64 = c at *
  generalize m % 64 = d at *
  generalize n / 262144 = a' at *
  generalize n / 4096 % 64 = b' at *
  generalize n / 64 % 64 = c' at *
  generalize n % 64 = d' at *
  omega

/-- A greater character has greater bytes, whatever follows. -/
theorem utf8EncodeChar_lt {c d : Char} (h : c < d) (xs ys : List UInt8) :
    String.utf8EncodeChar c ++ xs < String.utf8EncodeChar d ++ ys := by
  have hlt : c.val.toNat < d.val.toNat := h
  have hd : d.val.toNat < 0x110000 := by
    have hvalid := d.valid
    simp only [UInt32.isValidChar, Nat.isValidChar] at hvalid
    omega
  have hdigits := digits_lt hlt
  simp only [digits, List.cons_lt_cons_iff, List.lt_irrefl, and_false, or_false] at hdigits
  unfold String.utf8EncodeChar
  dsimp only
  split_ifs <;>
    simp only [List.cons_append, List.nil_append, List.cons_lt_cons_iff, UInt8.lt_iff_toNat_lt,
      ← UInt8.toNat_inj, UInt8.toNat_ofNat', Nat.reducePow] <;>
    simp (disch := omega) only [Nat.mod_eq_of_lt] <;>
    omega

theorem flatMap_utf8EncodeChar_lt {xs ys : List Char} (h : xs < ys) :
    xs.flatMap String.utf8EncodeChar < ys.flatMap String.utf8EncodeChar := by
  induction xs generalizing ys with
  | nil =>
    cases ys with
    | nil => exact absurd h (List.lt_irrefl _)
    | cons d ys =>
      have hne : String.utf8EncodeChar d ≠ [] := String.utf8EncodeChar_ne_nil
      obtain ⟨byte, bytes, hbytes⟩ := List.exists_cons_of_ne_nil hne
      rw [List.flatMap_nil, List.flatMap_cons, hbytes]
      exact List.nil_lt_cons _ _
  | cons c xs ih =>
    cases ys with
    | nil => exact absurd h (List.not_lt_nil _)
    | cons d ys =>
      rw [List.flatMap_cons, List.flatMap_cons]
      rcases List.cons_lt_cons_iff.mp h with hlt | ⟨rfl, hlt⟩
      · exact utf8EncodeChar_lt hlt _ _
      · exact List.append_left_lt (ih hlt)

/-- The bytes of a text in UTF-8. -/
def bytes (text : String) : List UInt8 := text.toUTF8.data.toList

theorem bytes_eq (text : String) : bytes text = text.toList.flatMap String.utf8EncodeChar := by
  have h : text.toByteArray = text.toList.utf8Encode := by
    rw [← String.toByteArray_ofList, String.ofList_toList]
  rw [bytes, String.toUTF8_eq_toByteArray, h, List.utf8Encode, List.toList_data_toByteArray]

/-- Texts are compared as their bytes are. -/
theorem bytes_lt {a b : String} (h : a < b) : bytes a < bytes b := by
  rw [bytes_eq, bytes_eq]
  exact flatMap_utf8EncodeChar_lt (String.lt_iff.mp h)

end Text

section Names

/-- Taking out repetitions goes on from the last name that was kept. -/
theorem eraseReps_loop (name : String) (names kept : List String)
    (hkept : (kept.reverse ++ [name]).Pairwise (· < ·))
    (hnames : (name :: names).Pairwise (· ≤ ·)) :
    let result := List.eraseRepsBy.loop (· == ·) name names kept
    result.Pairwise (· < ·) ∧
      ∀ other, other ∈ result ↔ other ∈ kept ∨ other = name ∨ other ∈ names := by
  induction names generalizing name kept with
  | nil =>
    simp only [List.eraseRepsBy.loop, List.reverse_cons]
    refine ⟨hkept, fun other => ?_⟩
    simp [or_comm]
  | cons next names ih =>
    obtain ⟨hfirst, hrest⟩ := List.pairwise_cons.mp hnames
    simp only [List.eraseRepsBy.loop]
    by_cases he : name = next
    · subst he
      simp only [beq_self_eq_true]
      obtain ⟨hsorted, hmem⟩ := ih name kept hkept hrest
      refine ⟨hsorted, fun other => ?_⟩
      rw [hmem]
      simp
    · have hlt : name < next := Std.lt_of_le_of_ne (hfirst next (by simp)) he
      have hb : (name == next) = false := by simpa using he
      simp only [hb]
      have hnext : ((name :: kept).reverse ++ [next]).Pairwise (· < ·) := by
        rw [List.reverse_cons]
        refine List.pairwise_append.mpr ⟨hkept, by simp, fun other ho last hl => ?_⟩
        obtain rfl := List.mem_singleton.mp hl
        rcases List.mem_append.mp ho with ho | ho
        · exact Std.lt_trans ((List.pairwise_append.mp hkept).2.2 other ho name (by simp)) hlt
        · obtain rfl := List.mem_singleton.mp ho
          exact hlt
      obtain ⟨hsorted, hmem⟩ := ih next (name :: kept) hnext hrest
      refine ⟨hsorted, fun other => ?_⟩
      rw [hmem, List.mem_cons, List.mem_cons, or_assoc, or_left_comm]

theorem sortedNames_spec (names : List String) :
    (sortedNames names).Pairwise (· < ·) ∧ ∀ name, name ∈ sortedNames names ↔ name ∈ names := by
  have hsorted : (names.mergeSort fun a b => !(b < a)).Pairwise (· ≤ ·) := by
    refine (List.pairwise_mergeSort ?_ ?_ names).imp fun h => ?_
    · intro a b c hab hbc
      simp only [Bool.not_eq_true', decide_eq_false_iff_not] at hab hbc ⊢
      exact Std.le_trans (show a ≤ b from hab) (show b ≤ c from hbc)
    · intro a b
      simp only [Bool.or_eq_true, Bool.not_eq_true', decide_eq_false_iff_not]
      exact (Std.le_total : a ≤ b ∨ b ≤ a)
    · simp only [Bool.not_eq_true', decide_eq_false_iff_not] at h
      exact h
  have hmem (name : String) : name ∈ names.mergeSort (fun a b => !(b < a)) ↔ name ∈ names :=
    List.mem_mergeSort
  unfold sortedNames List.eraseReps
  cases hm : names.mergeSort fun a b => !(b < a) with
  | nil =>
    rw [hm] at hmem
    exact ⟨List.Pairwise.nil, hmem⟩
  | cons first rest =>
    rw [hm] at hsorted hmem
    obtain ⟨hstrict, hall⟩ := eraseReps_loop first rest [] (by simp) hsorted
    refine ⟨hstrict, fun name => ?_⟩
    rw [← hmem, List.eraseRepsBy, hall]
    simp

end Names

namespace Text

/-- A text cut at a delimiter from left to right: each time at the first place where it occurs in
what is left. -/
inductive Divided (delimiter : List Char) : List Char → List (List Char) → Prop
  | last {cs : List Char} (h : ∀ before after, cs ≠ before ++ delimiter ++ after) :
    Divided delimiter cs [cs]
  | cut {piece rest : List Char} {pieces : List (List Char)}
    (h : ∀ before after, piece ++ delimiter ++ rest = before ++ delimiter ++ after →
      piece.length ≤ before.length) (tail : Divided delimiter rest pieces) :
    Divided delimiter (piece ++ delimiter ++ rest) (piece :: pieces)

theorem cutFirst?_none {needle cs : List Char} (h : cutFirst? needle cs = none)
    (before after : List Char) : cs ≠ before ++ needle ++ after := by
  rintro rfl
  induction before with
  | nil =>
    cases needle with
    | nil => cases after <;> simp [cutFirst?, after?] at h
    | cons n ns =>
      have ha := (after?_eq_some_iff (n :: ns) (n :: ns ++ after) after).mpr rfl
      simp only [List.nil_append, List.cons_append] at h ha
      simp [cutFirst?, ha] at h
  | cons c before ih =>
    simp only [List.cons_append, cutFirst?] at h
    split at h
    · cases h
    · exact ih (Option.map_eq_none_iff.mp h)

theorem cutFirst?_first {needle cs piece rest : List Char}
    (h : cutFirst? needle cs = some (piece, rest)) (before after : List Char)
    (hcs : cs = before ++ needle ++ after) : piece.length ≤ before.length := by
  induction cs generalizing piece before with
  | nil =>
    simp only [cutFirst?] at h
    split at h
    · cases h
      exact Nat.zero_le _
    · cases h
  | cons c cs ih =>
    simp only [cutFirst?] at h
    split at h
    · cases h
      exact Nat.zero_le _
    · next hnone =>
      obtain ⟨⟨piece', rest'⟩, hcut, hp⟩ := Option.map_eq_some_iff.mp h
      cases hp
      cases before with
      | nil =>
        have hsome := (after?_eq_some_iff needle (c :: cs) after).mpr hcs
        rw [hnone] at hsome
        cases hsome
      | cons b before =>
        simp only [List.cons_append, List.cons.injEq] at hcs
        exact Nat.succ_le_succ (ih hcut before hcs.2)

theorem piecesFrom_append (delimiter skipped cs : List Char) :
    piecesFrom delimiter skipped.length (skipped ++ cs) = piecesFrom delimiter 0 cs := by
  induction skipped with
  | nil => rfl
  | cons c skipped ih =>
    rw [List.length_cons, List.cons_append, piecesFrom]
    exact ih

theorem pieces_eq (delimiter cs : List Char) (hd : delimiter ≠ []) :
    pieces delimiter cs =
      match cutFirst? delimiter cs with
      | none => [cs]
      | some (before, rest) => before :: pieces delimiter rest := by
  unfold pieces
  induction cs with
  | nil => simp [cutFirst?, hd, piecesFrom]
  | cons c cs ih =>
    rw [piecesFrom]
    simp only [cutFirst?]
    cases ha : after? delimiter (c :: cs) with
    | some rest =>
      obtain ⟨n, ns, rfl⟩ := List.exists_cons_of_ne_nil hd
      have hcs := (after?_eq_some_iff _ _ _).mp ha
      simp only [List.cons_append, List.cons.injEq] at hcs
      obtain ⟨rfl, rfl⟩ := hcs
      simpa using piecesFrom_append (c :: ns) ns rest
    | none =>
      simp only [Option.isSome_none, Bool.false_eq_true, if_false]
      rw [ih]
      cases cutFirst? delimiter cs with
      | none => rfl
      | some cut => rfl

theorem pieces_divided (delimiter cs : List Char) (hd : delimiter ≠ []) :
    Divided delimiter cs (pieces delimiter cs) := by
  induction hn : cs.length using Nat.strongRecOn generalizing cs with
  | ind n ih =>
    rw [pieces_eq delimiter cs hd]
    cases hcut : cutFirst? delimiter cs with
    | none => exact .last (cutFirst?_none hcut)
    | some cut =>
      obtain ⟨piece, rest⟩ := cut
      obtain rfl := cutFirst?_append _ _ _ _ hcut
      have hpos := List.length_pos_iff.mpr hd
      refine .cut (cutFirst?_first hcut) (ih rest.length ?_ rest rfl)
      simp only [List.length_append] at hn
      omega

end Text

/-- The pieces of a value: none of an empty text, and all of it for an empty delimiter. -/
inductive Delineated : String → String → List String → Prop
  | empty (delimiter : String) : Delineated "" delimiter []
  | whole {text : String} (h : text ≠ "") : Delineated text "" [text]
  | divided {text delimiter : String} {pieces : List String} (htext : text ≠ "")
    (hdelimiter : delimiter ≠ "")
    (h : Text.Divided delimiter.toList text.toList (pieces.map String.toList)) :
    Delineated text delimiter pieces

theorem delineate_delineated (text delimiter : String) :
    Delineated text delimiter (delineate text delimiter) := by
  unfold delineate
  split
  · next ht =>
    obtain rfl := String.isEmpty_iff.mp ht
    exact .empty delimiter
  · next ht =>
    have ht : text ≠ "" := fun h => ht (String.isEmpty_iff.mpr h)
    split
    · next hd =>
      obtain rfl := String.isEmpty_iff.mp hd
      exact .whole ht
    · next hd =>
      have hd : delimiter ≠ "" := fun h => hd (String.isEmpty_iff.mpr h)
      have hlist : delimiter.toList ≠ [] := fun h => hd (String.toList_eq_nil_iff.mp h)
      refine .divided ht hd ?_
      have hpieces := Text.pieces_divided delimiter.toList text.toList hlist
      simpa [Function.comp_def] using hpieces

namespace CandidateSource

/-- The candidates of a source for a record: the names as they are written; the names of the record
that match, in the order of their bytes; or the pieces of a value. -/
inductive Lists (attributes : Attributes) : CandidateSource String → List Candidate → Prop
  | named (names : List String) : Lists attributes (.named names) (names.map .attribute)
  | matching {patterns : List Regex} {names : List String}
    (sorted : names.Pairwise fun a b => Text.bytes a < Text.bytes b)
    (mem : ∀ name, name ∈ names ↔
      name ∈ attributes.names ∧ ∃ regex ∈ patterns, regex.isMatch name.toList = true) :
    Lists attributes (.matching patterns) (names.map .attribute)
  | delineated {text delimiter : String} {pieces : List String}
    (h : Delineated text delimiter pieces) :
    Lists attributes (.delineated text delimiter) (pieces.map .value)

/-- The candidates as they are computed. -/
def listed (attributes : Attributes) : CandidateSource String → List Candidate
  | .named names => names.map .attribute
  | .matching patterns =>
    (sortedNames (patterns.flatMap attributes.namesMatching)).map .attribute
  | .delineated text delimiter => (delineate text delimiter).map .value

theorem listed_lists (attributes : Attributes) (source : CandidateSource String) :
    source.Lists attributes (source.listed attributes) := by
  cases source with
  | named names => exact .named names
  | delineated text delimiter => exact .delineated (delineate_delineated text delimiter)
  | matching patterns =>
    obtain ⟨hsorted, hmem⟩ := sortedNames_spec (patterns.flatMap attributes.namesMatching)
    refine .matching (hsorted.imp Text.bytes_lt) fun name => ?_
    have hmatching (regex : Regex) : name ∈ attributes.namesMatching regex ↔
        name ∈ attributes.names ∧ regex.isMatch name.toList = true := by
      unfold Attributes.namesMatching Regex.isMatch
      rw [(sortedNames_spec _).2, List.mem_filter]
    rw [hmem, List.mem_flatMap]
    constructor
    · rintro ⟨regex, hregex, hname⟩
      exact ⟨((hmatching regex).mp hname).1, regex, hregex, ((hmatching regex).mp hname).2⟩
    · rintro ⟨hname, regex, hregex, hmatch⟩
      exact ⟨regex, hregex, (hmatching regex).mpr ⟨hname, hmatch⟩⟩

end CandidateSource

end AttrExpr
