import AttrExpr.Regex.Normal
import AttrExpr.Regex.Search
import Mathlib.Logic.Relation

/-! What regular expressions match: a tree leads from the places of a text where its matches start
to the places where they end. Building trees in normal form keeps that. -/
set_option autoImplicit false

namespace AttrExpr.Regex

open Relation (Comp comp_assoc comp_eq eq_comp)

/-- Characters that follow one after the other. -/
def Place.Passes : List Char → Place → Place → Prop
  | [] => Eq
  | c :: cs => Comp (fun place after => place.next? = some (c, after)) (Passes cs)

/-- A number of rounds, one after the other. -/
def Rounds (round : Place → Place → Prop) : Nat → Place → Place → Prop
  | 0 => Eq
  | n + 1 => Comp (Rounds round n) round

theorem rounds_one (round : Place → Place → Prop) : Rounds round 1 = round := by
  rw [Rounds, Rounds, eq_comp]

theorem rounds_add (round : Place → Place → Prop) (m n : Nat) :
    Rounds round (m + n) = Comp (Rounds round m) (Rounds round n) := by
  induction n with
  | zero => rw [Rounds, comp_eq, Nat.add_zero]
  | succ n ih => rw [← Nat.add_assoc, Rounds, ih, comp_assoc, Rounds]

theorem passes_append (as bs : List Char) :
    Place.Passes (as ++ bs) = Comp (Place.Passes as) (Place.Passes bs) := by
  induction as with
  | nil => rw [List.nil_append, Place.Passes, eq_comp]
  | cons c cs ih => rw [List.cons_append, Place.Passes, ih, ← comp_assoc, Place.Passes]

namespace Tree

/-- The places where matches that start at a place can end. How greedy a repetition is does not
matter here, nor does which branch comes first. -/
def Leads : Tree → Place → Place → Prop
  | .empty => Eq
  | .literal cs => Place.Passes cs
  | .chars set => fun place stop =>
    ∃ c, place.next? = some (c, stop) ∧ set.contains c = true
  | .look condition => fun place stop =>
    condition.holds place.before place.rest.head? = true ∧ place = stop
  | .sequence first second => Comp first.Leads second.Leads
  | .either first second => fun place stop => first.Leads place stop ∨ second.Leads place stop
  | .repeated low high _ body => fun place stop =>
    ∃ n, low ≤ n ∧ (∀ m, high = some m → n ≤ max low m) ∧ Rounds body.Leads n place stop
  | .group _ body => body.Leads

/-- Trees one after the other. -/
def LeadsInOrder : List Tree → Place → Place → Prop
  | [] => Eq
  | tree :: trees => Comp tree.Leads (LeadsInOrder trees)

theorem leadsInOrder_one (tree : Tree) : LeadsInOrder [tree] = tree.Leads := by
  rw [LeadsInOrder, LeadsInOrder, comp_eq]

theorem leadsInOrder_append (trees others : List Tree) :
    LeadsInOrder (trees ++ others) = Comp (LeadsInOrder trees) (LeadsInOrder others) := by
  induction trees with
  | nil => rw [List.nil_append, LeadsInOrder, eq_comp]
  | cons tree trees ih => rw [List.cons_append, LeadsInOrder, ih, ← comp_assoc, LeadsInOrder]

theorem leadsInOrder_parts (tree : Tree) : LeadsInOrder tree.parts = tree.Leads := by
  induction tree with
  | empty => rfl
  | sequence first second _ ih => rw [parts, LeadsInOrder, ih, Leads]
  | literal | chars | look | either | repeated | group => exact leadsInOrder_one _

theorem leadsInOrder_flatMap_parts (trees : List Tree) :
    LeadsInOrder (trees.flatMap parts) = LeadsInOrder trees := by
  induction trees with
  | nil => rfl
  | cons tree trees ih =>
    rw [List.flatMap_cons, leadsInOrder_append, ih, leadsInOrder_parts, LeadsInOrder]

theorem leadsInOrder_consLiteral (reversed : List Char) (trees : List Tree) :
    LeadsInOrder (consLiteral reversed trees).reverse =
      Comp (LeadsInOrder trees.reverse) (Place.Passes reversed.reverse) := by
  unfold consLiteral
  split
  · next h => rw [List.isEmpty_iff.mp h, List.reverse_nil, Place.Passes, comp_eq]
  · rw [List.reverse_cons, leadsInOrder_append, leadsInOrder_one, Leads]

theorem leadsInOrder_joinLiterals (done : List Tree) (literal : List Char) (trees : List Tree) :
    LeadsInOrder (joinLiterals done literal trees) =
      Comp (LeadsInOrder done.reverse)
        (Comp (Place.Passes literal.reverse) (LeadsInOrder trees)) := by
  fun_induction joinLiterals done literal trees with
  | case1 done literal =>
    rw [leadsInOrder_consLiteral, LeadsInOrder, comp_eq]
  | case2 done literal cs trees ih =>
    rw [ih, List.reverse_append, List.reverse_reverse, passes_append, comp_assoc, LeadsInOrder,
      Leads]
  | case3 done literal tree trees h ih =>
    rw [ih, List.reverse_cons, leadsInOrder_append, leadsInOrder_one, leadsInOrder_consLiteral,
      List.reverse_nil, Place.Passes, eq_comp, comp_assoc, comp_assoc, LeadsInOrder]

theorem leads_foldl_sequence (last : Tree) (before : List Tree) :
    (before.foldl (fun tree part => .sequence part tree) last).Leads =
      LeadsInOrder (before.reverse ++ [last]) := by
  induction before generalizing last with
  | nil => exact (leadsInOrder_one last).symm
  | cons part before ih =>
    rw [List.foldl_cons, ih, leadsInOrder_append, leadsInOrder_one, Leads, List.reverse_cons,
      List.append_assoc, leadsInOrder_append, List.singleton_append, LeadsInOrder,
      leadsInOrder_one]

/-- Joining trees to a sequence in normal form changes nothing. -/
theorem leads_concat (trees : List Tree) : (concat trees).Leads = LeadsInOrder trees := by
  have hjoined := leadsInOrder_joinLiterals [] [] (trees.flatMap parts)
  simp only [List.reverse_nil, Place.Passes, LeadsInOrder, eq_comp,
    leadsInOrder_flatMap_parts] at hjoined
  rw [← hjoined, concat]
  cases h : (joinLiterals [] [] (trees.flatMap parts)).reverse with
  | nil =>
    rw [List.reverse_eq_nil_iff.mp h]
    rfl
  | cons last before =>
    rw [List.reverse_eq_cons_iff.mp h]
    exact leads_foldl_sequence last before

/-- A match that spans the whole of a text. -/
def Spans (tree : Tree) (text : List Char) : Prop :=
  ∃ stop, tree.Leads (.ofText text) stop ∧ stop.rest = []

end Tree

end AttrExpr.Regex
