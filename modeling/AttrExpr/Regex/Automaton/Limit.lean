import AttrExpr.Regex.Automaton.Set
import AttrExpr.Regex.Automaton.Word
import AttrExpr.Regex.Normal
import AttrExpr.Text.Utf8

/-! The automata of trees, which read a text forward and backward. An expression is too large when
one of its two automata is. -/
set_option autoImplicit false

namespace AttrExpr.Regex

namespace Tree

def literal? : Tree → Option (List Char)
  | .literal cs => some cs
  | _ => none

/-- The words of a choice that has nothing but literals. -/
def words? (tree : Tree) : Option (List (List Char)) := tree.branches.mapM literal?

/-- Adds the part for a tree. `branch` is the number of branches in front of it, if it is the rest
of a choice. Only the forward automaton marks where groups start and end. -/
def grow (backward : Bool) : Tree → Nat → Automaton → Option Automaton
  | .either first second, branch, a =>
    match if branch = 0 then words? (.either first second) else none with
    | some words => a.addWords backward words
    | none => do
      let a ← first.grow backward 0 a
      second.grow backward (branch + 1) (← a.endBranch (branch + 1))
  | .empty, branch, a => do endRest branch (← a.addState)
  | .literal cs, branch, a => do endRest branch (← a.add (Text.byteLength cs) 0 false)
  | .chars set, branch, a => do endRest branch (← a.addSet backward set)
  | .look _, branch, a => do endRest branch (← a.addState)
  | .sequence first second, branch, a =>
    if backward then do
      endRest branch (← first.grow backward 0 (← second.grow backward 0 a).connect)
    else do endRest branch (← second.grow backward 0 (← first.grow backward 0 a).connect)
  | .repeated low high _ body, branch, a => do
    endRest branch (← a.addRepetition (body.grow backward 0) body.isNonempty low high)
  | .group _ body, branch, a => do
    if backward then endRest branch (← body.grow backward 0 a)
    else endRest branch (← (← body.grow backward 0 (← a.addState)).connect.addState)
where
  endRest (branch : Nat) (a : Automaton) : Option Automaton :=
    if branch = 0 then some a else a.endBranch (branch + 1)

/-- Whether every match starts at the start of the text, as far as conditions tell. -/
def startsText : Tree → Bool
  | .look condition => condition == .textStart
  | .sequence first second => first.startsText || (first.isBlank && second.startsText)
  | .either first second => first.startsText && second.startsText
  | .repeated low _ _ body => 0 < low && body.startsText
  | .group _ body => body.startsText
  | _ => false

/-- Whether every match ends at the end of the text, as far as conditions tell, and whether the tree
has no characters. -/
def ending : Tree → Bool × Bool
  | .empty => (false, true)
  | .literal cs => (false, cs.isEmpty)
  | .chars _ => (false, false)
  | .look condition => (condition == .textEnd, true)
  | .sequence first second =>
    let (ends, isBlank) := second.ending
    if isBlank then
      let (ends', isBlank) := first.ending
      (ends || ends', isBlank)
    else (ends, false)
  | .either first second =>
    let (ends, isBlank) := first.ending
    let (ends', isBlank') := second.ending
    (ends && ends', isBlank && isBlank')
  | .repeated low _ _ body =>
    let (ends, isBlank) := body.ending
    (0 < low && ends, isBlank)
  | .group _ body => body.ending

/-- The whole automaton of a tree. One that may start to match anywhere passes over bytes first. -/
def automaton? (backward : Bool) (tree : Tree) : Option Automaton := do
  let isAnchored := if backward then tree.ending.1 else tree.startsText
  let a ← if isAnchored then Automaton.empty.addState
    else (← (← Automaton.empty.addFork 2).addState).addTable 1
  let a ← if backward then tree.grow backward 0 a else (Tree.group 0 tree).grow backward 0 a
  a.connect.addState

/-- Whether a tree is not too large. A choice of very many words needs no automaton. -/
def isWithinLimit (tree : Tree) : Bool :=
  (words? tree).any (3000 ≤ ·.length) ||
    ((tree.automaton? false).isSome && (tree.automaton? true).isSome)

end Tree

end AttrExpr.Regex
