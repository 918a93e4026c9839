import Std.Data.HashMap
import AttrExpr.Regex.Automaton.Basic
import AttrExpr.Unicode.ByteRange

/-! Parts of automata that read one character of a set. Members beyond ASCII are read byte by byte,
and states that would be equal are shared as far as a table of limited size remembers them. -/
set_option autoImplicit false

namespace AttrExpr.Regex

/-- Mixes numbers into a slot of a table. -/
def slotOf (slots : UInt64) (key : List Nat) : Nat :=
  ((key.foldl (fun h n => (h ^^^ n.toUInt64) * 1099511628211) 14695981039346656037) %
    slots).toNat

/-- States by what they were made for. A later state takes the slot of an earlier one. -/
abbrev Shared : Type := Std.HashMap Nat (List Nat × Nat)

/-- The state that was made for a key, or a new one with some extra bytes. -/
def Shared.state (slots : UInt64) (key : List Nat) (extra : Nat) :
    Shared × Automaton → Option (Nat × Shared × Automaton)
  | (shared, a) =>
    let slot := slotOf slots key
    let fresh := (a.add 1 extra false).map fun grown =>
      (a.states, shared.insert slot (key, a.states), grown)
    match shared[slot]? with
    | some (other, state) => if other = key then some (state, shared, a) else fresh
    | none => fresh

/-- The state from which byte sequences lead to `target`. Sequences of one first range are next to
each other, and `depth` is the length of the longest. States with the same ways out are shared. -/
def addSequences (target : Nat) : Nat → List (List Unicode.ByteRange) → Shared × Automaton →
    Option (Nat × Shared × Automaton)
  | 0, _, s => some (target, s)
  | depth + 1, sequences, s => do
    let groups := sequences.splitBy fun a b => a.head? == b.head?
    let (key, s) ← groups.foldlM (fun (key, s) group => do
      let tails := group.map List.tail
      let (next, s) ←
        if tails.all List.isEmpty then pure (target, s) else addSequences target depth tails s
      let (first, last) := (group.head?.bind List.head?).getD (0, 0)
      pure (next :: last :: first :: key, s)) (([] : List Nat), s)
    Shared.state 10000 key.reverse (groups.length * Automaton.entrySize) s

/-- Adds a set of which some members are not in ASCII, to be read forward. -/
def Automaton.addForwardSet (set : Unicode.CharSet) (a : Automaton) : Option Automaton := do
  let (_, _, grown) ← addSequences a.states 4 set.byteSequences (∅, ← a.addState)
  pure grown

/-- Adds a byte sequence that is read from its last byte to its first and leads to the state
`next`. -/
def addReversed : List Unicode.ByteRange → Nat → Shared × Automaton →
    Option (Shared × Automaton)
  | [], _, s => some s
  | (first, last) :: rest, next, s => do
    let (state, s) ← Shared.state 1000 [next, first, last] 0 s
    addReversed rest state s

/-- Adds a set of which some members are not in ASCII, to be read backward. -/
def Automaton.addBackwardSet (set : Unicode.CharSet) (a : Automaton) : Option Automaton := do
  let sequences := set.byteSequences
  let grown ← a.add 2 (sequences.length * branchSize) false
  let (_, grown) ← sequences.foldlM (fun s bytes => addReversed bytes (a.states + 1) s)
    ((∅, grown) : Shared × Automaton)
  pure grown

/-- Adds a set. -/
def Automaton.addSet (backward : Bool) (set : Unicode.CharSet) (a : Automaton) :
    Option Automaton :=
  if set.isAscii then do (← a.addState).addTable set.ranges.length
  else if backward then a.addBackwardSet set
  else a.addForwardSet set

end AttrExpr.Regex
