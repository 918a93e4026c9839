/-! Automata that read the bytes of a text, as far as their size matters, and the ways to add parts
to them. Growth ends where an automaton would become too large. -/
set_option autoImplicit false

namespace AttrExpr.Regex

/-- The size of an automaton so far: how many states there are, how many bytes they take besides the
fixed part of each, and whether the last part that was added ends in a fork. -/
structure Automaton where
  states : Nat
  extra : Nat
  isForked : Bool
  deriving DecidableEq, Repr

namespace Automaton

def empty : Automaton := ⟨0, 0, false⟩

/-- How many bytes an automaton may take. -/
def sizeLimit : Nat := 10485760

/-- The fixed part of a state, an entry of a table of bytes, and a way out of a fork. -/
def stateSize : Nat := 32

def entrySize : Nat := 8

def branchSize : Nat := 4

def fits (a : Automaton) : Bool := stateSize * a.states + a.extra ≤ sizeLimit

/-- Adds some states, if there is room for them. -/
def add (states extra : Nat) (isForked : Bool) (a : Automaton) : Option Automaton :=
  let a := ⟨a.states + states, a.extra + extra, isForked⟩
  if a.fits then some a else none

/-- A state with a single way out, or none. -/
def addState (a : Automaton) : Option Automaton := a.add 1 0 false

/-- A fork with some ways out of it. -/
def addFork (ways : Nat) (a : Automaton) : Option Automaton := a.add 1 (ways * branchSize) true

/-- A state with a table of bytes. -/
def addTable (entries : Nat) (a : Automaton) : Option Automaton :=
  a.add 1 (entries * entrySize) false

/-- Connects the part that was added last with another part. -/
def connect (a : Automaton) : Automaton :=
  if a.isForked then { a with extra := a.extra + branchSize } else a

/-- Takes a step a number of times. -/
def times (step : Automaton → Option Automaton) : Nat → Automaton → Option Automaton
  | 0, a => some a
  | n + 1, a =>
    match step a with
    | some a => times step n a
    | none => none

/-- A part a number of times, one after the other. -/
def addCopies (part : Automaton → Option Automaton) (n : Nat) (a : Automaton) : Option Automaton :=
  match n with
  | 0 => a.addState
  | n + 1 => (part a).bind (times (fun a => part a.connect) n)

/-- Ends a branch of a choice. The fork comes with the second branch. -/
def endBranch (index : Nat) (a : Automaton) : Option Automaton :=
  let a := a.connect
  let a := { a with extra := a.extra + branchSize, isForked := false }
  if index = 2 then a.add 2 0 false else some a

/-- Adds a repetition of a part, which matches no empty text if `isNonempty`. -/
def addRepetition (part : Automaton → Option Automaton) (isNonempty : Bool) (low : Nat)
    (high : Option Nat) (a : Automaton) : Option Automaton :=
  match low, high with
  | 0, none =>
    if isNonempty then do
      let a ← part (← a.addFork 1)
      pure { a.connect with isForked := true }
    else do
      let a ← (← part a).connect.addFork 2
      (← a.addFork 2).addState
  | low + 1, none => do (← a.addCopies part (low + 1)).connect.addFork 1
  | 0, some 1 => do (← part (← a.addFork 2)).connect.addState
  | low, some high =>
    if low = high then a.addCopies part low
    else do
      let a ← (← a.addCopies part low).connect.addState
      let a ← times (fun a => do pure (← part (← a.addFork 2)).connect) (high - low) a
      pure { a with isForked := false }

end Automaton

end AttrExpr.Regex
