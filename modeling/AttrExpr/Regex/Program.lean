import AttrExpr.Regex.Basic

/-! Trees written out as programs. An instruction comes after the instructions that may follow it,
but for loops. -/
set_option autoImplicit false

namespace AttrExpr.Regex

/-- An instruction and the instructions that may follow it, the preferred one first. -/
inductive Instruction where
  | chars (set : Unicode.CharSet) (next : Nat)
  | look (look : Look) (next : Nat)
  | mark (slot : Nat) (next : Nat)
  | fork (first second : Nat)
  | accept

/-- Adds code that goes on to `next`, and answers where it starts. -/
abbrev Emit : Type := Nat → Array Instruction → Nat × Array Instruction

namespace Emit

def one (instruction : Nat → Instruction) : Emit := fun next code =>
  (code.size, code.push (instruction next))

/-- Characters one after the other; they come in reverse. -/
def literal : List Char → Emit
  | [], next, code => (next, code)
  | c :: cs, next, code => literal cs code.size (code.push (.chars (.single c) next))

def fork (greedy : Bool) (inside outside : Nat) : Instruction :=
  if greedy then .fork inside outside else .fork outside inside

def times (body : Emit) : Nat → Emit
  | 0, next, code => (next, code)
  | n + 1, next, code =>
    let (start, code) := body next code
    times body n start code

/-- At most `n` rounds, any of which may be the last and go on to `exit`. -/
def upTo (greedy : Bool) (body : Emit) (exit : Nat) : Nat → Emit
  | 0, next, code => (next, code)
  | n + 1, next, code =>
    let (start, code) := body next code
    upTo greedy body exit n code.size (code.push (fork greedy start exit))

/-- One round or more. -/
def oneOrMore (greedy : Bool) (body : Emit) : Emit := fun next code =>
  let again := code.size
  let (start, code) := body again (code.push .accept)
  (start, code.setIfInBounds again (fork greedy start next))

/-- Any number of rounds. A round that can be empty gets a choice of its own in front of the loop,
so that the order of preference is kept. -/
def anyNumber (greedy isNonempty : Bool) (body : Emit) : Emit := fun next code =>
  let again := code.size
  let (start, code) := oneOrMore greedy body next code
  if isNonempty then (again, code) else (code.size, code.push (fork greedy start next))

def repeated (low : Nat) (high : Option Nat) (greedy isNonempty : Bool) (body : Emit) : Emit :=
  fun next code =>
    match low, high with
    | 0, none => anyNumber greedy isNonempty body next code
    | n + 1, none =>
      let (start, code) := oneOrMore greedy body next code
      times body n start code
    | n, some m =>
      let (start, code) := upTo greedy body next (m - n) next code
      times body n start code

end Emit

/-- The code of a tree. A group marks where it starts and where it ends. -/
def Tree.emit : Tree → Emit
  | .empty, next, code => (next, code)
  | .literal cs, next, code => Emit.literal cs.reverse next code
  | .chars set, next, code => Emit.one (.chars set) next code
  | .look condition, next, code => Emit.one (.look condition) next code
  | .sequence first second, next, code =>
    let (start, code) := second.emit next code
    first.emit start code
  | .either first second, next, code =>
    let (b, code) := second.emit next code
    let (a, code) := first.emit next code
    (code.size, code.push (.fork a b))
  | .repeated low high greedy body, next, code =>
    Emit.repeated low high greedy body.isNonempty body.emit next code
  | .group index body, next, code =>
    let (stop, code) := Emit.one (.mark (2 * index + 1)) next code
    let (start, code) := body.emit stop code
    Emit.one (.mark (2 * index)) start code

structure Program where
  code : Array Instruction
  start : Nat

/-- A program for a tree. Its first instruction accepts. -/
def Tree.program (tree : Tree) : Program :=
  let (start, code) := tree.emit 0 #[.accept]
  ⟨code, start⟩

end AttrExpr.Regex
