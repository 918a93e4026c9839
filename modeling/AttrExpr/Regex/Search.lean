import Std.Data.HashSet
import AttrExpr.Regex.Program

/-! Finding the match that comes first and is preferred, with its groups. The ways through a program
are followed side by side, one character of the text after the other. -/
set_option autoImplicit false

namespace AttrExpr.Regex

/-- Positions that groups were marked with, the latest first. -/
abbrev Marks : Type := List (Nat × Nat)

/-- A match: where it starts and ends, and the marks of its groups. -/
structure Match where
  start : Nat
  stop : Nat
  marks : Marks

/-- A way through a program so far: the instruction it has come to, where it started, and its
marks. -/
structure Thread where
  pc : Nat
  start : Nat
  marks : Marks

/-- A place in a text: its position, the character before it, and what follows it. -/
structure Place where
  position : Nat
  before : Option Char
  rest : List Char

namespace Place

def ofText (text : List Char) : Place := ⟨0, none, text⟩

/-- The place one character on, if there is one. -/
def next? (place : Place) : Option (Char × Place) :=
  match place.rest with
  | [] => none
  | c :: cs => some (c, ⟨place.position + 1, some c, cs⟩)

/-- The place some characters on. -/
def advance : Nat → Place → Place
  | 0, place => place
  | n + 1, place =>
    match place.next? with
    | some (_, place) => advance n place
    | none => place

end Place

/-- The threads that wait for a character, the preferred one first, each with the characters it
waits for; and the match that is preferred to all threads after them. -/
structure Front where
  waiting : List (Unicode.CharSet × Thread)
  found : Option Match

/-- Follows threads as far as no character is needed. Instructions that were seen at this place
before lead nowhere new. The threads that wait come in reverse. -/
def settle (program : Program) (place : Place) :
    Nat → Std.HashSet Nat → List (Unicode.CharSet × Thread) → List Thread → Front
  | 0, _, waiting, _ => ⟨waiting.reverse, none⟩
  | _ + 1, _, waiting, [] => ⟨waiting.reverse, none⟩
  | fuel + 1, seen, waiting, t :: threads =>
    if seen.contains t.pc then settle program place fuel seen waiting threads
    else
      let seen := seen.insert t.pc
      match program.code[t.pc]? with
      | none => settle program place fuel seen waiting threads
      | some .accept => ⟨waiting.reverse, some ⟨t.start, place.position, t.marks⟩⟩
      | some (.chars set next) =>
        settle program place fuel seen ((set, { t with pc := next }) :: waiting) threads
      | some (.look condition next) =>
        if condition.holds place.before place.rest.head? then
          settle program place fuel seen waiting ({ t with pc := next } :: threads)
        else settle program place fuel seen waiting threads
      | some (.mark slot next) =>
        settle program place fuel seen waiting
          ({ t with pc := next, marks := (slot, place.position) :: t.marks } :: threads)
      | some (.fork first second) =>
        settle program place fuel seen waiting
          ({ t with pc := first } :: { t with pc := second } :: threads)

/-- The front at a place. Every instruction is followed once and leads to two more at most. -/
def Program.front (program : Program) (place : Place) (threads : List Thread) : Front :=
  settle program place (2 * program.code.size + threads.length + 1) ∅ [] threads

/-- The match that starts at or after a place and comes first. As long as there is none, a new
thread, to which all others are preferred, starts at every place. -/
def Program.findFrom (program : Program) :
    List Char → Option Char → Nat → Option Match → List Thread → Option Match
  | rest, before, position, found, threads =>
    let place : Place := ⟨position, before, rest⟩
    let threads := if found.isNone then threads ++ [⟨program.start, position, []⟩] else threads
    let front := program.front place threads
    let found := front.found.or found
    if front.waiting.isEmpty && found.isSome then found
    else
      match rest with
      | [] => found
      | c :: cs =>
        program.findFrom cs (some c) (position + 1) found
          (front.waiting.filterMap fun (set, t) => if set.contains c then some t else none)

def Program.find? (program : Program) (place : Place) : Option Match :=
  program.findFrom place.rest place.before place.position none []

/-- Whether there is a match anywhere in a text. -/
def Program.isMatch (program : Program) (text : List Char) : Bool :=
  (program.find? (.ofText text)).isSome

/-- The next match from a place on, and the place where it ends. An empty match where the last one
ended does not count: the search goes on one character later. -/
def Program.next? (program : Program) (last : Option Nat) (place : Place) :
    Option (Match × Place) := do
  let found ← program.find? place
  let found ←
    if found.start = found.stop ∧ last = some found.stop then do
      let (_, later) ← place.next?
      program.find? later
    else some found
  pure (found, place.advance (found.stop - place.position))

/-- The matches from a place on, without overlap. The ones before it come in reverse. -/
def Program.matchesFrom (program : Program) :
    Nat → List Match → Option Nat → Place → List Match
  | 0, done, _, _ => done.reverse
  | fuel + 1, done, last, place =>
    match program.next? last place with
    | none => done.reverse
    | some (found, place) => program.matchesFrom fuel (found :: done) (some found.stop) place

/-- All matches in a text. -/
def Program.matches (program : Program) (text : List Char) : List Match :=
  program.matchesFrom (text.length + 2) [] none (.ofText text)

end AttrExpr.Regex

namespace AttrExpr

/-- Whether there is a match anywhere in a text. -/
def Regex.isMatch (regex : Regex) (text : List Char) : Bool := regex.tree.program.isMatch text

end AttrExpr
