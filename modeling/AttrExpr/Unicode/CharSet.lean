/-! Sets of characters as ranges of code points. -/
set_option autoImplicit false

namespace AttrExpr.Unicode

/-- Ranges of code points, each with its first and its last member. -/
structure CharSet where
  ranges : List (Nat × Nat)
  deriving DecidableEq, Repr

def lastCodePoint : Nat := 0x10FFFF

def CharSet.empty : CharSet := ⟨[]⟩

def CharSet.full : CharSet := ⟨[(0, lastCodePoint)]⟩

def CharSet.range (first last : Nat) : CharSet := ⟨[(first, last)]⟩

def CharSet.single (c : Char) : CharSet := ⟨[(c.toNat, c.toNat)]⟩

def CharSet.hasCode (set : CharSet) (n : Nat) : Bool :=
  set.ranges.any fun (first, last) => first ≤ n && n ≤ last

def CharSet.contains (set : CharSet) (c : Char) : Bool := set.hasCode c.toNat

/-- Joins a range with the ranges after it that overlap or touch. -/
def coalesceFrom (first last : Nat) : List (Nat × Nat) → List (Nat × Nat)
  | [] => [(first, last)]
  | (first', last') :: rest =>
    if first' ≤ last + 1 then coalesceFrom first (max last last') rest
    else (first, last) :: coalesceFrom first' last' rest

/-- Joins ranges that overlap or touch; the ranges come in the order of their first members. -/
def coalesce : List (Nat × Nat) → List (Nat × Nat)
  | [] => []
  | (first, last) :: rest => coalesceFrom first last rest

/-- The set of all members of some ranges, with its ranges in increasing order and apart. -/
def CharSet.ofRanges (ranges : List (Nat × Nat)) : CharSet :=
  ⟨coalesce (ranges.mergeSort fun a b => a.1 ≤ b.1)⟩

def CharSet.union (a b : CharSet) : CharSet := .ofRanges (a.ranges ++ b.ranges)

/-- The gaps between increasing ranges, from `next` on. -/
def gapsFrom (next : Nat) : List (Nat × Nat) → List (Nat × Nat)
  | [] => if next ≤ lastCodePoint then [(next, lastCodePoint)] else []
  | (first, last) :: rest =>
    if next < first then (next, first - 1) :: gapsFrom (last + 1) rest
    else gapsFrom (last + 1) rest

/-- The code points that are not in the set. -/
def CharSet.complement (set : CharSet) : CharSet :=
  ⟨gapsFrom 0 (CharSet.ofRanges set.ranges).ranges⟩

def CharSet.inter (a b : CharSet) : CharSet := (a.complement.union b.complement).complement

def CharSet.diff (a b : CharSet) : CharSet := (a.complement.union b).complement

/-- The members of exactly one of two sets. -/
def CharSet.symmDiff (a b : CharSet) : CharSet := (a.diff b).union (b.diff a)

def CharSet.isAscii (set : CharSet) : Bool := set.ranges.all fun (_, last) => last < 128

def hexDigit? (c : Char) : Option Nat :=
  if '0' ≤ c ∧ c ≤ '9' then some (c.toNat - '0'.toNat)
  else if 'a' ≤ c ∧ c ≤ 'f' then some (c.toNat - 'a'.toNat + 10)
  else if 'A' ≤ c ∧ c ≤ 'F' then some (c.toNat - 'A'.toNat + 10)
  else none

/-- The number that the leading hexadecimal digits stand for, and what follows them. -/
def readHex (cs : List Char) : Nat × List Char :=
  let digits := cs.takeWhile fun c => (hexDigit? c).isSome
  (digits.foldl (fun n c => n * 16 + (hexDigit? c).getD 0) 0, cs.drop digits.length)

/-- Reads a range such as `41-5A`, or a single code point such as `AA`. -/
def readRange (text : String) : Nat × Nat :=
  match readHex text.toList with
  | (first, '-' :: rest) => (first, (readHex rest).1)
  | (first, _) => (first, first)

/-- The entries of a table that follow the characters of `entry`, which come in reverse. Blanks and
line ends stand between entries. -/
def entriesFrom (entry : List Char) : List Char → List String
  | [] => if entry.isEmpty then [] else [.ofList entry.reverse]
  | c :: cs =>
    if c = ' ' ∨ c = '\n' then
      if entry.isEmpty then entriesFrom [] cs else .ofList entry.reverse :: entriesFrom [] cs
    else entriesFrom (c :: entry) cs

def tableEntries (text : String) : List String := entriesFrom [] text.toList

/-- A set written as ranges in increasing order. -/
def CharSet.ofText (text : String) : CharSet := ⟨(tableEntries text).map readRange⟩

/-- Lists of code points, such as `DF.53.53 149.2BC.4E`. -/
def codePointLists (text : String) : List (List Nat) :=
  (tableEntries text).map fun entry => (entry.splitOn ".").map fun n => (readHex n.toList).1

end AttrExpr.Unicode
