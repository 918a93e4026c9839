import AttrExpr.Binary64.Text
import AttrExpr.Regex.Automaton.Limit
import AttrExpr.Regex.Class

/-! Reading regular expressions. Flags hold from where they are set to the end of their group; the
knot of nested groups is tied on the number of characters left. -/
set_option autoImplicit false

namespace AttrExpr.Regex

/-- An operand: its tree, the depth of its nesting, and whether it can be repeated. -/
structure Item where
  tree : Tree
  depth : Nat
  repeatable : Bool

/-- Items as one, with a level of nesting of its own if there is more than one. -/
def Item.join (tree : List Tree → Tree) : List Item → Item
  | [] => ⟨.empty, 0, false⟩
  | [item] => item
  | items =>
    ⟨tree (items.map (·.tree)), (items.foldl (fun depth item => max depth item.depth) 0) + 1, true⟩

/-- The items of the current alternative and the alternatives before it, the latest first. -/
structure Branches where
  done : List Item
  items : List Item

namespace Branches

def add (branches : Branches) (item : Item) : Branches :=
  { branches with items := item :: branches.items }

def close (branches : Branches) : Branches :=
  ⟨.join .concat branches.items.reverse :: branches.done, []⟩

def item (branches : Branches) : Item := .join .alternatives branches.close.done.reverse

end Branches

/-- A character, a set or a condition as an operand. -/
def Atom.item (flags : Flags) : Atom → Except PatternError Item
  | .literal c isByte => (literalSet flags c isByte).map fun chars => ⟨.oneOf chars, 0, true⟩
  | .set chars => .ok ⟨.oneOf chars, 0, true⟩
  | .look condition => .ok ⟨.look condition, 0, true⟩

/-- Any character, but for the ends of lines unless the flags say so. -/
def anyChar (flags : Flags) : Except PatternError Unicode.CharSet :=
  if !flags.unicode then .error .notCharacters
  else if flags.dotAll then .ok .full
  else if flags.returns then .ok ((Unicode.CharSet.full.diff (.single '\n')).diff (.single '\r'))
  else .ok (Unicode.CharSet.full.diff (.single '\n'))

def startLook (flags : Flags) : Look :=
  if !flags.multiLine then .textStart else if flags.returns then .returnLineStart else .lineStart

def endLook (flags : Flags) : Look :=
  if !flags.multiLine then .textEnd else if flags.returns then .returnLineEnd else .lineEnd

/-- Puts a repetition in place of the operand before it. A question mark after the operator changes
whether it is greedy, and so does a flag. -/
def Branches.repeatLast (branches : Branches) (low : Nat) (high : Option Nat) (s : Scan) :
    Except PatternError (Branches × Scan) :=
  match branches.items with
  | [] => .error .missingOperand
  | item :: items =>
    if !item.repeatable then .error .missingOperand
    else
      let (lazy, rest) := match s.next? with
        | some ('?', rest) => (true, rest)
        | _ => (false, s)
      let greedy := lazy == s.flags.swapGreed
      .ok ({ branches with
        items := ⟨.repetition low high greedy item.tree, item.depth + 1, true⟩ :: items }, rest)

/-- Passes over blanks, which never count around the numbers of a repetition. -/
def skipAllBlanks : Nat → Scan → Scan
  | 0, s => s
  | fuel + 1, s =>
    match s.next? with
    | some (c, rest) => if Unicode.isWhiteSpace c then skipAllBlanks fuel rest.space else s
    | none => s

def readCountDigits : Nat → Scan → List Char × Scan
  | 0, s => ([], s)
  | fuel + 1, s =>
    match s.next? with
    | some (c, rest) =>
      if c.isDigit then
        let (cs, rest) := readCountDigits fuel rest.space
        (c :: cs, rest)
      else ([], s)
    | none => ([], s)

/-- A number of a repetition, of 32 bits. -/
def readCount (s : Scan) : Except PatternError (Option Nat × Scan) :=
  let s := skipAllBlanks s.rest.length s
  let (digits, s) := readCountDigits s.rest.length s
  let s := skipAllBlanks s.rest.length s
  if digits.isEmpty then .ok (none, s)
  else if digitsValue digits < 1 <<< 32 then .ok (some (digitsValue digits), s)
  else .error .invalidRepetition

/-- The numbers of a repetition up to its closing brace. The lower one may not be missing. -/
def readCounts (s : Scan) : Except PatternError (Nat × Option Nat × Scan) := do
  let (low, rest) ← readCount s.space
  match low, rest.next? with
  | some low, some ('\x7d', rest) => pure (low, some low, rest.space)
  | some low, some (',', rest) =>
    let rest := rest.space
    match rest.next? with
    | some ('\x7d', rest) => pure (low, none, rest.space)
    | _ => do
      let (high, rest) ← readCount rest
      match high, rest.next? with
      | some high, some ('\x7d', rest) =>
        if low ≤ high then pure (low, some high, rest.space) else .error .invalidRepetition
      | _, _ => .error .invalidRepetition
  | _, _ => .error .invalidRepetition

/-- Flags up to a colon or a closing parenthesis, the ones after a hyphen unset. No flag may come
twice. -/
def readFlags (seen : List Char) (value : Bool) (flags : Flags) :
    List Char → Except PatternError (Flags × List Char)
  | [] => .error .invalidFlags
  | c :: cs =>
    if c = ':' ∨ c = ')' then
      if seen.head? = some '-' then .error .invalidFlags else .ok (flags, c :: cs)
    else if seen.contains c then .error .invalidFlags
    else if c = '-' then readFlags (c :: seen) false flags cs
    else
      match flags.set? c value with
      | some flags => readFlags (c :: seen) value flags cs
      | none => .error .invalidFlags

/-- What opens after a parenthesis: flags on their own, a group without a number, or one with a
number. -/
inductive Opening where
  | flags (s : Scan)
  | plain (s : Scan)
  | capture (index : Nat) (s : Scan)

def isGroupNameStart (c : Char) : Bool := c == '_' || Unicode.isAlphabetic c

def isGroupNameChar (c : Char) : Bool :=
  c == '_' || c == '.' || c == '[' || c == ']' || Unicode.isAlphanumeric c

/-- A group name up to its closing bracket. No two groups may have one name. -/
def readGroupName (s : Scan) : Except PatternError Opening :=
  let name := s.rest.takeWhile (· != '>')
  let index := s.groups + 1
  match name, s.rest.dropWhile (· != '>') with
  | c :: cs, '>' :: rest =>
    if !isGroupNameStart c || !cs.all isGroupNameChar ||
        s.names.any (·.1 == String.ofList name) then
      .error .invalidGroupName
    else
      .ok (.capture index
        { s with rest := rest, groups := index, names := s.names ++ [(.ofList name, index)] })
  | _, _ => .error .invalidGroupName

/-- Reads what follows an opening parenthesis. -/
def readOpening (s : Scan) : Except PatternError Opening :=
  let s := s.space
  match s.rest with
  | '?' :: '=' :: _ | '?' :: '!' :: _ | '?' :: '<' :: '=' :: _ | '?' :: '<' :: '!' :: _ =>
    .error .lookaround
  | '?' :: 'P' :: '<' :: rest | '?' :: '<' :: rest => readGroupName { s with rest := rest }
  | '?' :: ')' :: _ => .error .missingOperand
  | '?' :: rest => do
    match ← readFlags [] true s.flags rest with
    | (flags, ':' :: rest) => pure (.plain { s with rest := rest, flags := flags })
    | (flags, rest) => pure (.flags { s with rest := rest.drop 1, flags := flags })
  | _ => .ok (.capture (s.groups + 1) { s with groups := s.groups + 1 })

/-- Reads a group after its opening parenthesis, or flags. `body` reads up to a closing
parenthesis. -/
def readGroup (body : Scan → Except PatternError (Item × Scan)) (s : Scan) :
    Except PatternError (Item × Scan) := do
  let close (inner : Scan) (wrap : Tree → Tree) : Except PatternError (Item × Scan) := do
    let (item, rest) ← body inner
    match rest.next? with
    | some (')', rest) =>
      pure (⟨wrap item.tree, item.depth + 1, true⟩, { rest with flags := s.flags })
    | _ => .error .unclosedGroup
  match ← readOpening s with
  | .flags rest => pure (⟨.empty, 0, false⟩, rest)
  | .plain inner => close inner id
  | .capture index inner => close inner (.group index)

/-- Reads alternatives up to a closing parenthesis or to the end. -/
def readBranches (body : Scan → Except PatternError (Item × Scan)) :
    Nat → Branches → Scan → Except PatternError (Item × Scan)
  | 0, branches, s => .ok (branches.item, s)
  | fuel + 1, branches, s =>
    let s := s.space
    match s.next? with
    | none | some (')', _) => .ok (branches.item, s)
    | some ('(', inner) => do
      let (item, rest) ← readGroup body inner
      readBranches body fuel (branches.add item) rest
    | some ('|', rest) => readBranches body fuel branches.close rest
    | some ('[', inner) => do
      let (part, rest) ← readClass inner.rest.length inner
      readBranches body fuel (branches.add ⟨.oneOf part.set, part.depth, true⟩) rest
    | some ('?', rest) => do
      let (branches, rest) ← branches.repeatLast 0 (some 1) rest
      readBranches body fuel branches rest
    | some ('*', rest) => do
      let (branches, rest) ← branches.repeatLast 0 none rest
      readBranches body fuel branches rest
    | some ('+', rest) => do
      let (branches, rest) ← branches.repeatLast 1 none rest
      readBranches body fuel branches rest
    | some ('\x7b', inner) => do
      let (low, high, rest) ← readCounts inner
      let (branches, rest) ← branches.repeatLast low high rest
      readBranches body fuel branches rest
    | some ('.', rest) => do
      let set ← anyChar s.flags
      readBranches body fuel (branches.add ⟨.oneOf set, 0, true⟩) rest
    | some ('^', rest) =>
      readBranches body fuel (branches.add ⟨.look (startLook s.flags), 0, true⟩) rest
    | some ('$', rest) =>
      readBranches body fuel (branches.add ⟨.look (endLook s.flags), 0, true⟩) rest
    | some ('\\', rest) => do
      let (atom, rest) ← readEscape rest
      let item ← atom.item s.flags
      readBranches body fuel (branches.add item) rest
    | some (c, rest) => do
      let set ← literalSet s.flags c false
      readBranches body fuel (branches.add ⟨.oneOf set, 0, true⟩) rest

/-- Reads the inside of a group. `fuel` is at least the number of characters left. -/
def readBody : Nat → Scan → Except PatternError (Item × Scan)
  | 0, s => .ok (⟨.empty, 0, false⟩, s)
  | fuel + 1, s => readBranches (readBody fuel) (s.rest.length + 1) ⟨[], []⟩ s

/-- How deep expressions may be nested. -/
def depthLimit : Nat := 250

end AttrExpr.Regex

namespace AttrExpr

open Regex in
/-- Reads a regular expression. -/
def Regex.read (text : String) : Except PatternError Regex := do
  let cs := text.toList
  let (item, rest) ← readBody (cs.length + 1) (.start cs)
  if !rest.rest.isEmpty then .error .unopenedGroup
  else if depthLimit < item.depth then .error .nestedTooDeep
  else if !item.tree.isWithinLimit then .error .tooLarge
  else pure ⟨text, item.tree, rest.names⟩

/-- Reads a regular expression that has to match a whole text. -/
def Regex.readWhole (text : String) : Except Regex.PatternError Regex :=
  Regex.read ("^(?:" ++ text ++ ")$")

end AttrExpr
