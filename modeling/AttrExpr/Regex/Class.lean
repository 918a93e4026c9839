import AttrExpr.Regex.Scan

/-! Reading sets between brackets: characters, ranges, named sets, sets in sets, and the operations
on them, which bind alike and to the left. -/
set_option autoImplicit false

namespace AttrExpr.Regex

/-- A set with the depth of its nesting. -/
structure ClassPart where
  set : Unicode.CharSet
  depth : Nat

/-- The parts of a union so far: how many there are, their set and the depth of the deepest. -/
structure ClassUnion where
  count : Nat
  set : Unicode.CharSet
  depth : Nat

namespace ClassUnion

def empty : ClassUnion := ⟨0, .empty, 0⟩

def add (u : ClassUnion) (part : ClassPart) : ClassUnion :=
  ⟨u.count + 1, ⟨u.set.ranges ++ part.set.ranges⟩, max u.depth part.depth⟩

/-- The union as one part. More than one part makes a level of nesting. -/
def part (u : ClassUnion) : ClassPart :=
  ⟨.ofRanges u.set.ranges, if 1 < u.count then u.depth + 1 else u.depth⟩

end ClassUnion

inductive ClassOp where
  | inter
  | diff
  | symmDiff
  deriving DecidableEq, Repr

/-- The operation of two operands. Case is ignored in each operand first if the flags say so. -/
def ClassOp.apply (op : ClassOp) (flags : Flags) (a b : ClassPart) :
    Except PatternError ClassPart := do
  let x ← foldAndNegate flags false a.set
  let y ← foldAndNegate flags false b.set
  let set := match op with
    | .inter => x.inter y
    | .diff => x.diff y
    | .symmDiff => x.symmDiff y
  pure ⟨set, max a.depth b.depth + 1⟩

/-- What stands between brackets so far: a left operand with its operation, and the union after
it. -/
structure ClassState where
  left : Option (ClassPart × ClassOp)
  union : ClassUnion

namespace ClassState

/-- The operand that ends here. -/
def operand (state : ClassState) (flags : Flags) : Except PatternError ClassPart :=
  match state.left with
  | none => .ok state.union.part
  | some (left, op) => op.apply flags left state.union.part

def add (state : ClassState) (part : ClassPart) : ClassState :=
  { state with union := state.union.add part }

end ClassState

/-- A set in ASCII by its name. -/
def asciiClass? (name : String) : Option Unicode.CharSet :=
  match name with
  | "alnum" => some ⟨[(0x30, 0x39), (0x41, 0x5A), (0x61, 0x7A)]⟩
  | "alpha" => some ⟨[(0x41, 0x5A), (0x61, 0x7A)]⟩
  | "ascii" => some (.range 0 0x7F)
  | "blank" => some ⟨[(0x09, 0x09), (0x20, 0x20)]⟩
  | "cntrl" => some ⟨[(0x00, 0x1F), (0x7F, 0x7F)]⟩
  | "digit" => some asciiDigit
  | "graph" => some (.range 0x21 0x7E)
  | "lower" => some (.range 0x61 0x7A)
  | "print" => some (.range 0x20 0x7E)
  | "punct" => some ⟨[(0x21, 0x2F), (0x3A, 0x40), (0x5B, 0x60), (0x7B, 0x7E)]⟩
  | "space" => some asciiSpace
  | "upper" => some (.range 0x41 0x5A)
  | "word" => some asciiWord
  | "xdigit" => some ⟨[(0x30, 0x39), (0x41, 0x46), (0x61, 0x66)]⟩
  | _ => none

/-- The parts of a named set in ASCII: whether it is negated, its set, and what follows it. -/
def namedClass? (cs : List Char) : Option (Bool × Unicode.CharSet × List Char) := do
  let inner ← Text.after? ['[', ':'] cs
  let (negated, inner) := match inner with
    | '^' :: rest => (true, rest)
    | _ => (false, inner)
  let set ← asciiClass? (.ofList (inner.takeWhile (· != ':')))
  let rest ← Text.after? [':', ']'] (inner.dropWhile (· != ':'))
  pure (negated, set, rest)

/-- The next character but one place on, over blanks and the sign of a comment where they do not
count. -/
def peekPast (whole : List Char) : Bool → List Char → Option Char
  | _, [] => whole.head?
  | inComment, c :: cs =>
    if Unicode.isWhiteSpace c then peekPast whole inComment cs
    else if !inComment && c == '#' then peekPast whole true cs
    else some c

def peek (flags : Flags) (rest : List Char) : Option Char :=
  if flags.verbose then peekPast rest false rest else rest.head?

/-- One character or escape between brackets. -/
def readClassAtom (s : Scan) : Except PatternError (Atom × Scan) :=
  match s.next? with
  | none => .error .invalidClass
  | some ('\\', rest) => readEscape rest
  | some (c, rest) => .ok (.literal c false, rest)

/-- The code point of a character between brackets. -/
def classCode (flags : Flags) : Atom → Except PatternError Nat
  | .literal c _ => if flags.unicode || c.toNat < 128 then .ok c.toNat else .error .notCharacters
  | _ => .error .invalidClass

/-- A range, a character or an escaped set. -/
def readClassItem (s : Scan) : Except PatternError (ClassPart × Scan) := do
  let (first, rest) ← readClassAtom s
  let rest := rest.space
  let single : Except PatternError (ClassPart × Scan) :=
    match first with
    | .set set => .ok (⟨set, 0⟩, rest)
    | _ => (classCode s.flags first).map fun n => (⟨.range n n, 0⟩, rest)
  match rest.next? with
  | none => .error .invalidClass
  | some ('-', after) =>
    let following := peek s.flags after.rest
    if following == some ']' || following == some '-' then single
    else do
      let after := after.space
      let (second, rest) ← readClassAtom after
      let low ← classCode s.flags first
      let high ← classCode s.flags second
      if low ≤ high then pure (⟨.range low high, 0⟩, rest) else .error .invalidClass
  | some _ => single

/-- Leading hyphens, which stand for themselves. -/
def readHyphens : Nat → ClassState → Scan → ClassState × Scan
  | 0, state, s => (state, s)
  | fuel + 1, state, s =>
    match s.next? with
    | some ('-', rest) => readHyphens fuel (state.add ⟨.single '-', 0⟩) rest.space
    | _ => (state, s)

/-- What follows an opening bracket: a sign of negation, hyphens, and a closing bracket that stands
for itself when nothing is in front of it. -/
def readClassOpening (s : Scan) : Bool × ClassState × Scan :=
  let s := s.space
  let (negated, s) := match s.next? with
    | some ('^', rest) => (true, rest.space)
    | _ => (false, s)
  let (state, s) := readHyphens s.rest.length ⟨none, .empty⟩ s
  match s.next? with
  | some (']', rest) =>
    if state.union.count = 0 then (negated, state.add ⟨.single ']', 0⟩, rest.space)
    else (negated, state, s)
  | _ => (negated, state, s)

/-- An operation, when its sign comes next. -/
def classOp? (s : Scan) : Option (ClassOp × Scan) :=
  match s.rest with
  | '&' :: '&' :: rest => some (.inter, { s with rest := rest })
  | '-' :: '-' :: rest => some (.diff, { s with rest := rest })
  | '~' :: '~' :: rest => some (.symmDiff, { s with rest := rest })
  | _ => none

/-- Reads the rest of a set up to its closing bracket. `nested` reads a set in it. -/
def readClassItems (nested : Scan → Except PatternError (ClassPart × Scan)) (negated : Bool) :
    Nat → ClassState → Scan → Except PatternError (ClassPart × Scan)
  | 0, _, _ => .error .invalidClass
  | fuel + 1, state, s =>
    let s := s.space
    match classOp? s, s.next? with
    | some (op, rest), _ => do
      let left ← state.operand s.flags
      readClassItems nested negated fuel ⟨some (left, op), .empty⟩ rest
    | none, none => .error .invalidClass
    | none, some (']', rest) => do
      let part ← state.operand s.flags
      let set ← foldAndNegate s.flags negated part.set
      pure (⟨set, part.depth + 1⟩, rest)
    | none, some ('[', inner) =>
      match namedClass? s.rest with
      | some (negated', set, rest) => do
        let set ← foldAndNegate s.flags negated' set
        readClassItems nested negated fuel (state.add ⟨set, 0⟩) { s with rest := rest }
      | none => do
        let (part, rest) ← nested inner
        readClassItems nested negated fuel (state.add part) rest
    | none, some _ => do
      let (part, rest) ← readClassItem s
      readClassItems nested negated fuel (state.add part) rest

/-- Reads a set after its opening bracket. -/
def readClass : Nat → Scan → Except PatternError (ClassPart × Scan)
  | 0, _ => .error .invalidClass
  | fuel + 1, s =>
    let (negated, state, rest) := readClassOpening s
    readClassItems (readClass fuel) negated (rest.rest.length + 1) state rest

end AttrExpr.Regex
