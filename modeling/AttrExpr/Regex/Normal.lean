import AttrExpr.Regex.Basic

/-! Building trees in a normal form: sequences and choices hang to the right and never stand in
themselves, literals are as long and sets as large as can be, and nothing is repeated in vain. -/
set_option autoImplicit false

namespace AttrExpr.Regex

/-- Code points that are no characters. -/
def surrogates : Unicode.CharSet := .range 0xD800 0xDFFF

namespace Tree

/-- One character of a set. A set of a single member is a literal. -/
def oneOf (set : Unicode.CharSet) : Tree :=
  match (set.diff surrogates).ranges with
  | [(first, last)] =>
    if first = last then .literal [Char.ofNat first] else .chars ⟨[(first, last)]⟩
  | ranges => .chars ⟨ranges⟩

/-- A repetition. One of a body that matches nothing but the empty text needs no second round. -/
def repetition (low : Nat) (high : Option Nat) (greedy : Bool) (body : Tree) : Tree :=
  let (low, high) := if body.isBlank then (min low 1, some (min (high.getD 1) 1)) else (low, high)
  if high = some 0 then .empty
  else if low = 1 ∧ high = some 1 then body
  else .repeated low high greedy body

/-- The parts of a sequence. -/
def parts : Tree → List Tree
  | .empty => []
  | .sequence first second => first :: second.parts
  | tree => [tree]

/-- The branches of a choice. -/
def branches : Tree → List Tree
  | .either first second => first :: second.branches
  | tree => [tree]

/-- Puts a literal, which comes in reverse, in front of trees. -/
def consLiteral (reversed : List Char) (trees : List Tree) : List Tree :=
  if reversed.isEmpty then trees else .literal reversed.reverse :: trees

/-- Trees with neighbouring literals joined. The literal that is being gathered and the trees before
it come in reverse. -/
def joinLiterals (done : List Tree) (literal : List Char) : List Tree → List Tree
  | [] => (consLiteral literal done).reverse
  | .literal cs :: trees => joinLiterals done (cs.reverse ++ literal) trees
  | tree :: trees => joinLiterals (tree :: consLiteral literal done) [] trees

/-- Trees one after the other. -/
def concat (trees : List Tree) : Tree :=
  match (joinLiterals [] [] (trees.flatMap parts)).reverse with
  | [] => .empty
  | last :: before => before.foldl (fun tree part => .sequence part tree) last

def literalSet? : Tree → Option Unicode.CharSet
  | .literal [c] => some (.single c)
  | _ => none

def set? : Tree → Option Unicode.CharSet
  | .chars set => some set
  | _ => none

/-- The one set for branches that are all literals of one character, or are all sets. -/
def commonSet? (branches : List Tree) : Option Tree :=
  ((branches.mapM literalSet?).or (branches.mapM set?)).map fun sets =>
    oneOf (.ofRanges (sets.flatMap (·.ranges)))

/-- Branches, at least two of them, as a choice, or as a set if they are nothing else. -/
def choice (branches : List Tree) : Tree :=
  match commonSet? branches, branches.reverse with
  | some tree, _ => tree
  | none, [] => .chars .empty
  | none, last :: before => before.foldl (fun tree branch => .either branch tree) last

/-- The parts that two lists have in common at their start. -/
def commonStart : List Tree → List Tree → List Tree
  | a :: as, b :: bs => if a = b then a :: commonStart as bs else []
  | _, _ => []

/-- The parts that all branches start with, if every branch is a sequence. -/
def sharedStart : List Tree → List Tree
  | [] => []
  | branch :: rest =>
    if (branch :: rest).all fun branch => 1 < branch.parts.length then
      rest.foldl (fun shared branch => commonStart shared branch.parts) branch.parts
    else []

/-- One of several trees, the first ones preferred. What all of them start with is matched once. -/
def alternatives (trees : List Tree) : Tree :=
  match trees.flatMap branches with
  | [] => .chars .empty
  | [tree] => tree
  | branches =>
    match commonSet? branches, sharedStart branches with
    | some tree, _ => tree
    | none, [] => choice branches
    | none, shared =>
      let rests := branches.map fun branch => concat (branch.parts.drop shared.length)
      concat (shared ++ [choice (rests.flatMap Tree.branches)])

end Tree

end AttrExpr.Regex
