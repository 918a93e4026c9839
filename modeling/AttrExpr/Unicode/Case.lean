import AttrExpr.Unicode.Property

/-! Upper and lower case of text, and the closure of character sets under equality without case. -/
set_option autoImplicit false

namespace AttrExpr.Unicode

def moved (runs : List CaseRun) (c : Char) : Char :=
  match runs.find? (·.covers c.toNat) with
  | some run => Char.ofNat (run.target c.toNat)
  | none => c

/-- The upper case of one character, which may be several. -/
def upperOf (c : Char) : List Char :=
  if c.toNat < 128 then [c.toUpper]
  else
    match upperExpansions.find? (fun entry => entry.head? == some c.toNat) with
    | some entry => (entry.drop 1).map Char.ofNat
    | none => [moved upperRuns c]

/-- The lower case of one character apart from its place in a word. -/
def lowerOf (c : Char) : List Char :=
  if c.toNat < 128 then [c.toLower]
  else if c.toNat = 0x130 then ['i', Char.ofNat 0x307]
  else [moved lowerRuns c]

/-- Whether the first character that counts for case has one. -/
def startsCased (cs : List Char) : Bool :=
  match cs.dropWhile caseIgnorable.contains with
  | c :: _ => cased.contains c
  | [] => false

/-- The lower case of a text that follows `before`, the characters to its left in reverse. A sigma
at the end of a word takes its final form. -/
def lowerFrom (before : List Char) : List Char → List Char
  | [] => []
  | c :: cs =>
    (if c = 'Σ' then [if startsCased before && !startsCased cs then 'ς' else 'σ'] else lowerOf c) ++
      lowerFrom (c :: before) cs

def toUpper (text : String) : String := .ofList (text.toList.flatMap upperOf)

def toLower (text : String) : String := .ofList (lowerFrom [] text.toList)

/-- The set with every character that equals one of its members when case is ignored. -/
def CharSet.foldClosure (set : CharSet) : CharSet :=
  .ofRanges (set.ranges ++ (foldOrbits.filter (·.any set.hasCode)).flatMap (·.map fun n => (n, n)))

def trimStart (cs : List Char) : List Char := cs.dropWhile isWhiteSpace

def trim (cs : List Char) : List Char := (trimStart (trimStart cs).reverse).reverse

end AttrExpr.Unicode
