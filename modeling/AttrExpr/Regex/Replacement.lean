import AttrExpr.Binary64.Text
import AttrExpr.Regex.Search

/-! Replacing matches. In a replacement a dollar sign refers to a group by number or name, with or
without braces, and two dollar signs stand for one. -/
set_option autoImplicit false

namespace AttrExpr.Regex

/-- A part of a replacement. -/
inductive Part where
  | text (cs : List Char)
  | numbered (n : Nat)
  | named (name : String)
  deriving DecidableEq, Repr

/-- A reference by number when the name is one of 64 bits, and by name otherwise. -/
def Part.reference (name : List Char) : Part :=
  let digits := match name with
    | '+' :: rest => rest
    | _ => name
  if !digits.isEmpty && digits.all Char.isDigit && digitsValue digits < 1 <<< 64 then
    .numbered (digitsValue digits)
  else .named (.ofList name)

def isReferenceChar (c : Char) : Bool := c.isAlphanum || c == '_'

/-- The reference after a dollar sign and what follows it, if there is one. -/
def takeReference? (cs : List Char) : Option (Part × List Char) :=
  match cs with
  | '\x7b' :: rest =>
    match rest.dropWhile (· != '\x7d') with
    | [] => none
    | _ :: after => some (.reference (rest.takeWhile (· != '\x7d')), after)
  | _ =>
    let name := cs.takeWhile isReferenceChar
    if name.isEmpty then none else some (.reference name, cs.drop name.length)

/-- The parts of a replacement. Every step uses up a character, so `fuel` characters are enough. -/
def replacementParts : Nat → List Char → List Part
  | 0, _ => []
  | fuel + 1, cs =>
    match cs with
    | [] => []
    | '$' :: '$' :: rest => .text ['$'] :: replacementParts fuel rest
    | '$' :: rest =>
      match takeReference? rest with
      | some (part, after) => part :: replacementParts fuel after
      | none => .text ['$'] :: replacementParts fuel rest
    | _ =>
      .text (cs.takeWhile (· != '$')) :: replacementParts fuel (cs.dropWhile (· != '$'))

/-- The characters between two positions. -/
def between (text : Array Char) (start stop : Nat) : List Char := (text.extract start stop).toList

/-- The text of a group of a match; empty when the group took no part in it. -/
def Match.group (found : Match) (text : Array Char) (n : Nat) : List Char :=
  if n = 0 then between text found.start found.stop
  else
    match found.marks.lookup (2 * n), found.marks.lookup (2 * n + 1) with
    | some start, some stop => between text start stop
    | _, _ => []

def Part.expand (names : List (String × Nat)) (text : Array Char) (found : Match) : Part → List Char
  | .text cs => cs
  | .numbered n => found.group text n
  | .named name =>
    match names.lookup name with
    | some n => found.group text n
    | none => []

/-- The text from a position on, with each match replaced. The pieces in front of it come in
reverse. -/
def substitute (names : List (String × Nat)) (text : Array Char) (parts : List Part) :
    Nat → List (List Char) → List Match → List Char
  | start, done, [] => (between text start text.size :: done).reverse.flatten
  | start, done, found :: rest =>
    substitute names text parts found.stop
      (parts.flatMap (·.expand names text found) :: between text start found.start :: done) rest

end AttrExpr.Regex

namespace AttrExpr

/-- The text with some matches replaced. -/
def Regex.replaceMatches (regex : Regex) (found : List Regex.Match) (replacement text : List Char) :
    List Char :=
  Regex.substitute regex.names text.toArray
    (Regex.replacementParts replacement.length replacement) 0 [] found

def Regex.replaceAll (regex : Regex) (replacement text : List Char) : List Char :=
  regex.replaceMatches (regex.tree.program.matches text) replacement text

def Regex.replaceFirst (regex : Regex) (replacement text : List Char) : List Char :=
  regex.replaceMatches (regex.tree.program.find? (.ofText text)).toList replacement text

end AttrExpr
