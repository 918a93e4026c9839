import AttrExpr.Unicode.Property

/-! Regular expressions as trees, and bounds on the lengths of their matches. -/
set_option autoImplicit false

namespace AttrExpr.Regex

/-- Conditions on a position. The ones on words know words of all scripts or of ASCII only. -/
inductive Look where
  | textStart
  | textEnd
  | lineStart
  | lineEnd
  | returnLineStart
  | returnLineEnd
  | wordBoundary (unicode : Bool)
  | noWordBoundary (unicode : Bool)
  | wordStart (unicode : Bool)
  | wordEnd (unicode : Bool)
  | wordStartHalf (unicode : Bool)
  | wordEndHalf (unicode : Bool)
  deriving DecidableEq, Repr

/-- The characters of words in ASCII. -/
def asciiWord : Unicode.CharSet := ⟨[(0x30, 0x39), (0x41, 0x5A), (0x5F, 0x5F), (0x61, 0x7A)]⟩

def isWord (unicode : Bool) : Option Char → Bool
  | none => false
  | some c => asciiWord.contains c || (unicode && 128 ≤ c.toNat && Unicode.wordChars.contains c)

/-- Whether a condition holds between two characters. At the ends of a text one is missing. -/
def Look.holds (before after : Option Char) : Look → Bool
  | .textStart => before.isNone
  | .textEnd => after.isNone
  | .lineStart => before.isNone || before == some '\n'
  | .lineEnd => after.isNone || after == some '\n'
  | .returnLineStart =>
    before.isNone || before == some '\n' || (before == some '\r' && after != some '\n')
  | .returnLineEnd =>
    after.isNone || after == some '\r' || (after == some '\n' && before != some '\r')
  | .wordBoundary unicode => isWord unicode before != isWord unicode after
  | .noWordBoundary unicode => isWord unicode before == isWord unicode after
  | .wordStart unicode => !isWord unicode before && isWord unicode after
  | .wordEnd unicode => isWord unicode before && !isWord unicode after
  | .wordStartHalf unicode => !isWord unicode before
  | .wordEndHalf unicode => !isWord unicode after

/-- A repetition runs at least `low` and at most `high` times; a greedy one as often as it can.
Groups are numbered from one in the order of their opening. -/
inductive Tree where
  | empty
  | literal (cs : List Char)
  | chars (set : Unicode.CharSet)
  | look (look : Look)
  | sequence (first second : Tree)
  | either (first second : Tree)
  | repeated (low : Nat) (high : Option Nat) (greedy : Bool) (body : Tree)
  | group (index : Nat) (body : Tree)
  deriving DecidableEq

namespace Tree

/-- The fewest characters that a match takes. A tree with a set that has no members has no such
number, even if it has matches. -/
def minLength : Tree → Option Nat
  | .empty | .look _ => some 0
  | .literal cs => some cs.length
  | .chars set => if set.ranges.isEmpty then none else some 1
  | .sequence first second => do pure ((← first.minLength) + (← second.minLength))
  | .either first second => do pure (min (← first.minLength) (← second.minLength))
  | .repeated low _ _ body => body.minLength.map (low * ·)
  | .group _ body => body.minLength

/-- Whether no match is empty, as far as the lengths tell. -/
def isNonempty (tree : Tree) : Bool := tree.minLength.any (0 < ·)

/-- Whether a tree matches nothing but the empty text, because it has no characters. -/
def isBlank : Tree → Bool
  | .empty | .look _ => true
  | .literal cs => cs.isEmpty
  | .chars _ => false
  | .sequence first second => first.isBlank && second.isBlank
  | .either first second => first.isBlank && second.isBlank
  | .repeated _ _ _ body => body.isBlank
  | .group _ body => body.isBlank

end Tree

end AttrExpr.Regex

namespace AttrExpr

/-- A regular expression: its text, its tree and the numbers of its named groups. -/
structure Regex where
  text : String
  tree : Regex.Tree
  names : List (String × Nat)

end AttrExpr
