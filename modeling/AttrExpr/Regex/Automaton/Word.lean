import AttrExpr.Regex.Automaton.Basic
import AttrExpr.Unicode.ByteRange

/-! Parts of automata that read one of several words, which share what they begin with. -/
set_option autoImplicit false

namespace AttrExpr.Regex

/-- Splits words where one has ended. -/
def wordChunks : List (List Nat) → List (List Nat) → List (List (List Nat))
  | chunk, [] => [chunk.reverse]
  | chunk, [] :: words => chunk.reverse :: wordChunks [] words
  | chunk, word :: words => wordChunks (word :: chunk) words

/-- Words that begin with one byte are put together, in the order of that byte. -/
def wordGroups (words : List (List Nat)) : List (List (List Nat)) :=
  (words.mergeSort fun a b => a.headD 0 ≤ b.headD 0).splitBy fun a b => a.head? == b.head?

/-- The states and further bytes for words in the order of preference, at a place where not all have
ended. Words share what they begin with, unless a word between them has ended there. `fuel` is at
least the length of the longest word. -/
def wordsSize : Nat → List (List Nat) → Nat × Nat
  | 0, _ => (0, 0)
  | _ + 1, [word] => (2 * word.length, Automaton.branchSize * word.length)
  | fuel + 1, words =>
    let chunks := wordChunks [] (match words with
      | [] :: rest => [] :: rest.dropWhile List.isEmpty
      | _ => words)
    let taken := (chunks.filter (!·.isEmpty)).map wordGroups
    let ways := taken.length + chunks.length - 1
    let tables := (taken.map List.length).filter (1 < ·)
    let further := (taken.flatten.map (·.map List.tail)).filter (!·.all List.isEmpty)
    further.foldl (fun (states, extra) tails =>
      let (s, e) := wordsSize fuel tails
      (states + s, extra + e))
      (taken.length + 1, ways * Automaton.branchSize + tables.sum * Automaton.entrySize)

/-- Adds a choice of words. -/
def Automaton.addWords (backward : Bool) (words : List (List Char)) (a : Automaton) :
    Option Automaton :=
  let words := words.map fun word =>
    let bytes := word.flatMap Unicode.utf8Bytes
    if backward then bytes.reverse else bytes
  let longest := words.foldl (fun n word => max n word.length) 0
  let (states, extra) := wordsSize (longest + 1) words
  a.add (states + 1) extra false

end AttrExpr.Regex
