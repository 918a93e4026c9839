import AttrExpr.Unicode.CharSet

/-! Ranges of characters as sequences of byte ranges: the UTF-8 forms of the characters of a range
are the bytes that can be taken from such sequences. -/
set_option autoImplicit false

namespace AttrExpr.Unicode

/-- A range of bytes, with its first and its last member. -/
abbrev ByteRange : Type := Nat × Nat

/-- The byte sequences for the numbers from `first` to `last`, which are written as a first byte on
top of `base` and `n` further bytes of six bits. A block of numbers with one first byte that is not
full has sequences of its own; full blocks in a row share one. -/
def byteSequences (base : Nat) : Nat → Nat → Nat → List (List ByteRange)
  | 0, first, last => [[(base + first, base + last)]]
  | n + 1, first, last =>
    let size := 64 ^ (n + 1)
    let block (i : Nat) (a b : Nat) : List (List ByteRange) :=
      (byteSequences 0x80 n a b).map ((base + i, base + i) :: ·)
    let i := first / size
    let j := last / size
    if i = j then block i (first % size) (last % size)
    else
      let low := if first % size = 0 then i else i + 1
      let high := if last % size + 1 = size then j + 1 else j
      (if low = i then [] else block i (first % size) (size - 1)) ++
        (if low < high then
          [(base + low, base + high - 1) :: List.replicate (n + 1) (0x80, 0xBF)] else []) ++
        (if high = j then block j 0 (last % size) else [])

/-- The code points that take the same number of bytes, without surrogates: their first and last
one, the base of their first byte, and the number of their further bytes. -/
def byteWidths : List (Nat × Nat × Nat × Nat) :=
  [(0, 0x7F, 0, 0), (0x80, 0x7FF, 0xC0, 1), (0x800, 0xD7FF, 0xE0, 2), (0xE000, 0xFFFF, 0xE0, 2),
    (0x10000, lastCodePoint, 0xF0, 3)]

/-- The byte sequences for a range of code points, in increasing order. -/
def rangeSequences (first last : Nat) : List (List ByteRange) :=
  byteWidths.flatMap fun (low, high, base, n) =>
    if max first low ≤ min last high then byteSequences base n (max first low) (min last high)
    else []

def CharSet.byteSequences (set : CharSet) : List (List ByteRange) :=
  set.ranges.flatMap fun (first, last) => rangeSequences first last

/-- The bytes of a character in UTF-8. -/
def utf8Bytes (c : Char) : List Nat :=
  (rangeSequences c.toNat c.toNat).flatMap fun bytes => bytes.map (·.1)

end AttrExpr.Unicode
