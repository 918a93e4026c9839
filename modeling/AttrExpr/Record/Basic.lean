import AttrExpr.Regex.Search

/-! Records: named attributes with text values, in the order in which they came, and what
expressions can see of them. -/
set_option autoImplicit false

namespace AttrExpr

/-- What expressions can see of a record: the value of a name, and all names. -/
structure Attributes where
  lookup : String → Option String
  names : List String

/-- Names in increasing order, each once. -/
def sortedNames (names : List String) : List String :=
  (names.mergeSort fun a b => !(b < a)).eraseReps

namespace Attributes

/-- The names that match a regular expression, in increasing order. -/
def namesMatching (attributes : Attributes) (regex : Regex) : List String :=
  let program := regex.tree.program
  sortedNames (attributes.names.filter fun name => program.isMatch name.toList)

end Attributes

structure Record where
  entries : List (String × String)
  deriving DecidableEq, Repr

namespace Record

def empty : Record := ⟨[]⟩

def insertEntry (name value : String) : List (String × String) → List (String × String)
  | [] => [(name, value)]
  | (other, old) :: rest =>
    if other = name then (name, value) :: rest else (other, old) :: insertEntry name value rest

/-- Gives an attribute a value. One that is there already keeps its place. -/
def insert (record : Record) (name value : String) : Record :=
  ⟨insertEntry name value record.entries⟩

def insertAll (record : Record) (pairs : List (String × String)) : Record :=
  pairs.foldl (fun record pair => record.insert pair.1 pair.2) record

def erase (record : Record) (name : String) : Record :=
  ⟨record.entries.filter fun entry => entry.1 != name⟩

def ofPairs (pairs : List (String × String)) : Record := empty.insertAll pairs

def size (record : Record) : Nat := record.entries.length

def get? (record : Record) (name : String) : Option String := record.entries.lookup name

def names (record : Record) : List String := record.entries.map (·.1)

def attributes (record : Record) : Attributes := ⟨record.get?, record.names⟩

end Record

end AttrExpr
