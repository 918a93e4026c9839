import AttrExpr.Regex.Basic
import AttrExpr.Text.Search
import AttrExpr.Unicode.Case
import AttrExpr.Unicode.Query

/-! The parts that regular expressions are read from: flags, what is left to read, escapes and the
sets that they stand for. -/
set_option autoImplicit false

namespace AttrExpr.Regex

/-- Why a text is no regular expression. -/
inductive PatternError where
  | unclosedGroup
  | unopenedGroup
  | missingOperand
  | invalidRepetition
  | invalidEscape
  | backreference
  | lookaround
  | invalidClass
  | unknownProperty
  | invalidFlags
  | invalidGroupName
  | notCharacters
  | nestedTooDeep
  | tooLarge
  deriving DecidableEq, Repr

def PatternError.message : PatternError → String
  | .unclosedGroup => "unclosed group"
  | .unopenedGroup => "unopened group"
  | .missingOperand => "repetition operator missing expression"
  | .invalidRepetition => "invalid repetition range"
  | .invalidEscape => "invalid escape sequence"
  | .backreference => "backreferences are not supported"
  | .lookaround => "look-around is not supported"
  | .invalidClass => "invalid character class"
  | .unknownProperty => "unknown Unicode property"
  | .invalidFlags => "invalid flags"
  | .invalidGroupName => "invalid group name"
  | .notCharacters => "pattern can match bytes that are no characters"
  | .nestedTooDeep => "expression is nested too deeply"
  | .tooLarge => "expression is too large"

structure Flags where
  ignoreCase : Bool
  multiLine : Bool
  dotAll : Bool
  swapGreed : Bool
  unicode : Bool
  returns : Bool
  verbose : Bool
  deriving DecidableEq, Repr

def Flags.initial : Flags := ⟨false, false, false, false, true, false, false⟩

/-- Sets the flag that a letter names. -/
def Flags.set? (flags : Flags) (letter : Char) (value : Bool) : Option Flags :=
  match letter with
  | 'i' => some { flags with ignoreCase := value }
  | 'm' => some { flags with multiLine := value }
  | 's' => some { flags with dotAll := value }
  | 'U' => some { flags with swapGreed := value }
  | 'u' => some { flags with unicode := value }
  | 'R' => some { flags with returns := value }
  | 'x' => some { flags with verbose := value }
  | _ => none

/-- What is left to read, the flags in force, and the groups opened so far. -/
structure Scan where
  rest : List Char
  flags : Flags
  groups : Nat
  names : List (String × Nat)

/-- Passes over blanks, and over comments up to the end of their line. -/
def skipVerbose : Bool → List Char → List Char
  | _, [] => []
  | true, c :: cs => skipVerbose (c != '\n') cs
  | false, c :: cs =>
    if Unicode.isWhiteSpace c then skipVerbose false cs
    else if c = '#' then skipVerbose true cs
    else c :: cs

namespace Scan

def start (text : List Char) : Scan := ⟨text, .initial, 0, []⟩

/-- Passes over blanks and comments where they do not count. -/
def space (s : Scan) : Scan :=
  if s.flags.verbose then { s with rest := skipVerbose false s.rest } else s

/-- The next character and what follows it. -/
def next? (s : Scan) : Option (Char × Scan) :=
  match s.rest with
  | [] => none
  | c :: cs => some (c, { s with rest := cs })

/-- What follows a given text. -/
def after? (needle : List Char) (s : Scan) : Option Scan :=
  (Text.after? needle s.rest).map fun rest => { s with rest := rest }

end Scan

/-- What an escape stands for. A character written as two hexadecimal digits may be a byte. -/
inductive Atom where
  | literal (c : Char) (isByte : Bool)
  | set (set : Unicode.CharSet)
  | look (look : Look)

def isMeta (c : Char) : Bool := "\\.+*?()|[]\x7b\x7d^$#&-~".toList.contains c

/-- Characters that may follow a backslash to stand for themselves. -/
def isEscapable (c : Char) : Bool :=
  isMeta c || (c.toNat < 128 && !c.isAlphanum && c != '<' && c != '>')

/-- The character of a number of hexadecimal digits. -/
def charOfHex? (digits : List Char) : Option Char :=
  let n := (Unicode.readHex digits).1
  if n.isValidChar then some (Char.ofNat n) else none

/-- Exactly `count` hexadecimal digits, which blanks may divide where they do not count. -/
def readHexDigits : Nat → Scan → Except PatternError (List Char × Scan)
  | 0, s => .ok ([], s)
  | count + 1, s =>
    match s.next? with
    | some (c, rest) =>
      if (Unicode.hexDigit? c).isSome then do
        let (digits, rest) ← readHexDigits count rest.space
        pure (c :: digits, rest)
      else .error .invalidEscape
    | none => .error .invalidEscape

/-- Characters up to a closing brace, which is passed over. -/
def readBraced (error : PatternError) : Nat → Scan → Except PatternError (List Char × Scan)
  | 0, _ => .error error
  | fuel + 1, s =>
    match s.space.next? with
    | none => .error error
    | some ('\x7d', rest) => .ok ([], rest)
    | some (c, rest) => do
      let (cs, rest) ← readBraced error fuel rest
      pure (c :: cs, rest)

/-- The character that hexadecimal digits stand for: some number of them, or any between braces. -/
def readHexEscape (count : Nat) (s : Scan) : Except PatternError (Atom × Scan) :=
  match s.space.next? with
  | some ('\x7b', inner) => do
    let (digits, rest) ← readBraced .invalidEscape inner.rest.length inner
    if digits.isEmpty || !digits.all fun c => (Unicode.hexDigit? c).isSome then
      .error .invalidEscape
    else
      match charOfHex? digits with
      | some c => pure (.literal c false, rest.space)
      | none => .error .invalidEscape
  | _ => do
    let (digits, rest) ← readHexDigits count s.space
    match charOfHex? digits with
    | some c => pure (.literal c (count == 2), rest)
    | none => .error .invalidEscape

/-- The set in ASCII or beyond with its case ignored if the flags say so, and then what is not in it
if it is negated. Without Unicode what is not in a set would be bytes. -/
def foldAndNegate (flags : Flags) (negated : Bool) (set : Unicode.CharSet) :
    Except PatternError Unicode.CharSet :=
  let folded :=
    if !flags.ignoreCase then set
    else if flags.unicode then set.foldClosure
    else
      let upper := set.inter (.range 0x41 0x5A)
      let lower := set.inter (.range 0x61 0x7A)
      (set.union ⟨upper.ranges.map fun (a, b) => (a + 32, b + 32)⟩).union
        ⟨lower.ranges.map fun (a, b) => (a - 32, b - 32)⟩
  if !negated then .ok folded
  else if flags.unicode then .ok folded.complement
  else .error .notCharacters

def asciiDigit : Unicode.CharSet := .range 0x30 0x39

def asciiSpace : Unicode.CharSet := ⟨[(0x09, 0x0D), (0x20, 0x20)]⟩

/-- The set of digits, blanks or word characters. -/
def perlSet (unicode : Bool) : Char → Unicode.CharSet
  | 'd' => if unicode then Unicode.Category.decimalNumber.chars else asciiDigit
  | 's' => if unicode then Unicode.whiteSpace else asciiSpace
  | _ => if unicode then Unicode.wordChars else asciiWord

/-- A set named by a letter, or by the capital of that letter what is not in it. -/
def readPerl (letter : Char) (s : Scan) : Except PatternError (Atom × Scan) :=
  let set := perlSet s.flags.unicode letter.toLower
  if !letter.isUpper then .ok (.set set, s)
  else if s.flags.unicode then .ok (.set set.complement, s)
  else .error .notCharacters

/-- The set that a property stands for, and whether its negation is meant: a bare name, or a name
and a value with a sign between them. -/
def propertySet? (name : List Char) : Option (Bool × Unicode.CharSet) :=
  match Text.cutFirst? ['!', '='] name with
  | some (property, value) =>
    (Unicode.valued? (.ofList property) (.ofList value)).map ((true, ·))
  | none =>
    (match (Text.cutFirst? [':'] name).or (Text.cutFirst? ['='] name) with
    | some (property, value) => Unicode.valued? (.ofList property) (.ofList value)
    | none => Unicode.named? (.ofList name)).map ((false, ·))

/-- The name of a property: one letter, or a text between braces. -/
def readPropertyName (s : Scan) : Except PatternError (List Char × Scan) :=
  match s.space.next? with
  | none => .error .invalidEscape
  | some ('\x7b', inner) => readBraced .invalidEscape inner.rest.length inner
  | some ('\\', _) => .error .unknownProperty
  | some (c, rest) => .ok ([c], rest.space)

/-- The set of the characters that have a property, or of those that do not. -/
def readProperty (negated : Bool) (s : Scan) : Except PatternError (Atom × Scan) := do
  let (name, rest) ← readPropertyName s
  if !s.flags.unicode then .error .notCharacters
  else
    match propertySet? name with
    | none => .error .unknownProperty
    | some (isNegation, set) => do
      let set ← foldAndNegate s.flags (negated != isNegation) set
      pure (.set set, rest)

/-- Letters and hyphens, which blanks may divide where they do not count. -/
def readBoundaryName : Nat → Scan → List Char × Scan
  | 0, s => ([], s)
  | fuel + 1, s =>
    match s.next? with
    | some (c, rest) =>
      if c.isAlpha || c == '-' then
        let (cs, rest) := readBoundaryName fuel rest.space
        (c :: cs, rest)
      else ([], s)
    | none => ([], s)

/-- A boundary, which a name between braces may make more special. Braces that hold something else
belong to a repetition. -/
def readBoundary (s : Scan) : Except PatternError (Atom × Scan) :=
  let unicode := s.flags.unicode
  match s.next? with
  | some ('\x7b', inner) =>
    let inner := inner.space
    match inner.rest with
    | [] => .error .invalidEscape
    | c :: _ =>
      if !(c.isAlpha || c == '-') then .ok (.look (.wordBoundary unicode), s)
      else
        let (name, rest) := readBoundaryName inner.rest.length inner
        match rest.next?, String.ofList name with
        | some ('\x7d', rest), "start" => .ok (.look (.wordStart unicode), rest)
        | some ('\x7d', rest), "end" => .ok (.look (.wordEnd unicode), rest)
        | some ('\x7d', rest), "start-half" => .ok (.look (.wordStartHalf unicode), rest)
        | some ('\x7d', rest), "end-half" => .ok (.look (.wordEndHalf unicode), rest)
        | _, _ => .error .invalidEscape
  | _ => .ok (.look (.wordBoundary unicode), s)

/-- Reads what follows a backslash. -/
def readEscape (s : Scan) : Except PatternError (Atom × Scan) :=
  match s.next? with
  | none => .error .invalidEscape
  | some (c, rest) =>
    let unicode := s.flags.unicode
    if c.isDigit then .error .backreference
    else
      match c with
      | 'x' => readHexEscape 2 rest
      | 'u' => readHexEscape 4 rest
      | 'U' => readHexEscape 8 rest
      | 'p' => readProperty false rest
      | 'P' => readProperty true rest
      | 'd' | 's' | 'w' | 'D' | 'S' | 'W' => readPerl c rest
      | 'a' => .ok (.literal '\x07' false, rest)
      | 'f' => .ok (.literal '\x0c' false, rest)
      | 't' => .ok (.literal '\t' false, rest)
      | 'n' => .ok (.literal '\n' false, rest)
      | 'r' => .ok (.literal '\r' false, rest)
      | 'v' => .ok (.literal '\x0b' false, rest)
      | 'A' => .ok (.look .textStart, rest)
      | 'z' => .ok (.look .textEnd, rest)
      | 'b' => readBoundary rest
      | 'B' => .ok (.look (.noWordBoundary unicode), rest)
      | '<' => .ok (.look (.wordStart unicode), rest)
      | '>' => .ok (.look (.wordEnd unicode), rest)
      | _ => if isEscapable c then .ok (.literal c false, rest) else .error .invalidEscape

/-- The set of one character, with its case ignored if the flags say so. Without Unicode a byte that
is no character on its own is refused. -/
def literalSet (flags : Flags) (c : Char) (isByte : Bool) : Except PatternError Unicode.CharSet :=
  if !flags.unicode && isByte && 128 ≤ c.toNat then .error .notCharacters
  else if flags.unicode || c.toNat < 128 then foldAndNegate flags false (.single c)
  else .ok (.single c)

end AttrExpr.Regex
