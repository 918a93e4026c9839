import AttrExpr.Template.Lexeme

/-! Reading templates and expressions. Each next character decides what is read, so nothing is tried
twice and the first fault is final. The readers of calls and arguments take the reader of nested
expressions as a parameter; the knot is tied on the number of characters left. -/
set_option autoImplicit false

namespace AttrExpr

/-- Reads something from the front of what is left. -/
abbrev Read (α : Type) : Type := Rest → Except SourceError (α × Rest)

/-- Reads the closing brace of an embedded expression that was opened at `opening`. -/
def readClosing (opening : Rest) (s : Rest) : Except SourceError Rest :=
  let s := s.skipBlanks
  if s.chars.isEmpty then opening.fail .unterminatedExpression
  else
    match s.after? '\x7d' with
    | some rest => .ok rest
    | none => s.fail .expectedClosing

/-- Reads an embedded expression when there is one. -/
def readEmbedded? (expression : Read Expression) (s : Rest) :
    Option (Except SourceError (Expression × Rest)) :=
  match s.afterOpening? with
  | none => none
  | some inner => some do
    let (expr, rest) ← expression inner.skipBlanks
    let rest ← readClosing s rest
    pure (expr, rest)

/-- Reads a literal when there is one. -/
def readLiteral? (s : Rest) : Option (Except SourceError (Literal × Rest)) :=
  match readQuoted? s with
  | some quoted => some (quoted.map fun (text, rest) => (.string (.ofList text), rest))
  | none =>
    match readNumberLiteral? s with
    | some number => some (number.map fun (n, rest) => (.number n, rest))
    | none => (readBoolean? s).map fun (b, rest) => .ok (.boolean b, rest)

def readArgument (expression : Read Expression) : Read Argument := fun s =>
  if s.chars.isEmpty then s.fail .endBeforeArgument
  else
    match readEmbedded? expression s with
    | some embedded => embedded.map fun (expr, rest) => (.expression expr (s.upTo rest), rest)
    | none =>
      match readLiteral? s with
      | some literal => literal.map fun (value, rest) => (.literal value (s.upTo rest), rest)
      | none => s.fail .expectedArgument

/-- Reads what follows an argument: further arguments, each after a comma, up to the closing
parenthesis. -/
def readArgumentsFrom (expression : Read Expression) : Nat → Read (List Argument)
  | 0, s => s.skipBlanks.fail .endInArguments
  | fuel + 1, s =>
    let s := s.skipBlanks
    match s.after? ',' with
    | some next => do
      let (arg, rest) ← readArgument expression next.skipBlanks
      let (args, rest) ← readArgumentsFrom expression fuel rest
      pure (arg :: args, rest)
    | none =>
      if s.chars.isEmpty then s.fail .endInArguments
      else
        match s.after? ')' with
        | some rest => .ok ([], rest)
        | none => s.fail .expectedSeparator

/-- Reads arguments between parentheses. -/
def readArguments (expression : Read Expression) : Read (List Argument) := fun s =>
  match s.after? '(' with
  | none => s.fail .expectedParenthesis
  | some inner =>
    let inner := inner.skipBlanks
    match inner.after? ')' with
    | some rest => .ok ([], rest)
    | none => do
      let (arg, rest) ← readArgument expression inner
      let (args, rest) ← readArgumentsFrom expression rest.chars.length rest
      pure (arg :: args, rest)

def readCall (expression : Read Expression) : Read Call := fun s =>
  let (name, rest) := s.takeWhile isWordChar
  if name.isEmpty then s.fail .expectedFunctionName
  else if rest.chars.head?.any isNameChar then rest.fail (.invalidFunctionName (.ofList name))
  else do
    let (args, last) ← readArguments expression rest.skipBlanks
    pure (.mk (.ofList name) (s.upTo rest) args (s.upTo last), last)

/-- Reads the calls of a chain, each after a colon. -/
def readChain (expression : Read Expression) : Nat → Read (List Call)
  | 0, s => .ok ([], s)
  | fuel + 1, s =>
    match s.skipBlanks.after? ':' with
    | none => .ok ([], s)
    | some next => do
      let (call, rest) ← readCall expression next.skipBlanks
      let (calls, rest) ← readChain expression fuel rest
      pure (call :: calls, rest)

/-- Reads a subject: an attribute name, quoted or not, or a call when a parenthesis follows. -/
def readSubject (expression : Read Expression) : Read Subject := fun s =>
  match readQuoted? s with
  | some quoted => quoted.map fun (name, rest) => (.attribute (.ofList name) (s.upTo rest), rest)
  | none =>
    let (name, rest) := s.takeWhile isNameChar
    if name.isEmpty then s.fail .expectedSubject
    else
      match rest.skipBlanks.after? '(' with
      | some _ => (readCall expression s).map fun (inner, rest) => (.call inner, rest)
      | none => .ok (.attribute (.ofList name) (s.upTo rest), rest)

/-- Reads an expression that starts at once. `fuel` is at least the number of characters left, so it
runs out only where nothing is left. -/
def readExpression : Nat → Read Expression
  | 0, s => s.fail .expectedSubject
  | fuel + 1, s => do
    let (subject, rest) ← readSubject (readExpression fuel) s
    let (chain, rest) ← readChain (readExpression fuel) rest.chars.length rest
    pure (.mk subject chain, rest)

/-- A piece of text in front of segments. Text that meets text makes one segment. -/
def consText (text : List Char) (span : Span) : List Segment → List Segment
  | .text more span' :: segments => .text (text ++ more) (span.merge span') :: segments
  | segments => .text text span :: segments

/-- Reads segments to the end. A dollar sign stands for itself unless a brace follows; two stand for
one. -/
def readSegments : Nat → Rest → Except SourceError (List Segment)
  | 0, _ => .ok []
  | fuel + 1, s =>
    match s.chars with
    | [] => .ok []
    | '$' :: '$' :: cs => do
      let rest := s.past ['$', '$'] cs
      pure (consText ['$'] (s.upTo rest) (← readSegments fuel rest))
    | '$' :: cs =>
      match readEmbedded? (readExpression cs.length) s with
      | some embedded => do
        let (expr, rest) ← embedded
        pure (.expression expr (s.upTo rest) :: (← readSegments fuel rest))
      | none => do
        let rest := s.past ['$'] cs
        pure (consText ['$'] (s.upTo rest) (← readSegments fuel rest))
    | _ => do
      let (text, rest) := s.takeWhile (· != '$')
      pure (consText text (s.upTo rest) (← readSegments fuel rest))

/-- Reads a whole source as a template. -/
def Template.read (source : List Char) : Except SourceError Template :=
  (readSegments source.length ⟨0, source⟩).map .mk

/-- Reads a whole source as one expression, with blanks around it. -/
def Expression.read (source : List Char) : Except SourceError Expression := do
  let (expr, rest) ← readExpression (source.length + 1) (Rest.mk 0 source).skipBlanks
  let rest := rest.skipBlanks
  if rest.chars.isEmpty then pure expr else rest.fail .expectedEnd

end AttrExpr
