import AttrExpr.Evaluation.Call
import AttrExpr.Regex.Replacement
import AttrExpr.Unicode.Case

/-! Functions on text. Lengths and positions count characters. -/
set_option autoImplicit false

namespace AttrExpr

def wholeValue (n : Int) : Value := .number (.whole (Int64.ofInt n))

/-- A bound that lies within a length. -/
def boundWithin? (length : Nat) (n : Int64) : Option Nat :=
  if 0 ≤ n.toInt ∧ n.toInt ≤ length then some n.toInt.toNat else none

/-- The characters from `start` up to `stop`, or to the end. -/
def substring (cs : List Char) (start : Int64) (stop : Option Int64) :
    Except EvalCause (List Char) :=
  match boundWithin? cs.length start with
  | none => .error (.substringStart start cs.length)
  | some first =>
    match stop with
    | none => .ok (cs.drop first)
    | some stop =>
      match boundWithin? cs.length stop with
      | some last =>
        if first ≤ last then .ok ((cs.drop first).take (last - first))
        else .error (.substringEnd stop start cs.length)
      | none => .error (.substringEnd stop start cs.length)

/-- The first `n` characters of a text that is repeated for ever; the text is not empty. -/
def cycle (pad : List Char) : Nat → List Char → List Char
  | 0, _ => []
  | n + 1, c :: cs => c :: cycle pad n cs
  | n + 1, [] =>
    match pad with
    | c :: cs => c :: cycle pad n cs
    | [] => []

/-- What is added to a text to fill a width. -/
def padding (cs : List Char) (width : Int64) (pad : List Char) : Except EvalCause (List Char) :=
  if width.toInt < 0 then .error (.negativeWidth width)
  else .ok (cycle pad (width.toInt.toNat - cs.length) pad)

/-- The part before an occurrence, or the whole text when there is none. -/
def beforeOr (cs : List Char) : Option (List Char × List Char) → List Char
  | some (before, _) => before
  | none => cs

/-- The part after an occurrence, or the whole text when there is none. -/
def afterOr (cs : List Char) : Option (List Char × List Char) → List Char
  | some (_, after) => after
  | none => cs

/-- The position of an occurrence, or minus one. -/
def positionOf : Option (List Char × List Char) → Value
  | some (before, _) => wholeValue before.length
  | none => wholeValue (-1)

def startsWith (cs needle : List Char) : Bool := (Text.after? needle cs).isSome

def endsWith (cs needle : List Char) : Bool := startsWith cs.reverse needle.reverse

/-- Replaces every occurrence of a text; nothing is replaced when that is empty. -/
def replaceText (cs search replacement : List Char) : List Char :=
  if search.isEmpty then cs else Text.replaceAll search replacement cs

namespace ActiveCall

def textValue (cs : List Char) : Value := .string (.ofList cs)

/-- Cuts the subject at an occurrence of the first argument. -/
def cut (call : ActiveCall) (cs : List Char)
    (find : List Char → List Char → Option (List Char × List Char)) :
    Eval (Option (List Char × List Char)) := do
  pure (find (← call.textArg 0).toList cs)

/-- What fills the subject up to the width that is the first argument. -/
def fill (call : ActiveCall) (cs : List Char) : Eval (List Char) := do
  let width ← call.wholeArg 0
  let pad ← call.optionalTextArg 1
  let pad := match pad with
    | some pad => if pad.isEmpty then [' '] else pad.toList
    | none => [' ']
  Eval.ofExcept call.token (padding cs width pad)

def texts (call : ActiveCall) : Nat → Nat → Eval (List String)
  | 0, _ => pure []
  | count + 1, index => do
    let text ← call.textArg index
    pure (text :: (← call.texts count (index + 1)))

/-- The value of a function on text whose subject has been evaluated. -/
def onText (call : ActiveCall) (subject : String) : Eval Value := do
  let cs := subject.toList
  match call.function with
  | .toUpper => pure (.string (Unicode.toUpper subject))
  | .toLower => pure (.string (Unicode.toLower subject))
  | .trim => pure (textValue (Unicode.trim cs))
  | .length => pure (wholeValue cs.length)
  | .substring => do
    let start ← call.wholeArg 0
    let stop ← if 1 < call.args.length then some <$> call.wholeArg 1 else pure none
    pure (textValue (← Eval.ofExcept call.token (AttrExpr.substring cs start stop)))
  | .substringBefore => do pure (textValue (beforeOr cs (← call.cut cs Text.cutFirst?)))
  | .substringBeforeLast => do pure (textValue (beforeOr cs (← call.cut cs Text.cutLast?)))
  | .substringAfter => do pure (textValue (afterOr cs (← call.cut cs Text.cutFirst?)))
  | .substringAfterLast => do pure (textValue (afterOr cs (← call.cut cs Text.cutLast?)))
  | .prepend => do pure (.string ((← call.textArg 0) ++ subject))
  | .append => do pure (.string (subject ++ (← call.textArg 0)))
  | .replace => do
    let search ← call.textArg 0
    let replacement ← call.textArg 1
    pure (textValue (replaceText cs search.toList replacement.toList))
  | .replaceFirst => do
    let regex ← call.patternValue
    let replacement ← call.textArg 1
    pure (textValue (regex.replaceFirst replacement.toList cs))
  | .replaceAll => do
    let regex ← call.patternValue
    let replacement ← call.textArg 1
    pure (textValue (regex.replaceAll replacement.toList cs))
  | .padLeft => do pure (textValue ((← call.fill cs) ++ cs))
  | .padRight => do pure (textValue (cs ++ (← call.fill cs)))
  | .indexOf => do pure (positionOf (← call.cut cs Text.cutFirst?))
  | .lastIndexOf => do pure (positionOf (← call.cut cs Text.cutLast?))
  | .startsWith => do pure (.boolean (AttrExpr.startsWith cs (← call.textArg 0).toList))
  | .endsWith => do pure (.boolean (AttrExpr.endsWith cs (← call.textArg 0).toList))
  | .contains => do pure (.boolean (← call.cut cs Text.cutFirst?).isSome)
  | .matchesWhole | .find => do pure (.boolean ((← call.patternValue).isMatch cs))
  | _ => do pure (.boolean ((← call.texts call.args.length 0).contains subject))

end ActiveCall

end AttrExpr
