import AttrExpr.Kind

/-! The functions of the language, by name. -/
set_option autoImplicit false

namespace AttrExpr

inductive Function where
  | literal
  | now
  | anyAttribute
  | allAttributes
  | anyMatchingAttribute
  | allMatchingAttributes
  | anyDelineatedValue
  | allDelineatedValues
  | toUpper
  | toLower
  | trim
  | length
  | substring
  | substringBefore
  | substringBeforeLast
  | substringAfter
  | substringAfterLast
  | prepend
  | append
  | replace
  | replaceFirst
  | replaceAll
  | padLeft
  | padRight
  | indexOf
  | lastIndexOf
  | startsWith
  | endsWith
  | contains
  | matchesWhole
  | find
  | isIn
  | equalsIgnoreCase
  | isNull
  | notNull
  | isEmpty
  | replaceNull
  | replaceEmpty
  | equals
  | plus
  | minus
  | multiply
  | divide
  | modulo
  | gt
  | ge
  | lt
  | le
  | toNumber
  | toDecimal
  | abs
  | and
  | or
  | not
  | ifElse
  | toDate
  | toInstant
  | format
  | join
  | count
  deriving DecidableEq, Repr

namespace Function

/-- All functions in the order in which they are listed. -/
def all : List Function :=
  [.literal, .now, .anyAttribute, .allAttributes, .anyMatchingAttribute, .allMatchingAttributes,
    .anyDelineatedValue, .allDelineatedValues, .toUpper, .toLower, .trim, .length, .substring,
    .substringBefore, .substringBeforeLast, .substringAfter, .substringAfterLast, .prepend,
    .append, .replace, .replaceFirst, .replaceAll, .padLeft, .padRight, .indexOf, .lastIndexOf,
    .startsWith, .endsWith, .contains, .matchesWhole, .find, .isIn, .equalsIgnoreCase, .isNull,
    .notNull, .isEmpty, .replaceNull, .replaceEmpty, .equals, .plus, .minus, .multiply, .divide,
    .modulo, .gt, .ge, .lt, .le, .toNumber, .toDecimal, .abs, .and, .or, .not, .ifElse, .toDate,
    .toInstant, .format, .join, .count]

def name : Function → String
  | .literal => "literal"
  | .now => "now"
  | .anyAttribute => "anyAttribute"
  | .allAttributes => "allAttributes"
  | .anyMatchingAttribute => "anyMatchingAttribute"
  | .allMatchingAttributes => "allMatchingAttributes"
  | .anyDelineatedValue => "anyDelineatedValue"
  | .allDelineatedValues => "allDelineatedValues"
  | .toUpper => "toUpper"
  | .toLower => "toLower"
  | .trim => "trim"
  | .length => "length"
  | .substring => "substring"
  | .substringBefore => "substringBefore"
  | .substringBeforeLast => "substringBeforeLast"
  | .substringAfter => "substringAfter"
  | .substringAfterLast => "substringAfterLast"
  | .prepend => "prepend"
  | .append => "append"
  | .replace => "replace"
  | .replaceFirst => "replaceFirst"
  | .replaceAll => "replaceAll"
  | .padLeft => "padLeft"
  | .padRight => "padRight"
  | .indexOf => "indexOf"
  | .lastIndexOf => "lastIndexOf"
  | .startsWith => "startsWith"
  | .endsWith => "endsWith"
  | .contains => "contains"
  | .matchesWhole => "matches"
  | .find => "find"
  | .isIn => "in"
  | .equalsIgnoreCase => "equalsIgnoreCase"
  | .isNull => "isNull"
  | .notNull => "notNull"
  | .isEmpty => "isEmpty"
  | .replaceNull => "replaceNull"
  | .replaceEmpty => "replaceEmpty"
  | .equals => "equals"
  | .plus => "plus"
  | .minus => "minus"
  | .multiply => "multiply"
  | .divide => "divide"
  | .modulo => "mod"
  | .gt => "gt"
  | .ge => "ge"
  | .lt => "lt"
  | .le => "le"
  | .toNumber => "toNumber"
  | .toDecimal => "toDecimal"
  | .abs => "abs"
  | .and => "and"
  | .or => "or"
  | .not => "not"
  | .ifElse => "ifElse"
  | .toDate => "toDate"
  | .toInstant => "toInstant"
  | .format => "format"
  | .join => "join"
  | .count => "count"

def ofName? (name : String) : Option Function := all.find? fun function => function.name == name

/-- The functions that only shrink the values of a multi-attribute subject to one. -/
def isReducer : Function → Bool
  | .join | .count => true
  | _ => false

/-- Whether the first argument is a regular expression, and if so whether it has to match all. -/
def patternWhole? : Function → Option Bool
  | .matchesWhole => some true
  | .find | .replaceFirst | .replaceAll => some false
  | _ => none

end Function

/-- Where the candidates of a multi-attribute subject come from. -/
inductive CandidateKind where
  | named
  | matching
  | delineated
  deriving DecidableEq, Repr

/-- The candidates of a multi-attribute subject, and whether all of them have to hold. -/
def Function.quantifier? : Function → Option (CandidateKind × Bool)
  | .anyAttribute => some (.named, false)
  | .allAttributes => some (.named, true)
  | .anyMatchingAttribute => some (.matching, false)
  | .allMatchingAttributes => some (.matching, true)
  | .anyDelineatedValue => some (.delineated, false)
  | .allDelineatedValues => some (.delineated, true)
  | _ => none

end AttrExpr
