/-! The kinds of values, and which kinds can be turned into which. -/
set_option autoImplicit false

namespace AttrExpr

/-- What a node of an expression produces. Whole numbers are numbers without a fraction. -/
inductive Kind where
  | string
  | boolean
  | whole
  | number
  | date
  | instant
  deriving DecidableEq, Repr

namespace Kind

def all : List Kind := [.string, .boolean, .whole, .number, .date, .instant]

def name : Kind → String
  | .string => "STRING"
  | .boolean => "BOOLEAN"
  | .whole => "WHOLE_NUMBER"
  | .number => "NUMBER"
  | .date => "DATE"
  | .instant => "INSTANT"

/-- Whether values of a kind may be turned into a target kind. Text may be turned into anything:
whether it can is seen when it is evaluated. -/
def canBecome : Kind → Kind → Bool
  | .string, _ | _, .string => true
  | .whole, .whole | .whole, .number | .number, .whole | .number, .number => true
  | .boolean, .boolean | .date, .date | .instant, .instant => true
  | _, _ => false

end Kind

end AttrExpr
