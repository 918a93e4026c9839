import AttrExpr.Evaluation.Logical
import AttrExpr.Evaluation.Nullity
import AttrExpr.Evaluation.Numeric
import AttrExpr.Evaluation.Temporal
import AttrExpr.Evaluation.Text

/-! The values of calls. -/
set_option autoImplicit false

namespace AttrExpr

/-- Families of functions that evaluate their subject alike. -/
inductive FunctionFamily where
  | literal
  | now
  | text
  | nullable
  | numeric
  | logical
  | temporal
  | lowered
  deriving DecidableEq, Repr

def Function.family : Function → FunctionFamily
  | .literal => .literal
  | .now => .now
  | .anyAttribute | .allAttributes | .anyMatchingAttribute | .allMatchingAttributes
  | .anyDelineatedValue | .allDelineatedValues | .join | .count => .lowered
  | .toUpper | .toLower | .trim | .length | .substring | .substringBefore | .substringBeforeLast
  | .substringAfter | .substringAfterLast | .prepend | .append | .replace | .replaceFirst
  | .replaceAll | .padLeft | .padRight | .indexOf | .lastIndexOf | .startsWith | .endsWith
  | .contains | .matchesWhole | .find | .isIn => .text
  | .isNull | .notNull | .isEmpty | .replaceNull | .replaceEmpty | .equals
  | .equalsIgnoreCase => .nullable
  | .plus | .minus | .multiply | .divide | .modulo | .gt | .ge | .lt | .le | .toNumber | .toDecimal
  | .abs => .numeric
  | .and | .or | .not | .ifElse => .logical
  | .toDate | .toInstant | .format => .temporal

/-- The value of a call. -/
def ActiveCall.value (call : ActiveCall) : Eval Value :=
  match call.function.family with
  | .literal => call.arg 0
  | .now => do pure (.instant (← read).clock)
  | .text => do call.onText (← call.subjectText)
  | .nullable => do call.onNullable (← call.rawSubject)
  | .numeric => do call.onNumber (← call.numberOf (← call.subjectValue))
  | .logical => do call.onBoolean (← call.booleanOf (← call.subjectValue))
  | .temporal =>
    match call.function with
    | .toDate => call.toDateValue
    | .toInstant => call.toInstantValue
    | _ => call.formatValue
  | .lowered => Eval.internal (.notLowered call.function) call.token

end AttrExpr
