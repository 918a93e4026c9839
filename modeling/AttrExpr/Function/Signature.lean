import AttrExpr.Function.Basic

/-! What functions take and give: the kinds of subject, arguments and result. -/
set_option autoImplicit false

namespace AttrExpr

/-- What a subject or an argument may be. -/
inductive Expectation where
  | any
  | kind (kind : Kind)
  | oneOf (kinds : List Kind)
  deriving DecidableEq, Repr

namespace Expectation

/-- The kind that a value of some kind is turned into: nothing at all when it is refused, and no
kind when it stays as it is. -/
def resolve? (expected : Expectation) (actual : Kind) : Option (Option Kind) :=
  match expected with
  | .any => some none
  | .kind target => if actual.canBecome target then some (some target) else none
  | .oneOf targets =>
    if targets.contains actual then some (some actual)
    else (targets.find? actual.canBecome).map some

def text : Expectation → String
  | .any => "any type"
  | .kind k => k.name
  | .oneOf kinds => " or ".intercalate (kinds.map Kind.name)

end Expectation

/-- The last `optional` parameters may be left out; the last of a variadic function may be repeated.
Without a result kind the result is of the kind of the first argument. -/
structure Signature where
  subject : Option Expectation
  params : List Expectation
  optional : Nat
  variadic : Bool
  returns : Option Kind
  deriving DecidableEq, Repr

namespace Signature

def minArgs (signature : Signature) : Nat := signature.params.length - signature.optional

def maxArgs? (signature : Signature) : Option Nat :=
  if signature.variadic then none else some signature.params.length

def accepts (signature : Signature) (count : Nat) : Bool :=
  signature.minArgs ≤ count && signature.maxArgs?.all (count ≤ ·)

def arityText (signature : Signature) : String :=
  match signature.maxArgs? with
  | none => s!"at least {signature.minArgs}"
  | some most =>
    if most = signature.minArgs then toString most else s!"{signature.minArgs} to {most}"

/-- What an argument may be, by its place. Past the last parameter the last one counts. -/
def param (signature : Signature) (index : Nat) : Expectation :=
  (signature.params[index]?.or signature.params.getLast?).getD .any

end Signature

namespace Function

/-- A signature in which every argument counts. -/
def exactly (subject : Option Expectation) (params : List Expectation) (returns : Kind) :
    Signature :=
  ⟨subject, params, 0, false, some returns⟩

/-- A signature whose last argument may be left out. -/
def withOptional (subject : Option Expectation) (params : List Expectation) (returns : Kind) :
    Signature :=
  ⟨subject, params, 1, false, some returns⟩

/-- A signature whose last argument may be repeated. -/
def withMany (subject : Option Expectation) (params : List Expectation) (returns : Kind) :
    Signature :=
  ⟨subject, params, 0, true, some returns⟩

def signature : Function → Signature
  | .literal => ⟨none, [.any], 0, false, none⟩
  | .now => exactly none [] .instant
  | .anyAttribute | .allAttributes | .anyMatchingAttribute | .allMatchingAttributes =>
    withMany none [.kind .string] .boolean
  | .anyDelineatedValue | .allDelineatedValues =>
    exactly none [.kind .string, .kind .string] .boolean
  | .toUpper | .toLower | .trim => exactly (some (.kind .string)) [] .string
  | .length => exactly (some (.kind .string)) [] .whole
  | .substring => withOptional (some (.kind .string)) [.kind .whole, .kind .whole] .string
  | .substringBefore | .substringBeforeLast | .substringAfter | .substringAfterLast | .prepend
  | .append => exactly (some (.kind .string)) [.kind .string] .string
  | .replace | .replaceFirst | .replaceAll =>
    exactly (some (.kind .string)) [.kind .string, .kind .string] .string
  | .padLeft | .padRight =>
    withOptional (some (.kind .string)) [.kind .whole, .kind .string] .string
  | .indexOf | .lastIndexOf => exactly (some (.kind .string)) [.kind .string] .whole
  | .startsWith | .endsWith | .contains | .matchesWhole | .find | .equalsIgnoreCase =>
    exactly (some (.kind .string)) [.kind .string] .boolean
  | .isIn => withMany (some (.kind .string)) [.kind .string] .boolean
  | .isNull | .notNull | .isEmpty => exactly (some .any) [] .boolean
  | .replaceNull | .replaceEmpty => exactly (some .any) [.kind .string] .string
  | .equals => exactly (some .any) [.any] .boolean
  | .plus | .minus | .multiply | .divide | .modulo =>
    exactly (some (.kind .number)) [.kind .number] .number
  | .gt | .ge | .lt | .le => exactly (some (.kind .number)) [.kind .number] .boolean
  | .toNumber | .toDecimal | .abs => exactly (some (.kind .number)) [] .number
  | .and | .or => exactly (some (.kind .boolean)) [.kind .boolean] .boolean
  | .not => exactly (some (.kind .boolean)) [] .boolean
  | .ifElse => exactly (some (.kind .boolean)) [.kind .string, .kind .string] .string
  | .toDate => withOptional (some (.kind .string)) [.kind .string] .date
  | .toInstant => withOptional (some (.kind .string)) [.kind .string] .instant
  | .format => exactly (some (.oneOf [.instant, .date])) [.kind .string] .string
  | .join => exactly (some .any) [.kind .string] .string
  | .count => exactly (some .any) [] .whole

end Function

end AttrExpr
