import AttrExpr.Config
import AttrExpr.Function.Basic
import AttrExpr.Regex.Scan
import AttrExpr.Template.Fault

/-! Why a source does not compile, and where. -/
set_option autoImplicit false

namespace AttrExpr

/-- What is wrong about a multi-attribute expression. -/
inductive QuantifierFault where
  | reducerFirst (reducer : Function)
  | reducerAfterValue (reducer : Function)
  | reducesAny (reducer source : Function)
  | noPredicate (source : Function)
  | predicateKind (source : Function) (found : Kind)
  | argumentNotLiteral (source : Function)
  deriving DecidableEq, Repr

def QuantifierFault.message : QuantifierFault → String
  | .reducerFirst reducer =>
    s!"'{reducer.name}' must follow allAttributes, allMatchingAttributes or allDelineatedValues"
  | .reducerAfterValue reducer => s!"'{reducer.name}' can only reduce a multi-attribute subject"
  | .reducesAny reducer source =>
    s!"'{reducer.name}' cannot reduce '{source.name}'; use an all* subject"
  | .noPredicate source =>
    s!"'{source.name}' needs a boolean predicate such as :equals(...) " ++
      "or a reducer such as :join(...)"
  | .predicateKind source found =>
    s!"the predicate applied by '{source.name}' must be BOOLEAN, found {found.name}"
  | .argumentNotLiteral source => s!"arguments of '{source.name}' must be string literals"

/-- What does not compile. -/
inductive CompileCause where
  | typeMismatch (expected : String) (found : Kind)
  | unknownFunction (name : String)
  | arityMismatch (function : Function) (expected : String) (found : Nat)
  | missingSubject (function : Function)
  | unexpectedSubject (function : Function)
  | invalidQuantifier (fault : QuantifierFault)
  | invalidPattern (pattern : String) (error : Regex.PatternError)
  | undeclaredAttribute (name : String)
  deriving DecidableEq, Repr

/-- A token and its place in the source. -/
structure Site where
  token : String
  location : Location
  deriving DecidableEq, Repr

namespace Site

def ofSpan (source : List Char) (span : Span) : Site := ⟨span.token source, .ofSpan span source⟩

def text (site : Site) : String := s!"'{site.token}' at {site.location.text}"

end Site

namespace CompileCause

def code : CompileCause → Code
  | .typeMismatch _ _ => .typeMismatch
  | .unknownFunction _ => .unknownFunction
  | .arityMismatch _ _ _ => .argumentCount
  | .missingSubject _ => .missingSubject
  | .unexpectedSubject _ => .unexpectedSubject
  | .invalidQuantifier _ => .invalidQuantifier
  | .invalidPattern _ _ => .invalidPattern
  | .undeclaredAttribute _ => .undeclaredAttribute

def message (detail : Regex.PatternError → String) (site : Site) : CompileCause → String
  | .typeMismatch expected found =>
    s!"Type mismatch: {site.text} is {found.name}, expected {expected}"
  | .unknownFunction name => s!"Unknown function '{name}' at {site.location.text}"
  | .arityMismatch function expected found =>
    s!"Function '{function.name}' expects {expected} argument(s), found {found} in {site.text}"
  | .missingSubject function =>
    s!"Function '{function.name}' must be applied to a subject, e.g. $\x7battr:{function.name}" ++
      s!"(...)\x7d ({site.text})"
  | .unexpectedSubject function =>
    s!"Function '{function.name}' cannot follow a subject ({site.text})"
  | .invalidQuantifier fault =>
    s!"Invalid multi-attribute expression {site.text}: {fault.message}"
  | .invalidPattern pattern error =>
    s!"Invalid regular expression '{pattern}' in {site.text}: {detail error}"
  | .undeclaredAttribute name => s!"Attribute '{name}' is not declared ({site.location.text})"

end CompileCause

inductive CompileError where
  | located (cause : CompileCause) (site : Site)
  | configuration (error : ConfigError)
  | source (error : SourceError) (location : Location)
  deriving DecidableEq, Repr

namespace CompileError

def code : CompileError → Code
  | .located cause _ => cause.code
  | .configuration _ => .configuration
  | .source error _ => error.code

def site? : CompileError → Option Site
  | .located _ site => some site
  | _ => none

def message (detail : Regex.PatternError → String) : CompileError → String
  | .located cause site => cause.message detail site
  | .configuration error => s!"Invalid engine configuration: {error.message}"
  | .source error _ => s!"{error.code.text}: {error.message}"

end CompileError

end AttrExpr
