import AttrExpr.Compilation.Error
import AttrExpr.Diagnostic.Basic
import AttrExpr.Evaluation.Error

/-! All errors in one form, as they are reported to users. -/
set_option autoImplicit false

namespace AttrExpr

/-- Where an error arose. -/
inductive Stage where
  | parse
  | compile
  | evaluation
  | system
  deriving DecidableEq, Repr

structure Report where
  stage : Stage
  code : Code
  message : String
  token : Option String
  location : Option Location
  deriving DecidableEq, Repr

namespace Report

def text (report : Report) : String := s!"{report.code.text}: {report.message}"

def diagnostic (report : Report) : Diagnostic :=
  { Diagnostic.ofMessage report.code report.message with
    token := report.token
    location := report.location }

end Report

def SourceError.report (source : List Char) (error : SourceError) : Report :=
  ⟨.parse, error.code, error.message, none, some (error.location source)⟩

def CompileError.report (detail : Regex.PatternError → String) : CompileError → Report
  | .located cause site =>
    ⟨.compile, cause.code, cause.message detail site, some site.token, some site.location⟩
  | .configuration error => ⟨.system, .configuration, error.message, none, none⟩
  | .source error location => ⟨.parse, error.code, error.message, none, some location⟩

/-- Broken invariants are reported without a token. -/
def EvalError.report (detail : Regex.PatternError → String) (error : EvalError) : Report :=
  if error.isInternal then ⟨.system, error.code, error.cause.wording detail, none, none⟩
  else ⟨.evaluation, error.code, error.message detail, some error.token, none⟩

end AttrExpr
