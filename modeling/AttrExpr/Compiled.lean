import AttrExpr.Compilation.Lowering
import AttrExpr.Compilation.Report
import AttrExpr.Evaluation.Node
import AttrExpr.Template.Reader

/-! Compiling sources and evaluating what comes out. -/
set_option autoImplicit false

namespace AttrExpr

/-- A compiled source: its tree, the formats it was compiled for, the number of slots and the
attributes that it refers to. -/
structure Compiled where
  source : String
  root : Node
  formats : Formats
  slots : Nat
  referenced : List String

/-- Formats, and the names of the attributes that may be referred to when they are declared. -/
structure Compiler where
  formats : Formats
  declared : Option (List String)

namespace Compiler

def standard : Compiler := ⟨.standard, none⟩

def ofConfig (config : Config) : Except CompileError Compiler :=
  (config.formats.mapError .configuration).map fun formats => ⟨formats, none⟩

def declare (compiler : Compiler) (names : List String) : Compiler :=
  { compiler with declared := some names }

def compile (compiler : Compiler) (source : String) : Except CompileError Compiled := do
  let cs := source.toList
  let template ← (Template.read cs).mapError fun error => .source error (error.location cs)
  let (root, progress) ← (template.lower.run ⟨cs, compiler.declared⟩).run ⟨0, []⟩
  pure ⟨source, root, compiler.formats, progress.slots, progress.referenced⟩

end Compiler

/-- Whether a source compiles with the standard settings. -/
def isValid (source : String) : Bool := (Compiler.standard.compile source).isOk

namespace Compiled

def kind (compiled : Compiled) : Kind := compiled.root.kind

/-- Whether a result can be read as a truth value. -/
def isValidForBoolean (compiled : Compiled) : Bool :=
  compiled.kind == .boolean || compiled.kind == .string

/-- The value of a compiled source; unset becomes the empty text. -/
def eval (compiled : Compiled) : Eval Value := do
  let value ← compiled.root.eval
  let count := compiled.root.pending (← get).remaining
  if count ≠ 0 then Eval.internal (.pendingAtRoot count) compiled.source
  else
    match value with
    | .unset => pure (.string "")
    | value => pure value

def environment (compiled : Compiled) (attributes : Attributes) (clock : Instant) : Environment :=
  ⟨attributes, compiled.formats, clock⟩

/-- Evaluates in a fresh state. The state afterwards tells what was read and counted. -/
def run (compiled : Compiled) (attributes : Attributes) (clock : Instant) :
    Except EvalError Value × State :=
  compiled.eval (compiled.environment attributes clock) .fresh

def evaluate (compiled : Compiled) (attributes : Attributes) (clock : Instant) :
    Except EvalError Value :=
  (compiled.run attributes clock).1

/-- The result as a truth value. -/
def evaluateBoolean (compiled : Compiled) (attributes : Attributes) (clock : Instant) :
    Except EvalError Bool :=
  if !compiled.isValidForBoolean then
    .error ⟨.notReadAsBoolean compiled.kind, compiled.source⟩
  else do
    let value ← compiled.evaluate attributes clock
    let value ← (value.coerce compiled.formats .boolean).mapError fun error =>
      ⟨.coercion error, compiled.source⟩
    match value.boolean? with
    | some b => pure b
    | none => .error ⟨.internal (.notBooleanResult value), compiled.source⟩

/-- The text of the result. -/
def evaluateString (compiled : Compiled) (attributes : Attributes) (clock : Instant) :
    Except EvalError String :=
  (compiled.evaluate attributes clock).map Value.text

end Compiled

end AttrExpr
