import AttrExpr.Command.Basic
import AttrExpr.Compiled
import AttrExpr.Function.Listing
import AttrExpr.Json.Reader

/-! What commands write. -/
set_option autoImplicit false

namespace AttrExpr.Command

/-- What a run of the program leaves behind: its exit code and what it wrote. -/
structure Outcome where
  exitCode : Nat
  output : String
  errors : String
  deriving DecidableEq, Repr

/-- What a run sees of the world: variables, files, the time, and how a regular expression is said
to be wrong. -/
structure World where
  lookup : String → Option String
  file : String → Except String String
  clock : Instant
  detail : Regex.PatternError → String

/-- Why a command fails. -/
inductive Failure where
  | unreadableRecord (path reason : String)
  | malformedRecord (path : String)
  | attributeWithoutValue (text : String)
  | attributeWithoutName (text : String)
  | reported (report : Report)

namespace Failure

/-- A report with the place in the source, or else with the token that is to blame. -/
def reportText (report : Report) (source : String) (colored : Bool) : String :=
  report.diagnostic.render source.toList colored ++
    match report.location, report.token with
    | none, some token =>
      if token.isEmpty then "" else "\n   = in: " ++ Style.token.paint colored token
    | _, _ => ""

def text (source : String) (colored : Bool) : Failure → String
  | .reported report => reportText report source colored
  | .unreadableRecord path reason => plain s!"Failed to read record file: {path}: {reason}"
  | .malformedRecord path => plain s!"{path} is not a JSON object of string values"
  | .attributeWithoutValue text => plain s!"invalid attribute '{text}', expected name=value"
  | .attributeWithoutName text => plain s!"invalid attribute '{text}', the name is empty"
where
  plain (message : String) : String := Style.heading.paint colored "Error:" ++ " " ++ message

end Failure

/-- The settings that the variables and the options describe. -/
def config (lookup : String → Option String) (settings : Settings) : Config :=
  let config := Config.ofVariables lookup
  { dateFormat := settings.dateFormat.getD config.dateFormat
    instantFormat := settings.instantFormat.or config.instantFormat
    defaultOffset := settings.offset.getD config.defaultOffset }

/-- Reads an attribute such as `name=value`. The value may hold the sign as well. -/
def readAttribute (text : String) : Except Failure (String × String) :=
  match Text.cutFirst? ['='] text.toList with
  | none => .error (.attributeWithoutValue text)
  | some ([], _) => .error (.attributeWithoutName text)
  | some (name, value) => .ok (.ofList name, .ofList value)

/-- The attributes of a record file. -/
def loadRecord (world : World) (path : String) : Except Failure Record := do
  let text ← (world.file path).mapError (.unreadableRecord path)
  match Json.textMembers? text with
  | some members => pure (.ofPairs members)
  | none => .error (.malformedRecord path)

def startRecord (world : World) : Option String → Except Failure Record
  | some path => loadRecord world path
  | none => .ok .empty

def compiled (world : World) (settings : Settings) (declared : List String) (source : String) :
    Except Failure Compiled :=
  let compiled := do
    let compiler ← Compiler.ofConfig (config world.lookup settings)
    (if declared.isEmpty then compiler else compiler.declare declared).compile source
  compiled.mapError fun error => .reported (error.report world.detail)

def evaluated {α : Type} (world : World) (result : Except EvalError α) : Except Failure α :=
  result.mapError fun error => .reported (error.report world.detail)

def boolText (b : Bool) : String := if b then "true" else "false"

def runEval (world : World) (settings : Settings) (source : String) (attributes : List String)
    (recordPath : Option String) (boolean json : Bool) : Except Failure String := do
  let record ← startRecord world recordPath
  let record := record.insertAll (← attributes.mapM readAttribute)
  let compiled ← compiled world settings [] source
  if boolean then
    pure (boolText (← evaluated world (compiled.evaluateBoolean record.attributes world.clock)))
  else
    let value ← evaluated world (compiled.evaluate record.attributes world.clock)
    if json then
      pure ((Json.object [("type", .string compiled.kind.name), ("value", value.json)]).pretty "")
    else pure value.text

/-- A line of a report: a label that ends in the twelfth column, and what it is about. -/
def fieldLine (colored : Bool) (label text : String) : String :=
  Style.label.paint colored ("".pushn ' ' (12 - label.length) ++ label) ++ " " ++ text

def checkReport (colored : Bool) (compiled : Compiled) : String :=
  let names := compiled.referenced
  "\n".intercalate
    [fieldLine colored "type" compiled.kind.name,
      fieldLine colored "boolean" (boolText compiled.isValidForBoolean),
      fieldLine colored "attributes" (if names.isEmpty then "(none)" else ", ".intercalate names)]

def checkJson (compiled : Compiled) : Json :=
  .object [("attributes", .array (compiled.referenced.map .string)),
    ("boolean", .boolean compiled.isValidForBoolean), ("type", .string compiled.kind.name)]

def runCheck (world : World) (settings : Settings) (source : String) (declared : List String)
    (json : Bool) : Except Failure String := do
  let compiled ← compiled world settings declared source
  pure (if json then (checkJson compiled).pretty "" else checkReport settings.colored compiled)

/-- All functions, a line for each, with their names in a column of their own. -/
def functionList (colored : Bool) : String :=
  "\n".intercalate (Function.all.map fun function =>
    Style.token.paint colored (function.name.pushn ' ' (24 - function.name.length)) ++ " " ++
      function.usage)

def run (world : World) (settings : Settings) : Command → Except Failure String
  | .eval source attributes recordPath boolean json =>
    runEval world settings source attributes recordPath boolean json
  | .check source declared json => runCheck world settings source declared json
  | .functions => .ok (functionList settings.colored)

def versionText : String := "ael 0.1.0"

def helpText : String :=
"Attribute Expression Language tools

Usage: ael [OPTIONS] <COMMAND>

Commands:
  eval <EXPRESSION>        Evaluate an expression against attributes
    -a, --attr <ATTRIBUTE>   An attribute as name=value, any number of times
    -r, --record <FILE>      A JSON object of attributes to start from
    -b, --boolean            Read the result as a boolean
        --json               Print the result as JSON
  check <EXPRESSION>       Compile an expression and report its type
    -d, --declared <NAME>    Restrict references to these names, any number of times
        --json               Print the report as JSON
  functions                List the built-in functions
  help                     Print this message

Options:
      --color <COLOR>             Color output (auto, always, never)
      --date-format <PATTERN>     Date pattern for toDate() (overrides AEL_DATE_FORMAT)
      --instant-format <PATTERN>  Instant pattern for toInstant() (overrides AEL_INSTANT_FORMAT)
      --offset <OFFSET>           Offset for instants without a zone (overrides AEL_DEFAULT_OFFSET)
  -h, --help                      Print this message
  -V, --version                   Print the version"

def stopOutcome : Stop → Outcome
  | .help => ⟨0, helpText ++ "\n", ""⟩
  | .version => ⟨0, versionText ++ "\n", ""⟩
  | .fault error => ⟨2, "", s!"error: {error.message}\n\nFor more information, try '--help'.\n"⟩

/-- Runs the program with a command line. -/
def outcome (world : World) (args : List String) : Outcome :=
  match Invocation.ofArguments args with
  | .error stop => stopOutcome stop
  | .ok ⟨settings, command⟩ =>
    match run world settings command with
    | .ok text => ⟨0, text ++ "\n", ""⟩
    | .error failure => ⟨1, "", failure.text (command.source?.getD "") settings.colored ++ "\n"⟩

end AttrExpr.Command
