import AttrExpr.Command.Arguments
import AttrExpr.Unicode.Case

/-! Commands with their settings, as command lines describe them. -/
set_option autoImplicit false

namespace AttrExpr

/-- What overrides the environment, and whether to write in colour. -/
structure Settings where
  colored : Bool
  dateFormat : Option String
  instantFormat : Option String
  offset : Option String
  deriving DecidableEq, Repr

inductive Command where
  | eval (source : String) (attributes : List String) (recordPath : Option String)
      (boolean json : Bool)
  | check (source : String) (declared : List String) (json : Bool)
  | functions
  deriving DecidableEq, Repr

structure Invocation where
  settings : Settings
  command : Command
  deriving DecidableEq, Repr

namespace Command

/-- The source text that a command is about. -/
def source? : Command → Option String
  | .eval source _ _ _ _ => some source
  | .check source _ _ => some source
  | .functions => none

/-- The file that a command starts from. -/
def recordPath? : Command → Option String
  | .eval _ _ recordPath _ _ => recordPath
  | _ => none

/-- The settings from the options before the name of a command and those behind it, which win. -/
def settings (outer inner : Found) : Settings :=
  let text? (switch : Switch) := (inner.text? switch).or (outer.text? switch)
  { colored := (text? .color).any fun mode => Unicode.toLower mode == "always"
    dateFormat := text? .dateFormat
    instantFormat := text? .instantFormat
    offset := text? .offset }

/-- The command of a level. -/
def ofFound (level : Level) (found : Found) : Except Stop Command :=
  match level, found.source with
  | .eval, some source =>
    .ok (.eval source (found.texts .attribute) (found.text? .record) (found.has .boolean)
      (found.has .json))
  | .check, some source => .ok (.check source (found.texts .declared) (found.has .json))
  | .functions, _ => .ok .functions
  | _, _ => .error (.fault .missingSource)

/-- Reads what follows a request for help: at most the name of a command. -/
def helpAbout : List String → Stop
  | [] => .help
  | [name] =>
    if name = "help" ∨ (Level.ofName? name).isSome then .help else .fault (.unknownCommand name)
  | _ :: name :: _ => .fault (.unknownCommand name)

end Command

open Command in
/-- Reads a command line without the name of the program. -/
def Invocation.ofArguments (args : List String) : Except Stop Invocation := do
  let (outer, rest) ← readArguments .program args.length .nothing args
  match rest with
  | [] => .error (.fault .missingCommand)
  | name :: rest =>
    if name = "help" then .error (helpAbout rest)
    else
      match Level.ofName? name with
      | none => .error (.fault (.unknownCommand name))
      | some level => do
        let (inner, _) ← readArguments level rest.length .nothing rest
        pure ⟨Command.settings outer inner, ← Command.ofFound level inner⟩

end AttrExpr
