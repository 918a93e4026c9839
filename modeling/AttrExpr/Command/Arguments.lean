import AttrExpr.Command.Switch
import AttrExpr.Text.Search

/-! Reading command lines. Arguments are looked at from left to right, and the first that ends the
reading decides: a request for help, or a fault. -/
set_option autoImplicit false

namespace AttrExpr.Command

inductive UsageError where
  | unknownSwitch (text : String)
  | needlessText (switch : Switch) (text : String)
  | missingText (switch : Switch)
  | repeatedSwitch (switch : Switch)
  | emptyPath
  | needlessArgument (text : String)
  | unknownCommand (name : String)
  | missingCommand
  | missingSource
  deriving DecidableEq, Repr

def UsageError.message : UsageError → String
  | .unknownSwitch text => s!"unexpected option '{text}'"
  | .needlessText switch text => s!"option '--{switch.name}' takes no value, found '{text}'"
  | .missingText switch => s!"option '--{switch.name}' needs a value"
  | .repeatedSwitch switch => s!"option '--{switch.name}' cannot be given more than once"
  | .emptyPath => "the path of a record file is empty"
  | .needlessArgument text => s!"unexpected argument '{text}'"
  | .unknownCommand name => s!"unknown command '{name}'"
  | .missingCommand => "a command is missing"
  | .missingSource => "an expression is missing"

/-- What ends the reading of a command line before its end. -/
inductive Stop where
  | help
  | version
  | fault (error : UsageError)
  deriving DecidableEq, Repr

/-- The options found so far with their texts, and the argument that is no option. -/
structure Found where
  switches : List (Switch × String)
  source : Option String
  deriving DecidableEq, Repr

namespace Found

def nothing : Found := ⟨[], none⟩

def has (found : Found) (switch : Switch) : Bool :=
  found.switches.any fun entry => entry.1 == switch

/-- The texts of an option in the order in which they were given. -/
def texts (found : Found) (switch : Switch) : List String :=
  found.switches.filterMap fun entry => if entry.1 = switch then some entry.2 else none

def text? (found : Found) (switch : Switch) : Option String := (found.texts switch).head?

def add (found : Found) (switch : Switch) (text : String) : Except Stop Found :=
  if found.has switch && !switch.repeats then .error (.fault (.repeatedSwitch switch))
  else if switch = .record ∧ text.isEmpty then .error (.fault .emptyPath)
  else .ok { found with switches := found.switches ++ [(switch, text)] }

/-- Takes in an argument that is no option. Commands have room for one at most. -/
def addSource (level : Level) (found : Found) (text : String) : Except Stop Found :=
  if level.hasSource && found.source.isNone then .ok { found with source := some text }
  else .error (.fault (.needlessArgument text))

end Found

/-- What an argument is by its look. One that ends the options is empty behind its hyphens; a lone
hyphen is a text like any other. -/
inductive Argument where
  | endOfSwitches
  | long (name : List Char) (text : Option (List Char))
  | letters (letters : List Char)
  | text (text : String)
  deriving DecidableEq, Repr

def Argument.ofText (text : String) : Argument :=
  match text.toList with
  | ['-', '-'] => .endOfSwitches
  | '-' :: '-' :: cs =>
    match Text.cutFirst? ['='] cs with
    | some (name, text) => .long name (some text)
    | none => .long cs none
  | '-' :: c :: cs => .letters (c :: cs)
  | _ => .text text

/-- Takes in an option that has its text attached, or that finds it in the next argument. -/
def readSwitch (switch : Switch) (attached : Option String) (found : Found) (rest : List String) :
    Except Stop (Found × List String) :=
  if switch.takesText then
    match attached, rest with
    | some text, rest => do pure (← found.add switch text, rest)
    | none, [] => .error (.fault (.missingText switch))
    | none, next :: rest =>
      match Argument.ofText next with
      | .text text => do pure (← found.add switch text, rest)
      | _ => .error (.fault (.missingText switch))
  else
    match attached, switch with
    | some text, _ => .error (.fault (.needlessText switch text))
    | none, .help => .error .help
    | none, .version => .error .version
    | none, _ => do pure (← found.add switch "", rest)

/-- The text that is attached to a letter, if there is one. -/
def attachedText : List Char → Option String
  | [] => none
  | '=' :: cs => some (.ofList cs)
  | cs => some (.ofList cs)

/-- Options by their letters behind one hyphen. What follows one that takes a text is its text. -/
def readLetters (level : Level) (rest : List String) (found : Found) :
    List Char → Except Stop (Found × List String)
  | [] => .ok (found, rest)
  | c :: cs =>
    match level.switchLettered? c with
    | none => .error (.fault (.unknownSwitch (.ofList ['-', c])))
    | some switch =>
      if switch.takesText then readSwitch switch (attachedText cs) found rest
      else do
        let (found, _) ← readSwitch switch none found []
        readLetters level rest found cs

/-- Reads the options of the program up to the name of a command, or all arguments of a command.
Every step uses up an argument, so as much fuel as there are arguments is enough. -/
def readArguments (level : Level) : Nat → Found → List String → Except Stop (Found × List String)
  | 0, found, args => .ok (found, args)
  | _ + 1, found, [] => .ok (found, [])
  | fuel + 1, found, arg :: rest =>
    match Argument.ofText arg with
    | .long name text => do
      match level.switchNamed? (.ofList name) with
      | none => .error (.fault (.unknownSwitch arg))
      | some switch =>
        let (found, rest) ← readSwitch switch (text.map String.ofList) found rest
        readArguments level fuel found rest
    | .letters letters => do
      let (found, rest) ← readLetters level rest found letters
      readArguments level fuel found rest
    | .endOfSwitches =>
      if level = .program then .error (.fault .missingCommand)
      else do
        let found ← rest.foldlM (Found.addSource level) found
        pure (found, [])
    | .text text =>
      if level = .program then .ok (found, arg :: rest)
      else do
        let found ← found.addSource level text
        readArguments level fuel found rest

end AttrExpr.Command
