/-! The options of the commands: their names, and which of them take a text. -/
set_option autoImplicit false

namespace AttrExpr.Command

inductive Switch where
  | color
  | dateFormat
  | instantFormat
  | offset
  | attribute
  | record
  | boolean
  | declared
  | json
  | help
  | version
  deriving DecidableEq, Repr

namespace Switch

def name : Switch → String
  | .color => "color"
  | .dateFormat => "date-format"
  | .instantFormat => "instant-format"
  | .offset => "offset"
  | .attribute => "attr"
  | .record => "record"
  | .boolean => "boolean"
  | .declared => "declared"
  | .json => "json"
  | .help => "help"
  | .version => "version"

def letter? : Switch → Option Char
  | .attribute => some 'a'
  | .record => some 'r'
  | .boolean => some 'b'
  | .declared => some 'd'
  | .help => some 'h'
  | .version => some 'V'
  | _ => none

def takesText : Switch → Bool
  | .boolean | .json | .help | .version => false
  | _ => true

/-- Whether an option may be given more than once. -/
def repeats : Switch → Bool
  | .attribute | .declared => true
  | _ => false

end Switch

/-- What a run of options belongs to: the program as a whole, or one of its commands. -/
inductive Level where
  | program
  | eval
  | check
  | functions
  deriving DecidableEq, Repr

namespace Level

/-- The options of a level. Those of the settings may be given anywhere. -/
def switches (level : Level) : List Switch :=
  [.color, .dateFormat, .instantFormat, .offset, .help] ++
    match level with
    | .program => [.version]
    | .eval => [.attribute, .record, .boolean, .json]
    | .check => [.declared, .json]
    | .functions => []

/-- Whether a command is about a source text. -/
def hasSource : Level → Bool
  | .eval | .check => true
  | .program | .functions => false

def ofName? : String → Option Level
  | "eval" => some .eval
  | "check" => some .check
  | "functions" => some .functions
  | _ => none

def switchNamed? (level : Level) (name : String) : Option Switch :=
  level.switches.find? fun switch => switch.name == name

def switchLettered? (level : Level) (letter : Char) : Option Switch :=
  level.switches.find? fun switch => switch.letter? == some letter

end Level

end AttrExpr.Command
