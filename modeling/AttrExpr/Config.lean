import AttrExpr.Formats

/-! Settings as users write them, and the formats that they describe. -/
set_option autoImplicit false

namespace AttrExpr

structure Config where
  dateFormat : String
  instantFormat : Option String
  defaultOffset : String
  deriving DecidableEq, Repr

/-- Why settings describe no formats. -/
inductive ConfigError where
  | invalidPattern (pattern : String)
  | invalidOffset (offset : String)
  deriving DecidableEq, Repr

def ConfigError.message : ConfigError → String
  | .invalidPattern pattern => s!"invalid date/time pattern '{pattern}'"
  | .invalidOffset offset => s!"invalid offset '{offset}', expected e.g. +02:00"

namespace Config

def standard : Config := ⟨"%Y-%m-%d", none, "+00:00"⟩

/-- The standard settings with those that named variables override. An empty variable stands for no
pattern for instants. -/
def ofVariables (lookup : String → Option String) : Config :=
  { dateFormat := (lookup "AEL_DATE_FORMAT").getD standard.dateFormat
    instantFormat := (lookup "AEL_INSTANT_FORMAT").filter fun text => !text.isEmpty
    defaultOffset := (lookup "AEL_DEFAULT_OFFSET").getD standard.defaultOffset }

def pattern (text : String) : Except ConfigError Pattern :=
  if (Pattern.mk text).isValid then .ok ⟨text⟩ else .error (.invalidPattern text)

def instantPattern : Option String → Except ConfigError (Option Pattern)
  | none => .ok none
  | some text => (pattern text).map some

def offset (text : String) : Except ConfigError Offset :=
  match Offset.ofText? text.toList with
  | some offset => .ok offset
  | none => .error (.invalidOffset text)

/-- The formats that settings describe. Patterns are looked at before the offset. -/
def formats (config : Config) : Except ConfigError Formats := do
  let date ← pattern config.dateFormat
  let instant ← instantPattern config.instantFormat
  let offset ← offset config.defaultOffset
  pure ⟨date, instant, offset⟩

end Config

end AttrExpr
