import AttrExpr.Evaluation.Error
import AttrExpr.Record.Basic

/-! What an evaluation sees and what it leaves behind. -/
set_option autoImplicit false

namespace AttrExpr

/-- A candidate of a quantifier: an attribute to look up, or a value. -/
inductive Candidate where
  | attribute (name : String)
  | value (text : String)
  deriving DecidableEq, Repr

/-- A candidate and those that are still to come. -/
structure Cursor where
  current : Candidate
  following : List Candidate
  deriving DecidableEq, Repr

namespace Cursor

def start? : List Candidate → Option Cursor
  | [] => none
  | candidate :: rest => some ⟨candidate, rest⟩

def remaining (cursor : Cursor) : Nat := cursor.following.length

def advanced? (cursor : Cursor) : Option Cursor := start? cursor.following

end Cursor

/-- What stays the same in an evaluation. -/
structure Environment where
  attributes : Attributes
  formats : Formats
  clock : Instant

/-- What an evaluation changes: the cursors of the slots that are bound, how many bodies were
evaluated, and the names that were looked up, the latest first. -/
structure State where
  cursors : List (Nat × Cursor)
  iterations : Nat
  reads : List String
  deriving DecidableEq, Repr

namespace State

def fresh : State := ⟨[], 0, []⟩

def cursor? (state : State) (slot : Nat) : Option Cursor := state.cursors.lookup slot

/-- The number of candidates still to come for a slot. -/
def remaining (state : State) (slot : Nat) : Nat :=
  match state.cursor? slot with
  | some cursor => cursor.remaining
  | none => 0

def release (state : State) (slot : Nat) : State :=
  { state with cursors := state.cursors.filter fun entry => entry.1 != slot }

def bind (state : State) (slot : Nat) (cursor : Cursor) : State :=
  { state with cursors := (slot, cursor) :: (state.release slot).cursors }

end State

/-- Evaluations read the environment, change the state and may fail; a failure keeps the state. -/
abbrev Eval (α : Type) : Type := ReaderT Environment (ExceptT EvalError (StateM State)) α

namespace Eval

def fail {α : Type} (cause : EvalCause) (token : String) : Eval α := throw ⟨cause, token⟩

def internal {α : Type} (fault : InternalFault) (token : String) : Eval α :=
  fail (.internal fault) token

/-- A result, or a failure that a token is to blame for. -/
def ofExcept {α : Type} (token : String) : Except EvalCause α → Eval α
  | .ok a => pure a
  | .error cause => fail cause token

/-- The value of an attribute, which is unset when it is missing. -/
def lookup (name : String) : Eval Value := do
  modify fun state => { state with reads := name :: state.reads }
  match (← read).attributes.lookup name with
  | some text => pure (.string text)
  | none => pure .unset

def coerce (token : String) (target : Kind) (value : Value) : Eval Value := do
  ofExcept token ((value.coerce (← read).formats target).mapError .coercion)

/-- Turns a value into a kind when there is one. -/
def coerceTo (token : String) : Option Kind → Value → Eval Value
  | none, value => pure value
  | some target, value => coerce token target value

/-- The value of the variable of a slot. -/
def variableOf (token : String) (slot : Nat) : Eval Value := do
  match (← get).cursor? slot with
  | some cursor =>
    match cursor.current with
    | .attribute name => lookup name
    | .value text => pure (.string text)
  | none => internal (.unboundVariable slot) token

end Eval

end AttrExpr
