import AttrExpr.Proofs.Congruence

/-! Trees of one form, in which tokens, spans and slots may differ. They evaluate alike under every
relation of evaluations that sequences of steps and loops keep. -/
set_option autoImplicit false

namespace AttrExpr

/-- A relation of evaluations that loops keep as well. What stands in a slot for the first
evaluation stands in the slot that it is mapped to for the second. -/
structure Eval.LoopCongruence (T : String → String → Prop)
    (R : ∀ {α : Type}, Eval α → Eval α → Prop) (slots : Nat → Nat) : Prop
    extends Eval.Congruence T @R where
  lookup : ∀ name, R (Eval.lookup name) (Eval.lookup name)
  variableOf : ∀ {token token' : String} (slot : Nat), T token token' →
    R (Eval.variableOf token slot) (Eval.variableOf token' (slots slot))
  matching : ∀ patterns, R (CandidateSource.candidates (.matching patterns))
    (CandidateSource.candidates (.matching patterns))
  loop : ∀ {token token' : String} {body body' : Eval Value}
    {pending pending' : (Nat → Nat) → Nat} (slot : Nat), T token token' → R body body' →
    (∀ remaining, pending' remaining = pending fun slot => remaining (slots slot)) →
    ∀ (cursor : Cursor) (fuel : Nat) (acc : Accumulator),
      R (do
        modify fun state : State => state.bind slot cursor
        Eval.releasing slot (Eval.drive token slot body pending fuel acc))
        (do
          modify fun state : State => state.bind (slots slot) cursor
          Eval.releasing (slots slot) (Eval.drive token' (slots slot) body' pending' fuel acc))

/-- Trees of one form, with nothing known of what they evaluate to. -/
theorem Eval.LoopCongruence.trivial (slots : Nat → Nat) :
    LoopCongruence (fun _ _ => True) (fun _ _ => True) slots where
  pure _ := .intro
  fail _ _ _ _ := .intro
  bind _ _ := .intro
  settings _ _ _ := .intro
  lookup _ := .intro
  variableOf _ _ := .intro
  matching _ := .intro
  loop _ _ _ _ _ _ _ := .intro

/-- Origins of one kind with related tokens. -/
structure Origin.Alike (T : String → String → Prop) (origin other : Origin) : Prop where
  kind : other.kind = origin.kind
  token : T origin.token other.token

/-- Trees that say the same, with related tokens and evaluations. -/
structure Node.Alike (T : String → String → Prop) (R : Eval Value → Eval Value → Prop)
    (slots : Nat → Nat) (node other : Node) : Prop where
  origin : node.origin.Alike T other.origin
  eval : R node.eval other.eval
  pending : ∀ remaining, other.pending remaining = node.pending fun slot => remaining (slots slot)

namespace Node

variable {T : String → String → Prop} {R : ∀ {α : Type}, Eval α → Eval α → Prop}
  {slots : Nat → Nat} {origin other : Origin}

namespace Alike

theorem kind {node other : Node} (h : node.Alike T R slots other) : other.kind = node.kind :=
  h.origin.kind

theorem evalSource {source source' : CandidateSource Node}
    (h : source.Rel (Alike T R slots) source') :
    (Node.evalSource source).Rel R (Node.evalSource source') := by
  cases h with
  | named names => exact .named names
  | matching patterns => exact .matching patterns
  | delineated hvalue hdelimiter => exact .delineated hvalue.eval hdelimiter.eval

theorem evalFold {fold fold' : Fold Node} (h : fold.Rel (Alike T R slots) fold') :
    (Node.evalFold fold).Rel R (Node.evalFold fold') := by
  cases h with
  | join hseparator => exact .join hseparator.eval
  | any => exact .any
  | all => exact .all
  | count => exact .count

theorem operands {args args' : List Node} (h : List.Forall₂ (Alike T R slots) args args')
    (targets : List (Option Kind)) :
    List.Forall₂ (Operand.Alike T R) (Node.operands (evalArgs args) targets)
      (Node.operands (evalArgs args') targets) := by
  unfold Node.operands
  generalize 0 = index
  induction h generalizing index with
  | nil => exact .nil
  | cons harg _ ih =>
    rw [evalArgs, evalArgs, List.zipIdx_cons, List.zipIdx_cons, List.map_cons, List.map_cons]
    exact .cons ⟨harg.origin.token, rfl, harg.eval⟩ (ih (index + 1))

theorem pendingOfList_eq {nodes nodes' : List Node}
    (h : List.Forall₂ (Alike T R slots) nodes nodes') (remaining : Nat → Nat) :
    pendingOfList remaining nodes' = pendingOfList (fun slot => remaining (slots slot)) nodes := by
  induction h with
  | nil => rfl
  | cons hnode _ ih => rw [pendingOfList, pendingOfList, hnode.pending, ih]

theorem pending_call {subject subject' : Option Node} {args args' : List Node}
    (hsubject : Option.Rel (Alike T R slots) subject subject')
    (hargs : List.Forall₂ (Alike T R slots) args args') (function : Function) (target : Option Kind)
    (targets : List (Option Kind)) (pattern pattern' : Option Regex) (remaining : Nat → Nat) :
    (Node.call other function subject' target args' targets pattern').pending remaining =
      (Node.call origin function subject target args targets pattern).pending
        fun slot => remaining (slots slot) := by
  rw [Node.pending, Node.pending, pendingOfList_eq hargs]
  cases hsubject with
  | none => rfl
  | some h => rw [pendingOfOption, pendingOfOption, h.pending]

variable (congr : Eval.LoopCongruence T @R slots)
include congr

theorem evalText {parts parts' : List Node} (h : List.Forall₂ (Alike T R slots) parts parts') :
    R (Node.evalText parts) (Node.evalText parts') := by
  induction h with
  | nil => exact congr.pure ""
  | cons hpart _ ih =>
    rw [Node.evalText, Node.evalText]
    exact congr.bind hpart.eval fun value => congr.bind ih fun text => congr.pure _

theorem literal (horigin : origin.Alike T other) (value : Value) :
    Alike T R slots (.literal origin value) (.literal other value) :=
  ⟨horigin, congr.pure value, fun _ => rfl⟩

theorem «attribute» (horigin : origin.Alike T other) (name : String) :
    Alike T R slots (.attribute origin name) (.attribute other name) :=
  ⟨horigin, congr.lookup name, fun _ => rfl⟩

theorem loopVariable (horigin : origin.Alike T other) (slot : Nat) :
    Alike T R slots (.loopVariable origin slot) (.loopVariable other (slots slot)) := by
  refine ⟨horigin, ?_, fun _ => rfl⟩
  rw [Node.eval, Node.eval]
  exact congr.variableOf slot horigin.token

theorem call {subject subject' : Option Node} {args args' : List Node}
    (horigin : origin.Alike T other) (hsubject : Option.Rel (Alike T R slots) subject subject')
    (hargs : List.Forall₂ (Alike T R slots) args args') (function : Function) (target : Option Kind)
    (targets : List (Option Kind)) (pattern : Option Regex) :
    Alike T R slots (.call origin function subject target args targets pattern)
      (.call other function subject' target args' targets pattern) := by
  refine ⟨horigin, ?_, pending_call hsubject hargs function target targets pattern pattern⟩
  rw [Node.eval, Node.eval]
  refine ActiveCall.Alike.value congr.toCongruence
    ⟨rfl, horigin.token, ?_, operands hargs targets, rfl⟩
  cases hsubject with
  | none => exact .none
  | some h => exact .some ⟨h.origin.token, rfl, h.eval⟩

theorem quantifier {source source' : CandidateSource Node} {fold fold' : Fold Node}
    {body body' : Node} (horigin : origin.Alike T other) (slot : Nat)
    (hsource : source.Rel (Alike T R slots) source') (hfold : fold.Rel (Alike T R slots) fold')
    (hbody : Alike T R slots body body') :
    Alike T R slots (.quantifier origin slot source fold body)
      (.quantifier other (slots slot) source' fold' body') := by
  refine ⟨horigin, ?_, fun _ => rfl⟩
  rw [Node.eval, Node.eval]
  exact congr.quantify
    (congr.candidates (evalSource hsource) fun patterns _ => congr.matching patterns)
    (congr.accumulator (evalFold hfold))
    (congr.loop slot horigin.token hbody.eval hbody.pending)

end Alike

end Node

end AttrExpr
