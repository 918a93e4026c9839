import AttrExpr.Proofs.Finite

/-! Arithmetic on finite numbers: whatever a tree is evaluated in, no node gives a number that is
infinite or undefined, and what would be one on binary numbers is an error. -/
set_option autoImplicit false

namespace AttrExpr

open Eval (Always Ensures)

namespace Function

/-- The sign of an operation on two numbers and what it is on binary ones. -/
def binary? : Function → Option (String × (Binary64 → Binary64 → Binary64))
  | .plus => some ("+", .add)
  | .minus => some ("-", .sub)
  | .multiply => some ("*", .mul)
  | .divide => some ("/", .div)
  | .modulo => some ("%", .rem)
  | _ => none

/-- The orders of two numbers for which a comparison of them is true. -/
def orders? : Function → Option (List Ordering)
  | .gt => some [.gt]
  | .ge => some [.gt, .eq]
  | .lt => some [.lt]
  | .le => some [.lt, .eq]
  | _ => none

end Function

namespace Eval

variable {α β : Type} {env : Environment}

/-- An evaluation gives good values only, if any. -/
def Yields (env : Environment) (x : Eval α) (good : α → Prop) : Prop :=
  ∀ state a, (x env state).1 = .ok a → good a

namespace Yields

variable {good : α → Prop}

theorem pure {a : α} (h : good a) : Yields env (pure a) good := fun _ _ ha => by
  cases ha
  exact h

theorem fail (cause : EvalCause) (token : String) : Yields env (fail cause token) good :=
  fun _ _ ha => by cases ha

theorem bind {x : Eval β} {f : β → Eval α} {Q : β → Prop} (hx : Yields env x Q)
    (hf : ∀ b, Q b → Yields env (f b) good) : Yields env (x >>= f) good := by
  intro state a ha
  rw [bind_apply] at ha
  rcases hr : x env state with ⟨error | b, after⟩
  · rw [hr] at ha
    cases ha
  · rw [hr] at ha
    exact hf b (hx state b (by rw [hr])) after a ha

/-- Whatever the first step gives. -/
theorem after {x : Eval β} {f : β → Eval α} (hf : ∀ b, Yields env (f b) good) :
    Yields env (x >>= f) good :=
  bind (Q := fun _ => True) (fun _ _ _ => trivial) fun b _ => hf b

theorem read {f : Environment → Eval α} (h : Yields env (f env) good) :
    Yields env (read >>= f) good := fun state a ha => h state a ha

theorem mono {x : Eval α} {weaker : α → Prop} (h : Yields env x good)
    (hw : ∀ a, good a → weaker a) : Yields env x weaker :=
  fun state a ha => hw a (h state a ha)

theorem ofExcept {token : String} {result : Except EvalCause α}
    (h : ∀ a, result = .ok a → good a) : Yields env (ofExcept token result) good := by
  cases result with
  | ok a => exact pure (h a rfl)
  | error cause => exact fail cause token

end Yields

theorem Ensures.ok {start : State → Prop} {x : Eval α} {good : α → Prop}
    (h : Ensures env start x good) {state : State} (hs : start state) {a : α}
    (ha : (x env state).1 = .ok a) : good a := by
  have hgood := h state hs
  rwa [ha] at hgood

theorem Always.yields {x : Eval α} {good : α → Prop} (h : Always env x good) :
    Yields env x good := fun _ _ ha => Ensures.ok h trivial ha

theorem variableOf_finite (token : String) (slot : Nat) :
    Yields env (variableOf token slot) Value.Finite := by
  intro state value hv
  cases hc : state.cursor? slot with
  | none =>
    rw [variableOf, get_bind_apply, hc] at hv
    cases hv
  | some cursor =>
    have hbound : (state.cursor? slot).isSome := by rw [hc]; rfl
    exact ((variableOf_ensures token slot).ok hbound hv).finite (by decide)

end Eval

open Eval (Yields)

namespace Demand

variable {env : Environment} {demand : Demand}

theorem coerceTo_finite {formats : Formats} {value taken : Value} (hv : value.Finite)
    (h : value.coerceTo formats demand.target = .ok taken) : taken.Finite := by
  cases ht : demand.target with
  | none =>
    rw [ht] at h
    cases h
    exact hv
  | some target =>
    rw [ht, Value.coerceTo] at h
    cases hc : value.coerce formats target with
    | error error =>
      rw [hc] at h
      cases h
    | ok result =>
      rw [hc] at h
      cases h
      exact Value.coerce_finite hv hc

/-- What is taken of a finite value is finite. -/
theorem taken_finite (hnode : Yields env demand.node.eval Value.Finite) {state : State}
    {value : Value} (h : (demand.visit env state).taken env.formats = .ok value) :
    value.Finite := by
  rcases hr : demand.node.eval env state with ⟨error | raw, after⟩
  · rw [taken_visit_error hr] at h
    cases h
  · rw [taken_visit_ok hr] at h
    cases ht : demand.take env.formats raw with
    | error cause =>
      rw [ht] at h
      cases h
    | ok taken =>
      rw [ht] at h
      cases h
      unfold take at ht
      split at ht
      · cases ht
      · exact coerceTo_finite (hnode state _ (by rw [hr])) ht

theorem Performs.finite {x : Eval Value} (hx : demand.Performs env x)
    (hnode : Yields env demand.node.eval Value.Finite) : Yields env x Value.Finite := by
  intro state value hv
  rw [hx state] at hv
  exact taken_finite hnode hv

end Demand

namespace ActiveCall

variable {env : Environment} {call : ActiveCall} {subject : Option Demand} {args : List Demand}

theorem Returns.finite {value : Value} (h : call.Returns value)
    (hr : call.function.signature.returns ≠ some .number) : value.Finite := by
  obtain ⟨kind, hk, his⟩ := h
  refine his.finite ?_
  rintro rfl
  exact hr hk

theorem operation_finite {symbol : String}
    {compute : Number → Number → Except ArithmeticError Number}
    {binary : Binary64 → Binary64 → Binary64} (hcompute : Number.Guarded compute binary)
    (x : Number) : Yields env (call.operation symbol compute x) Value.Finite := by
  refine .after fun y => .bind (Q := fun n => n.isFinite = true) (.ofExcept fun n hn => ?_)
    fun n hn => .pure hn
  cases hc : compute x y with
  | error error =>
    rw [hc] at hn
    cases hn
  | ok result =>
    rw [hc] at hn
    cases hn
    exact hcompute.finite x y _ hc

theorem onNumber_finite {x : Number} (hx : x.isFinite = true) :
    Yields env (call.onNumber x) Value.Finite := by
  unfold onNumber
  split
  case h_1 => exact .pure hx
  case h_2 => exact .pure (Number.toBinary_isFinite hx)
  case h_3 => exact .pure (Number.abs_isFinite hx)
  case h_4 => exact operation_finite Number.plus_guarded x
  case h_5 => exact operation_finite Number.minus_guarded x
  case h_6 => exact operation_finite Number.times_guarded x
  case h_7 => exact operation_finite Number.divide_guarded x
  case h_8 => exact operation_finite Number.modulo_guarded x
  case h_9 | h_10 | h_11 | h_12 => exact .after fun y => .pure trivial

theorem numberOf_finite {value : Value} (hv : value.Finite) :
    Yields env (call.numberOf value) fun n => n.isFinite = true := by
  cases value with
  | number n => exact .pure hv
  | unset | string | boolean | date | instant => exact .fail _ _

theorem toDateValue_finite : Yields env call.toDateValue Value.Finite := by
  refine .after fun text => .after fun pattern => .read ?_
  dsimp only
  split
  · exact .pure trivial
  · exact .fail _ _

theorem toInstantValue_finite : Yields env call.toInstantValue Value.Finite := by
  refine .after fun text => .after fun pattern => .read ?_
  dsimp only
  split
  · exact .pure trivial
  · exact .fail _ _

theorem formatValue_finite : Yields env call.formatValue Value.Finite := by
  refine .after fun subject => .after fun pattern => ?_
  dsimp only
  split
  case h_1 | h_2 =>
    split
    · exact .pure trivial
    · exact .fail _ _
  case h_3 => exact .fail _ _

/-- A call of which all children give finite values gives finite values. -/
theorem On.value_finite (h : call.On subject args) {start : State → Prop}
    (wf : call.WellFormed env start) (hl : call.function.family ≠ .lowered)
    (hchildren : ∀ demand ∈ subject.toList ++ args, Yields env demand.node.eval Value.Finite) :
    Yields env call.value Value.Finite := by
  have returns (hf : call.function.family ≠ .numeric) (ha : call.function.family ≠ .literal) :
      call.function.signature.returns ≠ some .number := by
    cases hc : call.function <;> simp_all [Function.family, Function.signature, Function.exactly,
      Function.withOptional, Function.withMany]
  unfold ActiveCall.value
  cases hf : call.function.family with
  | literal =>
    cases ho : args[0]? with
    | none =>
      rw [ActiveCall.arg, h.operands, List.getElem?_map, ho]
      exact .pure trivial
    | some demand =>
      have hmem := List.mem_of_getElem? ho
      exact (h.arg ho).finite (hchildren demand (List.mem_append_right _ hmem))
  | now => exact .read (.pure trivial)
  | text =>
    exact .after fun text => (wf.onText hf text).yields.mono fun value hv =>
      hv.finite (returns (by rw [hf]; decide) (by rw [hf]; decide))
  | nullable =>
    exact .after fun value => (wf.onNullable hf value).yields.mono fun value hv =>
      hv.finite (returns (by rw [hf]; decide) (by rw [hf]; decide))
  | logical =>
    exact .after fun value => .after fun b => (wf.onBoolean hf b).yields.mono fun value hv =>
      hv.finite (returns (by rw [hf]; decide) (by rw [hf]; decide))
  | temporal =>
    dsimp only
    split
    · exact toDateValue_finite
    · exact toInstantValue_finite
    · exact formatValue_finite
  | numeric =>
    obtain ⟨hs, hrequired⟩ := Function.subject_of_numeric hf
    obtain ⟨demand, kind, rfl, hx, -⟩ := h.subjectValue env hs hrequired
    refine (hx.finite (hchildren demand (by simp))).bind fun value hv => ?_
    exact (numberOf_finite hv).bind fun x hx => onNumber_finite hx
  | lowered => exact absurd hf hl

end ActiveCall

namespace Node

/-- No node of a well-formed tree with finite literals gives a number that is not finite. -/
theorem WellFormed.finite {node : Node} (h : node.WellFormed) (hl : node.LiteralsFinite)
    (env : Environment) : Yields env node.eval Value.Finite := by
  induction node using induction with
  | step node ih =>
    have below (child : Node) (hc : child ∈ node.children) : Yields env child.eval Value.Finite :=
      ih child hc (h.child hc) (hl.child hc)
    have hself := h.self
    cases node with
    | literal origin value =>
      rw [eval]
      refine .pure ?_
      cases value with
      | number n => exact hl origin n (mem_all_self _)
      | unset | string | boolean | date | instant => trivial
    | «attribute» origin name =>
      rw [eval]
      exact (Eval.lookup_ensures name).yields.mono fun value hv => hv.finite (by decide)
    | loopVariable origin slot =>
      rw [eval]
      exact Eval.variableOf_finite origin.token slot
    | template origin parts =>
      rw [eval]
      exact .after fun text => .pure trivial
    | quantifier origin slot source fold body =>
      have hquantifier : QuantifierSound origin slot source fold body := hself
      have hkind : origin.kind ≠ .number := by
        have hgives := hquantifier.kind
        cases fold <;> simp only [Fold.Gives] at hgives <;> simp [hgives]
      exact ((h.evaluates.of_closed hquantifier.freeSlots_eq).yields.mono
        fun value hv => hv.finite hkind)
    | call origin function subject target args targets pattern =>
      have hcall : CallSound origin function subject target args targets := hself
      rw [eval]
      have wf := @CallSound.wellFormed env _ _ _ _ _ _ hcall
        (fun child hc => (h.child (by simpa [children] using .inl hc)).evaluates)
        (fun child hc => (h.child (by simp [children, hc])).evaluates) pattern
      refine (hcall.on pattern).value_finite wf hcall.evaluated fun demand hd => ?_
      exact below demand.node (mem_children_of_demand hd)

end Node

/-! What a call on two numbers gives. -/

namespace Function

theorem binary?_signature {function : Function} {symbol : String}
    {binary : Binary64 → Binary64 → Binary64} (h : function.binary? = some (symbol, binary)) :
    function.family = .numeric ∧
      function.signature = exactly (some (.kind .number)) [.kind .number] .number := by
  cases function <;> cases h <;> exact ⟨rfl, rfl⟩

theorem orders?_signature {function : Function} {orders : List Ordering}
    (h : function.orders? = some orders) :
    function.family = .numeric ∧
      function.signature = exactly (some (.kind .number)) [.kind .number] .boolean := by
  cases function <;> cases h <;> exact ⟨rfl, rfl⟩

end Function

namespace ActiveCall

variable {env : Environment} {call : ActiveCall} {state after : State} {x y : Number}

theorem onNumber_of_binary? {symbol : String} {binary : Binary64 → Binary64 → Binary64}
    (h : call.function.binary? = some (symbol, binary)) (x : Number) :
    ∃ compute, Number.Guarded compute binary ∧
      call.onNumber x = call.operation symbol compute x := by
  unfold onNumber
  cases hc : call.function <;> rw [hc] at h <;> cases h
  case plus => exact ⟨_, Number.plus_guarded, rfl⟩
  case minus => exact ⟨_, Number.minus_guarded, rfl⟩
  case multiply => exact ⟨_, Number.times_guarded, rfl⟩
  case divide => exact ⟨_, Number.divide_guarded, rfl⟩
  case modulo => exact ⟨_, Number.modulo_guarded, rfl⟩

theorem onNumber_of_orders? {orders : List Ordering} (h : call.function.orders? = some orders)
    (x : Number) : call.onNumber x = call.comparison orders x := by
  unfold onNumber
  cases hc : call.function <;> rw [hc] at h <;> cases h <;> rfl

theorem numberArg_apply (hy : call.arg 0 env state = (.ok (.number y), after)) :
    call.numberArg env state = (.ok y, after) := by
  rw [numberArg, Eval.bind_apply, hy]
  rfl

/-- An operation that has no result names its operands and blames the call. -/
theorem operation_error {symbol : String}
    {compute : Number → Number → Except ArithmeticError Number} {error : ArithmeticError}
    (hy : call.arg 0 env state = (.ok (.number y), after)) (he : compute x y = .error error) :
    (call.operation symbol compute x env state).1 =
      .error ⟨.arithmetic error x.text symbol y.text, call.token⟩ := by
  rw [operation, Eval.bind_apply, numberArg_apply hy]
  dsimp only
  rw [he]
  rfl

theorem comparison_ok {orders : List Ordering} {order : Ordering}
    (hy : call.arg 0 env state = (.ok (.number y), after)) (ho : x.compare? y = some order) :
    (call.comparison orders x env state).1 = .ok (.boolean (orders.contains order)) := by
  rw [comparison, Eval.bind_apply, numberArg_apply hy]
  dsimp only
  rw [ho]
  rfl

/-- The subject of a call on numbers is evaluated first. -/
theorem On.value_numeric {first : Demand} {args : List Demand} (h : call.On (some first) args)
    (hf : call.function.family = .numeric)
    (hx : (first.visit env state).taken env.formats = .ok (.number x)) :
    call.value env state = call.onNumber x env (first.visit env state).after := by
  obtain ⟨hs, hrequired⟩ := Function.subject_of_numeric hf
  obtain ⟨demand, kind, hd, hperforms, -⟩ := h.subjectValue env hs hrequired
  cases hd
  simp only [ActiveCall.value, hf]
  rw [Eval.bind_apply, hperforms state, hx]
  rfl

end ActiveCall

namespace Node

variable {origin : Origin} {function : Function} {subject : Option Node} {target : Option Kind}
  {args : List Node} {targets : List (Option Kind)}

/-- The operands of a call on two numbers, and what their values lead to. -/
theorem CallSound.two_numbers (h : CallSound origin function subject target args targets)
    (pattern : Option Regex) (hf : function.family = .numeric) {returns : Kind}
    (hs : function.signature =
      Function.exactly (some (.kind .number)) [.kind .number] returns) :
    ∃ first second,
      demands (.call origin function subject target args targets pattern) = [first, second] ∧
      ∀ (env : Environment) (state : State) (x y : Number),
        (first.visit env state).taken env.formats = .ok (.number x) →
        (second.visit env (first.visit env state).after).taken env.formats = .ok (.number y) →
        ∃ call : ActiveCall, call.function = function ∧ call.token = origin.token ∧
          ∃ before after,
            eval (.call origin function subject target args targets pattern) env state =
              call.onNumber x env before ∧
            call.arg 0 env before = (.ok (.number y), after) := by
  have hcall := h.on pattern
  obtain ⟨first, kind, hfirst, -⟩ :=
    hcall.onSubject (.kind .number) (Function.subject_of_numeric hf).1
  obtain ⟨second, hsecond⟩ := hcall.one_of hs
  rw [hfirst, hsecond] at hcall
  refine ⟨first, second, by rw [demands, hfirst, hsecond]; rfl, fun env state x y hx hy => ?_⟩
  refine ⟨⟨function, origin.token, evalSubject target subject, operands (evalArgs args) targets,
    pattern⟩, rfl, rfl, (first.visit env state).after,
    (second.visit env (first.visit env state).after).after, ?_, ?_⟩
  · rw [eval]
    exact hcall.value_numeric hf hx
  · rw [hcall.arg rfl, hy]

end Node

namespace Compiled

/-- The numbers that an evaluation holds are finite: literals, what nodes give, and what is taken of
their values as operands. An operation that would give another number on binary ones is an error,
and numbers that are compared are in some order. -/
theorem numbers_finite (compiler : Compiler) (source : String) (compiled : Compiled)
    (h : compiler.compile source = .ok compiled) :
    (∀ origin n, .literal origin (.number n) ∈ compiled.root.all → n.isFinite = true) ∧
    (∀ node ∈ compiled.root.all, ∀ (env : Environment) (state : State) (n : Number),
      (node.eval env state).1 = .ok (.number n) → n.isFinite = true) ∧
    (∀ node ∈ compiled.root.all, ∀ demand ∈ node.demands,
      ∀ (env : Environment) (state : State) (n : Number),
        (demand.visit env state).taken env.formats = .ok (.number n) → n.isFinite = true) ∧
    ∀ node ∈ compiled.root.all, ∀ origin function subject target args targets pattern,
      node = .call origin function subject target args targets pattern →
      (∀ symbol binary, function.binary? = some (symbol, binary) →
        ∃ first second, node.demands = [first, second] ∧
          ∀ (env : Environment) (state : State) (x y : Number),
            (first.visit env state).taken env.formats = .ok (.number x) →
            (second.visit env (first.visit env state).after).taken env.formats = .ok (.number y) →
            (binary x.toBinary y.toBinary).isFinite = false →
            ∃ error, (node.eval env state).1 =
              .error ⟨.arithmetic error x.text symbol y.text, origin.token⟩) ∧
      ∀ orders, function.orders? = some orders →
        ∃ first second, node.demands = [first, second] ∧
          ∀ (env : Environment) (state : State) (x y : Number),
            (first.visit env state).taken env.formats = .ok (.number x) →
            (second.visit env (first.visit env state).after).taken env.formats = .ok (.number y) →
            ∃ order, x.compare? y = some order ∧
              (node.eval env state).1 = .ok (.boolean (orders.contains order)) := by
  obtain ⟨hwell, -⟩ := Compiler.compile_wellFormed h
  have hliterals := Compiler.compile_literalsFinite h
  have hnode (node : Node) (hn : node ∈ compiled.root.all) (env : Environment) :
      Yields env node.eval Value.Finite :=
    Node.WellFormed.finite (fun other ho => hwell other (Node.mem_all_trans hn ho))
      (fun origin n ho => hliterals origin n (Node.mem_all_trans hn ho)) env
  have hdemand (node : Node) (hn : node ∈ compiled.root.all) (demand : Demand)
      (hd : demand ∈ node.demands) (env : Environment) (state : State) (n : Number)
      (hv : (demand.visit env state).taken env.formats = .ok (.number n)) : n.isFinite = true := by
    have hchild := Node.mem_all_of_child (Node.mem_children_of_demand hd) (Node.mem_all_self _)
    exact Demand.taken_finite (hnode _ (Node.mem_all_trans hn hchild) env) hv
  refine ⟨hliterals, fun node hn env state n hv => hnode node hn env state _ hv, hdemand,
    fun node hn origin function subject target args targets pattern hcall => ?_⟩
  subst hcall
  refine ⟨?_, ?_⟩
  · intro symbol binary hbinary
    obtain ⟨hf, hs⟩ := Function.binary?_signature hbinary
    obtain ⟨first, second, hdemands, heval⟩ := (hwell _ hn).two_numbers pattern hf hs
    refine ⟨first, second, hdemands, fun env state x y hx hy hinfinite => ?_⟩
    obtain ⟨call, rfl, htoken, before, after, heval, hy⟩ := heval env state x y hx hy
    obtain ⟨compute, hguarded, hcompute⟩ := ActiveCall.onNumber_of_binary? hbinary x
    obtain ⟨error, herror⟩ := hguarded.fails x y hinfinite
    exact ⟨error, by rw [heval, hcompute, ActiveCall.operation_error hy herror, htoken]⟩
  · intro orders horders
    obtain ⟨hf, hs⟩ := Function.orders?_signature horders
    obtain ⟨first, second, hdemands, heval⟩ := (hwell _ hn).two_numbers pattern hf hs
    refine ⟨first, second, hdemands, fun env state x y hx hy => ?_⟩
    have hsome := Number.compare?_isSome (hdemand _ hn first (by simp [hdemands]) env state x hx)
      (hdemand _ hn second (by simp [hdemands]) env _ y hy)
    obtain ⟨order, horder⟩ := Option.isSome_iff_exists.mp hsome
    obtain ⟨call, rfl, -, before, after, heval, hy⟩ := heval env state x y hx hy
    refine ⟨order, horder, ?_⟩
    rw [heval, ActiveCall.onNumber_of_orders? horders, ActiveCall.comparison_ok hy horder]

/-- The tree of `${size:multiply(${size})}`. -/
def sizeSquared : Compiled where
  source := "${size:multiply(${size})}"
  root := .call ⟨.number, "multiply(${size})", ⟨7, 24⟩⟩ .multiply
    (some (.attribute ⟨.string, "size", ⟨2, 6⟩⟩ "size")) (some .number)
    [.attribute ⟨.string, "size", ⟨18, 22⟩⟩ "size"] [some .number] none
  formats := .standard
  slots := 0
  referenced := ["size"]

theorem compile_sizeSquared : Compiler.standard.compile sizeSquared.source = .ok sizeSquared := by
  cbv

/-- A square past the largest binary number is an error. -/
theorem numbers_finite_sizeSquared :
    let env := sizeSquared.environment (Record.attributes ⟨[("size", "1e200")]⟩) .epoch
    Compiler.standard.compile sizeSquared.source = .ok sizeSquared ∧
      ∃ x error, readNumber? "1e200" = some x ∧
        (x.toBinary.mul x.toBinary).isFinite = false ∧
        (sizeSquared.root.eval env .fresh).1 =
          .error ⟨.arithmetic error x.text "*" x.text, "multiply(${size})"⟩ := by
  intro env
  obtain ⟨x, hx⟩ : ∃ x, readNumber? "1e200" = some x :=
    Option.isSome_iff_exists.mp (by decide +kernel)
  have hinfinite : (x.toBinary.mul x.toBinary).isFinite = false := by
    have hmap : (readNumber? "1e200").map (fun x => (x.toBinary.mul x.toBinary).isFinite) =
        some false := by decide +kernel
    rw [hx] at hmap
    exact Option.some.inj hmap
  have hcoerce : (Value.string "1e200").coerce env.formats .number = .ok (.number x) := by
    rw [Value.coerce, coerceText, hx]
  have htaken (span : Span) (state : State) :
      (Demand.visit env ⟨.attribute ⟨.string, "size", span⟩ "size", some .number, none⟩
        state).taken env.formats = .ok (.number x) := by
    have hsize : (Node.attribute ⟨.string, "size", span⟩ "size").eval env state =
        (.ok (.string "1e200"), { state with reads := "size" :: state.reads }) := by
      rw [Node.eval]
      rfl
    rw [Demand.taken_visit_ok hsize, Demand.take_of_required_none rfl, Value.coerceTo, hcoerce]
    rfl
  obtain ⟨-, -, -, hcalls⟩ := numbers_finite .standard _ _ compile_sizeSquared
  obtain ⟨first, second, hdemands, hfails⟩ :=
    (hcalls _ (Node.mem_all_self _) _ _ _ _ _ _ _ rfl).1 "*" .mul rfl
  cases hdemands
  obtain ⟨error, herror⟩ := hfails env .fresh x x (htaken _ _) (htaken _ _) hinfinite
  exact ⟨compile_sizeSquared, x, error, hx, hinfinite, herror⟩

end Compiled

end AttrExpr
