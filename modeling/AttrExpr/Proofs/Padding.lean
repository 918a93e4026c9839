import AttrExpr.Proofs.Seeking

/-! Padding. A text is filled up to a width by characters of another, which is repeated as often as
it takes. Lengths count characters. -/
set_option autoImplicit false

namespace AttrExpr

section Cycle

variable {pad : List Char} (hne : pad ≠ [])
include hne

/-- A text that is repeated goes on from its start where it ends. -/
theorem cycle_succ (n : Nat) {i : Nat} (hi : i ≤ pad.length) :
    ∃ c, pad[i % pad.length]? = some c ∧
      cycle pad (n + 1) (pad.drop i) = c :: cycle pad n (pad.drop (i % pad.length + 1)) := by
  rcases Nat.lt_or_eq_of_le hi with hlt | rfl
  · refine ⟨pad[i], ?_, ?_⟩
    · rw [Nat.mod_eq_of_lt hlt, List.getElem?_eq_getElem hlt]
    · rw [Nat.mod_eq_of_lt hlt, List.drop_eq_getElem_cons hlt, cycle]
  · obtain ⟨c, cs, rfl⟩ := List.exists_cons_of_ne_nil hne
    exact ⟨c, by simp, by simp [cycle]⟩

theorem mod_length_lt (i : Nat) : i % pad.length < pad.length :=
  Nat.mod_lt i (List.length_pos_iff.mpr hne)

theorem length_cycle (n : Nat) {i : Nat} (hi : i ≤ pad.length) :
    (cycle pad n (pad.drop i)).length = n := by
  induction n generalizing i with
  | zero => rfl
  | succ n ih =>
    obtain ⟨c, -, hcycle⟩ := cycle_succ hne n hi
    rw [hcycle, List.length_cons, ih (mod_length_lt hne i)]

theorem getElem?_cycle {n i k : Nat} (hi : i ≤ pad.length) (hk : k < n) :
    (cycle pad n (pad.drop i))[k]? = pad[(i + k) % pad.length]? := by
  induction n generalizing i k with
  | zero => omega
  | succ n ih =>
    obtain ⟨c, hc, hcycle⟩ := cycle_succ hne n hi
    rw [hcycle]
    cases k with
    | zero => rw [List.getElem?_cons_zero, Nat.add_zero, hc]
    | succ k =>
      have hnext := ih (mod_length_lt hne i) (Nat.lt_of_succ_lt_succ hk)
      rw [List.getElem?_cons_succ, hnext, Nat.succ_eq_add_one, Nat.add_assoc, Nat.mod_add_mod,
        Nat.add_comm 1 k]

end Cycle

theorem Eval.pure_string_inj {s t : String}
    (h : (pure (.string s) : Eval Value) = pure (.string t)) : s = t := by
  have hvalue : (.ok (.string s) : Except EvalCause Value) = .ok (.string t) :=
    Eval.ofExcept_inj (show Eval.ofExcept "" _ = Eval.ofExcept "" _ from h)
  cases hvalue
  rfl

namespace Function

/-- The functions that fill a text up to a width. -/
def filling : List Function := [.padLeft, .padRight]

theorem mem_filling {function : Function} :
    function ∈ filling ↔ function = .padLeft ∨ function = .padRight := by
  simp [filling]

theorem signature_of_filling {function : Function} (hf : function ∈ filling) :
    function.signature =
      withOptional (some (.kind .string)) [.kind .whole, .kind .string] .string := by
  rcases mem_filling.mp hf with rfl | rfl <;> rfl

theorem filling_subject {function : Function} (hf : function ∈ filling) :
    function.family = .text ∧ function.signature.subject = some (.kind .string) ∧
      function.required? = none := by
  rcases mem_filling.mp hf with rfl | rfl <;> exact ⟨rfl, rfl, rfl⟩

/-- What fills a text is put before it or behind it. -/
theorem onText_filling {function : Function} (hf : function ∈ filling) {call : ActiveCall}
    (hc : call.function = function) (text : String) :
    call.onText text = call.fill text.toList >>= fun fill => pure (ActiveCall.textValue
      (if function = .padLeft then fill ++ text.toList else text.toList ++ fill)) := by
  obtain ⟨_, token, operand, operands, pattern⟩ := call
  obtain rfl : _ = function := hc
  rcases mem_filling.mp hf with rfl | rfl <;> rfl

/-- What these are given after their subject: a width and what they fill with, which is a space when
it is empty or left out. -/
inductive Fills : List Value → Int64 → List Char → Prop
  | blank (width : Int64) : Fills [.number (.whole width)] width [' ']
  | empty (width : Int64) : Fills [.number (.whole width), .string ""] width [' ']
  | text (width : Int64) {pad : String} (h : pad ≠ "") :
    Fills [.number (.whole width), .string pad] width pad.toList

/-- The text `s`, filled up to a width on one side or the other. What is filled up stays as it is
with the same width again or a smaller one. -/
structure Padded (token s : String) (values : List Value) (width : Int64) (pad : List Char) :
    Prop where
  negative : width.toInt < 0 → (EvalCause.negativeWidth width).code = .arithmetic ∧
    ∀ function ∈ filling,
      given function token s values = Eval.fail (.negativeWidth width) token
  filled : 0 ≤ width.toInt → ∃ fill : List Char,
    (fill.length : Int) = max 0 (width.toInt - s.length) ∧
    (∀ k < fill.length, fill[k]? = pad[k % pad.length]?) ∧
    given .padLeft token s values = pure (.string (.ofList fill ++ s)) ∧
    given .padRight token s values = pure (.string (s ++ .ofList fill))
  settled : ∀ function ∈ filling, ∀ t, given function token s values = pure (.string t) →
    (t.length : Int) = max width.toInt s.length ∧
    ∀ other ∈ filling, ∀ (values' : List Value) (width' : Int64) (pad' : List Char),
      Fills values' width' pad' → 0 ≤ width'.toInt → width'.toInt ≤ width.toInt →
        given other token t values' = pure (.string t)

section

variable {values : List Value} {width : Int64} {pad : List Char}

theorem Fills.ne_nil (h : Fills values width pad) : pad ≠ [] := by
  cases h with
  | blank | empty => exact List.cons_ne_nil _ _
  | text _ hpad => exact fun hnil => hpad (String.toList_eq_nil_iff.mp hnil)

/-- What these functions give, before it is known whether the width is one. -/
theorem Fills.given_eq (h : Fills values width pad) (token s : String) :
    given .padLeft token s values = Eval.ofExcept token (padding s.toList width pad) >>=
        (fun fill => pure (.string (.ofList (fill ++ s.toList)))) ∧
      given .padRight token s values = Eval.ofExcept token (padding s.toList width pad) >>=
        (fun fill => pure (.string (.ofList (s.toList ++ fill)))) := by
  cases h with
  | blank | empty => exact ⟨rfl, rfl⟩
  | @text _ pad hpad =>
    have hfill : (if pad.isEmpty then [' '] else pad.toList) = pad.toList :=
      if_neg fun hempty => hpad (String.isEmpty_iff.mp hempty)
    rw [← hfill]
    exact ⟨rfl, rfl⟩

theorem Fills.given_negative (h : Fills values width pad) (hwidth : width.toInt < 0)
    {function : Function} (hf : function ∈ filling) (token s : String) :
    given function token s values = Eval.fail (.negativeWidth width) token := by
  have hpadding : padding s.toList width pad = .error (.negativeWidth width) := if_pos hwidth
  obtain ⟨hleft, hright⟩ := h.given_eq token s
  rw [hpadding] at hleft hright
  rcases mem_filling.mp hf with rfl | rfl
  · exact hleft
  · exact hright

/-- A width that is not negative is reached with characters of the pad, or exceeded already. -/
theorem Fills.given_filled (h : Fills values width pad) (hwidth : 0 ≤ width.toInt)
    (token s : String) :
    ∃ fill : List Char, (fill.length : Int) = max 0 (width.toInt - s.length) ∧
      (∀ k < fill.length, fill[k]? = pad[k % pad.length]?) ∧
      given .padLeft token s values = pure (.string (.ofList fill ++ s)) ∧
      given .padRight token s values = pure (.string (s ++ .ofList fill)) := by
  have hpadding : padding s.toList width pad =
      .ok (cycle pad (width.toInt.toNat - s.toList.length) pad) := if_neg (Int.not_lt.mpr hwidth)
  have hlength := length_cycle h.ne_nil (width.toInt.toNat - s.toList.length) (Nat.zero_le _)
  rw [List.drop_zero] at hlength
  obtain ⟨hleft, hright⟩ := h.given_eq token s
  rw [hpadding] at hleft hright
  refine ⟨cycle pad (width.toInt.toNat - s.toList.length) pad, ?_, fun k hk => ?_, ?_, ?_⟩
  · rw [hlength, String.length_toList]
    omega
  · rw [hlength] at hk
    have hget := getElem?_cycle h.ne_nil (Nat.zero_le _) hk
    rwa [List.drop_zero, Nat.zero_add] at hget
  · rw [hleft]
    simp [Eval.ofExcept]
  · rw [hright]
    simp [Eval.ofExcept]

/-- A text that reaches a width stays as it is when it is filled up to that. -/
theorem Fills.given_self (h : Fills values width pad) (hwidth : 0 ≤ width.toInt) {s : String}
    (hreached : width.toInt ≤ s.length) {function : Function} (hf : function ∈ filling)
    (token : String) :
    given function token s values = pure (.string s) := by
  obtain ⟨fill, hlength, -, hleft, hright⟩ := h.given_filled hwidth token s
  obtain rfl : fill = [] := List.length_eq_zero_iff.mp (by omega)
  rcases mem_filling.mp hf with rfl | rfl
  · rw [hleft]
    simp
  · rw [hright]
    simp

theorem Fills.length_given (h : Fills values width pad) {function : Function}
    (hf : function ∈ filling) {token s t : String}
    (ht : given function token s values = pure (.string t)) :
    (t.length : Int) = max width.toInt s.length := by
  by_cases hwidth : 0 ≤ width.toInt
  · obtain ⟨fill, hlength, -, hleft, hright⟩ := h.given_filled hwidth token s
    rcases mem_filling.mp hf with rfl | rfl
    · obtain rfl := Eval.pure_string_inj (hleft.symm.trans ht)
      simp
      omega
    · obtain rfl := Eval.pure_string_inj (hright.symm.trans ht)
      simp
      omega
  · have hfail := h.given_negative (by omega) hf token s
    have hcause : (.error (.negativeWidth width) : Except EvalCause Value) = .ok (.string t) :=
      Eval.ofExcept_inj (show Eval.ofExcept token _ = Eval.ofExcept token _ from hfail.symm.trans ht)
    cases hcause

theorem Fills.padded (h : Fills values width pad) (token s : String) :
    Padded token s values width pad := by
  refine ⟨fun hwidth => ⟨rfl, fun function hf => h.given_negative hwidth hf token s⟩,
    fun hwidth => h.given_filled hwidth token s,
    fun function hf t ht => ?_⟩
  have hlength := h.length_given hf ht
  refine ⟨hlength, fun other hother values' width' pad' h' hnonneg hle => ?_⟩
  exact h'.given_self hnonneg (by omega) hother token

end

end Function

namespace ActiveCall.On

open AttrExpr.Function (Fills filling given)

variable {env : Environment} {call : ActiveCall} {subject : Option Demand} {args : List Demand}

/-- A text that is taken of a child. -/
theorem textArg (h : call.On subject args) (env : Environment) {i : Nat} {demand : Demand}
    (hi : args[i]? = some demand) (hk : call.function.signature.param i = .kind .string)
    (state : State) :
    (∃ error after, demand.operand.value env state = (.error error, after) ∧
      call.textArg i env state = (.error error, after)) ∨
    ∃ text after, demand.operand.value env state = (.ok (.string text), after) ∧
      call.textArg i env state = (.ok text, after) := by
  have hvalue : demand.operand.value env state = call.arg i env state := by
    rw [h.arg hi state]
    exact Demand.performs_value (h.required demand (List.mem_of_getElem? hi)) state
  rw [hvalue, ActiveCall.textArg, Eval.bind_apply, h.arg hi state]
  cases htaken : (demand.visit env state).taken env.formats with
  | error error => exact .inl ⟨error, _, rfl, rfl⟩
  | ok value =>
    obtain ⟨text, rfl⟩ := (Demand.taken_gives htaken _ (h.param hi hk)).string
    exact .inr ⟨text, _, rfl, rfl⟩

theorem gives_filling (h : call.On subject args) (hf : call.function ∈ filling) :
    Gives env (fun values => ∃ width pad, Fills values width pad) call := by
  intro text state
  obtain ⟨function, token, operand, operands, pattern⟩ := call
  have hf : function ∈ filling := hf
  have hs := Function.signature_of_filling hf
  have hfirst : function.signature.param 0 = .kind .whole := by rw [hs]; rfl
  have hsecond : function.signature.param 1 = .kind .string := by rw [hs]; rfl
  -- on both sides the same is made of what fills the text
  have honText {call : ActiveCall} (hc : call.function = function) :=
    Function.onText_filling hf hc text
  have hgiven : given function token text = _ := funext fun values => honText rfl
  have hoperands : operands = args.map Demand.operand := h.operands
  rw [honText rfl, hgiven]
  rcases h.one_or_two_of hs with ⟨first, rfl⟩ | ⟨first, second, rfl⟩ <;> subst hoperands <;>
    simp only [List.map_cons, List.map_nil, List.mapM_cons, List.mapM_nil, bind_assoc, pure_bind,
      ActiveCall.fill] at h ⊢ <;>
    rcases h.wholeArg env (i := 0) rfl hfirst state with
      ⟨error, between, hvalue, harg⟩ | ⟨width, between, hvalue, harg⟩ <;>
    simp only [Eval.bind_apply, hvalue, harg]
  · exact ⟨trivial, fun values after hvalues => by cases hvalues⟩
  · refine ⟨rfl, fun values after hvalues => ?_⟩
    cases hvalues
    exact ⟨width, _, .blank width⟩
  · exact ⟨trivial, fun values after hvalues => by cases hvalues⟩
  · have hmany : 1 < [first.operand, second.operand].length := Nat.one_lt_two
    rw [ActiveCall.optionalTextArg, if_pos hmany]
    rcases h.textArg env (i := 1) rfl hsecond between with
        ⟨error, final, hvalue, harg⟩ | ⟨pad, final, hvalue, harg⟩ <;>
      simp only [Eval.bind_apply, hvalue, harg]
    · exact ⟨trivial, fun values after hvalues => by cases hvalues⟩
    · refine ⟨rfl, fun values after hvalues => ?_⟩
      cases hvalues
      by_cases hpad : pad = ""
      · subst hpad
        exact ⟨width, _, .empty width⟩
      · exact ⟨width, _, .text width hpad⟩

end ActiveCall.On

namespace Compiled

/-- A call that fills a text up gives the value of that function for what its subject and its
arguments give. A negative width is an error; any other is reached exactly. -/
theorem padding_fills (compiler : Compiler) (source : String) (compiled : Compiled)
    (h : compiler.compile source = .ok compiled) :
    (∀ node ∈ compiled.root.all, ∀ origin function subject target args targets pattern,
      node = .call origin function subject target args targets pattern →
      function ∈ Function.filling →
      ∃ operand, Node.evalSubject target subject = some operand ∧
        ∀ env state,
          node.eval env state = function.givenBy origin.token operand
            (Node.operands (Node.evalArgs args) targets) env state ∧
          ∀ text between, operand.value env state = (.ok text, between) →
            (∃ s, text = .string s) ∧
            ∀ values after,
              (Node.operands (Node.evalArgs args) targets).mapM Operand.value env between =
                (.ok values, after) → ∃ width pad, Function.Fills values width pad) ∧
    ∀ token s values width pad, Function.Fills values width pad →
      Function.Padded token s values width pad := by
  obtain ⟨hwell, -⟩ := Compiler.compile_wellFormed h
  refine ⟨?_, fun token s values width pad hfills => hfills.padded token s⟩
  rintro node hn origin function subject target args targets pattern rfl hf
  have hcall : Node.CallSound origin function subject target args targets := hwell _ hn
  obtain ⟨hfamily, hexpected, hrequired⟩ := Function.filling_subject hf
  exact hcall.given_eval hfamily hexpected hrequired
    (fun call subject args env hon hc => hon.gives_filling (hc ▸ hf)) pattern

/-- The tree of `${a:padLeft(5, 'ñx')}`. -/
def filledUp : Compiled where
  source := "$\x7ba:padLeft(5, 'ñx')\x7d"
  root := .call ⟨.string, "padLeft(5, 'ñx')", ⟨4, 21⟩⟩ .padLeft
    (some (.attribute ⟨.string, "a", ⟨2, 3⟩⟩ "a")) (some .string)
    [.literal ⟨.whole, "5", ⟨12, 13⟩⟩ (.number (.whole 5)),
      .literal ⟨.string, "'ñx'", ⟨15, 20⟩⟩ (.string "ñx")] [some .whole, some .string] none
  formats := .standard
  slots := 0
  referenced := ["a"]

theorem compile_filledUp : Compiler.standard.compile filledUp.source = .ok filledUp := by
  cbv

/-- A character of two bytes is filled up to five characters, and stays as it is at a width of
four. -/
theorem padding_fills_filledUp :
    let env := filledUp.environment (Record.attributes ⟨[("a", "é")]⟩) .epoch
    let values := [Value.number (.whole 5), .string "ñx"]
    Compiler.standard.compile filledUp.source = .ok filledUp ∧
      Function.Fills values 5 "ñx".toList ∧
      Function.Padded "padLeft(5, 'ñx')" "é" values 5 "ñx".toList ∧
      (filledUp.root.eval env .fresh).1 = .ok (.string "ñxñxé") ∧
      Function.given .padRight "padLeft(5, 'ñx')" "ñxñxé" [.number (.whole 4)] =
        pure (.string "ñxñxé") := by
  intro env values
  obtain ⟨hcalls, hpadded⟩ := padding_fills .standard _ _ compile_filledUp
  have hfills : Function.Fills values 5 "ñx".toList := .text 5 (by decide)
  have hpads := hpadded "padLeft(5, 'ñx')" "é" values 5 _ hfills
  obtain ⟨operand, hoperand, heval⟩ :=
    hcalls _ (Node.mem_all_self _) _ _ _ _ _ _ _ rfl (by decide)
  cases hoperand
  refine ⟨compile_filledUp, hfills, hpads, ?_, ?_⟩
  · rw [(heval env .fresh).1]
    rfl
  · exact (hpads.settled .padLeft (by decide) "ñxñxé" rfl).2 _ (by decide) _ _ _ (.blank 4)
      (by decide) (by decide)

end Compiled

end AttrExpr
