import AttrExpr.Proofs.IgnoringCase
import AttrExpr.Proofs.Positions

/-! The functions that measure a text, cut it and look for another in it. For the same subject and
argument they agree with each other. -/
set_option autoImplicit false

namespace AttrExpr

theorem Value.Is.string {value : Value} (h : value.Is .string) : ∃ text, value = .string text :=
  (Value.Fits.unset_or_string (.inl h)).resolve_left h.set

/-- A result is told by what is made of it. -/
theorem Eval.ofExcept_inj {α : Type} {token : String} {x y : Except EvalCause α}
    (h : ofExcept token x = ofExcept token y) : x = y := by
  have happly := congrFun (congrFun h ⟨Record.attributes ⟨[]⟩, .standard, .epoch⟩) .fresh
  cases x <;> cases y <;> cases happly <;> rfl

namespace Function

/-- The value of a function on text for a subject and arguments that are known. -/
def given (function : Function) (token subject : String) (values : List Value) : Eval Value :=
  ActiveCall.onText
    { function := function
      token := token
      subject := none
      args := values.map fun value => ⟨token, none, pure value⟩
      pattern := none } subject

section

variable {token s n : String}

theorem given_substring (start stop : Int64) :
    given .substring token s [.number (.whole start), .number (.whole stop)] =
      Eval.ofExcept token
        ((AttrExpr.substring s.toList start (some stop)).map ActiveCall.textValue) := by
  have h : given .substring token s [.number (.whole start), .number (.whole stop)] =
    (do pure (ActiveCall.textValue
          (← Eval.ofExcept token (AttrExpr.substring s.toList start (some stop))))) := rfl
  rw [h]
  cases AttrExpr.substring s.toList start (some stop) <;> rfl

/-- A bound that is left out is the length of the text. -/
theorem given_substring_default {start length : Int64} (hlength : length.toInt = s.toList.length) :
    given .substring token s [.number (.whole start)] =
      given .substring token s [.number (.whole start), .number (.whole length)] := by
  have h : given .substring token s [.number (.whole start)] =
    (do pure (ActiveCall.textValue
          (← Eval.ofExcept token (AttrExpr.substring s.toList start none)))) := rfl
  rw [h, given_substring, substring_none hlength]
  cases AttrExpr.substring s.toList start (some length) <;> rfl

theorem given_substring_of_append (before part after : List Char) {start stop : Int64}
    (hs : s.toList = before ++ part ++ after) (hstart : start.toInt = before.length)
    (hstop : stop.toInt = before.length + part.length) :
    given .substring token s [.number (.whole start), .number (.whole stop)] =
      pure (ActiveCall.textValue part) := by
  have hpart : AttrExpr.substring s.toList start (some stop) = .ok part := by
    exact (substring_eq_iff (by omega)).mpr ⟨by omega, before, after, hs, by omega⟩
  rw [given_substring, hpart]
  rfl

theorem substring_of_given {start stop : Int64}
    (h : given .substring token s [.number (.whole start), .number (.whole stop)] =
      pure (.string n)) :
    AttrExpr.substring s.toList start (some stop) = .ok n.toList := by
  rw [given_substring] at h
  have hvalue : (AttrExpr.substring s.toList start (some stop)).map ActiveCall.textValue =
      .ok (.string n) := Eval.ofExcept_inj h
  cases hpart : AttrExpr.substring s.toList start (some stop) with
  | error cause =>
    rw [hpart] at hvalue
    cases hvalue
  | ok part =>
    rw [hpart] at hvalue
    cases hvalue
    rw [String.toList_ofList]

end

/-- Where a text is found in another: first at `i`, last at `j`, with the lengths of both texts. -/
structure Found (token s n : String) (i j length size : Int64) : Prop where
  ordered : 0 ≤ i.toInt ∧ i.toInt ≤ j.toInt ∧ j.toInt ≤ length.toInt - size.toInt
  first : given .substring token s [.number (.whole i), .number (.whole (i + size))] =
    pure (.string n)
  last : given .substring token s [.number (.whole j), .number (.whole (j + size))] =
    pure (.string n)
  between : ∀ k : Int64,
    given .substring token s [.number (.whole k), .number (.whole (k + size))] =
      pure (.string n) → i.toInt ≤ k.toInt ∧ k.toInt ≤ j.toInt
  before : given .substringBefore token s [.string n] =
    given .substring token s [.number (.whole 0), .number (.whole i)]
  after : given .substringAfter token s [.string n] =
    given .substring token s [.number (.whole (i + size))]
  beforeLast : given .substringBeforeLast token s [.string n] =
    given .substring token s [.number (.whole 0), .number (.whole j)]
  afterLast : given .substringAfterLast token s [.string n] =
    given .substring token s [.number (.whole (j + size))]
  starts : given .startsWith token s [.string n] = pure (.boolean (decide (i = 0)))
  ends : given .endsWith token s [.string n] = pure (.boolean (decide (j = length - size)))

/-- A text that is not found in another. -/
structure Absent (token s n : String) (i j : Int64) : Prop where
  positions : i = -1 ∧ j = -1
  before : given .substringBefore token s [.string n] = pure (.string s)
  after : given .substringAfter token s [.string n] = pure (.string s)
  beforeLast : given .substringBeforeLast token s [.string n] = pure (.string s)
  afterLast : given .substringAfterLast token s [.string n] = pure (.string s)

section

variable {token s n : String}

theorem toInt_ofInt_length {k : Nat} (h : k < 2 ^ 63) : (Int64.ofInt k).toInt = k :=
  Int64.toInt_ofInt_of_le (by omega) (by omega)

theorem toInt_add_of_lt {a b : Int64} (ha : 0 ≤ a.toInt) (hb : 0 ≤ b.toInt)
    (h : a.toInt + b.toInt < 2 ^ 63) : (a + b).toInt = a.toInt + b.toInt := by
  rw [Int64.toInt_add, Int.bmod_eq_of_le] <;> omega

/-- A sum that is not less than a part of it did not overflow. -/
theorem toInt_add_of_le {a b : Int64} (ha : 0 ≤ a.toInt) (hb : 0 ≤ b.toInt)
    (h : 0 ≤ (a + b).toInt) : (a + b).toInt = a.toInt + b.toInt := by
  have hlt := a.toInt_lt
  have hlt' := b.toInt_lt
  rw [Int64.toInt_add, Int.bmod_def] at h ⊢
  omega

theorem given_cuts (token s n : String) :
    given .substringBefore token s [.string n] = pure (ActiveCall.textValue
      (beforeOr s.toList (Text.cutFirst? n.toList s.toList))) ∧
    given .substringAfter token s [.string n] = pure (ActiveCall.textValue
      (afterOr s.toList (Text.cutFirst? n.toList s.toList))) ∧
    given .substringBeforeLast token s [.string n] = pure (ActiveCall.textValue
      (beforeOr s.toList (Text.cutLast? n.toList s.toList))) ∧
    given .substringAfterLast token s [.string n] = pure (ActiveCall.textValue
      (afterOr s.toList (Text.cutLast? n.toList s.toList))) :=
  ⟨rfl, rfl, rfl, rfl⟩

/-- The parts that positions cut out of a text around another. -/
theorem given_substring_around (token : String) {before after : List Char}
    {position size length : Int64} (hs : s.toList = before ++ n.toList ++ after)
    (hposition : position.toInt = before.length) (hsize : size.toInt = n.toList.length)
    (hlength : length.toInt = s.toList.length) :
    (position + size).toInt = before.length + n.toList.length ∧
    given .substring token s [.number (.whole position), .number (.whole (position + size))] =
      pure (.string n) ∧
    given .substring token s [.number (.whole 0), .number (.whole position)] =
      pure (ActiveCall.textValue before) ∧
    given .substring token s [.number (.whole (position + size))] =
      pure (ActiveCall.textValue after) := by
  have hcount : s.toList.length = before.length + n.toList.length + after.length := by
    rw [hs, List.length_append, List.length_append]
  have hword := length.toInt_lt
  have hsum : (position + size).toInt = before.length + n.toList.length := by
    rw [toInt_add_of_lt] <;> omega
  refine ⟨hsum, ?_, ?_, ?_⟩
  · rw [given_substring_of_append before n.toList after hs hposition hsum, ActiveCall.textValue,
      String.ofList_toList]
  · refine given_substring_of_append [] before (n.toList ++ after) ?_ rfl ?_
    · rw [hs, List.nil_append, List.append_assoc]
    · rw [hposition, List.length_nil, Nat.cast_zero, zero_add]
  · rw [given_substring_default hlength]
    refine given_substring_of_append (before ++ n.toList) after [] ?_ ?_ ?_
    · rw [hs, List.append_nil]
    · rw [hsum, List.length_append, Nat.cast_add]
    · rw [hlength, hcount, List.length_append, Nat.cast_add]

theorem found_of_cuts {before after before' after' : List Char} {i j length size : Int64}
    (hfirst : Text.cutFirst? n.toList s.toList = some (before, after))
    (hlast : Text.cutLast? n.toList s.toList = some (before', after'))
    (hi : i.toInt = before.length) (hj : j.toInt = before'.length)
    (hsize : size.toInt = n.toList.length) (hlength : length.toInt = s.toList.length) :
    Found token s n i j length size := by
  have hs := Text.cutFirst?_append _ _ _ _ hfirst
  have hs' := Text.cutLast?_append _ _ _ _ hlast
  have hstands : Text.StandsAt n.toList s.toList before.length := ⟨before, after, hs, rfl⟩
  have hstands' : Text.StandsAt n.toList s.toList before'.length := ⟨before', after', hs', rfl⟩
  have hle := Text.cutFirst?_standsAt hfirst hstands'
  obtain ⟨hfit, -⟩ := Text.standsAt_iff.mp hstands'
  obtain ⟨-, hfound, hbefore, hafter⟩ := given_substring_around token hs hi hsize hlength
  obtain ⟨-, hfound', hbefore', hafter'⟩ :=
    given_substring_around token hs' hj hsize hlength
  have hzero : (0 : Int64).toInt = 0 := rfl
  have hdifference : (length - size).toInt = length.toInt - size.toInt := by
    have hword := length.toInt_lt
    rw [Int64.toInt_sub, Int.bmod_eq_of_le] <;> omega
  obtain ⟨hbeforeOr, hafterOr, hbeforeLastOr, hafterLastOr⟩ := given_cuts token s n
  rw [hfirst] at hbeforeOr hafterOr
  rw [hlast] at hbeforeLastOr hafterLastOr
  refine ⟨by omega, hfound, hfound', fun k hk => ?_, ?_, ?_, ?_, ?_, ?_, ?_⟩
  · have hpart := substring_of_given hk
    obtain ⟨hk₀, hk₁, -⟩ := bounds_of_substring hpart
    -- a sum that overflows is negative, which is no bound
    have hsum := toInt_add_of_le hk₀ (show 0 ≤ size.toInt by omega) (by omega)
    obtain ⟨-, hstandsAt⟩ := (substring_eq_iff (by omega)).mp hpart
    have hfirstOf := Text.cutFirst?_standsAt hfirst hstandsAt
    have hlastOf := Text.cutLast?_last hlast hstandsAt
    omega
  · rw [hbefore, hbeforeOr, beforeOr]
  · rw [hafter, hafterOr, afterOr]
  · rw [hbefore', hbeforeLastOr, beforeOr]
  · rw [hafter', hafterLastOr, afterOr]
  · have hstarts : AttrExpr.startsWith s.toList n.toList = decide (i = 0) := by
      rw [Bool.eq_iff_iff, decide_eq_true_iff, startsWith_iff_first hfirst, ← Int64.toInt_inj, hi,
        hzero, Int.natCast_eq_zero]
    rw [← hstarts]
    rfl
  · have hends : AttrExpr.endsWith s.toList n.toList = decide (j = length - size) := by
      rw [Bool.eq_iff_iff, decide_eq_true_iff, endsWith_iff_last hlast, ← Int64.toInt_inj]
      omega
    rw [← hends]
    rfl

end

/-- The functions that search `s` for `n` agree with each other; `i` and `j` are the first and the
last position, with the lengths of both texts. -/
structure SearchesAgree (token s n : String) (i j length size : Int64) : Prop where
  lengths : given .length token s [] = pure (.number (.whole length)) ∧
    given .length token n [] = pure (.number (.whole size))
  indexOf : given .indexOf token s [.string n] = pure (.number (.whole i))
  lastIndexOf : given .lastIndexOf token s [.string n] = pure (.number (.whole j))
  contains : given .contains token s [.string n] = pure (.boolean (decide (0 ≤ i)))
  both : 0 ≤ i ↔ 0 ≤ j
  found : 0 ≤ i → Found token s n i j length size
  absent : ¬ 0 ≤ i → Absent token s n i j

/-- The lengths of two texts, as `length` gives them. -/
theorem given_lengths (token s n : String) :
    given .length token s [] = pure (.number (.whole (Int64.ofInt s.toList.length))) ∧
      given .length token n [] = pure (.number (.whole (Int64.ofInt n.toList.length))) := ⟨rfl, rfl⟩

theorem given_positions (token s n : String) :
    given .indexOf token s [.string n] =
      pure (positionOf (Text.cutFirst? n.toList s.toList)) ∧
    given .lastIndexOf token s [.string n] =
      pure (positionOf (Text.cutLast? n.toList s.toList)) ∧
    given .contains token s [.string n] =
      pure (.boolean (Text.cutFirst? n.toList s.toList).isSome) := ⟨rfl, rfl, rfl⟩

theorem searches_agree_absent (token : String) {s n : String}
    (hfirst : Text.cutFirst? n.toList s.toList = none) :
    SearchesAgree token s n (-1) (-1) (Int64.ofInt s.toList.length)
      (Int64.ofInt n.toList.length) := by
  have hlast := Text.cutLast?_eq_none_iff.mpr hfirst
  obtain ⟨hposition, hlastPosition, hcontains⟩ := given_positions token s n
  obtain ⟨hbefore, hafter, hbeforeLast, hafterLast⟩ := given_cuts token s n
  rw [hfirst] at hposition hcontains hbefore hafter
  rw [hlast] at hlastPosition hbeforeLast hafterLast
  have hwhole : ActiveCall.textValue s.toList = .string s := by
    rw [ActiveCall.textValue, String.ofList_toList]
  refine ⟨given_lengths token s n, hposition, hlastPosition, hcontains, Iff.rfl, ?_, fun _ =>
    ⟨⟨rfl, rfl⟩, ?_, ?_, ?_, ?_⟩⟩
  · intro h
    exact absurd h (by decide)
  · rw [hbefore, beforeOr, hwhole]
  · rw [hafter, afterOr, hwhole]
  · rw [hbeforeLast, beforeOr, hwhole]
  · rw [hafterLast, afterOr, hwhole]

theorem searches_agree_found (token : String) {s n : String}
    {before after before' after' : List Char} (hword : s.toList.length < 2 ^ 63)
    (hfirst : Text.cutFirst? n.toList s.toList = some (before, after))
    (hlast : Text.cutLast? n.toList s.toList = some (before', after')) :
    SearchesAgree token s n (Int64.ofInt before.length) (Int64.ofInt before'.length)
      (Int64.ofInt s.toList.length) (Int64.ofInt n.toList.length) := by
  obtain ⟨hposition, hlastPosition, hcontains⟩ := given_positions token s n
  rw [hfirst] at hposition hcontains
  rw [hlast] at hlastPosition
  have hcount := congrArg List.length (Text.cutFirst?_append _ _ _ _ hfirst)
  have hcount' := congrArg List.length (Text.cutLast?_append _ _ _ _ hlast)
  simp only [List.length_append] at hcount hcount'
  have hi : (Int64.ofInt before.length).toInt = before.length := toInt_ofInt_length (by omega)
  have hj : (Int64.ofInt before'.length).toInt = before'.length := toInt_ofInt_length (by omega)
  have hnonneg {k : Nat} (hk : (Int64.ofInt k).toInt = k) : 0 ≤ Int64.ofInt k := by
    rw [Int64.le_iff_toInt_le, hk]
    exact Int.natCast_nonneg k
  refine ⟨given_lengths token s n, hposition, hlastPosition, ?_, ?_, fun _ => ?_, ?_⟩
  · rw [hcontains, decide_eq_true (hnonneg hi)]
    rfl
  · exact ⟨fun _ => hnonneg hj, fun _ => hnonneg hi⟩
  · exact found_of_cuts hfirst hlast hi hj (toInt_ofInt_length (by omega))
      (toInt_ofInt_length hword)
  · exact fun h => absurd (hnonneg hi) h

theorem searches_agree (token s n : String) (hs : Text.byteLength s.toList < 2 ^ 63) :
    ∃ i j size : Int64,
      SearchesAgree token s n i j (Int64.ofInt s.toList.length) size := by
  have hword : s.toList.length < 2 ^ 63 :=
    Nat.lt_of_le_of_lt (Text.length_le_byteLength _) hs
  cases hfirst : Text.cutFirst? n.toList s.toList with
  | none => exact ⟨_, _, _, searches_agree_absent token hfirst⟩
  | some cut =>
    cases hlast : Text.cutLast? n.toList s.toList with
    | none =>
      rw [Text.cutLast?_eq_none_iff, hfirst] at hlast
      cases hlast
    | some cut' => exact ⟨_, _, _, searches_agree_found token hword hfirst hlast⟩

/-- A part of a text between two positions: it is there if and only if they are in order and within
the text, and the second is the length of the text when it is left out. -/
structure CutsBetween (token s : String) (length : Int64) : Prop where
  measure : given .length token s [] = pure (.number (.whole length))
  inside : ∀ start stop : Int64,
    0 ≤ start.toInt ∧ start.toInt ≤ stop.toInt ∧ stop.toInt ≤ length.toInt →
      given .substring token s [.number (.whole start), .number (.whole stop)] =
        pure (ActiveCall.textValue
          ((s.toList.drop start.toInt.toNat).take (stop.toInt - start.toInt).toNat))
  outside : ∀ start stop : Int64,
    ¬ (0 ≤ start.toInt ∧ start.toInt ≤ stop.toInt ∧ stop.toInt ≤ length.toInt) →
      ∃ cause, cause.code = .arithmetic ∧
        given .substring token s [.number (.whole start), .number (.whole stop)] =
          Eval.fail cause token
  onward : ∀ start : Int64,
    given .substring token s [.number (.whole start)] =
      given .substring token s [.number (.whole start), .number (.whole length)]

theorem substring_cuts (token s : String) (hs : Text.byteLength s.toList < 2 ^ 63) :
    CutsBetween token s (Int64.ofInt s.toList.length) := by
  have hlength : (Int64.ofInt s.toList.length).toInt = s.toList.length :=
    toInt_ofInt_length (Nat.lt_of_le_of_lt (Text.length_le_byteLength _) hs)
  refine ⟨rfl, fun start stop h => ?_, fun start stop h => ?_, fun start =>
    given_substring_default hlength⟩
  · rw [hlength] at h
    rw [given_substring, substring_of_bounds h]
    rfl
  · rw [hlength] at h
    obtain ⟨cause, hcode, herror⟩ := substring_of_not_bounds h
    refine ⟨cause, hcode, ?_⟩
    rw [given_substring, herror]
    rfl

/-- The functions that look for one text in another. -/
def seeking : List Function :=
  [.substringBefore, .substringAfter, .substringBeforeLast, .substringAfterLast, .indexOf,
    .lastIndexOf, .startsWith, .endsWith, .contains]

/-- The functions that measure a text, cut it and look for another in it. -/
def searching : List Function := .length :: .substring :: seeking

/-- What these functions are given after their subject. -/
inductive Asks : Function → List Value → Prop
  | length : Asks .length []
  | from (start : Int64) : Asks .substring [.number (.whole start)]
  | between (start stop : Int64) :
    Asks .substring [.number (.whole start), .number (.whole stop)]
  | text {function : Function} (h : function ∈ seeking) (n : String) :
    Asks function [.string n]

/-- The value of a function for what its subject and its arguments give, one after the other. -/
def givenBy (function : Function) (token : String) (subject : Operand) (operands : List Operand) :
    Eval Value := do
  let text ← subject.value
  let values ← operands.mapM Operand.value
  function.given token text.text values

theorem onText_seeking {call : ActiveCall} {operand : Operand} (hf : call.function ∈ seeking)
    (hargs : call.args = [operand]) (text : String) :
    call.onText text =
      operand.value >>= fun value => given call.function call.token text [value] := by
  obtain ⟨function, token, subject, args, pattern⟩ := call
  obtain rfl : args = [operand] := hargs
  have harg (f : Value → Eval Value) :
      ActiveCall.arg ⟨function, token, subject, [operand], pattern⟩ 0 >>= f =
        operand.value >>= f := rfl
  simp only [seeking, List.mem_cons, List.not_mem_nil, or_false] at hf
  rcases hf with rfl | rfl | rfl | rfl | rfl | rfl | rfl | rfl | rfl <;>
    simp only [ActiveCall.onText, ActiveCall.cut, ActiveCall.textArg, bind_assoc, pure_bind,
      harg] <;> rfl

end Function

namespace ActiveCall.On

open AttrExpr.Function (Asks given seeking searching)

variable {env : Environment} {call : ActiveCall} {subject : Option Demand} {args : List Demand}

/-- A whole number that is taken of a child. -/
theorem wholeArg (h : call.On subject args) (env : Environment) {i : Nat} {demand : Demand}
    (hi : args[i]? = some demand) (hk : call.function.signature.param i = .kind .whole)
    (state : State) :
    (∃ error after, demand.operand.value env state = (.error error, after) ∧
      call.wholeArg i env state = (.error error, after)) ∨
    ∃ n after, demand.operand.value env state = (.ok (.number (.whole n)), after) ∧
      call.wholeArg i env state = (.ok n, after) := by
  have hvalue : demand.operand.value env state = call.arg i env state := by
    rw [h.arg hi state]
    exact Demand.performs_value (h.required demand (List.mem_of_getElem? hi)) state
  rw [hvalue, ActiveCall.wholeArg, Eval.bind_apply, h.arg hi state]
  cases htaken : (demand.visit env state).taken env.formats with
  | error error => exact .inl ⟨error, _, rfl, rfl⟩
  | ok value =>
    obtain ⟨n, rfl⟩ := (Demand.taken_gives htaken _ (h.param hi hk)).whole
    exact .inr ⟨n, _, rfl, rfl⟩

/-- A function on text gives its value for what its arguments give, one after the other. -/
def Gives (env : Environment) (asks : List Value → Prop) (call : ActiveCall) : Prop :=
  ∀ text state, call.onText text env state =
      (call.args.mapM Operand.value >>= given call.function call.token text) env state ∧
    ∀ values after, call.args.mapM Operand.value env state = (.ok values, after) → asks values

theorem searches_length (h : call.On subject args) (hf : call.function = .length) :
    Gives env (Asks call.function) call := by
  intro text state
  obtain ⟨function, token, operand, operands, pattern⟩ := call
  obtain rfl : function = .length := hf
  have hargs : args = [] := h.none_of rfl
  obtain rfl : operands = [] := by rw [← List.map_nil, ← hargs]; exact h.operands
  refine ⟨rfl, fun values after hvalues => ?_⟩
  cases hvalues
  exact .length

theorem searches_substring (h : call.On subject args) (hf : call.function = .substring) :
    Gives env (Asks call.function) call := by
  intro text state
  obtain ⟨function, token, operand, operands, pattern⟩ := call
  obtain rfl : function = .substring := hf
  have hoperands : operands = args.map Demand.operand := h.operands
  rcases h.one_or_two_of rfl with ⟨first, rfl⟩ | ⟨first, second, rfl⟩ <;> subst hoperands <;>
    simp only [List.map_cons, List.map_nil, List.mapM_cons, List.mapM_nil, bind_assoc, pure_bind,
      ActiveCall.onText] at h ⊢ <;>
    rcases h.wholeArg env (i := 0) rfl rfl state with
      ⟨error, between, hvalue, harg⟩ | ⟨start, between, hvalue, harg⟩ <;>
    simp only [Eval.bind_apply, hvalue, harg]
  · exact ⟨trivial, fun values after hvalues => by cases hvalues⟩
  · refine ⟨rfl, fun values after hvalues => ?_⟩
    cases hvalues
    exact .from start
  · exact ⟨trivial, fun values after hvalues => by cases hvalues⟩
  · have hmany : 1 < [first.operand, second.operand].length := Nat.one_lt_two
    rw [if_pos hmany, map_eq_pure_bind]
    rcases h.wholeArg env (i := 1) rfl rfl between with
        ⟨error, final, hvalue, harg⟩ | ⟨stop, final, hvalue, harg⟩ <;>
      simp only [Eval.bind_apply, hvalue, harg]
    · exact ⟨trivial, fun values after hvalues => by cases hvalues⟩
    · refine ⟨?_, fun values after hvalues => ?_⟩
      · simp only [Function.given_substring, Eval.pure_apply]
        cases AttrExpr.substring text.toList start (some stop) <;> rfl
      · cases hvalues
        exact .between start stop

theorem searches_seeking (h : call.On subject args) (hf : call.function ∈ seeking) :
    Gives env (Asks call.function) call := by
  intro text state
  obtain ⟨returns, hs⟩ : ∃ returns, call.function.signature =
      Function.exactly (some (.kind .string)) [.kind .string] returns := by
    simp only [seeking, List.mem_cons, List.not_mem_nil, or_false] at hf
    rcases hf with hf | hf | hf | hf | hf | hf | hf | hf | hf <;> rw [hf] <;> exact ⟨_, rfl⟩
  obtain ⟨demand, rfl⟩ := h.one_of hs
  have hargs : call.args = [demand.operand] := h.operands
  rw [Function.onText_seeking hf hargs, hargs]
  simp only [List.mapM_cons, List.mapM_nil, bind_assoc, pure_bind, true_and]
  intro values after hvalues
  have hperforms : demand.operand.value env state = _ :=
    Demand.performs_value (h.required demand (by simp)) state
  rw [Eval.bind_apply, hperforms] at hvalues
  cases htaken : (demand.visit env state).taken env.formats with
  | error error =>
    rw [htaken] at hvalues
    cases hvalues
  | ok value =>
    rw [htaken] at hvalues
    cases hvalues
    have htarget : demand.target = some .string := h.param (i := 0) rfl (by rw [hs]; rfl)
    obtain ⟨n, rfl⟩ := (Demand.taken_gives htaken _ htarget).string
    exact .text hf n

theorem searches (h : call.On subject args) (hf : call.function ∈ searching) :
    Gives env (Asks call.function) call := by
  rcases List.mem_cons.mp hf with hf | hf
  · exact h.searches_length hf
  rcases List.mem_cons.mp hf with hf | hf
  · exact h.searches_substring hf
  · exact h.searches_seeking hf

end ActiveCall.On

theorem Function.searching_subject {function : Function} (hf : function ∈ Function.searching) :
    function.family = .text ∧ function.signature.subject = some (.kind .string) ∧
      function.required? = none := by
  simp only [Function.searching, Function.seeking, List.mem_cons, List.not_mem_nil, or_false] at hf
  rcases hf with rfl | rfl | rfl | rfl | rfl | rfl | rfl | rfl | rfl | rfl | rfl <;>
    exact ⟨rfl, rfl, rfl⟩

theorem ActiveCall.value_text {call : ActiveCall} {operand : Operand}
    (hf : call.function.family = .text) (hs : call.subject = some operand) :
    call.value = operand.value >>= fun value => call.onText value.text := by
  have hsubject : call.subjectValue = operand.value := by
    simp only [ActiveCall.subjectValue, ActiveCall.rawSubject, ActiveCall.coerceSubject, hs]
    rfl
  simp only [ActiveCall.value, hf, ActiveCall.subjectText, hsubject, bind_assoc, pure_bind]

/-- A call of a function on text gives the value of that function for what its subject and its
arguments give. -/
theorem Node.CallSound.given_eval {origin : Origin} {function : Function}
    {subject : Option Node} {target : Option Kind} {args : List Node}
    {targets : List (Option Kind)} (h : CallSound origin function subject target args targets)
    (hfamily : function.family = .text)
    (hexpected : function.signature.subject = some (.kind .string))
    (hrequired : function.required? = none) {asks : List Value → Prop}
    (hgives : ∀ (call : ActiveCall) subject args env, call.On subject args →
      call.function = function → ActiveCall.On.Gives env asks call) (pattern : Option Regex) :
    ∃ operand, evalSubject target subject = some operand ∧
      ∀ env state,
        eval (.call origin function subject target args targets pattern) env state =
          function.givenBy origin.token operand (operands (evalArgs args) targets) env state ∧
        ∀ text between, operand.value env state = (.ok text, between) →
          (∃ s, text = .string s) ∧
          ∀ values after,
            (operands (evalArgs args) targets).mapM Operand.value env between =
              (.ok values, after) → asks values := by
  have hcall := h.on pattern
  obtain ⟨demand, kind, -, hoperand, hnone, hr⟩ := hcall.onSubject _ hexpected
  refine ⟨demand.operand, hoperand, fun env state => ?_⟩
  have htarget := Expectation.resolve?_kind hr
  have hvalue : demand.operand.value env state = _ :=
    Demand.performs_value (hnone.trans hrequired) state
  have hgiven := hgives _ _ _ env hcall rfl
  rw [eval, ActiveCall.value_text hfamily hoperand, Function.givenBy, Eval.bind_apply,
    Eval.bind_apply, hvalue]
  cases htaken : (demand.visit env state).taken env.formats with
  | error error => exact ⟨rfl, fun text between htext => by cases htext⟩
  | ok value =>
    obtain ⟨s, rfl⟩ := (Demand.taken_gives htaken _ htarget).string
    refine ⟨(hgiven s _).1, fun text between htext => ?_⟩
    cases htext
    exact ⟨⟨s, rfl⟩, (hgiven s _).2⟩

/-- A call of a function that searches gives the value of that function for what its subject and
its arguments give. -/
theorem Node.CallSound.searching_eval {origin : Origin} {function : Function}
    {subject : Option Node} {target : Option Kind} {args : List Node}
    {targets : List (Option Kind)} (h : CallSound origin function subject target args targets)
    (hf : function ∈ Function.searching) (pattern : Option Regex) :
    ∃ operand, evalSubject target subject = some operand ∧
      ∀ env state,
        eval (.call origin function subject target args targets pattern) env state =
          function.givenBy origin.token operand (operands (evalArgs args) targets) env state ∧
        ∀ text between, operand.value env state = (.ok text, between) →
          (∃ s, text = .string s) ∧
          ∀ values after,
            (operands (evalArgs args) targets).mapM Operand.value env between =
              (.ok values, after) → function.Asks values := by
  obtain ⟨hfamily, hexpected, hrequired⟩ := Function.searching_subject hf
  exact h.given_eval hfamily hexpected hrequired
    (fun call subject args env hcall hc => hc ▸ hcall.searches (hc ▸ hf)) pattern

namespace Compiled

/-- The functions that search agree with each other on what they are given, and in a compiled source
they are given what their subject and arguments give. No text in memory takes `2 ^ 63` bytes. -/
theorem searches_consistent (compiler : Compiler) (source : String) (compiled : Compiled)
    (h : compiler.compile source = .ok compiled) :
    (∀ node ∈ compiled.root.all, ∀ origin function subject target args targets pattern,
      node = .call origin function subject target args targets pattern →
      function ∈ Function.searching →
      ∃ operand, Node.evalSubject target subject = some operand ∧
        ∀ env state,
          node.eval env state = function.givenBy origin.token operand
            (Node.operands (Node.evalArgs args) targets) env state ∧
          ∀ text between, operand.value env state = (.ok text, between) →
            (∃ s, text = .string s) ∧
            ∀ values after,
              (Node.operands (Node.evalArgs args) targets).mapM Operand.value env between =
                (.ok values, after) → function.Asks values) ∧
    ∀ token s, Text.byteLength s.toList < 2 ^ 63 →
      ∃ length, Function.CutsBetween token s length ∧
        ∀ n, ∃ i j size, Function.SearchesAgree token s n i j length size := by
  obtain ⟨hwell, -⟩ := Compiler.compile_wellFormed h
  refine ⟨?_, fun token s hs =>
    ⟨_, Function.substring_cuts token s hs, fun n => Function.searches_agree token s n hs⟩⟩
  rintro node hn origin function subject target args targets pattern rfl hf
  have hcall : Node.CallSound origin function subject target args targets := hwell _ hn
  exact hcall.searching_eval hf pattern

/-- The tree of `${a:lastIndexOf(${b})}`. -/
def lastOfAnother : Compiled where
  source := "${a:lastIndexOf(${b})}"
  root := .call ⟨.whole, "lastIndexOf(${b})", ⟨4, 21⟩⟩ .lastIndexOf
    (some (.attribute ⟨.string, "a", ⟨2, 3⟩⟩ "a")) (some .string)
    [.attribute ⟨.string, "b", ⟨18, 19⟩⟩ "b"] [some .string] none
  formats := .standard
  slots := 0
  referenced := ["a", "b"]

theorem compile_lastOfAnother :
    Compiler.standard.compile lastOfAnother.source = .ok lastOfAnother := by
  cbv

/-- Two occurrences of a character of two bytes: the positions count characters, and the compiled
source gives the last one. -/
theorem searches_consistent_lastOfAnother :
    let env := lastOfAnother.environment
      (Record.attributes ⟨[("a", "añbñ"), ("b", "ñ")]⟩) .epoch
    Compiler.standard.compile lastOfAnother.source = .ok lastOfAnother ∧
      Text.byteLength "añbñ".toList < 2 ^ 63 ∧
      ∃ length i j size, length.toInt = 4 ∧ i = 1 ∧ j = 3 ∧
        Function.SearchesAgree "lastIndexOf(${b})" "añbñ" "ñ" i j length size ∧
        (lastOfAnother.root.eval env .fresh).1 = .ok (.number (.whole j)) := by
  intro env
  have hbound : Text.byteLength "añbñ".toList < 2 ^ 63 := by decide
  obtain ⟨hcalls, hagree⟩ := searches_consistent .standard _ _ compile_lastOfAnother
  obtain ⟨operand, hoperand, heval⟩ :=
    hcalls _ (Node.mem_all_self _) _ _ _ _ _ _ _ rfl (by decide)
  obtain ⟨length, hcuts, hall⟩ := hagree "lastIndexOf(${b})" "añbñ" hbound
  obtain ⟨i, j, size, hsearch⟩ := hall "ñ"
  cases hoperand
  have hword {k : Int64} {n : Int} (hk : (pure (.number (.whole k)) : Eval Value) =
      pure (wholeValue n)) : k = Int64.ofInt n := by
    have hvalue : (.ok (.number (.whole k)) : Except EvalCause Value) = .ok (wholeValue n) :=
      Eval.ofExcept_inj (show Eval.ofExcept "" _ = Eval.ofExcept "" _ from hk)
    cases hvalue
    rfl
  have hlength := hword (n := 4) hcuts.measure.symm
  have hi := hword (n := 1) (hsearch.indexOf.symm.trans rfl)
  have hj := hword (n := 3) (hsearch.lastIndexOf.symm.trans rfl)
  refine ⟨compile_lastOfAnother, hbound, length, i, j, size, by rw [hlength]; decide,
    hi, hj, hsearch, ?_⟩
  rw [(heval env .fresh).1, hj]
  rfl

end Compiled

end AttrExpr
