import AttrExpr.Proofs.Matching

/-! Programs of regular expressions: from where the code of a tree starts, the ways to acceptance
are those that pass what the tree matches and then what the code goes on to. -/
set_option autoImplicit false

namespace AttrExpr.Regex

open Relation (Comp comp_assoc comp_eq eq_comp)

/-- Ways through a program from an instruction at one place to acceptance at another, with the
number of instructions on them. -/
inductive Runs (code : Array Instruction) : Nat → Nat → Place → Place → Prop where
  | accept {pc : Nat} {place : Place} (h : code[pc]? = some .accept) : Runs code 0 pc place place
  | chars {n pc next : Nat} {set : Unicode.CharSet} {c : Char} {place after stop : Place}
    (h : code[pc]? = some (.chars set next)) (hnext : place.next? = some (c, after))
    (hc : set.contains c = true) (hruns : Runs code n next after stop) :
    Runs code (n + 1) pc place stop
  | look {n pc next : Nat} {condition : Look} {place stop : Place}
    (h : code[pc]? = some (.look condition next))
    (hholds : condition.holds place.before place.rest.head? = true)
    (hruns : Runs code n next place stop) : Runs code (n + 1) pc place stop
  | mark {n pc slot next : Nat} {place stop : Place} (h : code[pc]? = some (.mark slot next))
    (hruns : Runs code n next place stop) : Runs code (n + 1) pc place stop
  | first {n pc first second : Nat} {place stop : Place}
    (h : code[pc]? = some (.fork first second)) (hruns : Runs code n first place stop) :
    Runs code (n + 1) pc place stop
  | second {n pc first second : Nat} {place stop : Place}
    (h : code[pc]? = some (.fork first second)) (hruns : Runs code n second place stop) :
    Runs code (n + 1) pc place stop

section

variable {code : Array Instruction} {n pc next first second slot : Nat} {place stop : Place}

theorem Runs.at_accept (h : code[pc]? = some .accept) (hruns : Runs code n pc place stop) :
    place = stop := by
  cases hruns with
  | accept => rfl
  | chars h' | look h' | mark h' | first h' | second h' => cases h.symm.trans h'

theorem Runs.at_chars {set : Unicode.CharSet} (h : code[pc]? = some (.chars set next))
    (hruns : Runs code n pc place stop) :
    ∃ k c after, n = k + 1 ∧ place.next? = some (c, after) ∧ set.contains c = true ∧
      Runs code k next after stop := by
  cases hruns with
  | chars h' hnext hc hruns =>
    cases h.symm.trans h'
    exact ⟨_, _, _, rfl, hnext, hc, hruns⟩
  | accept h' | look h' | mark h' | first h' | second h' => cases h.symm.trans h'

theorem Runs.at_look {condition : Look} (h : code[pc]? = some (.look condition next))
    (hruns : Runs code n pc place stop) :
    ∃ k, n = k + 1 ∧ condition.holds place.before place.rest.head? = true ∧
      Runs code k next place stop := by
  cases hruns with
  | look h' hholds hruns =>
    cases h.symm.trans h'
    exact ⟨_, rfl, hholds, hruns⟩
  | accept h' | chars h' | mark h' | first h' | second h' => cases h.symm.trans h'

theorem Runs.at_mark (h : code[pc]? = some (.mark slot next))
    (hruns : Runs code n pc place stop) : ∃ k, n = k + 1 ∧ Runs code k next place stop := by
  cases hruns with
  | mark h' hruns =>
    cases h.symm.trans h'
    exact ⟨_, rfl, hruns⟩
  | accept h' | chars h' | look h' | first h' | second h' => cases h.symm.trans h'

theorem Runs.at_fork (h : code[pc]? = some (.fork first second))
    (hruns : Runs code n pc place stop) :
    ∃ k, n = k + 1 ∧ (Runs code k first place stop ∨ Runs code k second place stop) := by
  cases hruns with
  | first h' hruns =>
    cases h.symm.trans h'
    exact ⟨_, rfl, .inl hruns⟩
  | second h' hruns =>
    cases h.symm.trans h'
    exact ⟨_, rfl, .inr hruns⟩
  | accept h' | chars h' | look h' | mark h' => cases h.symm.trans h'

end

/-- Code from `start` passes what a relation relates and then goes on to `next`, with no more
instructions left than before. -/
structure Passing (code : Array Instruction) (start next : Nat) (R : Place → Place → Prop) :
    Prop where
  sound : ∀ {n : Nat} {place stop : Place}, Runs code n start place stop →
    ∃ k between, k ≤ n ∧ R place between ∧ Runs code k next between stop
  complete : ∀ {k : Nat} {place between stop : Place}, R place between →
    Runs code k next between stop → ∃ n, Runs code n start place stop

namespace Passing

variable {code : Array Instruction} {start middle next : Nat} {R S : Place → Place → Prop}

theorem here : Passing code start start Eq where
  sound hruns := ⟨_, _, Nat.le_refl _, rfl, hruns⟩
  complete h hruns := by
    cases h
    exact ⟨_, hruns⟩

theorem comp (h : Passing code start middle R) (hrest : Passing code middle next S) :
    Passing code start next (Comp R S) where
  sound hruns := by
    obtain ⟨k, between, hk, hR, hruns⟩ := h.sound hruns
    obtain ⟨m, after, hm, hS, hruns⟩ := hrest.sound hruns
    exact ⟨m, after, Nat.le_trans hm hk, ⟨between, hR, hS⟩, hruns⟩
  complete hRS hruns := by
    obtain ⟨between, hR, hS⟩ := hRS
    obtain ⟨m, hruns⟩ := hrest.complete hS hruns
    exact h.complete hR hruns

theorem chars {set : Unicode.CharSet} (h : code[start]? = some (.chars set next)) :
    Passing code start next (Tree.chars set).Leads where
  sound hruns := by
    obtain ⟨k, c, after, rfl, hnext, hc, hrest⟩ := hruns.at_chars h
    exact ⟨k, after, Nat.le_succ k, ⟨c, hnext, hc⟩, hrest⟩
  complete hR hruns := by
    obtain ⟨c, hnext, hc⟩ := hR
    exact ⟨_, .chars h hnext hc hruns⟩

theorem look {condition : Look} (h : code[start]? = some (.look condition next)) :
    Passing code start next (Tree.look condition).Leads where
  sound hruns := by
    obtain ⟨k, rfl, hholds, hrest⟩ := hruns.at_look h
    exact ⟨k, _, Nat.le_succ k, ⟨hholds, rfl⟩, hrest⟩
  complete hR hruns := by
    obtain ⟨hholds, rfl⟩ := hR
    exact ⟨_, .look h hholds hruns⟩

theorem mark {slot : Nat} (h : code[start]? = some (.mark slot next)) :
    Passing code start next Eq where
  sound hruns := by
    obtain ⟨k, rfl, hrest⟩ := hruns.at_mark h
    exact ⟨k, _, Nat.le_succ k, rfl, hrest⟩
  complete hR hruns := by
    cases hR
    exact ⟨_, .mark h hruns⟩

end Passing

/-- A choice between two instructions, whichever is preferred. -/
structure Forks (code : Array Instruction) (pc first second : Nat) : Prop where
  sound : ∀ {n : Nat} {place stop : Place}, Runs code n pc place stop →
    ∃ k, n = k + 1 ∧ (Runs code k first place stop ∨ Runs code k second place stop)
  first : ∀ {n : Nat} {place stop : Place}, Runs code n first place stop →
    Runs code (n + 1) pc place stop
  second : ∀ {n : Nat} {place stop : Place}, Runs code n second place stop →
    Runs code (n + 1) pc place stop

theorem forks {code : Array Instruction} {pc first second : Nat} (greedy : Bool)
    (h : code[pc]? = some (Emit.fork greedy first second)) : Forks code pc first second := by
  cases greedy with
  | true => exact ⟨fun hruns => hruns.at_fork h, .first h, .second h⟩
  | false =>
    refine ⟨fun hruns => ?_, .second h, .first h⟩
    obtain ⟨k, hn, hruns⟩ := hruns.at_fork h
    exact ⟨k, hn, hruns.symm⟩

namespace Forks

variable {code : Array Instruction} {pc start next : Nat} {R : Place → Place → Prop}

/-- A loop that is left after some rounds: its body leads back to the choice. -/
theorem rounds (h : Forks code pc start next) (hbody : Passing code start pc R) :
    Passing code pc next fun place stop => ∃ n, Rounds R n place stop where
  sound {n place stop} hruns := by
    induction n using Nat.strongRecOn generalizing place with
    | ind n ih =>
      obtain ⟨k, rfl, hstart | hnext⟩ := h.sound hruns
      · obtain ⟨m, between, hm, hR, hagain⟩ := hbody.sound hstart
        obtain ⟨j, after, hj, ⟨r, hrounds⟩, hnext⟩ := ih m (by omega) hagain
        refine ⟨j, after, by omega, ⟨1 + r, ?_⟩, hnext⟩
        rw [rounds_add, rounds_one]
        exact ⟨between, hR, hrounds⟩
      · exact ⟨k, place, Nat.le_succ k, ⟨0, rfl⟩, hnext⟩
  complete {k place between stop} hR hruns := by
    obtain ⟨n, hrounds⟩ := hR
    have hagain : ∃ m, Runs code m pc between stop := ⟨_, h.second hruns⟩
    clear hruns
    induction n generalizing between with
    | zero =>
      cases hrounds
      exact hagain
    | succ n ih =>
      obtain ⟨middle, hrounds, hR⟩ := hrounds
      obtain ⟨m, hagain⟩ := hagain
      obtain ⟨j, hstart⟩ := hbody.complete hR hagain
      exact ih hrounds ⟨_, h.first hstart⟩

end Forks

/-- A choice of two ways that come to the same place. -/
theorem Forks.join {code : Array Instruction} {pc first second next : Nat}
    {R S : Place → Place → Prop} (h : Forks code pc first second)
    (hfirst : Passing code first next R) (hsecond : Passing code second next S) :
    Passing code pc next fun place stop => R place stop ∨ S place stop where
  sound hruns := by
    obtain ⟨k, rfl, hrest | hrest⟩ := h.sound hruns
    · obtain ⟨m, between, hm, hR, hnext⟩ := hfirst.sound hrest
      exact ⟨m, between, Nat.le_succ_of_le hm, .inl hR, hnext⟩
    · obtain ⟨m, between, hm, hS, hnext⟩ := hsecond.sound hrest
      exact ⟨m, between, Nat.le_succ_of_le hm, .inr hS, hnext⟩
  complete hRS hruns := by
    rcases hRS with hR | hS
    · obtain ⟨m, hrest⟩ := hfirst.complete hR hruns
      exact ⟨_, h.first hrest⟩
    · obtain ⟨m, hrest⟩ := hsecond.complete hS hruns
      exact ⟨_, h.second hrest⟩

/-- Some code with more code behind it. -/
structure Extends (code more : Array Instruction) : Prop where
  size : code.size ≤ more.size
  same : ∀ i < code.size, more[i]? = code[i]?

namespace Extends

variable {code more most : Array Instruction}

theorem refl (code : Array Instruction) : Extends code code := ⟨Nat.le_refl _, fun _ _ => rfl⟩

theorem trans (h : Extends code more) (h' : Extends more most) : Extends code most :=
  ⟨Nat.le_trans h.size h'.size, fun i hi =>
    (h'.same i (Nat.lt_of_lt_of_le hi h.size)).trans (h.same i hi)⟩

theorem push (code : Array Instruction) (instruction : Instruction) :
    Extends code (code.push instruction) := by
  refine ⟨by simp, fun i hi => ?_⟩
  rw [Array.getElem?_push, if_neg (Nat.ne_of_lt hi)]

end Extends

/-- A program has all that some code has from an instruction on. -/
def Covers (whole : Array Instruction) (first : Nat) (code : Array Instruction) : Prop :=
  ∀ i, first ≤ i → i < code.size → whole[i]? = code[i]?

namespace Covers

variable {whole code more : Array Instruction} {first second : Nat}

theorem later (h : Covers whole first code) (hle : first ≤ second) : Covers whole second code :=
  fun i hi => h i (Nat.le_trans hle hi)

theorem earlier (h : Covers whole first more) (hmore : Extends code more) :
    Covers whole first code := fun i hi hsize =>
  (h i hi (Nat.lt_of_lt_of_le hsize hmore.size)).trans (hmore.same i hsize)

theorem at_push {instruction : Instruction}
    (h : Covers whole code.size (code.push instruction)) :
    whole[code.size]? = some instruction := by
  rw [h _ (Nat.le_refl _) (by simp), Array.getElem?_push_size]

end Covers

/-- What is added leaves the code before it as it is, and passes what a relation relates wherever it
is part of a program. -/
structure Emit.Codes (emit : Emit) (R : Place → Place → Prop) : Prop where
  adds : ∀ (next : Nat) (code : Array Instruction), Extends code (emit next code).2
  passing : ∀ (next : Nat) (code whole : Array Instruction),
    Covers whole code.size (emit next code).2 → Passing whole (emit next code).1 next R

namespace Emit

variable {emit first second body : Emit} {R S : Place → Place → Prop}

namespace Codes

theorem skip : Codes (fun next code => (next, code)) Eq where
  adds _ code := .refl code
  passing _ _ _ _ := .here

theorem one {instruction : Nat → Instruction}
    (h : ∀ (whole : Array Instruction) (pc next : Nat), whole[pc]? = some (instruction next) →
      Passing whole pc next R) : Codes (Emit.one instruction) R where
  adds _ code := .push code _
  passing _ code whole hcovers := h whole code.size _ hcovers.at_push

/-- The code of what comes second is written first. -/
theorem comp (hfirst : first.Codes R) (hsecond : second.Codes S) :
    Codes (fun next code => first (second next code).1 (second next code).2) (Comp R S) where
  adds next code := (hsecond.adds next code).trans (hfirst.adds _ _)
  passing next code whole hcovers := by
    have hS := hsecond.passing next code whole (hcovers.earlier (hfirst.adds _ _))
    have hR := hfirst.passing _ _ whole (hcovers.later (hsecond.adds next code).size)
    exact hR.comp hS

theorem times (hbody : body.Codes R) (n : Nat) : Codes (Emit.times body n) (Rounds R n) := by
  induction n with
  | zero => exact skip
  | succ n ih => exact ih.comp hbody

theorem literal (cs : List Char) : Codes (Emit.literal cs) (Place.Passes cs.reverse) := by
  induction cs with
  | nil => exact skip
  | cons c cs ih =>
    have hpasses : Place.Passes [c] = (Tree.chars (.single c)).Leads := by
      funext place stop
      refine propext ⟨?_, ?_⟩
      · rintro ⟨_, hnext, rfl⟩
        exact ⟨c, hnext, by simp [Unicode.CharSet.contains, Unicode.CharSet.hasCode,
          Unicode.CharSet.single]⟩
      · rintro ⟨other, hnext, hother⟩
        have hcode : c.toNat = other.toNat := by
          simp [Unicode.CharSet.contains, Unicode.CharSet.hasCode, Unicode.CharSet.single] at hother
          omega
        obtain rfl : c = other := Char.ext (UInt32.toNat_inj.mp hcode)
        exact ⟨stop, hnext, rfl⟩
    rw [List.reverse_cons, passes_append, hpasses]
    exact ih.comp (one fun whole pc next h => Passing.chars h)

end Codes

section

variable {greedy : Bool} {next exit : Nat} {code whole : Array Instruction}

theorem oneOrMore_adds (hbody : body.Codes R) (greedy : Bool) (next : Nat)
    (code : Array Instruction) : Extends code (oneOrMore greedy body next code).2 := by
  have hadds := (Extends.push code .accept).trans (hbody.adds code.size (code.push .accept))
  refine ⟨?_, fun i hi => ?_⟩
  · simpa [oneOrMore] using hadds.size
  · rw [← hadds.same i hi]
    exact Array.getElem?_setIfInBounds_ne (Nat.ne_of_gt hi)

/-- The loop of a repetition: the code of its body leads back to a choice. -/
theorem oneOrMore_loops (hbody : body.Codes R)
    (h : Covers whole code.size (oneOrMore greedy body next code).2) :
    Forks whole code.size (oneOrMore greedy body next code).1 next ∧
      Passing whole (oneOrMore greedy body next code).1 code.size R := by
  have hadds := hbody.adds code.size (code.push .accept)
  have hsize : code.size < (body code.size (code.push .accept)).2.size := by
    simpa [Nat.succ_le_iff] using hadds.size
  refine ⟨forks greedy ?_, hbody.passing _ _ whole fun i hi hlt => ?_⟩
  · rw [h _ (Nat.le_refl _) (by simpa [oneOrMore] using hsize)]
    exact Array.getElem?_setIfInBounds_self_of_lt hsize
  · have hi : code.size < i := by simpa [Nat.succ_le_iff] using hi
    rw [h i (Nat.le_of_lt hi) (by simpa [oneOrMore] using hlt)]
    exact Array.getElem?_setIfInBounds_ne (Nat.ne_of_lt hi)

theorem oneOrMore_codes (hbody : body.Codes R) :
    Codes (oneOrMore greedy body) (Comp R fun place stop => ∃ n, Rounds R n place stop) where
  adds next code := oneOrMore_adds hbody greedy next code
  passing next code whole h := by
    obtain ⟨hforks, hpassing⟩ := oneOrMore_loops hbody h
    exact hpassing.comp (hforks.rounds hpassing)

/-- A round and any number of rounds, or none at all. -/
theorem rounds_some (R : Place → Place → Prop) :
    (fun place stop => Comp R (fun place stop => ∃ n, Rounds R n place stop) place stop ∨
      place = stop) = fun place stop => ∃ n, Rounds R n place stop := by
  funext place stop
  refine propext ⟨?_, ?_⟩
  · rintro (⟨between, hR, n, hrounds⟩ | h)
    · refine ⟨1 + n, ?_⟩
      rw [rounds_add, rounds_one]
      exact ⟨between, hR, hrounds⟩
    · exact ⟨0, h⟩
  · rintro ⟨n, hrounds⟩
    cases n with
    | zero => exact .inr hrounds
    | succ n =>
      rw [Nat.add_comm, rounds_add, rounds_one] at hrounds
      obtain ⟨between, hR, hrounds⟩ := hrounds
      exact .inl ⟨between, hR, n, hrounds⟩

theorem anyNumber_codes (hbody : body.Codes R) (isNonempty : Bool) :
    Codes (anyNumber greedy isNonempty body) fun place stop => ∃ n, Rounds R n place stop := by
  cases isNonempty with
  | true =>
    refine ⟨fun next code => oneOrMore_adds hbody greedy next code, fun next code whole h => ?_⟩
    obtain ⟨hforks, hpassing⟩ := oneOrMore_loops hbody h
    exact hforks.rounds hpassing
  | false =>
    have hadds (next : Nat) (code : Array Instruction) := oneOrMore_adds hbody greedy next code
    refine ⟨fun next code => (hadds next code).trans (.push _ _), fun next code whole h => ?_⟩
    have hmore := (oneOrMore_codes hbody).passing next code whole (h.earlier (.push _ _))
    have hforks := forks _ (h.later (hadds next code).size).at_push
    rw [← rounds_some]
    exact hforks.join hmore .here

/-- At most a number of rounds: something else comes after the last one. -/
def Attempts (R S : Place → Place → Prop) (n : Nat) (place stop : Place) : Prop :=
  Comp (Rounds R n) S place stop ∨ ∃ k < n, Rounds R k place stop

theorem attempts_zero (R S : Place → Place → Prop) : Attempts R S 0 = S := by
  funext place stop
  simp [Attempts, Rounds, eq_comp]

theorem attempts_succ (R S : Place → Place → Prop) (n : Nat) :
    Attempts R S (n + 1) = Attempts R (fun place stop => Comp R S place stop ∨ place = stop) n := by
  funext place stop
  refine propext ⟨?_, ?_⟩
  · rintro (h | ⟨k, hk, hrounds⟩)
    · rw [Rounds, comp_assoc] at h
      obtain ⟨between, hrounds, hrest⟩ := h
      exact .inl ⟨between, hrounds, .inl hrest⟩
    · rcases Nat.lt_succ_iff_lt_or_eq.mp hk with hk | rfl
      · exact .inr ⟨k, hk, hrounds⟩
      · exact .inl ⟨stop, hrounds, .inr rfl⟩
  · rintro (⟨between, hrounds, hrest | rfl⟩ | ⟨k, hk, hrounds⟩)
    · refine .inl ?_
      rw [Rounds, comp_assoc]
      exact ⟨between, hrounds, hrest⟩
    · exact .inr ⟨n, Nat.lt_succ_self n, hrounds⟩
    · exact .inr ⟨k, Nat.lt_succ_of_lt hk, hrounds⟩

theorem attempts_eq (R : Place → Place → Prop) (n : Nat) :
    Attempts R Eq n = fun place stop => ∃ k ≤ n, Rounds R k place stop := by
  funext place stop
  rw [Attempts, comp_eq]
  refine propext ⟨?_, ?_⟩
  · rintro (hrounds | ⟨k, hk, hrounds⟩)
    · exact ⟨n, Nat.le_refl n, hrounds⟩
    · exact ⟨k, Nat.le_of_lt hk, hrounds⟩
  · rintro ⟨k, hk, hrounds⟩
    rcases Nat.lt_or_eq_of_le hk with hk | rfl
    · exact .inr ⟨k, hk, hrounds⟩
    · exact .inl hrounds

theorem upTo_adds (hbody : body.Codes R) (greedy : Bool) (exit n next : Nat)
    (code : Array Instruction) : Extends code (upTo greedy body exit n next code).2 := by
  induction n generalizing next code with
  | zero => exact .refl code
  | succ n ih => exact ((hbody.adds next code).trans (.push _ _)).trans (ih _ _)

theorem upTo_passing (hbody : body.Codes R) (n : Nat)
    (h : Covers whole code.size (upTo greedy body exit n next code).2)
    (hnext : Passing whole next exit S) :
    Passing whole (upTo greedy body exit n next code).1 exit (Attempts R S n) := by
  induction n generalizing next code S with
  | zero =>
    rw [attempts_zero]
    exact hnext
  | succ n ih =>
    have hrest := upTo_adds hbody greedy exit n
    have hadds := hbody.adds next code
    have hround := hbody.passing next code whole
      (h.earlier ((Extends.push _ _).trans (hrest _ _)))
    have hforks := forks _ ((h.later hadds.size).earlier (hrest _ _)).at_push
    rw [attempts_succ]
    exact ih (h.later (hadds.trans (.push _ _)).size) (hforks.join (hround.comp hnext) .here)

theorem upTo_codes (hbody : body.Codes R) (greedy : Bool) (n : Nat) :
    Codes (fun next code => upTo greedy body next n next code) fun place stop =>
      ∃ k ≤ n, Rounds R k place stop where
  adds next code := upTo_adds hbody greedy next n next code
  passing next code whole h := by
    rw [← attempts_eq]
    exact upTo_passing hbody n h .here

end

theorem Codes.congr (h : emit.Codes R) (hRS : ∀ place stop, R place stop ↔ S place stop) :
    emit.Codes S := by
  obtain rfl : R = S := funext fun place => funext fun stop => propext (hRS place stop)
  exact h

/-- Some rounds and then more of them. -/
theorem comp_rounds (R : Place → Place → Prop) (low : Nat) (P : Nat → Prop) (place stop : Place) :
    Comp (Rounds R low) (fun place stop => ∃ k, P k ∧ Rounds R k place stop) place stop ↔
      ∃ n, low ≤ n ∧ P (n - low) ∧ Rounds R n place stop := by
  constructor
  · rintro ⟨between, hlow, k, hP, hk⟩
    refine ⟨low + k, Nat.le_add_right low k, by simpa using hP, ?_⟩
    rw [rounds_add]
    exact ⟨between, hlow, hk⟩
  · rintro ⟨n, hlow, hP, hrounds⟩
    obtain ⟨k, rfl⟩ := Nat.exists_eq_add_of_le hlow
    rw [rounds_add] at hrounds
    obtain ⟨between, hfirst, hrest⟩ := hrounds
    exact ⟨between, hfirst, k, by simpa using hP, hrest⟩

theorem repeated_codes (hbody : body.Codes R) (low : Nat) (high : Option Nat)
    (greedy isNonempty : Bool) :
    Codes (repeated low high greedy isNonempty body) fun place stop =>
      ∃ n, low ≤ n ∧ (∀ m, high = some m → n ≤ max low m) ∧ Rounds R n place stop := by
  cases high with
  | none =>
    cases low with
    | zero =>
      change Codes (anyNumber greedy isNonempty body) _
      exact (anyNumber_codes hbody isNonempty).congr fun place stop => by simp
    | succ low =>
      have hmore : (oneOrMore greedy body).Codes fun place stop =>
          ∃ k, 1 ≤ k ∧ Rounds R k place stop :=
        (oneOrMore_codes hbody).congr fun place stop => by
          simpa [rounds_one] using comp_rounds R 1 (fun _ => True) place stop
      change Codes (fun next code => Emit.times body low (oneOrMore greedy body next code).1
        (oneOrMore greedy body next code).2) _
      refine ((Codes.times hbody low).comp hmore).congr fun place stop => ?_
      rw [comp_rounds]
      refine exists_congr fun n => ⟨?_, ?_⟩
      · rintro ⟨hlow, hone, hrounds⟩
        exact ⟨by omega, by simp, hrounds⟩
      · rintro ⟨hlow, -, hrounds⟩
        exact ⟨by omega, by omega, hrounds⟩
  | some m =>
    have hcodes := (Codes.times hbody low).comp (upTo_codes hbody greedy (m - low))
    have hrepeated : repeated low (some m) greedy isNonempty body = fun next code =>
        Emit.times body low (upTo greedy body next (m - low) next code).1
          (upTo greedy body next (m - low) next code).2 := by
      cases low <;> rfl
    rw [hrepeated]
    refine hcodes.congr fun place stop => ?_
    rw [comp_rounds]
    refine exists_congr fun n => ⟨?_, ?_⟩
    · rintro ⟨hlow, hm, hrounds⟩
      refine ⟨hlow, fun k hk => ?_, hrounds⟩
      cases hk
      omega
    · rintro ⟨hlow, hm, hrounds⟩
      have hn := hm m rfl
      exact ⟨hlow, by omega, hrounds⟩

/-- A choice is written after its two ways, the preferred one last. -/
theorem Codes.fork (hfirst : first.Codes R) (hsecond : second.Codes S) :
    Codes (fun next code =>
      let (b, code) := second next code
      let (a, code) := first next code
      (code.size, code.push (.fork a b))) fun place stop => R place stop ∨ S place stop where
  adds next code := ((hsecond.adds next code).trans (hfirst.adds next _)).trans (.push _ _)
  passing next code whole hcovers := by
    have hb := hsecond.adds next code
    have ha := hfirst.adds next (second next code).2
    have hforks := forks true (hcovers.later (hb.trans ha).size).at_push
    have hcovers := hcovers.earlier (.push _ _)
    exact hforks.join (hfirst.passing next _ whole (hcovers.later hb.size))
      (hsecond.passing next code whole (hcovers.earlier ha))

end Emit

/-- The code of a tree passes what the tree matches. -/
theorem Tree.emit_codes (tree : Tree) : tree.emit.Codes tree.Leads := by
  induction tree with
  | empty => exact .skip
  | literal cs =>
    have hcodes := Emit.Codes.literal cs.reverse
    rw [List.reverse_reverse] at hcodes
    exact hcodes
  | chars set => exact .one fun whole pc next h => Passing.chars h
  | look condition => exact .one fun whole pc next h => Passing.look h
  | sequence first second ihfirst ihsecond => exact ihfirst.comp ihsecond
  | either first second ihfirst ihsecond => exact ihfirst.fork ihsecond
  | repeated low high greedy body ih => exact Emit.repeated_codes ih low high greedy body.isNonempty
  | group index body ih =>
    have hmark (slot : Nat) : (Emit.one (.mark slot)).Codes Eq :=
      .one fun whole pc next h => Passing.mark h
    have hcodes := (hmark (2 * index)).comp (ih.comp (hmark (2 * index + 1)))
    rw [comp_eq, eq_comp] at hcodes
    exact hcodes

/-- The ways through the program of a tree are the matches of the tree. -/
theorem Tree.program_runs (tree : Tree) (place stop : Place) :
    (∃ n, Runs tree.program.code n tree.program.start place stop) ↔ tree.Leads place stop := by
  have hadds := tree.emit_codes.adds 0 #[.accept]
  have hpassing := tree.emit_codes.passing 0 #[.accept] tree.program.code fun _ _ _ => rfl
  have haccept : tree.program.code[0]? = some .accept := hadds.same 0 (by simp)
  constructor
  · rintro ⟨n, hruns⟩
    obtain ⟨k, between, -, hleads, hruns⟩ := hpassing.sound hruns
    obtain rfl := hruns.at_accept haccept
    exact hleads
  · exact fun hleads => hpassing.complete hleads (.accept haccept)

end AttrExpr.Regex
