import AttrExpr.Proofs.Programs
import Mathlib.Data.Finset.Card

/-! Searching finds a match if there is one: a text matches if and only if a way through the program
starts at one of its places and comes to acceptance. -/
set_option autoImplicit false

namespace AttrExpr.Regex

/-- Some way leads to acceptance from an instruction at a place. -/
def Alive (code : Array Instruction) (pc : Nat) (place : Place) : Prop :=
  ∃ n stop, Runs code n pc place stop

/-- A thread that waits for a character gets it and is alive then. -/
def Waits (code : Array Instruction) (place : Place) (entry : Unicode.CharSet × Thread) : Prop :=
  ∃ c after, place.next? = some (c, after) ∧ entry.1.contains c = true ∧
    Alive code entry.2.pc after

section

variable {code : Array Instruction} {pc next first second slot : Nat} {place : Place}

theorem alive_chars {set : Unicode.CharSet} (t : Thread)
    (h : code[pc]? = some (.chars set next)) (ht : t.pc = next) :
    Alive code pc place ↔ Waits code place (set, t) := by
  subst ht
  constructor
  · rintro ⟨n, stop, hruns⟩
    obtain ⟨k, c, after, -, hnext, hc, hrest⟩ := hruns.at_chars h
    exact ⟨c, after, hnext, hc, k, stop, hrest⟩
  · rintro ⟨c, after, hnext, hc, k, stop, hrest⟩
    exact ⟨_, stop, .chars h hnext hc hrest⟩

theorem alive_look {condition : Look} (h : code[pc]? = some (.look condition next)) :
    Alive code pc place ↔
      condition.holds place.before place.rest.head? = true ∧ Alive code next place := by
  constructor
  · rintro ⟨n, stop, hruns⟩
    obtain ⟨k, -, hholds, hrest⟩ := hruns.at_look h
    exact ⟨hholds, k, stop, hrest⟩
  · rintro ⟨hholds, k, stop, hrest⟩
    exact ⟨_, stop, .look h hholds hrest⟩

theorem alive_mark (h : code[pc]? = some (.mark slot next)) :
    Alive code pc place ↔ Alive code next place := by
  constructor
  · rintro ⟨n, stop, hruns⟩
    obtain ⟨k, -, hrest⟩ := hruns.at_mark h
    exact ⟨k, stop, hrest⟩
  · rintro ⟨k, stop, hrest⟩
    exact ⟨_, stop, .mark h hrest⟩

theorem alive_fork (h : code[pc]? = some (.fork first second)) :
    Alive code pc place ↔ Alive code first place ∨ Alive code second place := by
  constructor
  · rintro ⟨n, stop, hruns⟩
    obtain ⟨k, -, hrest | hrest⟩ := hruns.at_fork h
    · exact .inl ⟨k, stop, hrest⟩
    · exact .inr ⟨k, stop, hrest⟩
  · rintro (⟨k, stop, hrest⟩ | ⟨k, stop, hrest⟩)
    · exact ⟨_, stop, .first h hrest⟩
    · exact ⟨_, stop, .second h hrest⟩

end

/-- A front with a match, or with a thread that waits for what comes. -/
def Front.Alive (code : Array Instruction) (place : Place) (front : Front) : Prop :=
  front.found.isSome = true ∨ ∃ entry ∈ front.waiting, Waits code place entry

section

variable {program : Program} {place : Place}

/-- What is alive after threads were followed was alive before. -/
theorem settle_alive (fuel : Nat) (seen : Std.HashSet Nat)
    (waiting : List (Unicode.CharSet × Thread)) (threads : List Thread)
    (h : (settle program place fuel seen waiting threads).Alive program.code place) :
    (∃ entry ∈ waiting, Waits program.code place entry) ∨
      ∃ t ∈ threads, Alive program.code t.pc place := by
  fun_induction settle program place fuel seen waiting threads with
  | case1 | case2 =>
    refine .inl ?_
    simpa [Front.Alive] using h
  | case3 fuel seen waiting t threads hseen ih =>
    exact (ih h).imp_right fun halive => by simp [halive]
  | case4 fuel seen waiting t threads hseen _ hnone ih =>
    exact (ih h).imp_right fun halive => by simp [halive]
  | case5 fuel seen waiting t threads hseen haccept =>
    exact .inr ⟨t, by simp, 0, place, .accept haccept⟩
  | case6 fuel seen waiting t threads hseen _ set next hchars ih =>
    rw [List.exists_mem_cons_iff, alive_chars ⟨next, t.start, t.marks⟩ hchars rfl]
    simpa [or_assoc, or_left_comm] using ih h
  | case7 fuel seen waiting t threads hseen _ condition next hlook hholds ih =>
    rw [List.exists_mem_cons_iff, alive_look hlook]
    simpa [hholds] using ih h
  | case8 fuel seen waiting t threads hseen _ condition next hlook hholds ih =>
    exact (ih h).imp_right fun halive => by simp [halive]
  | case9 fuel seen waiting t threads hseen _ slot next hmark ih =>
    rw [List.exists_mem_cons_iff, alive_mark hmark]
    simpa using ih h
  | case10 fuel seen waiting t threads hseen _ first second hfork ih =>
    rw [List.exists_mem_cons_iff, alive_fork hfork, or_assoc]
    simpa using ih h

/-- What an instruction leads to is known, and if it waits for a character, it is waited for. -/
def Onward (known : Nat → Prop) (waiting : List (Unicode.CharSet × Thread)) (place : Place) :
    Option Instruction → Prop
  | none => True
  | some .accept => False
  | some (.chars set next) => ∃ t : Thread, t.pc = next ∧ (set, t) ∈ waiting
  | some (.look condition next) =>
    condition.holds place.before place.rest.head? = true → known next
  | some (.mark _ next) => known next
  | some (.fork first second) => known first ∧ known second

theorem Onward.mono {known other : Nat → Prop} {waiting more : List (Unicode.CharSet × Thread)}
    (hknown : ∀ pc, known pc → other pc) (hmore : ∀ entry ∈ waiting, entry ∈ more)
    {instruction : Option Instruction} (h : Onward known waiting place instruction) :
    Onward other more place instruction := by
  unfold Onward at h ⊢
  split at h
  · trivial
  · exact h
  · obtain ⟨t, ht, hmem⟩ := h
    exact ⟨t, ht, hmore _ hmem⟩
  · exact fun hholds => hknown _ (h hholds)
  · exact hknown _ h
  · exact ⟨hknown _ h.1, hknown _ h.2⟩

/-- When all that is known leads on to what is known, one of the threads that wait goes on for all
that is alive. -/
theorem Alive.waits {code : Array Instruction} {known : Nat → Prop}
    {waiting : List (Unicode.CharSet × Thread)}
    (honward : ∀ pc, known pc → Onward known waiting place code[pc]?) {pc : Nat} (hpc : known pc)
    (h : Alive code pc place) : ∃ entry ∈ waiting, Waits code place entry := by
  obtain ⟨n, stop, hruns⟩ := h
  have hnext := honward pc hpc
  induction hruns with
  | accept h =>
    rw [h] at hnext
    exact hnext.elim
  | chars h hplace hc hruns =>
    rw [h] at hnext
    obtain ⟨t, rfl, hmem⟩ := hnext
    exact ⟨_, hmem, _, _, hplace, hc, _, _, hruns⟩
  | look h hholds _ ih =>
    rw [h] at hnext
    exact ih honward (hnext hholds) (honward _ (hnext hholds))
  | mark h _ ih =>
    rw [h] at hnext
    exact ih honward hnext (honward _ hnext)
  | first h _ ih =>
    rw [h] at hnext
    exact ih honward hnext.1 (honward _ hnext.1)
  | second h _ ih =>
    rw [h] at hnext
    exact ih honward hnext.2 (honward _ hnext.2)

/-- The instructions that were not seen yet. -/
def unseen (code : Array Instruction) (seen : Std.HashSet Nat) : Finset Nat :=
  (Finset.range code.size).filter fun pc => seen.contains pc = false

theorem card_unseen_insert_le (code : Array Instruction) (seen : Std.HashSet Nat) (pc : Nat) :
    (unseen code (seen.insert pc)).card ≤ (unseen code seen).card := by
  refine Finset.card_le_card fun i hi => ?_
  simp only [unseen, Finset.mem_filter, Finset.mem_range, Std.HashSet.contains_insert,
    Bool.or_eq_false_iff] at hi ⊢
  exact ⟨hi.1, hi.2.2⟩

theorem card_unseen_insert_lt {code : Array Instruction} {seen : Std.HashSet Nat} {pc : Nat}
    {instruction : Instruction} (h : code[pc]? = some instruction)
    (hseen : ¬ seen.contains pc = true) :
    (unseen code (seen.insert pc)).card < (unseen code seen).card := by
  obtain ⟨hsize, -⟩ := Array.getElem?_eq_some_iff.mp h
  refine Finset.card_lt_card (Finset.ssubset_iff_subset_ne.mpr ⟨fun i hi => ?_, fun heq => ?_⟩)
  · simp only [unseen, Finset.mem_filter, Finset.mem_range, Std.HashSet.contains_insert,
      Bool.or_eq_false_iff] at hi ⊢
    exact ⟨hi.1, hi.2.2⟩
  · have hpc : pc ∈ unseen code seen := by
      simp only [unseen, Finset.mem_filter, Finset.mem_range]
      exact ⟨hsize, by simpa using hseen⟩
    rw [← heq] at hpc
    simp [unseen] at hpc

/-- What is known when threads are followed: what was seen, and where threads are. -/
def Known (seen : Std.HashSet Nat) (threads : List Thread) (pc : Nat) : Prop :=
  seen.contains pc = true ∨ ∃ t ∈ threads, t.pc = pc

/-- What was seen leads on to what is known. -/
def Explored (code : Array Instruction) (place : Place) (seen : Std.HashSet Nat)
    (waiting : List (Unicode.CharSet × Thread)) (threads : List Thread) : Prop :=
  ∀ pc, seen.contains pc = true → Onward (Known seen threads) waiting place code[pc]?

/-- A thread where one has been adds nothing. -/
theorem Known.tail {seen : Std.HashSet Nat} {t : Thread} {threads : List Thread} {pc : Nat}
    (h : Known seen (t :: threads) pc) (hseen : seen.contains t.pc = true) :
    Known seen threads pc := by
  rcases h with h | ⟨other, hmem, rfl⟩
  · exact .inl h
  · rcases List.mem_cons.mp hmem with rfl | hmem
    · exact .inl hseen
    · exact .inr ⟨other, hmem, rfl⟩

/-- Following a thread forgets nothing. -/
theorem Known.follow {seen : Std.HashSet Nat} {t : Thread} {threads others : List Thread} {pc : Nat}
    (h : Known seen (t :: threads) pc) (hothers : ∀ t ∈ threads, t ∈ others) :
    Known (seen.insert t.pc) others pc := by
  rcases h with h | ⟨other, hmem, rfl⟩
  · exact .inl (by simp [Std.HashSet.contains_insert, h])
  · rcases List.mem_cons.mp hmem with rfl | hmem
    · exact .inl (by simp [Std.HashSet.contains_insert])
    · exact .inr ⟨other, hothers other hmem, rfl⟩

theorem Explored.follow {code : Array Instruction} {seen : Std.HashSet Nat}
    {waiting more : List (Unicode.CharSet × Thread)} {t : Thread} {threads others : List Thread}
    (h : Explored code place seen waiting (t :: threads))
    (hmore : ∀ entry ∈ waiting, entry ∈ more) (hothers : ∀ t ∈ threads, t ∈ others)
    (ht : Onward (Known (seen.insert t.pc) others) more place code[t.pc]?) :
    Explored code place (seen.insert t.pc) more others := by
  intro pc hpc
  by_cases heq : pc = t.pc
  · rw [heq]
    exact ht
  · have hseen : seen.contains pc = true := by
      simpa [Std.HashSet.contains_insert, Ne.symm heq] using hpc
    exact (h pc hseen).mono (fun other hother => hother.follow hothers) hmore

/-- All that was seen or where threads are leads on, to what waits for a character in the end. -/
def LeadsOn (code : Array Instruction) (place : Place) (seen : Std.HashSet Nat)
    (threads : List Thread) (waiting : List (Unicode.CharSet × Thread)) : Prop :=
  ∃ known : Nat → Prop, (∀ pc, Known seen threads pc → known pc) ∧
    ∀ pc, known pc → Onward known waiting place code[pc]?

theorem LeadsOn.of_follow {code : Array Instruction} {seen : Std.HashSet Nat}
    {waiting : List (Unicode.CharSet × Thread)} {t : Thread} {threads others : List Thread}
    (h : LeadsOn code place (seen.insert t.pc) others waiting)
    (hothers : ∀ t ∈ threads, t ∈ others) : LeadsOn code place seen (t :: threads) waiting := by
  obtain ⟨known, hall, honward⟩ := h
  exact ⟨known, fun pc hpc => hall pc (hpc.follow hothers), honward⟩

/-- One round: the thread is followed to others, or to what waits. -/
theorem Explored.round {code : Array Instruction} {seen : Std.HashSet Nat}
    {waiting more result : List (Unicode.CharSet × Thread)} {t : Thread}
    {threads others : List Thread} (h : Explored code place seen waiting (t :: threads))
    (hmore : ∀ entry ∈ waiting, entry ∈ more) (hothers : ∀ t ∈ threads, t ∈ others)
    (ht : Onward (Known (seen.insert t.pc) others) more place code[t.pc]?)
    (rounds : Explored code place (seen.insert t.pc) more others →
      LeadsOn code place (seen.insert t.pc) others result) :
    LeadsOn code place seen (t :: threads) result :=
  (rounds (h.follow hmore hothers ht)).of_follow hothers

/-- If no match is found, threads are followed to where they wait. -/
theorem settle_leadsOn (fuel : Nat) (seen : Std.HashSet Nat)
    (waiting : List (Unicode.CharSet × Thread)) (threads : List Thread)
    (hfuel : 2 * (unseen program.code seen).card + threads.length < fuel)
    (h : Explored program.code place seen waiting threads)
    (hnone : (settle program place fuel seen waiting threads).found = none) :
    LeadsOn program.code place seen threads
      (settle program place fuel seen waiting threads).waiting := by
  fun_induction settle program place fuel seen waiting threads with
  | case1 => omega
  | case2 fuel seen waiting =>
    refine ⟨Known seen [], fun _ hpc => hpc, fun pc hpc => ?_⟩
    have hseen : seen.contains pc = true := by simpa [Known] using hpc
    exact (h pc hseen).mono (fun _ hpc => hpc) fun _ hmem => List.mem_reverse.mpr hmem
  | case3 fuel seen waiting t threads hseen ih =>
    obtain ⟨known, hall, honward⟩ := ih (by simp at hfuel; omega)
      (fun pc hpc => (h pc hpc).mono (fun _ hknown => hknown.tail hseen) fun _ hmem => hmem) hnone
    exact ⟨known, fun pc hpc => hall pc (hpc.tail hseen), honward⟩
  | case4 fuel seen waiting t threads hseen seen' hnothing ih =>
    have hcard : (unseen program.code seen').card ≤ _ := card_unseen_insert_le _ seen t.pc
    exact h.round (fun _ hmem => hmem) (fun _ hmem => hmem) (by rw [hnothing]; trivial)
      fun hexplored => ih (by simp at hfuel; omega) hexplored hnone
  | case5 fuel seen waiting t threads hseen haccept => cases hnone
  | case6 fuel seen waiting t threads hseen seen' set next hchars ih =>
    have hcard : (unseen program.code seen').card ≤ _ := card_unseen_insert_le _ seen t.pc
    refine h.round (fun _ hmem => List.mem_cons_of_mem _ hmem) (fun _ hmem => hmem) ?_
      fun hexplored => ih (by simp at hfuel; omega) hexplored hnone
    rw [hchars]
    exact ⟨_, rfl, List.mem_cons_self⟩
  | case7 fuel seen waiting t threads hseen seen' condition next hlook hholds ih =>
    have hcard : (unseen program.code seen').card < _ := card_unseen_insert_lt hlook hseen
    refine h.round (fun _ hmem => hmem) (fun _ hmem => List.mem_cons_of_mem _ hmem) ?_
      fun hexplored => ih (by simp at hfuel ⊢; omega) hexplored hnone
    rw [hlook]
    exact fun _ => .inr ⟨_, List.mem_cons_self, rfl⟩
  | case8 fuel seen waiting t threads hseen seen' condition next hlook hholds ih =>
    have hcard : (unseen program.code seen').card ≤ _ := card_unseen_insert_le _ seen t.pc
    refine h.round (fun _ hmem => hmem) (fun _ hmem => hmem) ?_
      fun hexplored => ih (by simp at hfuel; omega) hexplored hnone
    rw [hlook]
    exact fun h => absurd h hholds
  | case9 fuel seen waiting t threads hseen seen' slot next hmark ih =>
    have hcard : (unseen program.code seen').card < _ := card_unseen_insert_lt hmark hseen
    refine h.round (fun _ hmem => hmem) (fun _ hmem => List.mem_cons_of_mem _ hmem) ?_
      fun hexplored => ih (by simp at hfuel ⊢; omega) hexplored hnone
    rw [hmark]
    exact .inr ⟨_, List.mem_cons_self, rfl⟩
  | case10 fuel seen waiting t threads hseen seen' first second hfork ih =>
    have hcard : (unseen program.code seen').card < _ := card_unseen_insert_lt hfork hseen
    refine h.round (fun _ hmem => hmem) (fun _ hmem => by simp [hmem]) ?_
      fun hexplored => ih (by simp at hfuel ⊢; omega) hexplored hnone
    rw [hfork]
    exact ⟨.inr ⟨{ t with pc := first }, by simp, rfl⟩,
      .inr ⟨{ t with pc := second }, by simp, rfl⟩⟩

/-- The front has a match or goes on if and only if one of the threads is alive. -/
theorem Program.front_alive (program : Program) (place : Place) (threads : List Thread) :
    (program.front place threads).Alive program.code place ↔
      ∃ t ∈ threads, Alive program.code t.pc place := by
  constructor
  · intro h
    simpa using settle_alive _ _ _ _ h
  · rintro ⟨t, hmem, halive⟩
    rw [Front.Alive, or_iff_not_imp_left]
    intro hnone
    have hfuel : 2 * (unseen program.code ∅).card + threads.length <
        2 * program.code.size + threads.length + 1 := by
      have hcard : (unseen program.code ∅).card ≤ program.code.size :=
        (Finset.card_filter_le _ _).trans_eq (Finset.card_range _)
      omega
    obtain ⟨known, hall, honward⟩ := settle_leadsOn _ ∅ [] threads hfuel
      (fun pc hpc => by simp at hpc) (Option.not_isSome_iff_eq_none.mp hnone)
    exact halive.waits honward (hall _ (.inr ⟨t, hmem, rfl⟩))

end

namespace Place

theorem advance_of_end {place : Place} (h : place.rest = []) (n : Nat) :
    place.advance n = place := by
  cases n with
  | zero => rfl
  | succ n => rw [advance, next?, h]

theorem exists_advance {P : Place → Prop} (place : Place) :
    (∃ n, P (place.advance n)) ↔
      P place ∨ ∃ c after, place.next? = some (c, after) ∧ ∃ n, P (after.advance n) := by
  constructor
  · rintro ⟨n, hn⟩
    cases n with
    | zero => exact .inl hn
    | succ n =>
      rw [advance] at hn
      split at hn
      · next c after hnext => exact .inr ⟨c, after, hnext, n, hn⟩
      · exact .inl hn
  · rintro (h | ⟨c, after, hnext, n, hn⟩)
    · exact ⟨0, h⟩
    · refine ⟨n + 1, ?_⟩
      rwa [advance, hnext]

end Place

namespace Program

variable (program : Program)

theorem findFrom_of_found (rest : List Char) (before : Option Char) (position : Nat)
    {found : Option Match} (threads : List Thread) (h : found.isSome = true) :
    (program.findFrom rest before position found threads).isSome = true := by
  induction rest generalizing before position found threads with
  | nil =>
    rw [findFrom]
    simp [h]
  | cons c cs ih =>
    rw [findFrom]
    dsimp only
    generalize program.front _ _ = front
    have hfound : (front.found.or found).isSome = true := by simp [h]
    split
    · exact hfound
    · exact ih _ _ _ hfound

theorem waits_cons (code : Array Instruction) (position : Nat) (before : Option Char) (c : Char)
    (cs : List Char) (entry : Unicode.CharSet × Thread) :
    Waits code ⟨position, before, c :: cs⟩ entry ↔
      entry.1.contains c = true ∧ Alive code entry.2.pc ⟨position + 1, some c, cs⟩ := by
  constructor
  · rintro ⟨_, _, hnext, hc, halive⟩
    cases hnext
    exact ⟨hc, halive⟩
  · rintro ⟨hc, halive⟩
    exact ⟨c, _, rfl, hc, halive⟩

/-- The threads that take a character are alive after it just when what waits for it is. -/
theorem alive_after_char (code : Array Instruction) (position : Nat) (before : Option Char)
    (c : Char) (cs : List Char) (waiting : List (Unicode.CharSet × Thread)) :
    (∃ t ∈ waiting.filterMap fun (set, t) => if set.contains c then some t else none,
        Alive code t.pc ⟨position + 1, some c, cs⟩) ↔
      ∃ entry ∈ waiting, Waits code ⟨position, before, c :: cs⟩ entry := by
  simp only [waits_cons, List.mem_filterMap]
  constructor
  · rintro ⟨t, ⟨⟨set, t'⟩, hmem, hif⟩, halive⟩
    split at hif
    · next hc =>
      cases hif
      exact ⟨_, hmem, hc, halive⟩
    · cases hif
  · rintro ⟨⟨set, t⟩, hmem, hc, halive⟩
    exact ⟨t, ⟨_, hmem, if_pos hc⟩, halive⟩

/-- The front of the threads and one that starts at the place. -/
theorem front_alive_start (place : Place) (threads : List Thread) :
    (program.front place (threads ++ [⟨program.start, place.position, []⟩])).Alive program.code
        place ↔
      (∃ t ∈ threads, Alive program.code t.pc place) ∨
        Alive program.code program.start place := by
  rw [front_alive]
  simp only [List.mem_append, List.mem_singleton, or_and_right, exists_or, exists_eq_left]

/-- The search that has found nothing so far finds something if a thread is alive, or one that
starts here or later. -/
theorem findFrom_isSome (rest : List Char) (before : Option Char) (position : Nat)
    (threads : List Thread) :
    (program.findFrom rest before position none threads).isSome = true ↔
      (∃ t ∈ threads, Alive program.code t.pc ⟨position, before, rest⟩) ∨
        ∃ n, Alive program.code program.start (Place.advance n ⟨position, before, rest⟩) := by
  induction rest generalizing before position threads with
  | nil =>
    have hfront := program.front_alive_start ⟨position, before, []⟩ threads
    have hwaits (entry : Unicode.CharSet × Thread) :
        ¬ Waits program.code ⟨position, before, []⟩ entry := by
      rintro ⟨_, _, hnext, -⟩
      cases hnext
    simp only [Front.Alive, hwaits, and_false, exists_false, or_false] at hfront
    rw [findFrom]
    simp only [Place.advance_of_end, exists_const, ← hfront, Option.isNone_none, if_true,
      Option.or_none, ite_self]
  | cons c cs ih =>
    have hfront := program.front_alive_start ⟨position, before, c :: cs⟩ threads
    rw [findFrom, Place.exists_advance, ← or_assoc, ← hfront]
    simp only [Option.isNone_none, if_true, Option.or_none]
    generalize program.front _ _ = front
    have hlater : (∃ other after, Place.next? ⟨position, before, c :: cs⟩ = some (other, after) ∧
        ∃ n, Alive program.code program.start (after.advance n)) ↔
        ∃ n, Alive program.code program.start (Place.advance n ⟨position + 1, some c, cs⟩) := by
      simp [Place.next?]
    rw [hlater]
    cases hfound : front.found with
    | some found =>
      simp only [Front.Alive, hfound, Option.isSome_some, true_or, iff_true]
      split
      · rfl
      · exact program.findFrom_of_found cs (some c) (position + 1) _ rfl
    | none =>
      simp only [Option.isSome_none, Bool.and_false, Bool.false_eq_true, if_false, ih, Front.Alive,
        hfound, false_or]
      exact or_congr (alive_after_char program.code position before c cs front.waiting) Iff.rfl

end Program

/-- A text matches a regular expression if and only if the tree leads from some place of it to
another. -/
theorem isMatch_iff (regex : Regex) (text : List Char) :
    regex.isMatch text = true ↔
      ∃ n stop, regex.tree.Leads ((Place.ofText text).advance n) stop := by
  have hfind := regex.tree.program.findFrom_isSome text none 0 []
  rw [Regex.isMatch, Program.isMatch, Program.find?]
  simp only [List.not_mem_nil, false_and, exists_false, false_or] at hfind
  refine hfind.trans (exists_congr fun n => ?_)
  rw [Alive, exists_comm]
  exact exists_congr fun stop => regex.tree.program_runs _ stop

end AttrExpr.Regex
