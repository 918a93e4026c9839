import AttrExpr.Proofs.NumberTexts
import AttrExpr.Proofs.Relaying

/-! Number literals in sources. A literal compiles if its text is read as a number, and evaluates to
the same number. -/
set_option autoImplicit false

namespace AttrExpr

/-! A source whose first argument cannot be read is refused for that. -/

section

variable {expression : Read Expression} {s t : Rest} {error : SourceError}

theorem readArguments_error {cs : List Char} (hs : s.chars = '(' :: cs)
    (hfirst : ∀ c ∈ cs.head?, isBlank c = false ∧ c ≠ ')')
    (h : readArgument expression (s.past ['('] cs) = .error error) :
    readArguments expression s = .error error := by
  have hopening := Rest.after?_eq_some_iff.mpr (s.passes_past ['('] cs hs)
  have hblanks : (s.past ['('] cs).skipBlanks = s.past ['('] cs :=
    (Rest.Skips.refl _).skipBlanks_eq fun c hc => (hfirst c hc).1
  have hclosing : (s.past ['('] cs).after? ')' = none :=
    Rest.after?_eq_none fun hc => (hfirst ')' hc).2 rfl
  simp only [readArguments, hopening, hblanks, hclosing, h, bind, Except.bind]

theorem readCall_error {name : List Char} (hne : name ≠ [])
    (hname : ∀ c ∈ name, isWordChar c = true) (hpasses : s.Passes name t)
    (hopening : t.chars.head? = some '(') (h : readArguments expression t = .error error) :
    readCall expression s = .error error := by
  have htake := hpasses.takeWhile_eq hname (by rw [hopening]; simp; decide)
  have hblanks := (Rest.Skips.refl t).skipBlanks_eq_of_head hopening (by decide)
  have hinvalid : t.chars.head?.any isNameChar = false := by rw [hopening]; decide
  simp [readCall, htake, hne, hinvalid, hblanks, h, bind, Except.bind]

theorem readSubject_error {name : List Char} (hne : name ≠ [])
    (hname : ∀ c ∈ name, isWordChar c = true) (hpasses : s.Passes name t)
    (hopening : t.chars.head? = some '(') (h : readCall expression s = .error error) :
    readSubject expression s = .error error := by
  have hnames (c : Char) (hc : c ∈ name) : isNameChar c = true :=
    isNameChar_of_isWordChar (hname c hc)
  have hquoted : readQuoted? s = none := by
    obtain ⟨c, cs, rfl⟩ := List.exists_cons_of_ne_nil hne
    exact readQuoted?_eq_none_of_isNameChar hpasses.head (hnames c (by simp))
  have htake := hpasses.takeWhile_eq hnames (by rw [hopening]; simp; decide)
  have hblanks := (Rest.Skips.refl t).skipBlanks_eq_of_head hopening (by decide)
  obtain ⟨cs, hcs⟩ := List.head?_eq_some_iff.mp hopening
  have hafter := Rest.after?_eq_some_iff.mpr (t.passes_past ['('] cs hcs)
  simp [readSubject, hquoted, htake, hne, hblanks, hafter, h, Except.map]

theorem readEmbedded?_error {fuel : Nat} (hopening : s.Passes ['$', '\x7b'] t)
    (hfirst : ∀ c ∈ t.chars.head?, isBlank c = false)
    (h : readSubject (readExpression fuel) t = .error error) :
    readEmbedded? (readExpression (fuel + 1)) s = some (.error error) := by
  have hblanks := (Rest.Skips.refl t).skipBlanks_eq hfirst
  simp only [readEmbedded?, Rest.afterOpening?_eq_some_iff.mpr hopening, hblanks, readExpression, h,
    bind, Except.bind]

end

/-- The first argument of a call at the beginning of a source. -/
def Rest.firstArgument (name cs : List Char) : Rest := ⟨2 + Text.byteLength name + 1, cs⟩

theorem Template.read_error {name cs : List Char} {error : SourceError} (hne : name ≠ [])
    (hname : ∀ c ∈ name, isWordChar c = true)
    (hfirst : ∀ c ∈ cs.head?, isBlank c = false ∧ c ≠ ')')
    (h : ∀ expression, readArgument expression (.firstArgument name cs) = .error error) :
    Template.read ('$' :: '\x7b' :: (name ++ '(' :: cs)) = .error error := by
  have hpasses := Rest.passes_mk 2 name ('(' :: cs)
  have hsubject (expression : Read Expression) :
      readSubject expression ⟨2, name ++ '(' :: cs⟩ = .error error := by
    have hcall := readCall_error hne hname hpasses rfl
      (readArguments_error rfl hfirst (h expression))
    exact readSubject_error hne hname hpasses rfl hcall
  have hblank (c : Char) (hc : c ∈ (name ++ '(' :: cs).head?) : isBlank c = false := by
    obtain ⟨d, ds, rfl⟩ := List.exists_cons_of_ne_nil hne
    obtain rfl := Option.some.inj hc
    exact isBlank_of_isWordChar (hname _ (by simp))
  have hembedded : readEmbedded? (readExpression ((name ++ '(' :: cs).length + 1))
      ⟨0, '$' :: '\x7b' :: (name ++ '(' :: cs)⟩ = some (.error error) :=
    readEmbedded?_error (Rest.passes_mk 0 ['$', '\x7b'] _) hblank (hsubject _)
  rw [Template.read, List.length_cons, readSegments]
  split
  · next heq => cases heq
  · next heq => cases heq
  · next heq =>
    cases heq
    rw [List.length_cons, hembedded]
    rfl
  · next heq => exact absurd rfl (heq _)

namespace Numeral

variable {token : List Char} {negative : Bool} {value : Decimal}

theorem readArgument_error (h : Numeral token negative value)
    (hnone : readNumber? (.ofList token) = none) {s t : Rest} (hpasses : s.Passes token t)
    (hnext : ∀ c ∈ t.chars.head?, isNameChar c = false) (expression : Read Expression) :
    readArgument expression s = s.fail (.invalidNumber (.ofList token)) := by
  have htake := h.takeNumber?_eq hnext
  rw [← hpasses.1] at htake
  have hnumber := readNumberLiteral?_eq htake
  rw [hnone] at hnumber
  have hquoted := h.readQuoted?_eq_none hpasses
  obtain ⟨c, cs, rfl, hc⟩ := h.head
  have hopening : s.afterOpening? = none := by
    refine Rest.afterOpening?_eq_none fun hdollar => ?_
    obtain rfl := Option.some.inj (hpasses.head.symm.trans hdollar)
    exact absurd hc (by decide)
  have hchars := hpasses.1
  rw [List.cons_append] at hchars
  simp [readArgument, hchars, readEmbedded?_eq_none hopening, readLiteral?, hquoted, hnumber,
    Rest.fail, Except.map]

/-- A numeral whose text is not read as a number makes its source invalid, at the place where it
stands. -/
theorem compile_relaying_error (h : Numeral token negative value)
    (hnone : readNumber? (.ofList token) = none) (compiler : Compiler) :
    ∃ error : SourceError, error.fault = .invalidNumber (.ofList token) ∧ error.offset = 10 ∧
      compiler.compile (relaying (.ofList token)) =
        .error (.source error (error.location (relaying (.ofList token)).toList)) := by
  have hsource : (relaying (.ofList token)).toList =
      '$' :: '\x7b' :: ("literal".toList ++ '(' :: (token ++ [')', '\x7d'])) := by
    simp [relaying]
  have hname : ∀ c ∈ "literal".toList, isWordChar c = true := List.all_eq_true.mp (by decide)
  have hargument (expression : Read Expression) :=
    h.readArgument_error hnone (Rest.passes_mk 10 token [')', '\x7d']) (by simp; decide) expression
  obtain ⟨c, cs, rfl, hc⟩ := h.head
  have hfirst : isBlank c = false ∧ c ≠ ')' := by
    rcases hc with rfl | hc
    · decide
    · refine ⟨isBlank_of_isWordChar (isWordChar_of_isDigit hc), ?_⟩
      rintro rfl
      exact absurd hc (by decide)
  have hread := Template.read_error (by decide) hname
    (show ∀ d ∈ (c :: cs ++ [')', '\x7d']).head?, _ by simpa using hfirst) hargument
  refine ⟨⟨.invalidNumber _, 10, some c⟩, rfl, rfl, ?_⟩
  rw [Compiler.compile, hsource, hread]
  rfl

/-- A literal compiles to its kind and evaluates to the number that it stands for. -/
theorem Denotes.compile_relaying {n : Number} (h : Denotes token n) (compiler : Compiler) :
    ∃ compiled, compiler.compile (relaying (.ofList token)) = .ok compiled ∧
      compiled.kind = n.kind ∧
        ∀ attributes clock, compiled.evaluate attributes clock = .ok (.number n) := by
  have hspelled : (Argument.literal (.number n) ⟨0, Text.byteLength token⟩).SpelledBy
      (String.ofList token).toList := by
    rw [String.toList_ofList]
    exact (Literal.Spelled.number h).argument
  obtain ⟨span, hcompile⟩ := hspelled.compile_relaying compiler
  have makes (scope : Scope) (span : Span) : ∃ origin : Origin, origin.kind = n.kind ∧
      Lower.Makes (Argument.literal (.number n) span).plan.lower scope ⟨0, []⟩
        (.literal origin (.number n)) ⟨0, []⟩ := by
    simp [Argument.plan, Lower.literal]
  let source := relaying (.ofList token)
  obtain ⟨origin, hkind, hmakes⟩ := makes ⟨source.toList, compiler.declared⟩ _
  let value : Node := .literal origin (.number n)
  let compiled : Compiled := ⟨source, .relayed ⟨value.kind, span.token source.toList, span⟩ value,
    compiler.formats, 0, []⟩
  have hcompiled := (hcompile compiled).mpr ⟨rfl, rfl, value, hmakes, rfl⟩
  refine ⟨compiled, hcompiled, hkind, fun attributes clock => ?_⟩
  rw [Compiled.evaluate, Compiled.run_eq_root hcompiled, Node.eval_relayed, Node.eval]
  rfl

end Numeral

/-- A text is read as a number if, without blanks around it, it has the form of one and is rounded
to a finite number. It is read as a whole number if it has only a sign and digits and fits. A
numeral in a source gives what its text is read as, or else the source is refused for it. -/
theorem Number.readers_agree :
    (∀ text : String,
      ((readNumber? text).isSome = true ↔
        ∃ negative value, NumberText (Unicode.trim text.toList) negative value ∧
          (value.rounded negative).isFinite = true) ∧
      (∀ k : Int64, readNumber? text = some (.whole k) ↔
        WholeText (Unicode.trim text.toList) k.toInt) ∧
      ∀ d, readNumber? text = some (.decimal d) ↔
        (∀ k : Int64, ¬ WholeText (Unicode.trim text.toList) k.toInt) ∧ d.isFinite = true ∧
          ∃ negative value, NumberText (Unicode.trim text.toList) negative value ∧
            value.rounded negative = d) ∧
    (∀ s token rest, takeNumber? s.chars = some (token, rest) →
      readNumberLiteral? s = some (match readNumber? (.ofList token) with
        | some n => .ok (n, s.past token rest)
        | none => s.fail (.invalidNumber (.ofList token)))) ∧
    ∀ token negative value, Numeral token negative value →
      (∀ rest, (∀ c ∈ rest.head?, isNameChar c = false) →
        takeNumber? (token ++ rest) = some (token, rest)) ∧
      ∀ compiler : Compiler,
        (∀ n, readNumber? (.ofList token) = some n →
          ∃ compiled, compiler.compile (relaying (.ofList token)) = .ok compiled ∧
            compiled.kind = n.kind ∧
              ∀ attributes clock, compiled.evaluate attributes clock = .ok (.number n)) ∧
        (readNumber? (.ofList token) = none →
          ∃ error, compiler.compile (relaying (.ofList token)) = .error error ∧
            error.code.text = "AEL0005") := by
  refine ⟨fun text => ?_, fun s token rest => readNumberLiteral?_eq, ?_⟩
  · refine ⟨readNumber?_isSome_iff, fun k => ?_, fun d => ?_⟩
    · rw [readNumber?_eq_some_iff]
      exact ⟨fun h => by cases h; assumption, .whole⟩
    · rw [readNumber?_eq_some_iff]
      constructor
      · intro h
        cases h with
        | decimal h hwhole hfinite => exact ⟨hwhole, hfinite, _, _, h, rfl⟩
      · rintro ⟨hwhole, hfinite, negative, value, h, rfl⟩
        exact .decimal h hwhole hfinite
  · intro token negative value h
    refine ⟨fun rest => h.takeNumber?_eq, fun compiler => ⟨fun n hn => ?_, fun hnone => ?_⟩⟩
    · rw [← h.numberOfToken?_eq, h.denotes_iff] at hn
      exact hn.compile_relaying compiler
    · obtain ⟨error, hfault, -, hcompile⟩ := h.compile_relaying_error hnone compiler
      refine ⟨_, hcompile, ?_⟩
      have htext : Code.invalidNumber.text = "AEL0005" := by decide
      rwa [CompileError.code, SourceError.code, hfault]

/-- A numeral past the greatest number, as a text and in a source. -/
theorem Number.readers_agree_overflow :
    readNumber? "9e999" = none ∧ (∃ negative value, Numeral "9e999".toList negative value) ∧
      ∃ error, Compiler.standard.compile "$\x7bliteral(9e999)\x7d" = .error error ∧
        error.code.text = "AEL0005" := by
  have htake : takeNumber? "9e999".toList = some ("9e999".toList, []) := rfl
  obtain ⟨negative, value, hnumeral, -⟩ := takeNumber?_eq_some htake
  have hnone : readNumber? "9e999" = none := rfl
  exact ⟨hnone, ⟨_, _, hnumeral⟩, ((Number.readers_agree.2.2 _ _ _ hnumeral).2 .standard).2 hnone⟩

end AttrExpr
