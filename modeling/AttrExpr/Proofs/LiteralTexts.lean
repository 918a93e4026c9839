import AttrExpr.Proofs.Literals
import AttrExpr.Proofs.NumberRoundTrips

/-! Literals as they are shown, read as sources. In what is shown for a string only the quotes have
a backslash before them, so a backslash of the string itself is lost. -/
set_option autoImplicit false

namespace AttrExpr

/-- Two literals that stand for the same value. -/
def Literal.Same : Literal → Literal → Prop
  | .string s, .string t => s = t
  | .number m, .number n => m.eq n = true
  | .boolean a, .boolean b => a = b
  | _, _ => False

/-- A template of one call of `literal`, with a literal of the same value as its only argument. -/
def Template.Repeats (template : Template) (value : Literal) : Prop :=
  ∃ other nameSpan argSpan span whole, other.Same value ∧
    template = ⟨[.expression
      (.mk (.call (.mk "literal" nameSpan [.literal other argSpan] span)) []) whole]⟩

/-- The text of a literal is a source of it. -/
def Literal.Rereads (value : Literal) : Prop :=
  ∃ template, Template.read (relaying value.text).toList = .ok template ∧ template.Repeats value

/-! Strings as they are shown. -/

/-- What is shown of a string between the quotes. -/
def shown (text : List Char) : List Char := Text.replaceAll ['\''] ['\\', '\''] text

theorem shown_quote (cs : List Char) : shown ('\'' :: cs) = '\\' :: '\'' :: shown cs := by
  simp [shown, Text.replaceAll, Text.replaceFrom, Text.after?]

theorem shown_cons {c : Char} (h : c ≠ '\'') (cs : List Char) : shown (c :: cs) = c :: shown cs := by
  simp [shown, Text.replaceAll, Text.replaceFrom, Text.after?, h.symm]

/-- Without a backslash, all that has to be escaped is. -/
theorem shown_eq_escape {text : List Char} (h : '\\' ∉ text) : shown text = escape '\'' text := by
  induction text with
  | nil => rfl
  | cons c cs ih =>
    obtain ⟨hc, hcs⟩ := not_or.mp (mt List.mem_cons.mpr h)
    rw [escape]
    by_cases hquote : c = '\''
    · subst hquote
      rw [shown_quote, ih hcs, if_pos (.inr rfl)]
    · rw [shown_cons hquote, ih hcs, if_neg (by simp [hquote, Ne.symm hc])]

/-- Each character of a content comes from one of the string or from two of it, where the first of
them is a backslash. -/
theorem QuotedContent.shorter_of_shown {content text : List Char}
    (h : QuotedContent '\'' content text) {s rest more : List Char} (hmore : '\'' ∉ more)
    (hshown : content ++ '\'' :: rest = shown s ++ '\'' :: more) :
    text.length ≤ s.length ∧ ('\\' ∈ s → text.length < s.length) := by
  induction h generalizing s with
  | nil => exact ⟨Nat.zero_le _, fun hmem => List.length_pos_of_mem hmem⟩
  | @plain c content text hquote hbackslash h ih =>
    cases s with
    | nil => exact absurd (List.cons.inj hshown).1 hquote
    | cons d s =>
      by_cases hd : d = '\''
      · rw [hd, shown_quote] at hshown
        exact absurd (List.cons.inj hshown).1 hbackslash
      · rw [shown_cons hd] at hshown
        obtain ⟨rfl, hrest⟩ := List.cons.inj hshown
        obtain ⟨hle, hlt⟩ := ih hrest
        refine ⟨Nat.succ_le_succ hle, fun hmem => Nat.succ_lt_succ (hlt ?_)⟩
        exact (List.mem_cons.mp hmem).resolve_left (Ne.symm hbackslash)
  | @escaped c content text h ih =>
    cases s with
    | nil => exact absurd (List.cons.inj hshown).1 (by decide)
    | cons d s =>
      by_cases hd : d = '\''
      · rw [hd, shown_quote] at hshown
        obtain ⟨hle, hlt⟩ := ih (List.cons.inj (List.cons.inj hshown).2).2
        refine ⟨Nat.succ_le_succ hle, fun hmem => Nat.succ_lt_succ (hlt ?_)⟩
        exact (List.mem_cons.mp hmem).resolve_left (hd ▸ by decide)
      · rw [shown_cons hd] at hshown
        have hrest := (List.cons.inj hshown).2
        -- the backslash is one of the string, and takes the next character with it
        suffices hlt : text.length < s.length by
          exact ⟨Nat.succ_le_succ hlt.le, fun _ => Nat.succ_lt_succ hlt⟩
        cases s with
        | nil =>
          have hlast := (List.cons.inj hrest).2
          exact absurd (hlast ▸ List.mem_append_right _ List.mem_cons_self) hmore
        | cons e s =>
          by_cases he : e = '\''
          · rw [he, shown_quote] at hrest
            have hlast := (List.cons.inj hrest).2
            cases h with
            | nil => exact Nat.succ_pos _
            | plain hquote _ _ => exact absurd (List.cons.inj hlast).1 hquote
            | escaped _ => exact absurd (List.cons.inj hlast).1 (by decide)
          · rw [shown_cons he] at hrest
            exact Nat.lt_succ_of_le (ih (List.cons.inj hrest).2).1

theorem Rest.Skips.eq_of_head {s t : Rest} (h : s.Skips t) {c : Char}
    (hhead : s.chars.head? = some c) (hc : isBlank c = false) : s = t := by
  obtain ⟨blanks, hpasses, hblanks⟩ := h
  cases blanks with
  | nil => exact (Rest.Passes.refl s).unique hpasses
  | cons b bs =>
    obtain rfl := Option.some.inj (hhead.symm.trans hpasses.head)
    rw [hblanks c List.mem_cons_self] at hc
    cases hc

theorem Call.Spelled.literal {name : String} {nameSpan argSpan span : Span} {value : Literal}
    {s t : Rest} (h : Call.Spelled (.mk name nameSpan [.literal value argSpan] span) s t) :
    ∃ after opening inner first last token, s.Passes name.toList after ∧ after.Skips opening ∧
      opening.Passes ['('] inner ∧ inner.Skips first ∧ value.Spelled token ∧
      first.Passes token last := by
  cases h with
  | mk hne hname hpasses hafter hargs =>
    rw [String.toList_ofList]
    cases hargs with
    | some hopening hskips harg hargs =>
      cases harg with
      | literal hvalue hliteral =>
        exact ⟨_, _, _, _, _, _, hpasses, hafter, hopening, hskips, hvalue, hliteral⟩

/-- In a source that gives a literal as it is, that is spelled behind the opening parenthesis. -/
theorem EmbeddedSpelled.relayed {cs : List Char} {nameSpan argSpan span : Span} {value : Literal}
    {t : Rest} {c : Char} (hhead : cs.head? = some c) (hc : isBlank c = false)
    (h : EmbeddedSpelled (.mk (.call (.mk "literal" nameSpan [.literal value argSpan] span)) [])
      ⟨0, '$' :: '\x7b' :: ("literal".toList ++ '(' :: cs)⟩ t) :
    ∃ token rest, value.Spelled token ∧ cs = token ++ rest := by
  obtain ⟨hbrace, hblanks, ⟨hsubject, -⟩, -, -⟩ := h
  obtain hcall : Call.Spelled _ _ _ := by
    cases hsubject
    assumption
  obtain ⟨after, opening, inner, first, last, token, hname, hbefore, hopening, hskips, hvalue,
    htoken⟩ := hcall.literal
  obtain rfl := hbrace.unique (Rest.passes_mk 0 ['$', '\x7b'] _)
  obtain rfl := hblanks.eq_of_head (c := 'l') rfl rfl
  obtain rfl := hname.unique (Rest.passes_mk _ "literal".toList _)
  obtain rfl := hbefore.eq_of_head (c := '(') rfl rfl
  obtain rfl := hopening.unique (Rest.passes_mk _ ['('] cs)
  obtain rfl := hskips.eq_of_head hhead hc
  exact ⟨token, last.chars, hvalue, htoken.1⟩

namespace Literal

/-- A literal is spelled by its text, but for a string with a backslash in it. -/
theorem spelled_text {value : Literal} (hfinite : value.Finite)
    (h : ∀ s, value = .string s → '\\' ∉ s.toList) :
    ∃ other : Literal, other.Spelled value.text.toList ∧ other.Same value := by
  cases value with
  | string s =>
    have htext : (string s).text.toList = quoted '\'' s.toList := by
      rw [text, String.toList_ofList, quoted, ← shown_eq_escape (h s rfl)]
      rfl
    rw [htext]
    refine ⟨_, .string (quoted_quoted (.inl rfl) _), ?_⟩
    rw [String.ofList_toList]
    rfl
  | number n =>
    cases n with
    | whole n =>
      refine ⟨.number (.whole n), .number (.whole ?_), by simp [Same, Number.eq]⟩
      rw [text, Number.text, String.toList_ofList]
      exact intText_whole n
    | decimal d =>
      obtain ⟨negative, value, hnumeral, -⟩ := Binary64.write_numeral hfinite plainStyle
      obtain ⟨m, hread, hsame⟩ := readNumber?_write hfinite plainStyle
      rw [← hnumeral.numberOfToken?_eq, hnumeral.denotes_iff] at hread
      refine ⟨.number m, .number ?_, hsame⟩
      rwa [text, Number.text, String.toList_ofList]
  | boolean b =>
    refine ⟨.boolean b, ?_, rfl⟩
    cases b with
    | false => exact .boolean false
    | true => exact .boolean true

theorem rereads_of_spelled {value other : Literal} (hspelled : other.Spelled value.text.toList)
    (hsame : other.Same value) : value.Rereads := by
  obtain ⟨nameSpan, span, hembedded⟩ := hspelled.argument.relaying
  exact ⟨_, Template.read_eq_ok_iff.mpr (.expression hembedded (.nil rfl)), _, _, _, _, _, hsame, rfl⟩

theorem not_rereads_of_backslash {s : String} (h : '\\' ∈ s.toList) : ¬ (string s).Rereads := by
  rintro ⟨template, hread, other, nameSpan, argSpan, span, whole, hsame, rfl⟩
  have hsource : (relaying (string s).text).toList = '$' :: '\x7b' :: ("literal".toList ++
      '(' :: '\'' :: (shown s.toList ++ '\'' :: [')', '\x7d'])) := by
    simp [relaying, text, shown]
  have hspelled := Template.read_eq_ok_iff.mp hread
  rw [Template.Spelled, hsource] at hspelled
  cases hspelled with
  | expression hembedded _ =>
    obtain ⟨token, rest, hother, hcs⟩ := hembedded.relayed rfl rfl
    cases hother with
    | number | boolean => exact hsame
    | @string token text hquoted =>
      cases hquoted with
      | @mk quote content text hquote hcontent =>
        obtain ⟨heq, hrest⟩ := List.cons.inj hcs
        subst heq
        have hshown : content ++ '\'' :: rest = shown s.toList ++ '\'' :: [')', '\x7d'] := by
          simpa using hrest.symm
        have hlt := (hcontent.shorter_of_shown (by decide) hshown).2 h
        have heq : String.ofList text = s := hsame
        rw [← heq, String.toList_ofList] at hlt
        exact Nat.lt_irrefl _ hlt

/-- What is shown of a literal is a source of it, unless it is a string with a backslash in it. -/
theorem text_rereads (value : Literal) (hfinite : value.Finite) :
    value.Rereads ↔ ∀ s, value = .string s → '\\' ∉ s.toList := by
  constructor
  · rintro hreads s rfl hmem
    exact not_rereads_of_backslash hmem hreads
  · intro h
    obtain ⟨other, hspelled, hsame⟩ := spelled_text hfinite h
    exact rereads_of_spelled hspelled hsame

/-- A string with both quotation marks, a line break and no backslash. -/
theorem text_rereads_quotes :
    let value : Literal := .string "it's \"so\"\n"
    value.Finite ∧ (∀ s, value = .string s → '\\' ∉ s.toList) ∧ value.Rereads := by
  intro value
  have hnone (s : String) (h : value = .string s) : '\\' ∉ s.toList := by
    rw [← Literal.string.inj h]
    decide
  exact ⟨trivial, hnone, (text_rereads value trivial).mpr hnone⟩

/-- What is shown of a string of three characters, the middle one a backslash, is a source of a
string of two. -/
theorem backslash_lost :
    relaying (Literal.string "a\\b").text = "$\x7bliteral('a\\b')\x7d" ∧
      Template.read "$\x7bliteral('a\\b')\x7d".toList =
        .ok ⟨[.expression (.mk (.call (.mk "literal" ⟨2, 9⟩
          [.literal (.string "ab") ⟨10, 15⟩] ⟨2, 16⟩)) []) ⟨0, 17⟩]⟩ ∧
      ¬ (Literal.string "a\\b").Rereads := by
  have htext : relaying (Literal.string "a\\b").text = "$\x7bliteral('a\\b')\x7d" := by decide
  have hread : Template.read "$\x7bliteral('a\\b')\x7d".toList =
      .ok ⟨[.expression (.mk (.call (.mk "literal" ⟨2, 9⟩
        [.literal (.string "ab") ⟨10, 15⟩] ⟨2, 16⟩)) []) ⟨0, 17⟩]⟩ := rfl
  refine ⟨htext, hread, ?_⟩
  rintro ⟨template, hother, other, nameSpan, argSpan, span, whole, hsame, rfl⟩
  rw [htext, hread] at hother
  cases hother
  exact absurd hsame (show ¬ "ab" = "a\\b" by decide)

end Literal

end AttrExpr
