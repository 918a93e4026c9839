import AttrExpr.Template.Reader

/-! How templates are spelled: which stretches of a source make up each part of a tree, where the
parts stand, and what may stand between them. -/
set_option autoImplicit false

namespace AttrExpr

namespace Rest

/-- The characters `token` lie between two places. -/
def Passes (s : Rest) (token : List Char) (t : Rest) : Prop :=
  s.chars = token ++ t.chars ∧ t.offset = s.offset + Text.byteLength token

/-- Only blanks lie between two places. -/
def Skips (s t : Rest) : Prop :=
  ∃ blanks : List Char, s.Passes blanks t ∧ ∀ c ∈ blanks, isBlank c = true

/-- The second place is the first one or further on. -/
def Reaches (s t : Rest) : Prop := ∃ token, s.Passes token t

end Rest

/-! Tokens and what they stand for. -/

/-- The content of a quoted string and its text. The quote itself stands in it only after a
backslash. -/
inductive QuotedContent (quote : Char) : List Char → List Char → Prop
  | nil : QuotedContent quote [] []
  | plain {c : Char} {token text : List Char} (hquote : c ≠ quote) (hbackslash : c ≠ '\\')
    (h : QuotedContent quote token text) : QuotedContent quote (c :: token) (c :: text)
  | escaped {c : Char} {token text : List Char} (h : QuotedContent quote token text) :
    QuotedContent quote ('\\' :: c :: token) (unescape c :: text)

inductive Quoted : List Char → List Char → Prop
  | mk {quote : Char} {token text : List Char} (hquote : quote = '\'' ∨ quote = '"')
    (h : QuotedContent quote token text) : Quoted (quote :: (token ++ [quote])) text

def Digits (cs : List Char) : Prop := cs ≠ [] ∧ ∀ c ∈ cs, c.isDigit = true

/-- A point with digits after it, or nothing at all, and the digits. -/
inductive FractionPart : List Char → List Char → Prop
  | absent : FractionPart [] []
  | present {digits : List Char} (h : Digits digits) : FractionPart ('.' :: digits) digits

/-- An exponent with its mark, or nothing at all, and its value. -/
inductive ExponentPart : List Char → Int → Prop
  | absent : ExponentPart [] 0
  | positive {mark : Char} {sign digits : List Char} (hmark : mark = 'e' ∨ mark = 'E')
    (hsign : sign = [] ∨ sign = ['+']) (h : Digits digits) :
    ExponentPart (mark :: (sign ++ digits)) (digitsValue digits)
  | negative {mark : Char} {digits : List Char} (hmark : mark = 'e' ∨ mark = 'E')
    (h : Digits digits) : ExponentPart (mark :: '-' :: digits) (-(digitsValue digits : Int))

inductive SignPart : List Char → Bool → Prop
  | absent : SignPart [] false
  | minus : SignPart ['-'] true

/-- Digits, with a minus sign before them or not, and with a fraction and an exponent or without.
The value is that of all digits, with a power of ten. -/
inductive Numeral : List Char → Bool → Decimal → Prop
  | mk {sign digits fraction more exponent : List Char} {negative : Bool} {power : Int}
    (hsign : SignPart sign negative) (hdigits : Digits digits)
    (hfraction : FractionPart fraction more) (hexponent : ExponentPart exponent power) :
    Numeral (sign ++ digits ++ fraction ++ exponent) negative
      ⟨digitsValue (digits ++ more), power - more.length⟩

/-- A numeral of nothing but digits and the word of 64 bits that has its value. -/
inductive WholeNumeral : List Char → Int64 → Prop
  | positive {digits : List Char} {n : Int64} (hdigits : Digits digits)
    (hvalue : n.toInt = digitsValue digits) : WholeNumeral digits n
  | negative {digits : List Char} {n : Int64} (hdigits : Digits digits)
    (hvalue : n.toInt = -(digitsValue digits : Int)) : WholeNumeral ('-' :: digits) n

/-- The number of a numeral: a whole one if it has only digits and fits, and the nearest binary one
otherwise. -/
inductive Numeral.Denotes : List Char → Number → Prop
  | whole {token : List Char} {n : Int64} (h : WholeNumeral token n) : Denotes token (.whole n)
  | decimal {token : List Char} {negative : Bool} {value : Decimal}
    (h : Numeral token negative value) (hwhole : ∀ n, ¬ WholeNumeral token n)
    (hfinite : (value.nearest negative).isFinite = true) :
    Denotes token (.decimal (value.nearest negative))

inductive Literal.Spelled : Literal → List Char → Prop
  | string {token text : List Char} (h : Quoted token text) : Spelled (.string (.ofList text)) token
  | number {token : List Char} {n : Number} (h : Numeral.Denotes token n) :
    Spelled (.number n) token
  | boolean (b : Bool) : Spelled (.boolean b) (if b then "true" else "false").toList

/-! Expressions. Each part is spelled by what lies between two places. -/

mutual

/-- A subject with calls behind it. -/
inductive Expression.Spelled : Expression → Rest → Rest → Prop
  | mk {subject : Subject} {chain : List Call} {s between t : Rest}
    (hsubject : Subject.Spelled subject s between) (hchain : ChainSpelled chain between t) :
    Expression.Spelled (.mk subject chain) s t

/-- A name, which may be quoted, or a call. -/
inductive Subject.Spelled : Subject → Rest → Rest → Prop
  | bare {name : List Char} {s t : Rest} (hne : name ≠ [])
    (hname : ∀ c ∈ name, isNameChar c = true) (hpasses : s.Passes name t) :
    Subject.Spelled (.attribute (.ofList name) (s.upTo t)) s t
  | quoted {token name : List Char} {s t : Rest} (hquoted : Quoted token name)
    (hpasses : s.Passes token t) : Subject.Spelled (.attribute (.ofList name) (s.upTo t)) s t
  | call {call : Call} {s t : Rest} (hcall : Call.Spelled call s t) :
    Subject.Spelled (.call call) s t

/-- Calls with a colon before each. -/
inductive ChainSpelled : List Call → Rest → Rest → Prop
  | nil {s : Rest} : ChainSpelled [] s s
  | cons {call : Call} {calls : List Call} {s colon after first between t : Rest}
    (hbefore : s.Skips colon) (hcolon : colon.Passes [':'] after) (hafter : after.Skips first)
    (hcall : Call.Spelled call first between) (hcalls : ChainSpelled calls between t) :
    ChainSpelled (call :: calls) s t

/-- A name and arguments in parentheses. -/
inductive Call.Spelled : Call → Rest → Rest → Prop
  | mk {name : List Char} {args : List Argument} {s after opening t : Rest} (hne : name ≠ [])
    (hname : ∀ c ∈ name, isWordChar c = true) (hpasses : s.Passes name after)
    (hafter : after.Skips opening) (hargs : ArgumentsSpelled args opening t) :
    Call.Spelled (.mk (.ofList name) (s.upTo after) args (s.upTo t)) s t

/-- Arguments with the parentheses around them. -/
inductive ArgumentsSpelled : List Argument → Rest → Rest → Prop
  | none {s after closing t : Rest} (hopening : s.Passes ['('] after)
    (hskips : after.Skips closing) (hclosing : closing.Passes [')'] t) : ArgumentsSpelled [] s t
  | some {arg : Argument} {args : List Argument} {s after first between t : Rest}
    (hopening : s.Passes ['('] after) (hskips : after.Skips first)
    (harg : Argument.Spelled arg first between) (hargs : MoreArgumentsSpelled args between t) :
    ArgumentsSpelled (arg :: args) s t

/-- Arguments with a comma before each, and the closing parenthesis. -/
inductive MoreArgumentsSpelled : List Argument → Rest → Rest → Prop
  | nil {s closing t : Rest} (hskips : s.Skips closing) (hclosing : closing.Passes [')'] t) :
    MoreArgumentsSpelled [] s t
  | cons {arg : Argument} {args : List Argument} {s comma after first between t : Rest}
    (hbefore : s.Skips comma) (hcomma : comma.Passes [','] after) (hafter : after.Skips first)
    (harg : Argument.Spelled arg first between) (hargs : MoreArgumentsSpelled args between t) :
    MoreArgumentsSpelled (arg :: args) s t

inductive Argument.Spelled : Argument → Rest → Rest → Prop
  | literal {value : Literal} {token : List Char} {s t : Rest} (hvalue : value.Spelled token)
    (hpasses : s.Passes token t) : Argument.Spelled (.literal value (s.upTo t)) s t
  | expression {expr : Expression} {s t : Rest} (hexpr : EmbeddedSpelled expr s t) :
    Argument.Spelled (.expression expr (s.upTo t)) s t

/-- An expression with a dollar sign and braces around it. -/
inductive EmbeddedSpelled : Expression → Rest → Rest → Prop
  | mk {expr : Expression} {s after first last closing t : Rest}
    (hopening : s.Passes ['$', '\x7b'] after) (hafter : after.Skips first)
    (hexpr : Expression.Spelled expr first last) (hbefore : last.Skips closing)
    (hclosing : closing.Passes ['\x7d'] t) : EmbeddedSpelled expr s t

end

/-! Templates. -/

/-- A token and its text. Two dollar signs stand for one. One stands for itself when no other and no
brace comes next, be it in the token or in what follows it. -/
inductive TextSpelled (following : List Char) : List Char → List Char → Prop
  | nil : TextSpelled following [] []
  | pair {token text : List Char} (h : TextSpelled following token text) :
    TextSpelled following ('$' :: '$' :: token) ('$' :: text)
  | dollar {token text : List Char}
    (hnext : ∀ c ∈ (token ++ following).head?, c ≠ '$' ∧ c ≠ '\x7b')
    (h : TextSpelled following token text) : TextSpelled following ('$' :: token) ('$' :: text)
  | plain {c : Char} {token text : List Char} (hc : c ≠ '$')
    (h : TextSpelled following token text) : TextSpelled following (c :: token) (c :: text)

def Segment.isText : Segment → Bool
  | .text _ _ => true
  | .expression _ _ => false

/-- Segments up to the end of the source, where text does not meet text. -/
inductive SegmentsSpelled : List Segment → Rest → Prop
  | nil {s : Rest} (hend : s.chars = []) : SegmentsSpelled [] s
  | text {token text : List Char} {segments : List Segment} {s t : Rest} (hne : token ≠ [])
    (hpasses : s.Passes token t) (htext : TextSpelled t.chars token text)
    (hapart : ∀ segment ∈ segments.head?, segment.isText = false)
    (hsegments : SegmentsSpelled segments t) :
    SegmentsSpelled (.text text (s.upTo t) :: segments) s
  | expression {expr : Expression} {segments : List Segment} {s t : Rest}
    (hexpr : EmbeddedSpelled expr s t) (hsegments : SegmentsSpelled segments t) :
    SegmentsSpelled (.expression expr (s.upTo t) :: segments) s

def Template.Spelled (template : Template) (source : List Char) : Prop :=
  SegmentsSpelled template.segments ⟨0, source⟩

namespace Rest

variable {s t u : Rest} {token : List Char}

theorem Passes.refl (s : Rest) : s.Passes [] s := ⟨rfl, rfl⟩

theorem Passes.trans {more : List Char} (h : s.Passes token t) (h' : t.Passes more u) :
    s.Passes (token ++ more) u := by
  refine ⟨by rw [h.1, h'.1, List.append_assoc], ?_⟩
  rw [h'.2, h.2, Text.byteLength_append, Nat.add_assoc]

theorem Passes.reaches (h : s.Passes token t) : s.Reaches t := ⟨token, h⟩

theorem Skips.reaches (h : s.Skips t) : s.Reaches t :=
  have ⟨blanks, hpasses, _⟩ := h
  ⟨blanks, hpasses⟩

theorem Reaches.refl (s : Rest) : s.Reaches s := ⟨[], .refl s⟩

theorem Reaches.trans (h : s.Reaches t) (h' : t.Reaches u) : s.Reaches u := by
  obtain ⟨token, h⟩ := h
  obtain ⟨more, h'⟩ := h'
  exact ⟨token ++ more, h.trans h'⟩

theorem Passes.length_eq (h : s.Passes token t) :
    s.chars.length = token.length + t.chars.length := by
  rw [h.1, List.length_append]

theorem Reaches.length_le (h : s.Reaches t) : t.chars.length ≤ s.chars.length := by
  obtain ⟨token, h⟩ := h
  have hlength := h.length_eq
  omega

theorem Reaches.offset_le (h : s.Reaches t) : s.offset ≤ t.offset := by
  obtain ⟨token, h⟩ := h
  rw [h.2]
  omega

end Rest

/-! What is spelled ends where it starts or further on. -/

open Rest (Reaches)

mutual

theorem Expression.Spelled.reaches {expr : Expression} {s t : Rest} :
    expr.Spelled s t → s.Reaches t
  | .mk hsubject hchain => hsubject.reaches.trans hchain.reaches

theorem Subject.Spelled.reaches {subject : Subject} {s t : Rest} :
    subject.Spelled s t → s.Reaches t
  | .bare _ _ hpasses => hpasses.reaches
  | .quoted _ hpasses => hpasses.reaches
  | .call hcall => hcall.reaches

theorem ChainSpelled.reaches {calls : List Call} {s t : Rest} : ChainSpelled calls s t → s.Reaches t
  | .nil => .refl _
  | .cons hbefore hcolon hafter hcall hcalls =>
    hbefore.reaches.trans (hcolon.reaches.trans (hafter.reaches.trans
      (hcall.reaches.trans hcalls.reaches)))

theorem Call.Spelled.reaches {call : Call} {s t : Rest} : call.Spelled s t → s.Reaches t
  | .mk _ _ hpasses hafter hargs =>
    hpasses.reaches.trans (hafter.reaches.trans hargs.reaches)

theorem ArgumentsSpelled.reaches {args : List Argument} {s t : Rest} :
    ArgumentsSpelled args s t → s.Reaches t
  | .none hopening hskips hclosing =>
    hopening.reaches.trans (hskips.reaches.trans hclosing.reaches)
  | .some hopening hskips harg hargs =>
    hopening.reaches.trans (hskips.reaches.trans (harg.reaches.trans hargs.reaches))

theorem MoreArgumentsSpelled.reaches {args : List Argument} {s t : Rest} :
    MoreArgumentsSpelled args s t → s.Reaches t
  | .nil hskips hclosing => hskips.reaches.trans hclosing.reaches
  | .cons hbefore hcomma hafter harg hargs =>
    hbefore.reaches.trans (hcomma.reaches.trans (hafter.reaches.trans
      (harg.reaches.trans hargs.reaches)))

theorem Argument.Spelled.reaches {arg : Argument} {s t : Rest} : arg.Spelled s t → s.Reaches t
  | .literal _ hpasses => hpasses.reaches
  | .expression hexpr => hexpr.reaches

theorem EmbeddedSpelled.reaches {expr : Expression} {s t : Rest} :
    EmbeddedSpelled expr s t → s.Reaches t
  | .mk hopening hafter hexpr hbefore hclosing =>
    hopening.reaches.trans (hafter.reaches.trans (hexpr.reaches.trans
      (hbefore.reaches.trans hclosing.reaches)))

end

end AttrExpr
