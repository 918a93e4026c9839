import Mathlib.Data.List.Chain
import AttrExpr.Proofs.Reading

/-! Rendered templates. Whatever blanks and quotes are chosen, what is rendered reads as the same
tree, up to the spans. -/
set_option autoImplicit false

namespace AttrExpr

/-! Trees with other spans. -/

mutual

def Expression.mapSpans (f : Span → Span) : Expression → Expression
  | .mk subject chain => .mk (subject.mapSpans f) (mapCallSpans f chain)

def Subject.mapSpans (f : Span → Span) : Subject → Subject
  | .attribute name span => .attribute name (f span)
  | .call call => .call (call.mapSpans f)

def mapCallSpans (f : Span → Span) : List Call → List Call
  | [] => []
  | call :: calls => call.mapSpans f :: mapCallSpans f calls

def Call.mapSpans (f : Span → Span) : Call → Call
  | .mk name nameSpan args span => .mk name (f nameSpan) (mapArgumentSpans f args) (f span)

def mapArgumentSpans (f : Span → Span) : List Argument → List Argument
  | [] => []
  | arg :: args => arg.mapSpans f :: mapArgumentSpans f args

def Argument.mapSpans (f : Span → Span) : Argument → Argument
  | .literal value span => .literal value (f span)
  | .expression expr span => .expression (expr.mapSpans f) (f span)

end

def Segment.mapSpans (f : Span → Span) : Segment → Segment
  | .text run span => .text run (f span)
  | .expression expr span => .expression (expr.mapSpans f) (f span)

def Template.mapSpans (f : Span → Span) (template : Template) : Template :=
  ⟨template.segments.map (Segment.mapSpans f)⟩

/-- All spans made equal, so that only the tree is left. -/
def unplaced (_ : Span) : Span := ⟨0, 0⟩

/-! What is written for each part. -/

/-- A backslash before every backslash and every occurrence of the quote. -/
def escape (quote : Char) : List Char → List Char
  | [] => []
  | c :: cs => if c = '\\' ∨ c = quote then '\\' :: c :: escape quote cs else c :: escape quote cs

def quoted (quote : Char) (text : List Char) : List Char := quote :: (escape quote text ++ [quote])

/-- Text with every dollar sign doubled. -/
def doubled : List Char → List Char
  | [] => []
  | c :: cs => if c = '$' then '$' :: '$' :: doubled cs else c :: doubled cs

def Blank (cs : List Char) : Prop := ∀ c ∈ cs, isBlank c = true

instance (cs : List Char) : Decidable (Blank cs) :=
  decidable_of_iff (cs.all isBlank = true) List.all_eq_true

inductive Literal.Rendered : Literal → List Char → Prop
  | string {text : String} {quote : Char} (hquote : quote = '\'' ∨ quote = '"') :
    Rendered (.string text) (quoted quote text.toList)
  | whole (n : Int64) : Rendered (.number (.whole n)) (intText n.toInt)
  | boolean (b : Bool) : Rendered (.boolean b) (if b then "true" else "false").toList

mutual

inductive Expression.Rendered : Expression → List Char → Prop
  | mk {subject : Subject} {chain : List Call} {cs more : List Char}
    (hsubject : Subject.Rendered subject cs) (hchain : ChainRendered chain more) :
    Expression.Rendered (.mk subject chain) (cs ++ more)

/-- A name is quoted, or written as it is if it has only characters of names. -/
inductive Subject.Rendered : Subject → List Char → Prop
  | bare {name : String} {span : Span} (hne : name.toList ≠ [])
    (hname : ∀ c ∈ name.toList, isNameChar c = true) :
    Subject.Rendered (.attribute name span) name.toList
  | quoted {name : String} {span : Span} {quote : Char} (hquote : quote = '\'' ∨ quote = '"') :
    Subject.Rendered (.attribute name span) (quoted quote name.toList)
  | call {call : Call} {cs : List Char} (hcall : Call.Rendered call cs) :
    Subject.Rendered (.call call) cs

inductive ChainRendered : List Call → List Char → Prop
  | nil : ChainRendered [] []
  | cons {call : Call} {calls : List Call} {before after cs more : List Char}
    (hbefore : Blank before) (hafter : Blank after) (hcall : Call.Rendered call cs)
    (hcalls : ChainRendered calls more) :
    ChainRendered (call :: calls) (before ++ ([':'] ++ (after ++ (cs ++ more))))

inductive Call.Rendered : Call → List Char → Prop
  | mk {name : String} {nameSpan span : Span} {args : List Argument} {between cs : List Char}
    (hbetween : Blank between) (hargs : ArgumentsRendered args cs) :
    Call.Rendered (.mk name nameSpan args span) (name.toList ++ (between ++ (['('] ++ cs)))

/-- Arguments with the closing parenthesis. -/
inductive ArgumentsRendered : List Argument → List Char → Prop
  | nil {blanks : List Char} (hblanks : Blank blanks) : ArgumentsRendered [] (blanks ++ [')'])
  | cons {arg : Argument} {args : List Argument} {before cs more : List Char}
    (hbefore : Blank before) (harg : Argument.Rendered arg cs)
    (hargs : MoreArgumentsRendered args more) :
    ArgumentsRendered (arg :: args) (before ++ (cs ++ more))

/-- Arguments with a comma before each, and the closing parenthesis. -/
inductive MoreArgumentsRendered : List Argument → List Char → Prop
  | nil {blanks : List Char} (hblanks : Blank blanks) : MoreArgumentsRendered [] (blanks ++ [')'])
  | cons {arg : Argument} {args : List Argument} {before after cs more : List Char}
    (hbefore : Blank before) (hafter : Blank after) (harg : Argument.Rendered arg cs)
    (hargs : MoreArgumentsRendered args more) :
    MoreArgumentsRendered (arg :: args) (before ++ ([','] ++ (after ++ (cs ++ more))))

inductive Argument.Rendered : Argument → List Char → Prop
  | literal {value : Literal} {span : Span} {cs : List Char} (hvalue : value.Rendered cs) :
    Argument.Rendered (.literal value span) cs
  | expression {expr : Expression} {span : Span} {cs : List Char}
    (hexpr : EmbeddedRendered expr cs) : Argument.Rendered (.expression expr span) cs

inductive EmbeddedRendered : Expression → List Char → Prop
  | mk {expr : Expression} {before cs after : List Char} (hbefore : Blank before)
    (hexpr : Expression.Rendered expr cs) (hafter : Blank after) :
    EmbeddedRendered expr (['$', '\x7b'] ++ (before ++ (cs ++ (after ++ ['\x7d']))))

end

inductive SegmentsRendered : List Segment → List Char → Prop
  | nil : SegmentsRendered [] []
  | text {text : List Char} {span : Span} {segments : List Segment} {more : List Char}
    (hsegments : SegmentsRendered segments more) :
    SegmentsRendered (.text text span :: segments) (doubled text ++ more)
  | expression {expr : Expression} {span : Span} {segments : List Segment} {cs more : List Char}
    (hexpr : EmbeddedRendered expr cs) (hsegments : SegmentsRendered segments more) :
    SegmentsRendered (.expression expr span :: segments) (cs ++ more)

def Template.Rendered (template : Template) (cs : List Char) : Prop :=
  SegmentsRendered template.segments cs

/-! Trees that can be rendered: functions are words, numbers are whole, and text is there and apart
from other text. -/

mutual

def Expression.Writable : Expression → Prop
  | .mk subject chain => subject.Writable ∧ CallsWritable chain

def Subject.Writable : Subject → Prop
  | .attribute _ _ => True
  | .call call => call.Writable

def CallsWritable : List Call → Prop
  | [] => True
  | call :: calls => call.Writable ∧ CallsWritable calls

def Call.Writable : Call → Prop
  | .mk name _ args _ =>
    (name.toList ≠ [] ∧ ∀ c ∈ name.toList, isWordChar c = true) ∧ ArgumentsWritable args

def ArgumentsWritable : List Argument → Prop
  | [] => True
  | arg :: args => arg.Writable ∧ ArgumentsWritable args

def Argument.Writable : Argument → Prop
  | .literal (.number n) _ => n.isWhole = true
  | .literal _ _ => True
  | .expression expr _ => expr.Writable

end

def Segment.Writable : Segment → Prop
  | .text run _ => run ≠ []
  | .expression expr _ => expr.Writable

structure Template.Writable (template : Template) : Prop where
  segments : ∀ segment ∈ template.segments, segment.Writable
  apart : template.segments.IsChain fun a b => a.isText = false ∨ b.isText = false

/-! Tokens that are rendered spell what they are rendered from. -/

theorem escape_content {quote : Char} (hquote : quote = '\'' ∨ quote = '"') (text : List Char) :
    QuotedContent quote (escape quote text) text := by
  induction text with
  | nil => exact .nil
  | cons c cs ih =>
    rw [escape]
    split
    · next hc =>
      have hunescape : unescape c = c := by
        rcases hc with rfl | rfl
        · decide
        · rcases hquote with rfl | rfl <;> decide
      have hescaped := QuotedContent.escaped (c := c) ih
      rwa [hunescape] at hescaped
    · next hc =>
      obtain ⟨hbackslash, hc⟩ := not_or.mp hc
      exact .plain hc hbackslash ih

theorem quoted_quoted {quote : Char} (hquote : quote = '\'' ∨ quote = '"') (text : List Char) :
    Quoted (quoted quote text) text := .mk hquote (escape_content hquote text)

theorem doubled_text (following text : List Char) : TextSpelled following (doubled text) text := by
  induction text with
  | nil => exact .nil
  | cons c cs ih =>
    rw [doubled]
    split
    · next hc => exact hc ▸ .pair ih
    · next hc => exact .plain hc ih

theorem doubled_ne_nil {text : List Char} (h : text ≠ []) : doubled text ≠ [] := by
  obtain ⟨c, cs, rfl⟩ := List.exists_cons_of_ne_nil h
  rw [doubled]
  split <;> simp

theorem natText_digits (n : Nat) : Digits (natText n) :=
  ⟨Nat.toDigits_ne_nil, fun _ hc => Nat.isDigit_of_mem_toDigits (by decide) (by decide) hc⟩

theorem digitsValue_eq (cs : List Char) : digitsValue cs = Nat.ofDigitChars 10 cs 0 := by
  simp only [digitsValue, Nat.ofDigitChars, Nat.mul_comm]

theorem digitsValue_natText (n : Nat) : digitsValue (natText n) = n := by
  rw [digitsValue_eq]
  exact Nat.ofDigitChars_toDigits (by decide) (by decide)

theorem intText_whole (n : Int64) : WholeNumeral (intText n.toInt) n := by
  unfold intText
  split
  · next hneg =>
    refine .negative (natText_digits _) ?_
    rw [digitsValue_natText]
    omega
  · next hneg =>
    refine .positive (natText_digits _) ?_
    rw [digitsValue_natText]
    omega

theorem Literal.Rendered.spelled {value : Literal} {cs : List Char} (h : value.Rendered cs) :
    value.Spelled cs := by
  cases h with
  | @string text quote hquote =>
    have hspelled := Literal.Spelled.string (quoted_quoted hquote text.toList)
    rwa [String.ofList_toList] at hspelled
  | whole n => exact .number (.whole (intText_whole n))
  | boolean b => exact .boolean b

theorem Rest.Passes.parts {s t : Rest} {token more : List Char} (h : s.Passes (token ++ more) t) :
    ∃ between, s.Passes token between ∧ between.Passes more t := ⟨_, h.split token⟩

theorem Blank.skips {blanks : List Char} (h : Blank blanks) {s t : Rest}
    (hpasses : s.Passes blanks t) : s.Skips t := ⟨blanks, hpasses, h⟩

/-! What is rendered spells a tree that differs only in its spans. -/

mutual

theorem Expression.Rendered.spelled {expr : Expression} {cs : List Char} :
    expr.Rendered cs → expr.Writable → ∀ {s t : Rest}, s.Passes cs t →
      ∃ placed : Expression, placed.Spelled s t ∧ placed.mapSpans unplaced = expr.mapSpans unplaced
  | .mk hsubject hchain => by
    intro hwritable s t hpasses
    rw [Expression.Writable] at hwritable
    obtain ⟨between, hfirst, hrest⟩ := hpasses.parts
    obtain ⟨subject, hspelled, hsame⟩ := hsubject.spelled hwritable.1 hfirst
    obtain ⟨chain, hmore, hsameChain⟩ := hchain.spelled hwritable.2 hrest
    exact ⟨.mk subject chain, .mk hspelled hmore, by
      rw [Expression.mapSpans, Expression.mapSpans, hsame, hsameChain]⟩

theorem Subject.Rendered.spelled {subject : Subject} {cs : List Char} :
    subject.Rendered cs → subject.Writable → ∀ {s t : Rest}, s.Passes cs t →
      ∃ placed : Subject, placed.Spelled s t ∧ placed.mapSpans unplaced = subject.mapSpans unplaced
  | .bare hne hname => by
    intro _ s t hpasses
    refine ⟨_, .bare hne hname hpasses, ?_⟩
    rw [String.ofList_toList]
    rfl
  | .quoted hquote => by
    intro _ s t hpasses
    refine ⟨_, .quoted (quoted_quoted hquote _) hpasses, ?_⟩
    rw [String.ofList_toList]
    rfl
  | .call hcall => by
    intro hwritable s t hpasses
    rw [Subject.Writable] at hwritable
    obtain ⟨call, hspelled, hsame⟩ := hcall.spelled hwritable hpasses
    exact ⟨.call call, .call hspelled, by rw [Subject.mapSpans, Subject.mapSpans, hsame]⟩

theorem ChainRendered.spelled {calls : List Call} {cs : List Char} :
    ChainRendered calls cs → CallsWritable calls → ∀ {s t : Rest}, s.Passes cs t →
      ∃ placed, ChainSpelled placed s t ∧ mapCallSpans unplaced placed = mapCallSpans unplaced calls
  | .nil => by
    intro _ s t hpasses
    obtain rfl := hpasses.unique (.refl s)
    exact ⟨[], .nil, rfl⟩
  | .cons hbefore hafter hcall hcalls => by
    intro hwritable s t hpasses
    rw [CallsWritable] at hwritable
    obtain ⟨colon, hblanks, hpasses⟩ := hpasses.parts
    obtain ⟨after, hcolon, hpasses⟩ := hpasses.parts
    obtain ⟨first, hmore, hpasses⟩ := hpasses.parts
    obtain ⟨between, hfirst, hrest⟩ := hpasses.parts
    obtain ⟨call, hspelled, hsame⟩ := hcall.spelled hwritable.1 hfirst
    obtain ⟨calls, hspelledMore, hsameMore⟩ := hcalls.spelled hwritable.2 hrest
    exact ⟨call :: calls, .cons (hbefore.skips hblanks) hcolon (hafter.skips hmore) hspelled
      hspelledMore, by rw [mapCallSpans, mapCallSpans, hsame, hsameMore]⟩

theorem Call.Rendered.spelled {call : Call} {cs : List Char} :
    call.Rendered cs → call.Writable → ∀ {s t : Rest}, s.Passes cs t →
      ∃ placed : Call, placed.Spelled s t ∧ placed.mapSpans unplaced = call.mapSpans unplaced
  | .mk hbetween hargs => by
    intro hwritable s t hpasses
    rw [Call.Writable] at hwritable
    obtain ⟨⟨hne, hname⟩, hwritable⟩ := hwritable
    obtain ⟨after, hfirst, hpasses⟩ := hpasses.parts
    obtain ⟨opening, hblanks, hpasses⟩ := hpasses.parts
    obtain ⟨inner, hopening, hrest⟩ := hpasses.parts
    obtain ⟨args, hspelled, hsame⟩ := hargs.spelled hwritable hopening hrest
    refine ⟨_, .mk hne hname hfirst (hbetween.skips hblanks) hspelled, ?_⟩
    rw [Call.mapSpans, Call.mapSpans, hsame, String.ofList_toList]
    rfl

theorem ArgumentsRendered.spelled {args : List Argument} {cs : List Char} :
    ArgumentsRendered args cs → ArgumentsWritable args → ∀ {opening s t : Rest},
      opening.Passes ['('] s → s.Passes cs t →
      ∃ placed, ArgumentsSpelled placed opening t ∧
        mapArgumentSpans unplaced placed = mapArgumentSpans unplaced args
  | .nil hblanks => by
    intro _ opening s t hopening hpasses
    obtain ⟨closing, hskips, hclosing⟩ := hpasses.parts
    exact ⟨[], .none hopening (hblanks.skips hskips) hclosing, rfl⟩
  | .cons hbefore harg hargs => by
    intro hwritable opening s t hopening hpasses
    rw [ArgumentsWritable] at hwritable
    obtain ⟨first, hblanks, hpasses⟩ := hpasses.parts
    obtain ⟨between, hfirst, hrest⟩ := hpasses.parts
    obtain ⟨arg, hspelled, hsame⟩ := harg.spelled hwritable.1 hfirst
    obtain ⟨args, hspelledMore, hsameMore⟩ := hargs.spelled hwritable.2 hrest
    exact ⟨arg :: args, .some hopening (hbefore.skips hblanks) hspelled hspelledMore, by
      rw [mapArgumentSpans, mapArgumentSpans, hsame, hsameMore]⟩

theorem MoreArgumentsRendered.spelled {args : List Argument} {cs : List Char} :
    MoreArgumentsRendered args cs → ArgumentsWritable args → ∀ {s t : Rest}, s.Passes cs t →
      ∃ placed, MoreArgumentsSpelled placed s t ∧
        mapArgumentSpans unplaced placed = mapArgumentSpans unplaced args
  | .nil hblanks => by
    intro _ s t hpasses
    obtain ⟨closing, hskips, hclosing⟩ := hpasses.parts
    exact ⟨[], .nil (hblanks.skips hskips) hclosing, rfl⟩
  | .cons hbefore hafter harg hargs => by
    intro hwritable s t hpasses
    rw [ArgumentsWritable] at hwritable
    obtain ⟨comma, hblanks, hpasses⟩ := hpasses.parts
    obtain ⟨after, hcomma, hpasses⟩ := hpasses.parts
    obtain ⟨first, hmore, hpasses⟩ := hpasses.parts
    obtain ⟨between, hfirst, hrest⟩ := hpasses.parts
    obtain ⟨arg, hspelled, hsame⟩ := harg.spelled hwritable.1 hfirst
    obtain ⟨args, hspelledMore, hsameMore⟩ := hargs.spelled hwritable.2 hrest
    exact ⟨arg :: args, .cons (hbefore.skips hblanks) hcomma (hafter.skips hmore) hspelled
      hspelledMore, by rw [mapArgumentSpans, mapArgumentSpans, hsame, hsameMore]⟩

theorem Argument.Rendered.spelled {arg : Argument} {cs : List Char} :
    arg.Rendered cs → arg.Writable → ∀ {s t : Rest}, s.Passes cs t →
      ∃ placed : Argument, placed.Spelled s t ∧ placed.mapSpans unplaced = arg.mapSpans unplaced
  | .literal hvalue => fun _ _ _ hpasses => ⟨_, .literal hvalue.spelled hpasses, rfl⟩
  | .expression hexpr => by
    intro hwritable s t hpasses
    rw [Argument.Writable] at hwritable
    obtain ⟨expr, hspelled, hsame⟩ := hexpr.spelled hwritable hpasses
    refine ⟨_, .expression hspelled, ?_⟩
    rw [Argument.mapSpans, Argument.mapSpans, hsame]
    rfl

theorem EmbeddedRendered.spelled {expr : Expression} {cs : List Char} :
    EmbeddedRendered expr cs → expr.Writable → ∀ {s t : Rest}, s.Passes cs t →
      ∃ placed : Expression, EmbeddedSpelled placed s t ∧
        placed.mapSpans unplaced = expr.mapSpans unplaced
  | .mk hbefore hexpr hafter => by
    intro hwritable s t hpasses
    obtain ⟨after, hopening, hpasses⟩ := hpasses.parts
    obtain ⟨first, hblanks, hpasses⟩ := hpasses.parts
    obtain ⟨last, hfirst, hpasses⟩ := hpasses.parts
    obtain ⟨closing, hmore, hclosing⟩ := hpasses.parts
    obtain ⟨placed, hspelled, hsame⟩ := hexpr.spelled hwritable hfirst
    exact ⟨placed, .mk hopening (hbefore.skips hblanks) hspelled (hafter.skips hmore) hclosing,
      hsame⟩

end

theorem Segment.isText_mapSpans (f : Span → Span) (segment : Segment) :
    (segment.mapSpans f).isText = segment.isText := by
  cases segment <;> rfl

theorem head_isText {placed segments : List Segment} {f : Span → Span}
    (h : placed.map (Segment.mapSpans f) = segments.map (Segment.mapSpans f)) :
    placed.head?.map Segment.isText = segments.head?.map Segment.isText := by
  have hheads := congrArg (fun list => list.head?.map Segment.isText) h
  simpa [Function.comp_def, Segment.isText_mapSpans] using hheads

theorem SegmentsRendered.spelled {segments : List Segment} {cs : List Char}
    (h : SegmentsRendered segments cs) (hwritable : ∀ segment ∈ segments, segment.Writable)
    (hapart : segments.IsChain fun a b => a.isText = false ∨ b.isText = false) {s t : Rest}
    (hend : t.chars = []) (hpasses : s.Passes cs t) :
    ∃ placed, SegmentsSpelled placed s ∧
      placed.map (Segment.mapSpans unplaced) = segments.map (Segment.mapSpans unplaced) := by
  induction h generalizing s with
  | nil =>
    obtain rfl := hpasses.unique (.refl s)
    exact ⟨[], .nil hend, rfl⟩
  | @text run span segments more _ ih =>
    obtain ⟨hne, hwritable⟩ := List.forall_mem_cons.mp hwritable
    obtain ⟨hnext, hapart⟩ := List.isChain_cons.mp hapart
    obtain ⟨between, hfirst, hrest⟩ := hpasses.parts
    obtain ⟨placed, hspelled, hsame⟩ := ih hwritable hapart hrest
    refine ⟨_, .text (doubled_ne_nil hne) hfirst (doubled_text _ run) ?_ hspelled, ?_⟩
    · intro segment hsegment
      have hheads := head_isText hsame
      rw [Option.mem_def.mp hsegment, Option.map_some] at hheads
      obtain ⟨other, hother, hsameText⟩ := Option.map_eq_some_iff.mp hheads.symm
      rw [← hsameText]
      simpa [Segment.isText] using hnext other hother
    · rw [List.map_cons, List.map_cons, hsame]
      rfl
  | @expression expr span segments cs more hexpr _ ih =>
    obtain ⟨hself, hwritable⟩ := List.forall_mem_cons.mp hwritable
    obtain ⟨between, hfirst, hrest⟩ := hpasses.parts
    obtain ⟨placedExpr, hspelledExpr, hsameExpr⟩ := hexpr.spelled hself hfirst
    obtain ⟨placed, hspelled, hsame⟩ := ih hwritable hapart.tail hrest
    refine ⟨_, .expression hspelledExpr hspelled, ?_⟩
    rw [List.map_cons, List.map_cons, hsame, Segment.mapSpans, Segment.mapSpans, hsameExpr]
    rfl

/-! Every tree that is writable is rendered in some way. -/

theorem Blank.nil : Blank [] := by simp [Blank]

theorem Literal.exists_rendered (value : Literal) (span : Span)
    (h : (Argument.literal value span).Writable) : ∃ cs, value.Rendered cs := by
  cases value with
  | string text => exact ⟨_, .string (.inl rfl)⟩
  | number n =>
    cases n with
    | whole n => exact ⟨_, .whole n⟩
    | decimal d => exact absurd h (by simp [Argument.Writable, Number.isWhole])
  | boolean b => exact ⟨_, .boolean b⟩

theorem EmbeddedRendered.of_expression {expr : Expression} {cs : List Char} (h : expr.Rendered cs) :
    EmbeddedRendered expr (['$', '\x7b'] ++ ([] ++ (cs ++ ([] ++ ['\x7d'])))) :=
  .mk .nil h .nil

mutual

theorem Expression.exists_rendered : (expr : Expression) → expr.Writable → ∃ cs, expr.Rendered cs
  | .mk subject chain => by
    intro h
    rw [Expression.Writable] at h
    obtain ⟨cs, hsubject⟩ := subject.exists_rendered h.1
    obtain ⟨more, hchain⟩ := exists_chainRendered chain h.2
    exact ⟨_, .mk hsubject hchain⟩

theorem Subject.exists_rendered : (subject : Subject) → subject.Writable → ∃ cs, subject.Rendered cs
  | .attribute _ _ => fun _ => ⟨_, .quoted (.inl rfl)⟩
  | .call call => by
    intro h
    rw [Subject.Writable] at h
    obtain ⟨cs, hcall⟩ := call.exists_rendered h
    exact ⟨_, .call hcall⟩

theorem exists_chainRendered : (calls : List Call) → CallsWritable calls →
    ∃ cs, ChainRendered calls cs
  | [] => fun _ => ⟨_, .nil⟩
  | call :: calls => by
    intro h
    rw [CallsWritable] at h
    obtain ⟨cs, hcall⟩ := call.exists_rendered h.1
    obtain ⟨more, hcalls⟩ := exists_chainRendered calls h.2
    exact ⟨_, .cons .nil .nil hcall hcalls⟩

theorem Call.exists_rendered : (call : Call) → call.Writable → ∃ cs, call.Rendered cs
  | .mk name nameSpan args span => by
    intro h
    rw [Call.Writable] at h
    cases args with
    | nil => exact ⟨_, .mk .nil (.nil .nil)⟩
    | cons arg args =>
      rw [ArgumentsWritable] at h
      obtain ⟨cs, harg⟩ := arg.exists_rendered h.2.1
      obtain ⟨more, hargs⟩ := exists_moreArgumentsRendered args h.2.2
      exact ⟨_, .mk .nil (.cons .nil harg hargs)⟩

theorem exists_moreArgumentsRendered : (args : List Argument) → ArgumentsWritable args →
    ∃ cs, MoreArgumentsRendered args cs
  | [] => fun _ => ⟨_, .nil .nil⟩
  | arg :: args => by
    intro h
    rw [ArgumentsWritable] at h
    obtain ⟨cs, harg⟩ := arg.exists_rendered h.1
    obtain ⟨more, hargs⟩ := exists_moreArgumentsRendered args h.2
    exact ⟨_, .cons .nil .nil harg hargs⟩

theorem Argument.exists_rendered : (arg : Argument) → arg.Writable → ∃ cs, arg.Rendered cs
  | .literal value span => by
    intro h
    obtain ⟨cs, hvalue⟩ := value.exists_rendered span h
    exact ⟨_, .literal hvalue⟩
  | .expression expr span => by
    intro h
    rw [Argument.Writable] at h
    obtain ⟨cs, hexpr⟩ := expr.exists_rendered h
    exact ⟨_, .expression (.of_expression hexpr)⟩

end

theorem exists_segmentsRendered (segments : List Segment)
    (h : ∀ segment ∈ segments, segment.Writable) : ∃ cs, SegmentsRendered segments cs := by
  induction segments with
  | nil => exact ⟨_, .nil⟩
  | cons segment segments ih =>
    obtain ⟨hself, hrest⟩ := List.forall_mem_cons.mp h
    obtain ⟨more, hmore⟩ := ih hrest
    cases segment with
    | text run span => exact ⟨_, .text hmore⟩
    | expression expr span =>
      obtain ⟨cs, hexpr⟩ := expr.exists_rendered hself
      exact ⟨_, .expression (.of_expression hexpr) hmore⟩

/-- A writable tree is rendered in some way, and read back from whatever it is rendered as. -/
theorem Template.read_rendered {template : Template} (h : template.Writable) :
    (∃ cs, template.Rendered cs) ∧ ∀ cs, template.Rendered cs →
      ∃ found, Template.read cs = .ok found ∧
        found.mapSpans unplaced = template.mapSpans unplaced := by
  refine ⟨exists_segmentsRendered template.segments h.segments, fun cs hrendered => ?_⟩
  have hpasses : (Rest.mk 0 cs).Passes cs ⟨Text.byteLength cs, []⟩ := ⟨by simp, by simp⟩
  obtain ⟨placed, hspelled, hsame⟩ :=
    SegmentsRendered.spelled hrendered h.segments h.apart rfl hpasses
  exact ⟨⟨placed⟩, Template.read_eq_ok_iff.mpr hspelled, congrArg Template.mk hsame⟩

theorem Template.read_rendered_mixed :
    ∃ template : Template, template.segments.length = 2 ∧ template.Writable ∧
      template.Rendered "$$$\x7b\"a\\\"\" :f( -7)\x7d".toList ∧
      ∃ found, Template.read "$$$\x7b\"a\\\"\" :f( -7)\x7d".toList = .ok found ∧
        found.mapSpans unplaced = template.mapSpans unplaced := by
  have hblank : Blank [' '] := by decide
  have harg := @Argument.Rendered.literal _ ⟨14, 16⟩ _ (.whole (-7))
  have hcall := @Call.Rendered.mk "f" ⟨11, 12⟩ ⟨11, 17⟩ _ _ _ .nil (.cons hblank harg (.nil .nil))
  have hsubject := @Subject.Rendered.quoted "a\"" ⟨4, 9⟩ '"' (.inr rfl)
  have hexpr := EmbeddedRendered.mk .nil (.mk hsubject (.cons hblank .nil hcall .nil)) .nil
  have hrendered : Template.Rendered ⟨_⟩ "$$$\x7b\"a\\\"\" :f( -7)\x7d".toList :=
    @SegmentsRendered.text ['$'] ⟨0, 2⟩ _ _
      (@SegmentsRendered.expression _ ⟨2, 18⟩ _ _ _ hexpr .nil)
  have hwritable : Template.Writable ⟨[.text ['$'] ⟨0, 2⟩,
      .expression (.mk (.attribute "a\"" ⟨4, 9⟩)
        [.mk "f" ⟨11, 12⟩ [.literal (.number (.whole (-7))) ⟨14, 16⟩] ⟨11, 17⟩]) ⟨2, 18⟩]⟩ := by
    refine ⟨?_, .cons_cons (.inr rfl) (.singleton _)⟩
    rw [List.forall_mem_cons, List.forall_mem_singleton]
    exact ⟨List.cons_ne_nil _ _, trivial, ⟨⟨by decide, List.all_eq_true.mp rfl⟩, rfl, trivial⟩,
      trivial⟩
  exact ⟨_, rfl, hwritable, hrendered, (Template.read_rendered hwritable).2 _ hrendered⟩

end AttrExpr
