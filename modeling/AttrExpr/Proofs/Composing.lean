import AttrExpr.Proofs.Accounts
import AttrExpr.Proofs.Joining
import AttrExpr.Proofs.Lowering

/-! Sources that are put together from texts of their parts. What a text spells on its own it spells
as part of a source, with its spans further on. -/
set_option autoImplicit false

namespace AttrExpr

/-! Texts that spell a part and nothing else, but for blanks around it. -/

def Argument.SpelledBy (arg : Argument) (text : List Char) : Prop :=
  ∃ first last, (Rest.mk 0 text).Skips first ∧ arg.Spelled first last ∧
    last.Skips ⟨Text.byteLength text, []⟩

/-- A text that is an expression in braces. -/
def Expression.EmbeddedBy (expr : Expression) (text : List Char) : Prop :=
  EmbeddedSpelled expr ⟨0, text⟩ ⟨Text.byteLength text, []⟩

namespace Rest

theorem Skips.refl (s : Rest) : s.Skips s := ⟨[], .refl s, by simp⟩

theorem passes_mk (offset : Nat) (token more : List Char) :
    (Rest.mk offset (token ++ more)).Passes token ⟨offset + Text.byteLength token, more⟩ :=
  ⟨rfl, rfl⟩

end Rest

/-- What is spelled up to the end of a text is spelled by all of it. -/
theorem Expression.EmbeddedBy.of_spelled {expr : Expression} {text : List Char} {t : Rest}
    (h : EmbeddedSpelled expr ⟨0, text⟩ t) (hend : t.chars = []) : expr.EmbeddedBy text := by
  obtain ⟨token, hchars, hoffset⟩ := h.reaches
  obtain ⟨offset, chars⟩ := t
  obtain rfl : chars = [] := hend
  obtain rfl : text = token := by simpa using hchars
  obtain rfl : offset = Text.byteLength text := by simpa using hoffset
  exact h

/-- A literal on its own is an argument. -/
theorem Literal.Spelled.argument {value : Literal} {text : List Char} (h : value.Spelled text) :
    (Argument.literal value ⟨0, Text.byteLength text⟩).SpelledBy text := by
  have hpasses : (Rest.mk 0 text).Passes text ⟨Text.byteLength text, []⟩ := ⟨by simp, by simp⟩
  exact ⟨_, _, .refl _, .literal h hpasses, .refl _⟩

/-- An expression in braces is an argument. -/
theorem Expression.EmbeddedBy.argument {expr : Expression} {text : List Char}
    (h : expr.EmbeddedBy text) :
    (Argument.expression expr ⟨0, Text.byteLength text⟩).SpelledBy text :=
  ⟨_, _, .refl _, .expression h, .refl _⟩

namespace Argument.SpelledBy

variable {arg other : Argument} {text more : List Char}

/-- What is read as an argument, up to its end. -/
theorem of_read {fuel : Nat} (h : readArgument (readExpression fuel) ⟨0, text⟩ =
    .ok (arg, ⟨Text.byteLength text, []⟩)) : arg.SpelledBy text :=
  ⟨_, _, .refl _, readArgument_sound (readExpression_sound fuel) _ _ _ h, .refl _⟩

/-- An argument in a source that has `offset` bytes in front of its text. -/
theorem within (h : arg.SpelledBy text) (offset : Nat) (more : List Char) :
    ∃ first last, (Rest.mk offset (text ++ more)).Skips first ∧
      (arg.mapSpans (Span.shift offset)).Spelled first last ∧
      last.Skips ⟨offset + Text.byteLength text, more⟩ := by
  obtain ⟨first, last, hbefore, harg, hafter⟩ := h
  exact ⟨_, _, hbefore.embed offset more, harg.embed offset more, hafter.embed offset more⟩

theorem alone (h : arg.SpelledBy text) (offset : Nat) (more : List Char) :
    ArgumentsSpelled [arg.mapSpans (Span.shift (offset + 1))]
      ⟨offset, '(' :: (text ++ ')' :: more)⟩
      ⟨offset + 1 + Text.byteLength text + 1, more⟩ := by
  obtain ⟨first, last, hbefore, harg, hafter⟩ := h.within (offset + 1) (')' :: more)
  exact .some (Rest.passes_mk offset ['('] _) hbefore harg
    (.nil hafter (Rest.passes_mk _ [')'] more))

theorem both (h : arg.SpelledBy text) {text' : List Char} (h' : other.SpelledBy text')
    (offset : Nat) (more : List Char) :
    ArgumentsSpelled [arg.mapSpans (Span.shift (offset + 1)),
        other.mapSpans (Span.shift (offset + 1 + Text.byteLength text + 1))]
      ⟨offset, '(' :: (text ++ ',' :: (text' ++ ')' :: more))⟩
      ⟨offset + 1 + Text.byteLength text + 1 + Text.byteLength text' + 1, more⟩ := by
  obtain ⟨first, last, hbefore, harg, hafter⟩ :=
    h.within (offset + 1) (',' :: (text' ++ ')' :: more))
  obtain ⟨first', last', hbefore', harg', hafter'⟩ :=
    h'.within (offset + 1 + Text.byteLength text + 1) (')' :: more)
  exact .some (Rest.passes_mk offset ['('] _) hbefore harg
    (.cons hafter (Rest.passes_mk _ [','] _) hbefore' harg'
      (.nil hafter' (Rest.passes_mk _ [')'] more)))

end Argument.SpelledBy

/-- Parentheses with nothing between them. -/
theorem ArgumentsSpelled.empty (offset : Nat) (more : List Char) :
    ArgumentsSpelled [] ⟨offset, '(' :: ')' :: more⟩ ⟨offset + 2, more⟩ :=
  .none (Rest.passes_mk offset ['('] _) (.refl _) (Rest.passes_mk _ [')'] more)

theorem Function.ofName?_name (function : Function) :
    Function.ofName? function.name = some function := by
  cases function <;> decide

/-- A call of a function by its name, with arguments after that. -/
theorem Call.spelled_named (function : Function) {args : List Argument} {offset : Nat}
    {rest : List Char} {opening t : Rest}
    (hskips : (Rest.mk (offset + Text.byteLength function.name.toList) rest).Skips opening)
    (h : ArgumentsSpelled args opening t) :
    Call.Spelled (.mk function.name
        ⟨offset, offset + Text.byteLength function.name.toList⟩ args ⟨offset, t.offset⟩)
      ⟨offset, function.name.toList ++ rest⟩ t := by
  have hne : function.name.toList ≠ [] := by
    cases function <;> decide
  have hword : function.name.toList.all isWordChar = true := by
    cases function <;> decide
  have hcall := Call.Spelled.mk hne (List.all_eq_true.mp hword) (Rest.passes_mk offset _ rest)
    hskips h
  rwa [String.ofList_toList] at hcall

theorem ChainSpelled.append {calls more : List Call} {s t u : Rest} (h : ChainSpelled calls s t)
    (hmore : ChainSpelled more t u) : ChainSpelled (calls ++ more) s u := by
  match h with
  | .nil => exact hmore
  | .cons hbefore hcolon hafter hcall hcalls =>
    exact .cons hbefore hcolon hafter hcall (hcalls.append hmore)

/-- A call right after what it is called on. -/
theorem ChainSpelled.last {call : Call} {offset : Nat} {rest : List Char} {t : Rest}
    (h : call.Spelled ⟨offset + 1, rest⟩ t) : ChainSpelled [call] ⟨offset, ':' :: rest⟩ t :=
  .cons (.refl _) (Rest.passes_mk offset [':'] rest) (.refl _) h .nil

/-- Braces right around an expression. -/
theorem EmbeddedSpelled.around {expr : Expression} {offset stop : Nat} {rest more : List Char}
    (h : expr.Spelled ⟨offset + 2, rest⟩ ⟨stop, '\x7d' :: more⟩) :
    EmbeddedSpelled expr ⟨offset, '$' :: '\x7b' :: rest⟩ ⟨stop + 1, more⟩ :=
  .mk (Rest.passes_mk offset ['$', '\x7b'] rest) (.refl _) h (.refl _)
    (Rest.passes_mk stop ['\x7d'] more)

/-- A source of two calls, the second on the first. -/
theorem Expression.EmbeddedBy.calls (function other : Function) {args args' : List Argument}
    {rest rest' : List Char} {between last : Nat}
    (h : ArgumentsSpelled args ⟨0 + 2 + Text.byteLength function.name.toList, rest⟩
      ⟨between, ':' :: (other.name.toList ++ rest')⟩)
    (h' : ArgumentsSpelled args' ⟨between + 1 + Text.byteLength other.name.toList, rest'⟩
      ⟨last, ['\x7d']⟩) :
    ∃ nameSpan span nameSpan' span', (Expression.mk (.call (.mk function.name nameSpan args span))
      [.mk other.name nameSpan' args' span']).EmbeddedBy
        ('$' :: '\x7b' :: (function.name.toList ++ rest)) :=
  ⟨_, _, _, _, .of_spelled (.around (.mk (.call (Call.spelled_named function (.refl _) h))
    (.last (Call.spelled_named other (.refl _) h')))) rfl⟩

/-! Sources with one expression. -/

/-- A source that is one expression compiles to what that is lowered to. -/
theorem Compiler.compile_embedded_iff {compiler : Compiler} {source : String}
    {expr : Expression} (h : expr.EmbeddedBy source.toList) {compiled : Compiled} :
    compiler.compile source = .ok compiled ↔
      compiled.source = source ∧ compiled.formats = compiler.formats ∧
        expr.lower.Makes ⟨source.toList, compiler.declared⟩ ⟨0, []⟩ compiled.root
          ⟨compiled.slots, compiled.referenced⟩ := by
  let template : Template := ⟨[.expression expr ((Rest.mk 0 source.toList).upTo
    ⟨Text.byteLength source.toList, []⟩)]⟩
  have hread : Template.read source.toList = .ok template :=
    Template.read_eq_ok_iff.mpr (.expression h (.nil rfl))
  have hlower : template.lower = expr.lower := rfl
  rw [compile_ok_iff]
  constructor
  · rintro ⟨hsource, hformats, other, hother, hmakes⟩
    obtain rfl : other = template := Except.ok.inj (hother.symm.trans hread)
    exact ⟨hsource, hformats, hlower ▸ hmakes⟩
  · rintro ⟨hsource, hformats, hmakes⟩
    exact ⟨hsource, hformats, template, hread, hlower ▸ hmakes⟩

theorem Compiler.exists_compile_embedded {compiler : Compiler} {source : String}
    {expr : Expression} (h : expr.EmbeddedBy source.toList) {node : Node} {after : Progress}
    (hmakes : expr.lower.Makes ⟨source.toList, compiler.declared⟩ ⟨0, []⟩ node after) :
    ∃ compiled, compiler.compile source = .ok compiled ∧ compiled.root = node :=
  ⟨⟨source, node, compiler.formats, after.slots, after.referenced⟩,
    (compile_embedded_iff h).mpr ⟨rfl, rfl, hmakes⟩, rfl⟩

/-- What is read as one expression is that expression in braces. -/
theorem Template.embeddedBy {source : List Char} {template : Template} {expr : Expression}
    (h : Template.read source = .ok template) (honly : template.only? = some expr) :
    expr.EmbeddedBy source := by
  obtain ⟨segments⟩ := template
  have hspelled : SegmentsSpelled segments ⟨0, source⟩ := Template.read_eq_ok_iff.mp h
  cases hspelled with
  | nil hend => cases honly
  | text hne hpasses htext hapart hsegments => cases honly
  | @expression found others _ t hexpr hsegments =>
    cases hsegments with
    | nil hend =>
      cases honly
      exact .of_spelled hexpr hend
    | text => cases honly
    | expression => cases honly

end AttrExpr
