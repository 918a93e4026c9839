import AttrExpr.Proofs.Rendering

/-! Templates of sources that are joined. What is spelled in a source is spelled in every longer
one, except that text at the seam becomes one. -/
set_option autoImplicit false

namespace AttrExpr

def Span.shift (k : Nat) (span : Span) : Span := ⟨k + span.start, k + span.stop⟩

/-- A place of a source as a place of a longer one, with `k` bytes more in front of it and `more`
behind. -/
def Rest.embed (k : Nat) (more : List Char) (s : Rest) : Rest := ⟨k + s.offset, s.chars ++ more⟩

namespace Rest

variable {s t : Rest} (k : Nat) (more : List Char)

theorem Passes.embed {token : List Char} (h : s.Passes token t) :
    (s.embed k more).Passes token (t.embed k more) := by
  refine ⟨?_, ?_⟩
  · simp only [Rest.embed, h.1, List.append_assoc]
  · simp only [Rest.embed, h.2, Nat.add_assoc]

theorem Skips.embed (h : s.Skips t) : (s.embed k more).Skips (t.embed k more) := by
  obtain ⟨blanks, hpasses, hblanks⟩ := h
  exact ⟨blanks, hpasses.embed k more, hblanks⟩

end Rest

/-! Expressions are spelled alike whatever is around them. -/

mutual

theorem Expression.Spelled.embed (k : Nat) (more : List Char) {expr : Expression} {s t : Rest} :
    expr.Spelled s t →
      (expr.mapSpans (Span.shift k)).Spelled (s.embed k more) (t.embed k more)
  | .mk hsubject hchain => .mk (hsubject.embed k more) (hchain.embed k more)

theorem Subject.Spelled.embed (k : Nat) (more : List Char) {subject : Subject} {s t : Rest} :
    subject.Spelled s t →
      (subject.mapSpans (Span.shift k)).Spelled (s.embed k more) (t.embed k more)
  | .bare hne hname hpasses => .bare hne hname (hpasses.embed k more)
  | .quoted hquoted hpasses => .quoted hquoted (hpasses.embed k more)
  | .call hcall => .call (hcall.embed k more)

theorem ChainSpelled.embed (k : Nat) (more : List Char) {calls : List Call} {s t : Rest} :
    ChainSpelled calls s t →
      ChainSpelled (mapCallSpans (Span.shift k) calls) (s.embed k more) (t.embed k more)
  | .nil => .nil
  | .cons hbefore hcolon hafter hcall hcalls =>
    .cons (hbefore.embed k more) (hcolon.embed k more) (hafter.embed k more) (hcall.embed k more)
      (hcalls.embed k more)

theorem Call.Spelled.embed (k : Nat) (more : List Char) {call : Call} {s t : Rest} :
    call.Spelled s t → (call.mapSpans (Span.shift k)).Spelled (s.embed k more) (t.embed k more)
  | .mk hne hname hpasses hafter hargs =>
    .mk hne hname (hpasses.embed k more) (hafter.embed k more) (hargs.embed k more)

theorem ArgumentsSpelled.embed (k : Nat) (more : List Char) {args : List Argument} {s t : Rest} :
    ArgumentsSpelled args s t →
      ArgumentsSpelled (mapArgumentSpans (Span.shift k) args) (s.embed k more) (t.embed k more)
  | .none hopening hskips hclosing =>
    .none (hopening.embed k more) (hskips.embed k more) (hclosing.embed k more)
  | .some hopening hskips harg hargs =>
    .some (hopening.embed k more) (hskips.embed k more) (harg.embed k more) (hargs.embed k more)

theorem MoreArgumentsSpelled.embed (k : Nat) (more : List Char) {args : List Argument}
    {s t : Rest} : MoreArgumentsSpelled args s t →
      MoreArgumentsSpelled (mapArgumentSpans (Span.shift k) args) (s.embed k more)
        (t.embed k more)
  | .nil hskips hclosing => .nil (hskips.embed k more) (hclosing.embed k more)
  | .cons hbefore hcomma hafter harg hargs =>
    .cons (hbefore.embed k more) (hcomma.embed k more) (hafter.embed k more) (harg.embed k more)
      (hargs.embed k more)

theorem Argument.Spelled.embed (k : Nat) (more : List Char) {arg : Argument} {s t : Rest} :
    arg.Spelled s t → (arg.mapSpans (Span.shift k)).Spelled (s.embed k more) (t.embed k more)
  | .literal hvalue hpasses => .literal hvalue (hpasses.embed k more)
  | .expression hexpr => .expression (hexpr.embed k more)

theorem EmbeddedSpelled.embed (k : Nat) (more : List Char) {expr : Expression} {s t : Rest} :
    EmbeddedSpelled expr s t →
      EmbeddedSpelled (expr.mapSpans (Span.shift k)) (s.embed k more) (t.embed k more)
  | .mk hopening hafter hexpr hbefore hclosing =>
    .mk (hopening.embed k more) (hafter.embed k more) (hexpr.embed k more) (hbefore.embed k more)
      (hclosing.embed k more)

end

/-! Segments. -/

/-- A segment in front of others, where text that meets text makes one segment. -/
def Segment.before : Segment → List Segment → List Segment
  | .text run span, segments => consText run span segments
  | .expression expr span, segments => .expression expr span :: segments

def joinSegments (segments others : List Segment) : List Segment :=
  segments.foldr Segment.before others

/-- What is not the end of a dollar sign stays so with more behind it. -/
theorem TextSpelled.extend {following token text : List Char} (more : List Char)
    (h : TextSpelled following token text) (hlast : (token ++ following).getLast? ≠ some '$') :
    TextSpelled (following ++ more) token text := by
  have tail (c : Char) (cs : List Char) (h : (c :: cs).getLast? ≠ some '$') :
      cs.getLast? ≠ some '$' := by
    cases cs with
    | nil => simp
    | cons d cs => simpa using h
  induction h with
  | nil => exact .nil
  | pair _ ih => exact .pair (ih (tail _ _ (tail _ _ hlast)))
  | @dollar token text hnext _ ih =>
    refine .dollar ?_ (ih (tail _ _ hlast))
    rw [← List.append_assoc, List.head?_append]
    cases hrest : token ++ following with
    | nil =>
      -- the dollar sign would be the last character
      rw [List.cons_append, hrest] at hlast
      simp at hlast
    | cons d cs => simpa [hrest] using hnext
  | plain hc _ ih => exact .plain hc (ih (tail _ _ hlast))

namespace SegmentsSpelled

variable {segments others : List Segment} {s : Rest}

/-- Segments behind which a source goes on, but not after a dollar sign. -/
theorem join (h : SegmentsSpelled segments s) (k : Nat) (more : List Char)
    (hlast : s.chars.getLast? ≠ some '$')
    (hothers : SegmentsSpelled others ⟨k + (s.offset + Text.byteLength s.chars), more⟩) :
    SegmentsSpelled (joinSegments (segments.map (Segment.mapSpans (Span.shift k))) others)
      (s.embed k more) := by
  -- both conditions are on the end of the source, so they hold at every place before it
  have rest {s t : Rest} (h : s.Reaches t) (hs : s.chars.getLast? ≠ some '$')
      (ho : SegmentsSpelled others ⟨k + (s.offset + Text.byteLength s.chars), more⟩) :
      t.chars.getLast? ≠ some '$' ∧
        SegmentsSpelled others ⟨k + (t.offset + Text.byteLength t.chars), more⟩ := by
    obtain ⟨token, hchars, hoffset⟩ := h
    refine ⟨fun ht => hs ?_, ?_⟩
    · rw [hchars, List.getLast?_append, ht]
      rfl
    · rw [hchars, Text.byteLength_append, ← Nat.add_assoc s.offset, ← hoffset] at ho
      exact ho
  induction h with
  | nil hend => simpa [hend, Rest.embed, joinSegments] using hothers
  | text hne hpasses htext _ _ ih =>
    obtain ⟨ht, ho⟩ := rest hpasses.reaches hlast hothers
    exact (ih ht ho).consText hne (hpasses.embed k more) (htext.extend more (hpasses.1 ▸ hlast))
  | expression hexpr _ ih =>
    obtain ⟨ht, ho⟩ := rest hexpr.reaches hlast hothers
    exact .expression (hexpr.embed k more) (ih ht ho)

end SegmentsSpelled

theorem SegmentsSpelled.shift {segments : List Segment} {s : Rest} (h : SegmentsSpelled segments s)
    (k : Nat) :
    SegmentsSpelled (segments.map (Segment.mapSpans (Span.shift k))) (s.embed k []) := by
  induction h with
  | nil hend => exact .nil (by simp [Rest.embed, hend])
  | text hne hpasses htext hapart _ ih =>
    refine .text hne (hpasses.embed k []) (by simpa [Rest.embed] using htext) ?_ ih
    intro shifted hshifted
    rw [List.head?_map] at hshifted
    obtain ⟨segment, hsegment, rfl⟩ := Option.map_eq_some_iff.mp hshifted
    rw [Segment.isText_mapSpans]
    exact hapart segment hsegment
  | expression hexpr _ ih => exact .expression (hexpr.embed k []) ih

/-- A source that does not end in a dollar sign with another one behind it. -/
theorem Template.read_append {first second : List Char} {template other : Template}
    (h : Template.read first = .ok template) (hother : Template.read second = .ok other)
    (hlast : first.getLast? ≠ some '$') :
    Template.read (first ++ second) = .ok ⟨joinSegments
      (template.segments.map (Segment.mapSpans (Span.shift 0)))
      (other.segments.map (Segment.mapSpans (Span.shift (Text.byteLength first))))⟩ := by
  rw [Template.read_eq_ok_iff] at h hother ⊢
  have hshifted := SegmentsSpelled.shift hother (Text.byteLength first)
  have hend : (Rest.mk 0 second).embed (Text.byteLength first) [] =
      ⟨0 + (0 + Text.byteLength first), second⟩ := by simp [Rest.embed]
  have hjoined := SegmentsSpelled.join h 0 second hlast (hend ▸ hshifted)
  simpa [Rest.embed, Template.Spelled] using hjoined

end AttrExpr
