import AttrExpr.Proofs.Lines
import AttrExpr.Proofs.Positions

/-! The carets under a line of the source: where they start, and how many there are for the
characters that a span covers. They are counted in bytes, and columns in characters. -/
set_option autoImplicit false

namespace AttrExpr

namespace Span

/-- The characters of a text that lie in a span, where the text starts at an offset. -/
def within (span : Span) : Nat → List Char → List Char
  | _, [] => []
  | offset, c :: cs =>
    if span.start ≤ offset ∧ offset + c.utf8Size ≤ span.stop then
      c :: span.within (offset + c.utf8Size) cs
    else span.within (offset + c.utf8Size) cs

variable {span : Span} {offset : Nat}

theorem within_append (xs ys : List Char) :
    span.within offset (xs ++ ys) =
      span.within offset xs ++ span.within (offset + Text.byteLength xs) ys := by
  induction xs generalizing offset with
  | nil => rfl
  | cons c xs ih =>
    simp only [List.cons_append, within, ih, Text.byteLength_cons, Nat.add_assoc]
    split <;> rfl

theorem within_before {cs : List Char} (h : offset + Text.byteLength cs ≤ span.start) :
    span.within offset cs = [] := by
  induction cs generalizing offset with
  | nil => rfl
  | cons c cs ih =>
    have hpos : 0 < c.utf8Size := Char.utf8Size_pos c
    rw [Text.byteLength_cons] at h
    rw [within, if_neg (by omega), ih (by omega)]

theorem within_behind {cs : List Char} (h : span.stop ≤ offset) : span.within offset cs = [] := by
  induction cs generalizing offset with
  | nil => rfl
  | cons c cs ih =>
    have hpos : 0 < c.utf8Size := Char.utf8Size_pos c
    rw [within, if_neg (by omega), ih (by omega)]

theorem within_inside {cs : List Char} (hstart : span.start ≤ offset)
    (hstop : offset + Text.byteLength cs ≤ span.stop) : span.within offset cs = cs := by
  induction cs generalizing offset with
  | nil => rfl
  | cons c cs ih =>
    rw [Text.byteLength_cons] at hstop
    rw [within, if_pos (by omega), ih (by omega) (by omega)]

end Span

/-- A text up to one of its ends that is not before another runs on from that. -/
theorem Text.splitBytes?_le {source before after upTo rest : List Char} {start stop : Nat}
    (hstart : splitBytes? start source = some (before, after))
    (hstop : splitBytes? stop source = some (upTo, rest)) (hle : start ≤ stop) :
    ∃ text, after = text ++ rest ∧ start + byteLength text = stop := by
  obtain ⟨hsource, hbefore⟩ := splitBytes?_sound _ _ _ _ hstart
  obtain ⟨hsource', hupTo⟩ := splitBytes?_sound _ _ _ _ hstop
  rcases List.append_eq_append_iff.mp (hsource.symm.trans hsource') with
    ⟨text, hupToEq, hafter⟩ | ⟨text, hbeforeEq, hrest⟩
  · refine ⟨text, hafter, ?_⟩
    rw [hupToEq, byteLength_append] at hupTo
    omega
  · rw [hbeforeEq, byteLength_append] at hbefore
    have hfewer := length_le_byteLength text
    obtain rfl : text = [] := List.length_eq_zero_iff.mp (by omega)
    exact ⟨[], hrest.symm, by rw [byteLength_nil]; omega⟩

/-- Carets under a line that starts at an offset, from a column on, for the characters of the line
that a span covers. There is one for each, and one in any case; there can be more only where
characters have several bytes. -/
structure Span.Underlined (span : Span) (offset : Nat) (line : List Char) (column carets : Nat) :
    Prop where
  placed : span.within offset line <+: line.drop (column - 1)
  atLeast : max 1 (span.within offset line).length ≤ carets
  atMost : carets ≤
    max 1 (span.within offset line).length + (Text.byteLength line - line.length)
  /-- A span that ends on the line gets a caret for each byte. -/
  ending : span.stop ≤ offset + Text.byteLength line →
    carets = max 1 (Text.byteLength (span.within offset line))
  /-- Under characters of one byte, no caret but a single one is behind the line. -/
  oneByte : Text.byteLength line = line.length →
    carets = max 1 (span.within offset line).length ∧
      (carets = 1 ∨ column - 1 + carets ≤ line.length)

/-- Carets are bounded by the bytes that are covered, with some slack for characters of several bytes
in front of them. -/
theorem Span.Underlined.of_bounds {span : Span} {offset column carets : Nat}
    {line covered : List Char} (slack : Nat) (hcovered : span.within offset line = covered)
    (hplaced : covered <+: line.drop (column - 1))
    (hslack : slack + (Text.byteLength covered - covered.length) ≤
      Text.byteLength line - line.length)
    (hlow : max 1 (Text.byteLength covered) ≤ carets)
    (hhigh : carets ≤ max 1 (Text.byteLength covered + slack))
    (hending : span.stop ≤ offset + Text.byteLength line →
      carets = max 1 (Text.byteLength covered)) :
    span.Underlined offset line column carets := by
  have hfewer := Text.length_le_byteLength covered
  have hlength := hplaced.length_le
  rw [List.length_drop] at hlength
  subst hcovered
  exact ⟨hplaced, by omega, by omega, hending, by omega⟩

/-- A span covers the characters from its start up to its end, if that is on the same line, or up to
the end of the line. -/
theorem Span.within_visible {span : Span} {source before after upTo rest visible below : List Char}
    (hstart : Text.splitBytes? span.start source = some (before, after))
    (hstop : Text.splitBytes? span.stop source = some (upTo, rest)) (hafter : after = visible ++ below) :
    ∃ covered more, visible = covered ++ more ∧ span.within span.start visible = covered ∧
      (span.stop - span.start = Text.byteLength covered ∨
        Text.byteLength more = 0 ∧ Text.byteLength covered ≤ span.stop - span.start) := by
  rcases Nat.le_total span.stop span.start with hempty | hle
  · exact ⟨[], visible, rfl, within_behind hempty, .inl (Nat.sub_eq_zero_of_le hempty)⟩
  · obtain ⟨text, htext, hlength⟩ := Text.splitBytes?_le hstart hstop hle
    rcases List.append_eq_append_iff.mp (hafter.symm.trans htext) with
      ⟨more, rfl, -⟩ | ⟨more, rfl, -⟩
    · rw [Text.byteLength_append] at hlength
      exact ⟨visible, [], (List.append_nil visible).symm,
        within_inside (Nat.le_refl _) (by omega), .inr ⟨rfl, by omega⟩⟩
    · refine ⟨text, more, rfl, ?_, .inl (by omega)⟩
      rw [within_append, within_inside (Nat.le_refl _) (by omega), within_behind (by omega),
        List.append_nil]

namespace Diagnostic

variable {span : Span} {source before after upTo rest above line below front : List Char}
  {location : Location}

theorem caretCount_underlined
    (hstart : Text.splitBytes? span.start source = some (before, after))
    (hstop : Text.splitBytes? span.stop source = some (upTo, rest))
    (hline : LineOf source location.line above line below) (hbefore : before = above ++ front)
    (hfront : front <+: line ∨ front = line ++ ['\r'])
    (hcolumn : location.column = front.length + 1)
    (hlength : location.length = span.stop - span.start) :
    span.Underlined (Text.byteLength above) line location.column (caretCount location line) := by
  obtain ⟨hsource, hoffset⟩ := Text.splitBytes?_sound _ _ _ _ hstart
  rw [hbefore, Text.byteLength_append] at hoffset
  rw [caretCount, hlength, hcolumn, Nat.add_sub_cancel]
  have hfewer := Text.length_le_byteLength front
  rcases hfront with ⟨visible, rfl⟩ | rfl
  · have hafter : after = visible ++ below := by
      have h := hsource.symm.trans hline.source_eq
      simpa [hbefore] using h
    obtain ⟨covered, more, rfl, hvisible, hends⟩ := Span.within_visible hstart hstop hafter
    have hcovered : span.within (Text.byteLength above) (front ++ (covered ++ more)) = covered := by
      rw [Span.within_append, Span.within_before (by omega), List.nil_append, hoffset, hvisible]
    have hfewer' := Text.length_le_byteLength covered
    have hfewer'' := Text.length_le_byteLength more
    -- the bytes of the line, less the characters in front, leave room for the covered bytes
    refine .of_bounds (Text.byteLength front - front.length) hcovered ?_ ?_ ?_ ?_ ?_
    · rw [Nat.add_sub_cancel, List.drop_left]
      exact List.prefix_append covered more
    all_goals simp only [Text.byteLength_append, List.length_append]
    all_goals omega
  · have hcovered : span.within (Text.byteLength above) line = [] := by
      rw [Text.byteLength_append] at hoffset
      exact Span.within_before (by omega)
    rw [Text.byteLength_append] at hoffset
    refine .of_bounds (Text.byteLength line - line.length) hcovered List.nil_prefix ?_ ?_ ?_ ?_
    all_goals simp only [Text.byteLength_nil, List.length_append, List.length_nil,
      List.length_singleton]
    all_goals omega

/-- The advice that a diagnostic ends with. -/
def advice (diagnostic : Diagnostic) : String :=
  match diagnostic.help with
  | some help => s!"\n   = help: {help}"
  | none => ""

theorem render_of_line {diagnostic : Diagnostic} (colored : Bool)
    (hlocation : diagnostic.location = some location)
    (hline : (lines source)[location.line - 1]? = some line) :
    diagnostic.render source colored = diagnostic.headline colored ++
      (s!"\n  --> {location.text}\n   | {String.ofList line}\n   | " ++
        "".pushn ' ' (location.column - 1) ++ "".pushn '^' (caretCount location line)) ++
      diagnostic.advice := by
  simp only [render, hlocation, excerpt, hline]
  rfl

/-- A diagnostic on a span of the source that starts on a line shows the line, and carets under what
the span covers of it. -/
theorem carets_underline (diagnostic : Diagnostic) (span : Span) (source line : List Char)
    (colored : Bool) (hstart : (Text.splitBytes? span.start source).isSome)
    (hstop : (Text.splitBytes? span.stop source).isSome)
    (hlocation : diagnostic.location = some (.ofSpan span source))
    (hline : (lines source)[(Location.ofSpan span source).line - 1]? = some line) :
    let location := Location.ofSpan span source
    ∃ above below carets, LineOf source location.line above line below ∧
      span.Underlined (Text.byteLength above) line location.column carets ∧
      diagnostic.render source colored = diagnostic.headline colored ++
        (s!"\n  --> {location.text}\n   | {String.ofList line}\n   | " ++
          "".pushn ' ' (location.column - 1) ++ "".pushn '^' carets) ++ diagnostic.advice := by
  intro location
  obtain ⟨⟨before, after⟩, hbefore⟩ := Option.isSome_iff_exists.mp hstart
  obtain ⟨⟨upTo, rest⟩, hupTo⟩ := Option.isSome_iff_exists.mp hstop
  have htext : Location.textBefore span.start source = before := by
    rw [Location.textBefore, hbefore]
  have hnumber : location.line = before.count '\n' + 1 := congrArg (List.count '\n' · + 1) htext
  have hcolumn : location.column = (Location.lastLine before).length + 1 :=
    congrArg (fun cs => (Location.lastLine cs).length + 1) htext
  have hshown : (lines source)[before.count '\n']? = some line := by
    rw [← hline]
    exact congrArg _ (by rw [hnumber, Nat.add_sub_cancel])
  obtain ⟨above, below, front, hlineOf, hsplit, hlast, hfront⟩ :=
    exists_lineOf (Text.splitBytes?_sound _ _ _ _ hbefore).1 hshown
  rw [← hnumber] at hlineOf
  exact ⟨above, below, caretCount location line, hlineOf,
    caretCount_underlined hbefore hupTo hlineOf hsplit hfront (hlast ▸ hcolumn) rfl,
    render_of_line colored hlocation hline⟩

/-- An arithmetic error at a span of a source. -/
def onSpan (span : Span) (source : List Char) : Diagnostic :=
  ⟨.arithmetic, "m", some (.ofSpan span source), none, none⟩

/-- On the second line, behind a character of two bytes, three characters get a caret each. -/
theorem carets_underline_call :
    let source := "x\r\né(b)\n".toList
    let line := "é(b)".toList
    let span : Span := ⟨5, 8⟩
    let location := Location.ofSpan span source
    let diagnostic := onSpan span source
    (Text.splitBytes? 5 source).isSome ∧ (Text.splitBytes? 8 source).isSome ∧
      location = ⟨2, 2, 5, 3⟩ ∧ (lines source)[location.line - 1]? = some line ∧
      (∃ above below carets, LineOf source location.line above line below ∧
        span.Underlined (Text.byteLength above) line location.column carets ∧
        diagnostic.render source false = diagnostic.headline false ++
          (s!"\n  --> {location.text}\n   | {String.ofList line}\n   | " ++
            "".pushn ' ' (location.column - 1) ++ "".pushn '^' carets) ++ diagnostic.advice) ∧
      diagnostic.render source false = "error[AEL0202]: m\n  --> 2:2\n   | é(b)\n   |  ^^^" := by
  intro source line span location diagnostic
  have hstart : (Text.splitBytes? 5 source).isSome := by decide
  have hstop : (Text.splitBytes? 8 source).isSome := by decide
  have hline : (lines source)[location.line - 1]? = some line := by decide
  exact ⟨hstart, hstop, by decide, hline,
    carets_underline diagnostic span source line false hstart hstop rfl hline, by decide⟩

/-- Under a single character of two bytes, which fills its line, there are two carets. -/
theorem carets_beyond_line :
    let source := ['é']
    let span : Span := ⟨0, 2⟩
    (Text.splitBytes? 0 source).isSome ∧ (Text.splitBytes? 2 source).isSome ∧
      lines source = [source] ∧ Location.ofSpan span source = ⟨1, 1, 0, 2⟩ ∧
      span.within 0 source = source ∧ source.length = 1 ∧
      (onSpan span source).render source false =
        "error[AEL0202]: m\n  --> 1:1\n   | é\n   | " ++ "".pushn '^' 2 := by
  decide

end Diagnostic

end AttrExpr
