import PatternExpr.Proofs.Source.Rows

/-! Where the caret of an offset's excerpt lands. The column of a position counts every character of
the line, while the line of an excerpt has lost its carriage returns, so the two agree as far as no
carriage return comes before the offset on its line. -/
namespace PatternExpr

/-- Carriage returns are not shown. -/
def shownChars (cs : List Char) : List Char := cs.filter (· ≠ '\r')

@[simp] theorem shownChars_append (as bs : List Char) :
    shownChars (as ++ bs) = shownChars as ++ shownChars bs :=
  List.filter_append ..

theorem shownChars_cons_of_ne {c : Char} (h : c ≠ '\r') (cs : List Char) :
    shownChars (c :: cs) = c :: shownChars cs :=
  List.filter_cons_of_pos (by simpa using h)

theorem length_shownChars_add_count (cs : List Char) :
    (shownChars cs).length + cs.count '\r' = cs.length := by
  induction cs with
  | nil => rfl
  | cons c cs ih =>
    by_cases hc : c = '\r'
    · subst hc
      simpa [shownChars, ← Nat.add_assoc] using ih
    · rw [shownChars_cons_of_ne hc, List.count_cons_of_ne hc, List.length_cons, List.length_cons]
      omega

/-- The line around a place of a text, as it is shown. -/
def lineAround (before after : List Char) : List Char :=
  shownChars (lastLine before ++ firstLine after)

theorem newline_not_mem_lineAround (before after : List Char) : '\n' ∉ lineAround before after := by
  have hline : '\n' ∉ lastLine before ++ firstLine after := by
    rw [List.mem_append, not_or]
    exact ⟨newline_not_mem_lastLine before, newline_not_mem_firstLine after⟩
  exact fun hmem => hline (List.mem_of_mem_filter hmem)

section
variable {c d : Char} (hc : c ≠ '\n' ∧ c ≠ '\r') (hd : d ≠ '\n' ∧ d ≠ '\r')
include hc hd

theorem lineAround_cons_cons (before after : List Char) :
    lineAround before (c :: d :: after) =
      (shownChars (lastLine before) ++ [c]) ++ d :: shownChars (firstLine after) := by
  rw [lineAround, firstLine_cons_of_ne hc.1, firstLine_cons_of_ne hd.1, shownChars_append,
    shownChars_cons_of_ne hc.2, shownChars_cons_of_ne hd.2]
  simp

/-- A column counts the characters before it, shown or not: each carriage return among them moves it
one character on in the shown line. -/
theorem getElem?_lineAround (before after : List Char) :
    (lineAround before (c :: d :: after))[(Position.ofText before).column]? =
      (d :: shownChars (firstLine after))[(lastLine before).count '\r']? := by
  have hcolumn : (Position.ofText before).column =
      (shownChars (lastLine before) ++ [c]).length + (lastLine before).count '\r' := by
    rw [Position.ofText_eq, List.length_append, List.length_singleton,
      ← length_shownChars_add_count (lastLine before)]
    simp only
    omega
  rw [lineAround_cons_cons hc hd, hcolumn, List.getElem?_append_right (Nat.le_add_right ..),
    Nat.add_sub_cancel_left]

end

theorem excerpt_eq_render {s : Source} {line : Nat} {piece : List Char} (hline : 0 < line)
    (hpiece : (splitLines s.content.toList)[line - 1]? = some piece) (column length : Nat) :
    (Location.mk (some s) line column length).excerpt =
      Excerpt.render (shownChars piece) line column length := by
  have hshown : (Location.mk (some s) line column length).lineText? = some (shownChars piece) := by
    simp only [Location.lineText?, hpiece, Nat.ne_of_gt hline, Option.bind_eq_bind, Option.bind_some,
      if_false]
    rfl
  rw [Location.excerpt, hshown]

variable {s : Source} {before after : List Char}

/-- On a character boundary the location of an offset is the position of the characters before it. -/
theorem Source.locationAt_utf8ByteSize (hs : s.content.toList = before ++ after)
    (hline : (Position.ofText before).line ≤ maxCoordinate)
    (hcolumn : (Position.ofText before).column ≤ maxCoordinate) (length : Nat) :
    s.locationAt (String.ofList before).utf8ByteSize length =
      ⟨some s, (Position.ofText before).line, (Position.ofText before).column, length⟩ := by
  rw [locationAt, hs]
  simp only [charsBefore?_utf8ByteSize, Option.getD_some, Nat.min_eq_left hline,
    Nat.min_eq_left hcolumn]

theorem excerpt_locationAt_eq_render (hs : s.content.toList = before ++ after)
    (hline : (Position.ofText before).line ≤ maxCoordinate)
    (hcolumn : (Position.ofText before).column ≤ maxCoordinate) (length : Nat) :
    (s.locationAt (String.ofList before).utf8ByteSize length).excerpt =
      Excerpt.render (lineAround before after) (Position.ofText before).line
        (Position.ofText before).column length := by
  have hpiece : (splitLines s.content.toList)[(Position.ofText before).line - 1]? =
      some (lastLine before ++ firstLine after) := by
    rw [hs, Position.ofText_eq, Nat.add_sub_cancel, getElem?_splitLines]
  have hpos : 0 < (Position.ofText before).line := by
    rw [Position.ofText_eq]
    exact Nat.succ_pos _
  rw [Source.locationAt_utf8ByteSize hs hline hcolumn, excerpt_eq_render hpos hpiece]
  rfl

/-- The excerpt of the location of an offset, where the offset is that of `c` and `d` follows `c` on
its line. The first row shows the line. The character above the first caret is `d` or, if carriage
returns come before `c` on the line, as many characters after `d`. -/
theorem caret_of_locationAt {c d : Char} (hs : s.content.toList = before ++ c :: d :: after)
    (hc : c ≠ '\n' ∧ c ≠ '\r') (hd : d ≠ '\n' ∧ d ≠ '\r')
    (hline : (Position.ofText before).line ≤ maxCoordinate)
    (hcolumn : (Position.ofText before).column ≤ maxCoordinate) (length : Nat) :
    let excerpt := (s.locationAt (String.ofList before).utf8ByteSize length).excerpt
    let line := lineAround before (c :: d :: after)
    (∃ shown, (splitLines excerpt.toList)[0]? =
        some ((Excerpt.label (Position.ofText before).line).toList ++ shown) ∧
      shown <:+: line ∧ (line.length ≤ Excerpt.maxWidth → shown = line)) ∧
    Excerpt.aboveCaret? excerpt =
      (d :: shownChars (firstLine after))[(lastLine before).count '\r']? ∧
    ('\r' ∉ lastLine before → Excerpt.aboveCaret? excerpt = some d) := by
  intro excerpt line
  have hnewline : '\n' ∉ line := newline_not_mem_lineAround before (c :: d :: after)
  have hexcerpt : excerpt = Excerpt.render line (Position.ofText before).line
      (Position.ofText before).column length := excerpt_locationAt_eq_render hs hline hcolumn length
  have habove : Excerpt.aboveCaret? excerpt =
      (d :: shownChars (firstLine after))[(lastLine before).count '\r']? := by
    rw [hexcerpt, Excerpt.aboveCaret?_render hnewline, getElem?_lineAround hc hd]
  refine ⟨⟨(Excerpt.window line (Position.ofText before).column).text line, ?_, ?_, ?_⟩,
    habove, fun hcr => ?_⟩
  · rw [hexcerpt, Excerpt.splitLines_render hnewline]
    rfl
  · exact Excerpt.isInfix_window_text line _
  · exact fun hle => Excerpt.window_text_of_length_le hle _
  · rw [habove, List.count_eq_zero.mpr hcr]
    rfl

/-- What stands before the `a` of `longLine`: a line that ends with a carriage return, and then wide
characters and a tab. -/
def longLinePrefix : List Char := ['=', '\r', '\n'] ++ List.replicate 30 '→' ++ ['\t']

/-- A text whose second line is too long to be shown whole and has a carriage return near its end. -/
def longLine : Source :=
  ⟨"r.pat", String.ofList (longLinePrefix ++ 'a' :: 'b' :: (List.replicate 30 '→' ++ ['\r', '.']))⟩

theorem caret_of_locationAt_longLine :
    Excerpt.aboveCaret? (longLine.locationAt 94 2).excerpt = some 'b' := by
  have hoffset : (String.ofList longLinePrefix).utf8ByteSize = 94 := by decide +kernel
  have hs : longLine.content.toList =
      longLinePrefix ++ 'a' :: 'b' :: (List.replicate 30 '→' ++ ['\r', '.']) :=
    String.toList_ofList
  obtain ⟨-, -, h⟩ := caret_of_locationAt hs (by decide) (by decide) (by decide) (by decide) 2
  rw [hoffset] at h
  exact h (by decide)

/-- A text with a carriage return inside a line. -/
def innerReturn : Source := ⟨"r.pat", "a\rbcd"⟩

/-- The `b` is at offset 2 and the `c` right after it, but the caret is below the `d`. -/
theorem caret_of_locationAt_innerReturn :
    innerReturn.content.toList = ['a', '\r'] ++ 'b' :: 'c' :: ['d'] ∧
      (String.ofList ['a', '\r']).utf8ByteSize = 2 ∧
      Excerpt.aboveCaret? (innerReturn.locationAt 2 1).excerpt = some 'd' ∧
      Excerpt.aboveCaret? (innerReturn.locationAt 2 1).excerpt ≠ some 'c' := by
  have hs : innerReturn.content.toList = ['a', '\r'] ++ 'b' :: 'c' :: ['d'] := by decide
  have hoffset : (String.ofList ['a', '\r']).utf8ByteSize = 2 := by decide
  have habove : Excerpt.aboveCaret? (innerReturn.locationAt 2 1).excerpt = some 'd' := by
    rw [← hoffset, excerpt_locationAt_eq_render hs (by decide) (by decide) 1,
      Excerpt.aboveCaret?_render (newline_not_mem_lineAround _ _)]
    decide
  exact ⟨hs, hoffset, habove, by rw [habove]; decide⟩

end PatternExpr
