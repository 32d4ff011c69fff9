import PatternExpr.Proofs.Source.Caret

/-! The excerpt of any line and column of a text: its shape, its width and the character it points at.
Where the column came from does not matter here, it counts the characters of the line as it is shown. -/
namespace PatternExpr
namespace Excerpt

theorem le_extendLeft_add (cs : List Char) (n i : Nat) : i ≤ extendLeft cs n i + n := by
  fun_induction extendLeft cs n i with
  | case1 i => exact Nat.le_refl i
  | case2 n i _ ih => omega
  | case3 n i _ => exact Nat.le_add_right i (n + 1)

theorem extendRight_le_add (cs : List Char) (n i : Nat) : extendRight cs n i ≤ i + n := by
  fun_induction extendRight cs n i with
  | case1 i => exact Nat.le_refl i
  | case2 n i _ ih => omega
  | case3 n i _ => exact Nat.le_add_right i (n + 1)

/-- On either side of the column the window has its radius and the steps of its edge, and no line that
is shown whole is as long as that. -/
theorem length_window_text_le (cs : List Char) (column : Nat) :
    ((window cs column).text cs).length ≤ 2 * (radius + edgeSteps) := by
  rw [Window.text, List.length_take, List.length_drop]
  unfold window
  split
  next h =>
    have hwhole : maxWidth ≤ 2 * (radius + edgeSteps) := by decide
    simp only
    omega
  next h =>
    have hstart := le_extendLeft_add cs edgeSteps (min (column - radius) cs.length)
    have hstop := extendRight_le_add cs edgeSteps (min (column + radius) cs.length)
    simp only
    omega

theorem indent_pos (cs : List Char) (line column : Nat) : 0 < indent cs line column := by
  have hlabel : 3 ≤ (label line).toList.length := by
    rw [toList_label, List.length_append]
    exact Nat.le_add_left 3 _
  rw [String.length_toList] at hlabel
  unfold indent
  omega

/-- The last row is never empty, so the rendered text does not end with a line feed. -/
theorem getLast?_render_ne {cs : List Char} (h : '\n' ∉ cs) (line column length : Nat) :
    (render cs line column length).toList.getLast? ≠ some '\n' := by
  intro hlast
  obtain ⟨earlier, hearlier⟩ := List.getLast?_eq_some_iff.1 hlast
  have hrow := getLast?_splitLines (render cs line column length).toList
  rw [splitLines_render h, hearlier, lastLine_concat_newline] at hrow
  have hempty : List.replicate (indent cs line column) ' ' ++ List.replicate length ' ' = [] :=
    Option.some.inj hrow
  have hindent := indent_pos cs line column
  rw [List.append_eq_nil_iff, List.replicate_eq_nil_iff] at hempty
  omega

end Excerpt

/-- An excerpt has three rows: the line number and a run of the line, spaces and the carets, and as many
spaces as there are characters in the second row. The run is not too wide, and it is the whole line if
that is short. In the first row the character of the column stands where the carets start in the
second. -/
theorem rows_of_excerpt {s : Source} {line column : Nat} {piece : List Char} (hline : 0 < line)
    (hpiece : (splitLines s.content.toList)[line - 1]? = some piece)
    (hcolumn : column < (shownChars piece).length) (length : Nat) :
    let rendered := (Location.mk (some s) line column length).excerpt.toList
    ∃ (shown : List Char) (indent : Nat),
      splitLines rendered =
        [Nat.toDigits 10 line ++ [' ', '|', ' '] ++ shown,
          List.replicate indent ' ' ++ List.replicate length '^',
          List.replicate (indent + length) ' '] ∧
      rendered.count '\n' = 2 ∧ rendered.getLast? ≠ some '\n' ∧
      shown <:+: shownChars piece ∧ shown.length ≤ 60 ∧
      ((shownChars piece).length ≤ 40 → shown = shownChars piece) ∧
      (Nat.toDigits 10 line ++ [' ', '|', ' '] ++ shown)[indent]? = some (shownChars piece)[column] := by
  intro rendered
  have hnewline : '\n' ∉ shownChars piece := fun hmem =>
    newline_not_mem_of_mem_splitLines (List.mem_of_getElem? hpiece) (List.mem_of_mem_filter hmem)
  have hrendered : rendered = (Excerpt.render (shownChars piece) line column length).toList :=
    congrArg String.toList (excerpt_eq_render hline hpiece column length)
  have hrows := Excerpt.splitLines_render hnewline line column length
  have hcount := length_splitLines rendered
  rw [hrendered, hrows] at hcount
  rw [Excerpt.toList_label, List.replicate_append_replicate] at hrows
  refine ⟨(Excerpt.window (shownChars piece) column).text (shownChars piece),
    Excerpt.indent (shownChars piece) line column, ?_, ?_, ?_, ?_, ?_, ?_, ?_⟩
  · rw [hrendered, hrows]
  · rw [hrendered]
    exact (Nat.succ.inj hcount).symm
  · rw [hrendered]
    exact Excerpt.getLast?_render_ne hnewline line column length
  · exact Excerpt.isInfix_window_text (shownChars piece) column
  · exact Excerpt.length_window_text_le (shownChars piece) column
  · exact fun hshort => Excerpt.window_text_of_length_le hshort column
  · rw [← Excerpt.toList_label, Excerpt.getElem?_indent, List.getElem?_eq_getElem hcolumn]

/-- The second line of `longLine`, a tab and a carriage return in it, is cut on both sides. -/
theorem rows_of_excerpt_longLine :
    let rendered := (Location.mk (some longLine) 2 32 2).excerpt.toList
    ∃ (shown : List Char) (indent : Nat),
      splitLines rendered =
        [['2', ' ', '|', ' '] ++ shown, List.replicate indent ' ' ++ ['^', '^'],
          List.replicate (indent + 2) ' '] ∧
      shown.length ≤ 60 ∧ (['2', ' ', '|', ' '] ++ shown)[indent]? = some 'b' := by
  have hcontent : longLine.content.toList =
      longLinePrefix ++ 'a' :: 'b' :: (List.replicate 30 '→' ++ ['\r', '.']) := String.toList_ofList
  have hpiece : (splitLines longLine.content.toList)[2 - 1]? = some (List.replicate 30 '→' ++
      '\t' :: 'a' :: 'b' :: (List.replicate 30 '→' ++ ['\r', '.'])) := by
    rw [hcontent]
    decide
  have hcolumn : 32 < (shownChars (List.replicate 30 '→' ++
      '\t' :: 'a' :: 'b' :: (List.replicate 30 '→' ++ ['\r', '.']))).length := by decide
  obtain ⟨shown, indent, hrows, -, -, -, hwidth, -, habove⟩ :=
    rows_of_excerpt (by decide) hpiece hcolumn 2
  exact ⟨shown, indent, hrows, hwidth, habove⟩

end PatternExpr
