import PatternExpr.Proofs.Source.Lines

/-! The rows of a rendered excerpt. A row is what a reader of the output sees as a line, so the rows are
found by splitting the rendered text again, not by reading off how it was put together. -/
namespace PatternExpr

theorem newline_not_mem_toDigits (n : Nat) : '\n' ∉ Nat.toDigits 10 n := by
  intro h
  exact absurd (Nat.isDigit_of_mem_toDigits (by decide) (by decide) h) (by decide)

namespace Excerpt

def label (line : Nat) : String := s!"{line} | "

theorem toList_label (line : Nat) : (label line).toList = Nat.toDigits 10 line ++ [' ', '|', ' '] := by
  rw [← Nat.toList_repr, ← Nat.toString_eq_repr]
  exact String.toList_append

theorem newline_not_mem_label (line : Nat) : '\n' ∉ (label line).toList := by
  rw [toList_label, List.mem_append, not_or]
  exact ⟨newline_not_mem_toDigits line, by decide⟩

def indent (cs : List Char) (line column : Nat) : Nat :=
  (label line).length + (column - (window cs column).start)

theorem lt_window_stop {cs : List Char} {column : Nat} (h : column < cs.length) :
    column < (window cs column).stop := by
  unfold window
  split
  · exact h
  · have hr : min (column + radius) cs.length ≤
        extendRight cs edgeSteps (min (column + radius) cs.length) := le_extendRight ..
    have hpos : 0 < radius := by decide
    simp only
    omega

/-- Rebasing a column to the window keeps the character it names. -/
theorem getElem?_window_text (cs : List Char) (column : Nat) :
    ((window cs column).text cs)[column - (window cs column).start]? = cs[column]? := by
  have hstart := window_start_le_column cs column
  rw [Window.text, List.getElem?_take, List.getElem?_drop, Nat.add_sub_cancel' hstart]
  by_cases h : column < cs.length
  · have hstop := lt_window_stop h
    rw [if_pos (by omega)]
  · rw [List.getElem?_eq_none (Nat.le_of_not_lt h), ite_self]

theorem getElem?_indent (cs : List Char) (line column : Nat) :
    ((label line).toList ++ (window cs column).text cs)[indent cs line column]? = cs[column]? := by
  rw [indent, ← String.length_toList, List.getElem?_append_right (Nat.le_add_right ..),
    Nat.add_sub_cancel_left, getElem?_window_text]

theorem isInfix_window_text (cs : List Char) (column : Nat) :
    (window cs column).text cs <:+: cs :=
  (List.take_prefix ..).isInfix.trans (List.drop_suffix ..).isInfix

theorem window_text_of_length_le {cs : List Char} (h : cs.length ≤ maxWidth) (column : Nat) :
    (window cs column).text cs = cs := by
  simp [window, h, Window.text]

theorem toList_row (n : Nat) (c : Char) : (row n c).toList = List.replicate n c :=
  String.toList_ofList

theorem newline_not_mem_row (n : Nat) {c : Char} (h : c ≠ '\n') : '\n' ∉ (row n c).toList := by
  rw [toList_row]
  exact fun hmem => h (List.eq_of_mem_replicate hmem).symm

theorem splitLines_render {cs : List Char} (h : '\n' ∉ cs) (line column length : Nat) :
    splitLines (render cs line column length).toList =
      [(label line).toList ++ (window cs column).text cs,
        List.replicate (indent cs line column) ' ' ++ List.replicate length '^',
        List.replicate (indent cs line column) ' ' ++ List.replicate length ' '] := by
  have hrender : (render cs line column length).toList =
      ((label line).toList ++ (window cs column).text cs) ++ '\n' ::
        ((row (indent cs line column) ' ').toList ++ (row length '^').toList ++ '\n' ::
          ((row (indent cs line column) ' ').toList ++ (row length ' ').toList)) := by
    simp [render, cut_eq, label, indent]
  have hshown : '\n' ∉ (label line).toList ++ (window cs column).text cs := by
    rw [List.mem_append, not_or]
    exact ⟨newline_not_mem_label line, fun hmem => h ((isInfix_window_text cs column).mem hmem)⟩
  have hbelow : ∀ c : Char, c ≠ '\n' →
      '\n' ∉ (row (indent cs line column) ' ').toList ++ (row length c).toList := by
    intro c hc
    rw [List.mem_append, not_or]
    exact ⟨newline_not_mem_row _ (by decide), newline_not_mem_row _ hc⟩
  rw [hrender, splitLines_append_newline, splitLines_append_newline, splitLines_of_not_mem hshown,
    splitLines_of_not_mem (hbelow '^' (by decide)), splitLines_of_not_mem (hbelow ' ' (by decide))]
  simp only [toList_row]
  rfl

/-- The character of the first row that stands above the place where the carets of the second start. -/
def aboveCaret? (rendered : String) : Option Char :=
  match splitLines rendered.toList with
  | shown :: carets :: _ => shown[(carets.takeWhile (· = ' ')).length]?
  | _ => none

theorem length_takeWhile_indent (n length : Nat) :
    ((List.replicate n ' ' ++ List.replicate length '^').takeWhile (· = ' ')).length = n := by
  rw [List.takeWhile_append_of_pos (by simp)]
  cases length <;> simp [List.replicate_succ]

/-- Whether or not the line is cut down to a window, the carets start below the character whose
0-based index is the column. -/
theorem aboveCaret?_render {cs : List Char} (h : '\n' ∉ cs) (line column length : Nat) :
    aboveCaret? (render cs line column length) = cs[column]? := by
  rw [aboveCaret?, splitLines_render h]
  dsimp only
  rw [length_takeWhile_indent, getElem?_indent]

end Excerpt
end PatternExpr
