import Mathlib.Data.List.DropRight
import PatternExpr.Source.Excerpt
import PatternExpr.Source.Position

/-! Positions and the lines of a text. A position is computed by scanning the characters before an
offset, a line is found by splitting the whole text at line feeds. The two meet at the last line
feed before the offset: the position counts from it, and the piece with the position's line number
starts right after it. -/
namespace PatternExpr

def lastLine (cs : List Char) : List Char := cs.rtakeWhile (· ≠ '\n')

def firstLine (cs : List Char) : List Char := cs.takeWhile (· ≠ '\n')

theorem firstLine_cons_of_ne {c : Char} (h : c ≠ '\n') (cs : List Char) :
    firstLine (c :: cs) = c :: firstLine cs :=
  List.takeWhile_cons_of_pos (by simpa using h)

@[simp] theorem firstLine_cons_newline (cs : List Char) : firstLine ('\n' :: cs) = [] := rfl

theorem firstLine_append_of_not_mem {as : List Char} (h : '\n' ∉ as) (bs : List Char) :
    firstLine (as ++ bs) = as ++ firstLine bs := by
  refine List.takeWhile_append_of_pos fun a ha => ?_
  have hne : a ≠ '\n' := fun he => h (he ▸ ha)
  simpa using hne

theorem newline_not_mem_firstLine (cs : List Char) : '\n' ∉ firstLine cs := by
  intro h
  simpa using List.mem_takeWhile_imp h

theorem newline_not_mem_lastLine (cs : List Char) : '\n' ∉ lastLine cs := by
  intro h
  simpa using List.mem_rtakeWhile_imp h

theorem lastLine_concat_of_ne (cs : List Char) {c : Char} (h : c ≠ '\n') :
    lastLine (cs ++ [c]) = lastLine cs ++ [c] :=
  List.rtakeWhile_concat_pos _ _ _ (by simpa using h)

@[simp] theorem lastLine_concat_newline (cs : List Char) : lastLine (cs ++ ['\n']) = [] :=
  List.rtakeWhile_concat_neg _ _ _ (by simp)

theorem eq_lastLine_or_exists_newline (cs : List Char) :
    cs = lastLine cs ∨ ∃ earlier, cs = earlier ++ '\n' :: lastLine cs := by
  induction cs using List.reverseRecOn with
  | nil => exact .inl rfl
  | append_singleton cs c ih =>
    by_cases hc : c = '\n'
    · subst hc
      exact .inr ⟨cs, by simp⟩
    · rw [lastLine_concat_of_ne cs hc]
      rcases ih with h | ⟨earlier, h⟩
      · exact .inl (congrArg (· ++ [c]) h)
      · exact .inr ⟨earlier, by simpa using congrArg (· ++ [c]) h⟩

theorem splitLines_append_of_not_mem {as : List Char} (h : '\n' ∉ as) (bs : List Char) :
    splitLines (as ++ bs) = (splitLines bs).modifyHead (as ++ ·) := by
  induction as with
  | nil => exact (congrFun List.modifyHead_id _).symm
  | cons a as ih =>
    obtain ⟨ha, has⟩ := List.ne_and_not_mem_of_not_mem_cons h
    rw [List.cons_append, splitLines, if_neg (Ne.symm ha), ih has, List.modifyHead_modifyHead]
    rfl

theorem splitLines_of_not_mem {cs : List Char} (h : '\n' ∉ cs) : splitLines cs = [cs] := by
  simpa [splitLines] using splitLines_append_of_not_mem h []

theorem splitLines_append_newline (as bs : List Char) :
    splitLines (as ++ '\n' :: bs) = splitLines as ++ splitLines bs := by
  induction as with
  | nil => simp [splitLines]
  | cons a as ih =>
    by_cases ha : a = '\n'
    · simp [splitLines, ha, ih]
    · obtain ⟨p, ps, hp⟩ := List.exists_cons_of_ne_nil (splitLines_ne_nil as)
      simp [splitLines, ha, ih, hp]

theorem getElem?_zero_splitLines (cs : List Char) : (splitLines cs)[0]? = some (firstLine cs) := by
  induction cs with
  | nil => rfl
  | cons c cs ih =>
    by_cases hc : c = '\n'
    · simp [splitLines, hc]
    · rw [splitLines, if_neg hc, firstLine_cons_of_ne hc, List.getElem?_modifyHead_zero, ih]
      rfl

theorem flatMap_splitLines (cs : List Char) : (splitLines cs).flatMap (· ++ ['\n']) = cs ++ ['\n'] := by
  induction cs with
  | nil => rfl
  | cons c cs ih =>
    by_cases hc : c = '\n'
    · simp [splitLines, hc, ih]
    · obtain ⟨p, ps, hp⟩ := List.exists_cons_of_ne_nil (splitLines_ne_nil cs)
      rw [hp] at ih
      simpa [splitLines, hc, hp] using ih

/-- The text before a place is some pieces, each with its line feed, and the line of the place up to it.
Whatever follows, the whole text starts with these pieces. -/
theorem exists_pieces_before (before : List Char) :
    ∃ pieces : List (List Char), pieces.length = before.count '\n' ∧
      before = pieces.flatMap (· ++ ['\n']) ++ lastLine before ∧
      ∀ after, splitLines (before ++ after) = pieces ++ splitLines (lastLine before ++ after) := by
  have hlast : (lastLine before).count '\n' = 0 :=
    List.count_eq_zero.mpr (newline_not_mem_lastLine before)
  rcases eq_lastLine_or_exists_newline before with h | ⟨earlier, h⟩
  · refine ⟨[], ?_, h, fun after => ?_⟩
    · rw [h, hlast, List.length_nil]
    · rw [← h, List.nil_append]
  · refine ⟨splitLines earlier, ?_, ?_, fun after => ?_⟩
    · rw [length_splitLines, h, List.count_append, List.count_cons_self, hlast]
    · rw [flatMap_splitLines, List.append_assoc, List.singleton_append]
      exact h
    · rw [← splitLines_append_newline, ← List.cons_append, ← List.append_assoc, ← h]

/-- The piece a place of a text is in: it has as many pieces before it as there are line feeds before
the place. -/
theorem getElem?_splitLines (before after : List Char) :
    (splitLines (before ++ after))[before.count '\n']? =
      some (lastLine before ++ firstLine after) := by
  obtain ⟨pieces, hlength, -, hsplit⟩ := exists_pieces_before before
  rw [hsplit, ← hlength, List.getElem?_append_right (Nat.le_refl _), Nat.sub_self,
    getElem?_zero_splitLines, firstLine_append_of_not_mem (newline_not_mem_lastLine before)]

theorem eq_flatMap_append_lastLine (before after : List Char) :
    before = ((splitLines (before ++ after)).take (before.count '\n')).flatMap (· ++ ['\n']) ++
      lastLine before := by
  obtain ⟨pieces, hlength, hbefore, hsplit⟩ := exists_pieces_before before
  rw [hsplit, List.take_left' hlength]
  exact hbefore

theorem getLast?_splitLines (cs : List Char) : (splitLines cs).getLast? = some (lastLine cs) := by
  have hlast := getElem?_splitLines cs []
  rw [List.append_nil, show firstLine [] = [] from rfl, List.append_nil] at hlast
  rw [List.getLast?_eq_getElem?, length_splitLines, Nat.add_sub_cancel, hlast]

theorem newline_not_mem_of_mem_splitLines {cs piece : List Char} (h : piece ∈ splitLines cs) :
    '\n' ∉ piece := by
  induction cs generalizing piece with
  | nil => simp_all [splitLines]
  | cons c cs ih =>
    by_cases hc : c = '\n'
    · rw [splitLines, if_pos hc] at h
      rcases List.mem_cons.1 h with rfl | hmem
      · exact List.not_mem_nil
      · exact ih hmem
    · obtain ⟨p, ps, hp⟩ := List.exists_cons_of_ne_nil (splitLines_ne_nil cs)
      rw [splitLines, if_neg hc, hp, List.modifyHead_cons] at h
      rw [hp] at ih
      rcases List.mem_cons.1 h with rfl | hmem
      · exact List.not_mem_cons_of_ne_of_not_mem (Ne.symm hc) (ih List.mem_cons_self)
      · exact ih (List.mem_cons_of_mem _ hmem)

namespace Position

theorem ofText_eq (cs : List Char) :
    ofText cs = ⟨cs.count '\n' + 1, (lastLine cs).length + 1⟩ := by
  induction cs using List.reverseRecOn with
  | nil => rfl
  | append_singleton cs c ih =>
    rw [ofText_concat, ih, advance]
    by_cases hc : c = '\n'
    · simp [hc]
    · simp [hc, lastLine_concat_of_ne cs hc]

end Position

theorem charsBefore?_utf8Size_add (c : Char) (n : Nat) (cs : List Char) :
    charsBefore? (c.utf8Size + n) (c :: cs) = (charsBefore? n cs).map (c :: ·) := by
  obtain ⟨k, hk⟩ : ∃ k, c.utf8Size + n = k + 1 :=
    Nat.exists_eq_add_one.mpr (Nat.add_pos_left c.utf8Size_pos n)
  rw [hk, charsBefore?, if_pos (hk ▸ Nat.le_add_right ..), ← hk, Nat.add_sub_cancel_left]

theorem charsBefore?_utf8ByteSize (before after : List Char) :
    charsBefore? (String.ofList before).utf8ByteSize (before ++ after) = some before := by
  induction before with
  | nil => simp [charsBefore?]
  | cons c cs ih =>
    rw [String.ofList_cons, String.utf8ByteSize_append, String.utf8ByteSize_singleton,
      List.cons_append, charsBefore?_utf8Size_add, ih]
    rfl

end PatternExpr
