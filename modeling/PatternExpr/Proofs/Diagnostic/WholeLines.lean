import PatternExpr.Diagnostic.Emitter

/-! Texts of whole lines. What follows such a text starts a line of its own. Every part of the compiler
layout is one, and so is the whole layout, whichever parts it has. -/
namespace PatternExpr

/-- The text is empty or ends with a line feed. -/
def WholeLines (s : String) : Prop := s = "" ∨ ∃ t, s = t ++ "\n"

theorem wholeLines_empty : WholeLines "" := .inl rfl

theorem wholeLines_append_newline (s : String) : WholeLines (s ++ "\n") := .inr ⟨s, rfl⟩

theorem WholeLines.append {s t : String} (hs : WholeLines s) (ht : WholeLines t) :
    WholeLines (s ++ t) := by
  rcases ht with rfl | ⟨t', rfl⟩
  · rwa [String.append_empty]
  · rw [← String.append_assoc]
    exact wholeLines_append_newline (s ++ t')

theorem wholeLines_join {ss : List String} (h : ∀ s ∈ ss, WholeLines s) :
    WholeLines (String.join ss) := by
  induction ss with
  | nil => exact wholeLines_empty
  | cons s ss ih =>
    rw [String.join_cons]
    exact (h s List.mem_cons_self).append (ih fun t ht => h t (List.mem_cons_of_mem s ht))

namespace Layout

theorem wholeLines_arrow (l : Location) : WholeLines (arrow l) := by
  unfold arrow
  split
  · exact wholeLines_append_newline _
  · exact wholeLines_empty

theorem wholeLines_traceLines (ls : List Location) :
    WholeLines (String.join (ls.map traceLine)) := by
  refine wholeLines_join fun s hs => ?_
  obtain ⟨l, -, rfl⟩ := List.mem_map.1 hs
  exact wholeLines_append_newline _

theorem wholeLines_excerptBlock (l : Location) : WholeLines (excerptBlock l) := by
  unfold excerptBlock
  split
  · exact wholeLines_append_newline _
  · exact wholeLines_empty

theorem wholeLines_descriptionBlock (description : String) :
    WholeLines (descriptionBlock description) := by
  unfold descriptionBlock
  split
  · exact wholeLines_empty
  · exact wholeLines_append_newline _

end Layout

theorem Diagnostic.exists_render_eq (d : Diagnostic) : ∃ text, d.render = text ++ "\n" := by
  have hparts : WholeLines (Layout.arrow d.location ++
      String.join (d.trace.map Layout.traceLine) ++ Layout.excerptBlock d.location ++
      Layout.descriptionBlock d.fullDescription) :=
    (((Layout.wholeLines_arrow d.location).append (Layout.wholeLines_traceLines d.trace)).append
      (Layout.wholeLines_excerptBlock d.location)).append
      (Layout.wholeLines_descriptionBlock d.fullDescription)
  rw [render_eq]
  rcases hparts with hempty | ⟨text, htext⟩
  · rw [hempty, String.append_empty]
    exact ⟨_, rfl⟩
  · rw [htext, ← String.append_assoc]
    exact ⟨_, rfl⟩

end PatternExpr
