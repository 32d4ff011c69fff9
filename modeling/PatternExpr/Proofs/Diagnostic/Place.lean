import PatternExpr.Diagnostic.Basic

/-! Whether a diagnostic shows a place. A place has a text if it has both a line and a column, and then the
runtime layout shows it; the compiler layout asks for the line alone. So the two agree on every place but
one that has a line without a column, for which the compiler layout has an arrow that names nothing. -/
namespace PatternExpr

/-- What stands after the first line of a text. -/
def afterFirstLine (s : String) : String := .ofList (s.toList.dropWhile (· ≠ '\n')).tail

theorem afterFirstLine_append {label message : String} (hlabel : '\n' ∉ label.toList)
    (hmessage : '\n' ∉ message.toList) (t : String) :
    afterFirstLine (label ++ message ++ "\n" ++ t) = t := by
  have hline : ∀ c ∈ (label ++ message).toList, (decide (c ≠ '\n')) = true := by
    intro c hc
    rw [String.toList_append, List.mem_append] at hc
    rw [decide_eq_true_eq]
    rintro rfl
    exact hc.elim hlabel hmessage
  rw [← String.toList_inj, afterFirstLine, String.toList_ofList, String.toList_append,
    String.toList_append, List.append_assoc, List.dropWhile_append_of_pos hline]
  rfl

namespace Location

/-- A line is given but no column. -/
def IsLineOnly (l : Location) : Prop := 0 < l.line ∧ l.column = 0

theorem line_pos_iff {l : Location} (h : ¬ l.IsLineOnly) : 0 < l.line ↔ l.isSynthetic = false := by
  rw [isSynthetic_eq_false_iff]
  unfold IsLineOnly at h
  omega

theorem IsLineOnly.isSynthetic {l : Location} (h : l.IsLineOnly) : l.isSynthetic = true := by
  rw [← Bool.not_eq_false, isSynthetic_eq_false_iff]
  rintro ⟨-, hcolumn⟩
  exact Nat.ne_of_gt hcolumn h.2

theorem excerpt_of_missing {l : Location}
    (h : ∀ s, l.source = some s → (splitLines s.content.toList).length < l.line) : l.excerpt = "" := by
  have hmissing : l.lineText? = none := by
    unfold lineText?
    cases hsource : l.source with
    | none => rfl
    | some s =>
      have hline := h s hsource
      simp only [Option.bind_eq_bind, Option.bind_some]
      split
      · rfl
      · rw [List.getElem?_eq_none (by omega)]
        rfl
  rw [excerpt, hmissing]

theorem toList_toText {l : Location} (h : l.isSynthetic = false) :
    l.toText.toList =
      l.sourceName.toList ++ ':' :: (Nat.toDigits 10 l.line ++ ':' :: Nat.toDigits 10 l.column) := by
  have htext : l.toText = l.sourceName ++ ":" ++ l.line.repr ++ ":" ++ l.column.repr := by
    rw [toText, h]
    rfl
  simp [htext]

theorem toText_eq_empty_iff {l : Location} : l.toText = "" ↔ l.isSynthetic = true := by
  cases h : l.isSynthetic with
  | true => exact iff_of_true (by rw [toText, h]; rfl) rfl
  | false =>
    refine iff_of_false (fun hempty => ?_) nofun
    have hchars := toList_toText h
    rw [hempty] at hchars
    simp at hchars

end Location

namespace Layout

def arrowLabel : List Char := [' ', ' ', '-', '-', '>', ' ', ' ', ' ', 'i', 'n', ' ']

def traceLabel : List Char := [' ', ' ', ' ', '>', '>', ' ', 'f', 'r', 'o', 'm', ' ']

theorem toList_arrowLine (after : String) :
    ("  -->   in " ++ after).toList = arrowLabel ++ after.toList := by
  rw [String.toList_append]
  rfl

theorem toList_traceLine (l : Location) :
    (traceLine l).toList = traceLabel ++ l.toText.toList ++ ['\n'] := by
  rw [traceLine, String.toList_append, String.toList_append]
  rfl

theorem part_eq_iff {p : Prop} [Decidable p] {present : Bool} (hp : p ↔ present = true)
    (text : String) :
    ((if p then text ++ "\n" else "") = text ++ "\n" ↔ present = true) ∧
      ((if p then text ++ "\n" else "") = "" ↔ present = false) := by
  have hne : text ++ "\n" ≠ "" := by simp
  cases present with
  | true =>
    rw [if_pos (hp.2 rfl)]
    exact ⟨iff_of_true rfl rfl, iff_of_false hne nofun⟩
  | false =>
    rw [if_neg fun h => absurd (hp.1 h) nofun]
    exact ⟨iff_of_false hne.symm nofun, iff_of_true rfl rfl⟩

/-- What follows the message of a diagnostic without an arrow does not look like one. -/
theorem traceLines_append_ne_arrow (ls : List Location) (description after : String) :
    String.join (ls.map traceLine) ++ descriptionBlock description ≠ "  -->   in " ++ after := by
  intro h
  have hchars := congrArg String.toList h
  rw [toList_arrowLine, String.toList_append] at hchars
  cases ls with
  | nil =>
    -- an empty line, or nothing at all
    unfold descriptionBlock at hchars
    split at hchars
    · cases hchars
    · rw [String.append_assoc, String.toList_append] at hchars
      exact absurd (List.cons.inj hchars).1 (by decide)
  | cons l ls =>
    rw [List.map_cons, String.join_cons, String.toList_append, toList_traceLine] at hchars
    simp [traceLabel, arrowLabel] at hchars

end Layout

namespace Diagnostic

variable (d : Diagnostic)

theorem afterFirstLine_render (h : '\n' ∉ d.message.toList) :
    afterFirstLine d.render = Layout.arrow d.location ++
      String.join (d.trace.map Layout.traceLine) ++ Layout.excerptBlock d.location ++
        Layout.descriptionBlock d.fullDescription := by
  rw [render_eq]
  exact afterFirstLine_append (by decide) h _

theorem afterFirstLine_renderRuntime (h : '\n' ∉ d.message.toList) :
    afterFirstLine d.renderRuntime =
      (if d.location.isSynthetic then "" else d.location.toText ++ ": ") ++
        (d.description ++ "\n" ++ Layout.hintLine d.hint) := by
  have hassoc (a b c e f : String) : a ++ b ++ c ++ e ++ f = a ++ (b ++ (c ++ e ++ f)) := by
    simp only [String.append_assoc]
  have hrender : d.renderRuntime = "runtime error: " ++ d.message ++ "\n" ++
      ((if d.location.isSynthetic then "" else d.location.toText ++ ": ") ++
        (d.description ++ "\n" ++ Layout.hintLine d.hint)) := hassoc _ _ _ _ _
  rw [hrender]
  exact afterFirstLine_append (by decide) h _

/-- The first thing after the message is an arrow exactly if the location has a line. -/
theorem exists_arrow_iff_line_pos (h : '\n' ∉ d.message.toList) :
    (∃ after, afterFirstLine d.render = "  -->   in " ++ after) ↔ 0 < d.location.line := by
  rw [d.afterFirstLine_render h]
  by_cases hline : 0 < d.location.line
  · refine iff_of_true ?_ hline
    simp only [Layout.arrow, hline, if_true, String.append_assoc]
    exact ⟨_, rfl⟩
  · refine iff_of_false ?_ hline
    simp only [Layout.arrow, Layout.excerptBlock, hline, if_false, String.empty_append,
      String.append_empty]
    rintro ⟨after, hafter⟩
    exact Layout.traceLines_append_ne_arrow d.trace d.fullDescription after hafter

theorem hasLocation_eq_true_iff : d.hasLocation = true ↔ d.location.isSynthetic = false :=
  iff_of_eq (Bool.not_eq_true' _)

theorem afterFirstLine_renderRuntime_eq_iff (h : '\n' ∉ d.message.toList) :
    let shown := d.description ++ "\n" ++ Layout.hintLine d.hint
    (afterFirstLine d.renderRuntime = d.location.toText ++ ": " ++ shown ↔ d.hasLocation = true) ∧
      (afterFirstLine d.renderRuntime = shown ↔ d.hasLocation = false) := by
  intro shown
  have hlonger : d.location.toText ++ ": " ++ shown ≠ shown := by
    intro heq
    have hlength := congrArg String.length heq
    rw [String.length_append, String.length_append, show ": ".length = 2 from rfl] at hlength
    omega
  rw [d.afterFirstLine_renderRuntime h]
  cases hplace : d.hasLocation with
  | true =>
    rw [d.hasLocation_eq_true_iff.1 hplace]
    exact ⟨iff_of_true rfl rfl, iff_of_false hlonger nofun⟩
  | false =>
    have hsynthetic : d.location.isSynthetic = true := by
      rw [← Bool.not_eq_false, ← d.hasLocation_eq_true_iff, hplace]
      exact nofun
    rw [hsynthetic, if_pos rfl, String.empty_append]
    exact ⟨iff_of_false hlonger.symm nofun, iff_of_true rfl rfl⟩

/-- For a diagnostic whose message is one line. The runtime layout has the place before the description
exactly if there is a place, and only then the place has a text. If a line comes with a column then the
compiler layout has an arrow after the message, which names the place, and after the trace the excerpt,
both exactly if there is a place. A line without a column is no place, but the compiler layout has both
parts for it, and the arrow names nothing. -/
theorem layouts_agree_on_location (h : '\n' ∉ d.message.toList) :
    let place := d.location.toText
    let shown := d.description ++ "\n" ++ Layout.hintLine d.hint
    let body := afterFirstLine d.render
    let trace := String.join (d.trace.map Layout.traceLine)
    let block := Layout.descriptionBlock d.fullDescription
    (place ≠ "" ↔ d.hasLocation = true) ∧
    (afterFirstLine d.renderRuntime = place ++ ": " ++ shown ↔ d.hasLocation = true) ∧
    (afterFirstLine d.renderRuntime = shown ↔ d.hasLocation = false) ∧
    ((∀ s, d.location.source = some s → (splitLines s.content.toList).length < d.location.line) →
      d.location.excerpt = "") ∧
    (¬ d.location.IsLineOnly →
      ((∃ after, body = "  -->   in " ++ after) ↔ d.hasLocation = true) ∧
      ∃ arrow excerpt, body = arrow ++ trace ++ excerpt ++ block ∧
        (arrow = "  -->   in " ++ place ++ "\n" ↔ d.hasLocation = true) ∧
        (arrow = "" ↔ d.hasLocation = false) ∧
        (excerpt = d.location.excerpt ++ "\n" ↔ d.hasLocation = true) ∧
        (excerpt = "" ↔ d.hasLocation = false)) ∧
    (d.location.IsLineOnly → d.hasLocation = false ∧
      body = "  -->   in \n" ++ trace ++ (d.location.excerpt ++ "\n") ++ block) := by
  intro place shown body trace block
  have hbody : body = Layout.arrow d.location ++ trace ++ Layout.excerptBlock d.location ++ block :=
    d.afterFirstLine_render h
  obtain ⟨hshown, hplain⟩ := d.afterFirstLine_renderRuntime_eq_iff h
  have htext : place ≠ "" ↔ d.hasLocation = true := by
    rw [Ne, Location.toText_eq_empty_iff, Bool.not_eq_true, d.hasLocation_eq_true_iff]
  refine ⟨htext, hshown, hplain, Location.excerpt_of_missing, fun hcolumn => ⟨?_, ?_⟩,
    fun hcolumn => ?_⟩
  · rw [d.exists_arrow_iff_line_pos h, d.hasLocation_eq_true_iff, Location.line_pos_iff hcolumn]
  · have hline : 0 < d.location.line ↔ d.hasLocation = true := by
      rw [d.hasLocation_eq_true_iff, Location.line_pos_iff hcolumn]
    obtain ⟨harrow, hnoArrow⟩ := Layout.part_eq_iff hline ("  -->   in " ++ place)
    obtain ⟨hexcerpt, hnoExcerpt⟩ := Layout.part_eq_iff hline d.location.excerpt
    exact ⟨_, _, hbody, harrow, hnoArrow, hexcerpt, hnoExcerpt⟩
  · have hempty : place = "" := Location.toText_eq_empty_iff.2 hcolumn.isSynthetic
    constructor
    · rw [← Bool.not_eq_true, ← htext]
      exact fun hne => hne hempty
    · rw [hbody, Layout.arrow, Layout.excerptBlock, if_pos hcolumn.1, if_pos hcolumn.1]
      rw [show d.location.toText = "" from hempty]
      rfl

/-- A failure at a place of a text that is not there, and the same on a line without a column. -/
def failureAt (column : Nat) : Diagnostic :=
  (((ofCode .dataRead).withMessage "Failed to read pattern data.").withDescription
    "  -->   in e.pat:1:1").withLocation ⟨none, 2, column, 1⟩

theorem layouts_agree_on_location_sourceless :
    (∃ after, afterFirstLine (failureAt 3).render = "  -->   in " ++ after) ∧
      afterFirstLine (failureAt 3).renderRuntime = "<unknown>:2:3:   -->   in e.pat:1:1\n" ∧
      (failureAt 3).location.excerpt = "" ∧
      afterFirstLine (failureAt 0).renderRuntime = "  -->   in e.pat:1:1\n" ∧
      afterFirstLine (failureAt 0).render = "  -->   in \n\n\n  -->   in e.pat:1:1\n" := by
  obtain ⟨-, hshown, -, hexcerpt, hwhole, -⟩ := layouts_agree_on_location (failureAt 3) (by decide)
  obtain ⟨-, -, hplain, -, -, hlineOnly⟩ := layouts_agree_on_location (failureAt 0) (by decide)
  obtain ⟨harrow, -⟩ := hwhole fun h => absurd h.2 (by decide)
  obtain ⟨hnone, hbody⟩ := hlineOnly ⟨by decide, rfl⟩
  exact ⟨harrow.2 rfl, (hshown.2 rfl).trans (by decide), hexcerpt nofun,
    (hplain.2 hnone).trans (by decide), hbody.trans (by decide)⟩

/-- A diagnostic on a line of a text, without a column. -/
def columnless : Diagnostic :=
  ((ofCode .divisionByZero).withMessage "Division by zero.").withLocation ⟨some ⟨"e.pat", "1 / 0"⟩, 1, 0, 1⟩

/-- It has no place, but the compiler layout has an arrow, and an excerpt too. -/
theorem layouts_differ_columnless :
    ¬ ((∃ after, afterFirstLine columnless.render = "  -->   in " ++ after) ↔
        columnless.hasLocation = true) ∧
      columnless.render = "error: Division by zero.\n  -->   in \n1 | 1 / 0\n    ^\n     \n" ∧
      columnless.renderRuntime = "runtime error: Division by zero.\n\n" := by
  refine ⟨fun h => ?_, by decide, by decide⟩
  have harrow := (columnless.exists_arrow_iff_line_pos (by decide)).2 (by decide)
  exact absurd (h.1 harrow) (by decide)

end Diagnostic
end PatternExpr
