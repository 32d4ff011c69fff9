import PatternExpr.Proofs.Diagnostic.Place
import PatternExpr.Proofs.Diagnostic.WholeLines
import PatternExpr.Proofs.Source.Rows

/-! What a reader of the compiler layout can tell. The layout has no marks between its parts, but the lines
of each part begin as no line of the next part does: an arrow, then entries of the trace, then a line
number, and an empty line before the description. So the text tells its parts, and the free text comes last. -/
namespace PatternExpr

/-- The message and the names of the places are single lines, and each place has both a line and a
column or neither. -/
structure Diagnostic.IsPlain (d : Diagnostic) : Prop where
  message : '\n' ∉ d.message.toList
  name : ∀ l ∈ d.location :: d.trace, '\n' ∉ l.sourceName.toList
  whole : ∀ l ∈ d.location :: d.trace, (l.line = 0 ↔ l.column = 0)

theorem splitLines_cons_row {row : List Char} (h : '\n' ∉ row) (rest : List Char) :
    splitLines (row ++ '\n' :: rest) = row :: splitLines rest := by
  rw [splitLines_append_newline, splitLines_of_not_mem h]
  rfl

theorem splitLines_injective : Function.Injective splitLines := by
  intro cs ds h
  have hlines : cs ++ ['\n'] = ds ++ ['\n'] := by
    rw [← flatMap_splitLines, ← flatMap_splitLines, h]
  exact List.append_cancel_right hlines

namespace Location

theorem newline_not_mem_toText {l : Location} (h : '\n' ∉ l.sourceName.toList) :
    '\n' ∉ l.toText.toList := by
  cases hsynthetic : l.isSynthetic with
  | true =>
    rw [toText, hsynthetic]
    exact List.not_mem_nil
  | false =>
    rw [toList_toText hsynthetic]
    simp [h, newline_not_mem_toDigits]

theorem newline_not_mem_of_lineText? {l : Location} {cs : List Char} (h : l.lineText? = some cs) :
    '\n' ∉ cs := by
  unfold lineText? at h
  obtain ⟨s, -, hline⟩ := Option.bind_eq_some_iff.1 h
  split at hline
  · cases hline
  · obtain ⟨piece, hpiece, hcs⟩ := Option.bind_eq_some_iff.1 hline
    cases hcs
    exact fun hmem => newline_not_mem_of_mem_splitLines (List.mem_of_getElem? hpiece)
      (List.mem_of_mem_filter hmem)

theorem splitLines_excerpt (l : Location) :
    splitLines l.excerpt.toList = [[]] ∨
      ∃ c row second third, splitLines l.excerpt.toList = [c :: row, second, third] ∧
        c.isDigit = true := by
  unfold excerpt
  cases hline : l.lineText? with
  | none => exact .inl rfl
  | some cs =>
    have hrows := Excerpt.splitLines_render (newline_not_mem_of_lineText? hline) l.line l.column l.length
    obtain ⟨c, digits, hdigits⟩ : ∃ c digits, Nat.toDigits 10 l.line = c :: digits :=
      List.exists_cons_of_ne_nil Nat.toDigits_ne_nil
    have hdigit : c.isDigit = true := by
      refine Nat.isDigit_of_mem_toDigits (b := 10) (n := l.line) (by decide) (by decide) ?_
      rw [hdigits]
      exact List.mem_cons_self
    rw [Excerpt.toList_label, hdigits] at hrows
    exact .inr ⟨c, _, _, _, hrows, hdigit⟩

end Location

namespace Layout

def arrowRows (l : Location) : List (List Char) :=
  if 0 < l.line then [arrowLabel ++ l.toText.toList] else []

def traceRow (l : Location) : List Char := traceLabel ++ l.toText.toList

def excerptRows (l : Location) : List (List Char) :=
  if 0 < l.line then splitLines l.excerpt.toList else []

def descriptionRows (description : String) : List (List Char) :=
  splitLines (descriptionBlock description).toList

variable {l : Location} {ls ms : List Location}

theorem splitLines_arrow_append (h : '\n' ∉ l.sourceName.toList) (rest : List Char) :
    splitLines ((arrow l).toList ++ rest) = arrowRows l ++ splitLines rest := by
  unfold arrow arrowRows
  split
  · have hrow : '\n' ∉ arrowLabel ++ l.toText.toList := by
      rw [List.mem_append, not_or]
      exact ⟨by decide, Location.newline_not_mem_toText h⟩
    have hline : ("  -->   in " ++ l.toText ++ "\n").toList =
        arrowLabel ++ l.toText.toList ++ ['\n'] := by
      rw [String.toList_append, toList_arrowLine]
      rfl
    rw [hline, List.append_assoc, List.singleton_append, splitLines_cons_row hrow]
    rfl
  · rfl

theorem splitLines_traceLines_append (h : ∀ l ∈ ls, '\n' ∉ l.sourceName.toList) (rest : List Char) :
    splitLines ((String.join (ls.map traceLine)).toList ++ rest) =
      ls.map traceRow ++ splitLines rest := by
  induction ls with
  | nil => rfl
  | cons l ls ih =>
    have hrow : '\n' ∉ traceRow l := by
      rw [traceRow, List.mem_append, not_or]
      exact ⟨by decide, Location.newline_not_mem_toText (h l List.mem_cons_self)⟩
    have hline : (traceLine l).toList = traceRow l ++ ['\n'] := toList_traceLine l
    have hrest := ih fun k hk => h k (List.mem_cons_of_mem l hk)
    rw [List.map_cons, String.join_cons, String.toList_append, hline, List.append_assoc,
      List.append_assoc, List.singleton_append, splitLines_cons_row hrow, hrest]
    rfl

theorem splitLines_excerptBlock_append (l : Location) (rest : List Char) :
    splitLines ((excerptBlock l).toList ++ rest) = excerptRows l ++ splitLines rest := by
  unfold excerptBlock excerptRows
  split
  · rw [String.toList_append, List.append_assoc]
    exact splitLines_append_newline l.excerpt.toList rest
  · rfl

theorem exists_descriptionRows_eq_cons (description : String) :
    ∃ rows, descriptionRows description = [] :: rows := by
  unfold descriptionRows descriptionBlock
  split
  · exact ⟨[], rfl⟩
  · refine ⟨splitLines (description ++ "\n").toList, ?_⟩
    rw [String.append_assoc, String.toList_append]
    exact splitLines_cons_row List.not_mem_nil _

theorem descriptionRows_injective : Function.Injective descriptionRows := by
  intro s t h
  have hblock : descriptionBlock s = descriptionBlock t :=
    String.toList_inj.1 (splitLines_injective h)
  unfold descriptionBlock at hblock
  split at hblock <;> split at hblock
  next hs ht => rw [String.isEmpty_iff.1 hs, String.isEmpty_iff.1 ht]
  next => simp [← String.toList_inj] at hblock
  next => simp [← String.toList_inj] at hblock
  next => simpa [← String.toList_inj] using hblock

/-- The row after the trace does not look like an entry of it. -/
theorem exists_row_after_trace (l : Location) (description : String) :
    ∃ row rows, excerptRows l ++ descriptionRows description = row :: rows ∧
      traceLabel.isPrefixOf row = false := by
  obtain ⟨rest, hrest⟩ := exists_descriptionRows_eq_cons description
  unfold excerptRows
  split
  · rcases l.splitLines_excerpt with h | ⟨c, row, second, third, h, hdigit⟩
    · exact ⟨[], descriptionRows description, by rw [h]; rfl, rfl⟩
    · refine ⟨c :: row, [second, third] ++ descriptionRows description, by rw [h]; rfl, ?_⟩
      have hc : (' ' == c) = false := by
        rw [beq_eq_false_iff_ne]
        rintro rfl
        cases hdigit
      rw [traceLabel, List.isPrefixOf_cons_cons, hc]
      rfl
  · exact ⟨[], rest, hrest, rfl⟩

theorem takeWhile_traceRows (ls : List Location) {row : List Char} (rows : List (List Char))
    (h : traceLabel.isPrefixOf row = false) :
    (ls.map traceRow ++ row :: rows).takeWhile traceLabel.isPrefixOf = ls.map traceRow := by
  have hentries : ∀ entry ∈ ls.map traceRow, traceLabel.isPrefixOf entry = true := by
    intro entry hentry
    obtain ⟨l, -, rfl⟩ := List.mem_map.1 hentry
    exact List.isPrefixOf_iff_prefix.2 (List.prefix_append _ _)
  rw [List.takeWhile_append_of_pos hentries, List.takeWhile_cons_of_neg (ne_true_of_eq_false h),
    List.append_nil]

/-- Whether an excerpt is empty or has three rows shows in its first row. -/
theorem excerptRows_append_injective {l k : Location} {s t : String}
    (hline : 0 < l.line ↔ 0 < k.line)
    (h : excerptRows l ++ descriptionRows s = excerptRows k ++ descriptionRows t) :
    excerptRows l = excerptRows k ∧ s = t := by
  have hlength : (excerptRows l).length = (excerptRows k).length := by
    unfold excerptRows at h ⊢
    by_cases hk : 0 < k.line
    · rw [if_pos (hline.2 hk), if_pos hk] at h ⊢
      rcases l.splitLines_excerpt with hl | ⟨c, row, second, third, hl, -⟩ <;>
        rcases k.splitLines_excerpt with hk | ⟨c', row', second', third', hk, -⟩ <;>
        rw [hl, hk] at h ⊢
      · exact absurd (List.cons.inj h).1 nofun
      · exact absurd (List.cons.inj h).1 nofun
      · rfl
    · rw [if_neg (mt hline.1 hk), if_neg hk]
  obtain ⟨hexcerpt, hdescription⟩ := List.append_inj h hlength
  exact ⟨hexcerpt, descriptionRows_injective hdescription⟩

theorem rows_injective {l k : Location} {s t : String} (hline : 0 < l.line ↔ 0 < k.line)
    (h : arrowRows l ++ (ls.map traceRow ++ (excerptRows l ++ descriptionRows s)) =
      arrowRows k ++ (ms.map traceRow ++ (excerptRows k ++ descriptionRows t))) :
    arrowRows l = arrowRows k ∧ ls.map traceRow = ms.map traceRow ∧
      excerptRows l = excerptRows k ∧ s = t := by
  have hlength : (arrowRows l).length = (arrowRows k).length := by
    unfold arrowRows
    by_cases hk : 0 < k.line
    · rw [if_pos (hline.2 hk), if_pos hk]
      rfl
    · rw [if_neg (mt hline.1 hk), if_neg hk]
  obtain ⟨harrow, hafter⟩ := List.append_inj h hlength
  obtain ⟨row, rows, hrow, hlabel⟩ := exists_row_after_trace l s
  obtain ⟨row', rows', hrow', hlabel'⟩ := exists_row_after_trace k t
  have htrace : ls.map traceRow = ms.map traceRow := by
    rw [← takeWhile_traceRows ls rows hlabel, ← takeWhile_traceRows ms rows' hlabel', ← hrow,
      ← hrow', hafter]
  rw [htrace] at hafter
  obtain ⟨hexcerpt, hdescription⟩ :=
    excerptRows_append_injective hline (List.append_cancel_left hafter)
  exact ⟨harrow, htrace, hexcerpt, hdescription⟩

end Layout

namespace Diagnostic

/-- The description and, on a line of its own, the hint, unless that is empty. -/
def shownDescription (d : Diagnostic) : String :=
  match d.hint with
  | none => d.description
  | some hint =>
    if hint = "" then d.description
    else if d.description = "" then "hint: " ++ hint
    else d.description ++ "\nhint: " ++ hint

theorem fullDescription_eq (d : Diagnostic) : d.fullDescription = d.shownDescription := by
  unfold fullDescription shownDescription
  cases d.hint with
  | none => simp [Layout.hintLine]
  | some hint =>
    by_cases hhint : hint = ""
    · simp [Layout.hintLine, hhint]
    · by_cases hdescription : d.description = ""
      · simp [Layout.hintLine, hhint, hdescription]
      · have hlabel : "\n" ++ ("hint: " ++ hint) = "\nhint: " ++ hint := by
          rw [← String.append_assoc]
          rfl
        simp [Layout.hintLine, hhint, hdescription, hlabel, String.append_assoc]

variable {d e : Diagnostic}

theorem IsPlain.withDescription (h : d.IsPlain) (description : String) :
    (d.withDescription description).IsPlain := ⟨h.message, h.name, h.whole⟩

theorem IsPlain.withHint (h : d.IsPlain) (hint : String) : (d.withHint hint).IsPlain :=
  ⟨h.message, h.name, h.whole⟩

theorem splitLines_render (h : d.IsPlain) :
    splitLines d.render.toList =
      (['e', 'r', 'r', 'o', 'r', ':', ' '] ++ d.message.toList) ::
        (Layout.arrowRows d.location ++ (d.trace.map Layout.traceRow ++
          (Layout.excerptRows d.location ++ Layout.descriptionRows d.fullDescription))) := by
  have hrender : d.render.toList =
      (['e', 'r', 'r', 'o', 'r', ':', ' '] ++ d.message.toList) ++ '\n' ::
        ((Layout.arrow d.location).toList ++ ((String.join (d.trace.map Layout.traceLine)).toList ++
          ((Layout.excerptBlock d.location).toList ++
            (Layout.descriptionBlock d.fullDescription).toList))) := by
    simp [render, Layout.compiler]
  have htitle : '\n' ∉ ['e', 'r', 'r', 'o', 'r', ':', ' '] ++ d.message.toList := by
    rw [List.mem_append, not_or]
    exact ⟨by decide, h.message⟩
  rw [hrender, splitLines_cons_row htitle,
    Layout.splitLines_arrow_append (h.name d.location List.mem_cons_self),
    Layout.splitLines_traceLines_append fun l hl => h.name l (List.mem_cons_of_mem _ hl),
    Layout.splitLines_excerptBlock_append]
  rfl

theorem IsPlain.line_pos_iff (h : d.IsPlain) : 0 < d.location.line ↔ d.hasLocation = true := by
  have hwhole := h.whole d.location List.mem_cons_self
  have hcolumn : ¬ d.location.IsLineOnly := fun hline => Nat.ne_of_gt hline.1 (hwhole.2 hline.2)
  rw [d.hasLocation_eq_true_iff, Location.line_pos_iff hcolumn]

theorem placeRows_eq_iff (hd : d.IsPlain) (he : e.IsPlain) :
    (Layout.arrowRows d.location = Layout.arrowRows e.location ∧
      Layout.excerptRows d.location = Layout.excerptRows e.location) ↔
    d.hasLocation = e.hasLocation ∧ (d.hasLocation = true →
      d.location.toText = e.location.toText ∧ d.location.excerpt = e.location.excerpt) := by
  rw [Bool.eq_iff_iff, ← hd.line_pos_iff, ← he.line_pos_iff]
  unfold Layout.arrowRows Layout.excerptRows
  by_cases hline : 0 < d.location.line <;> by_cases hline' : 0 < e.location.line
  all_goals simp only [hline, hline', if_true, if_false]
  · simp [splitLines_injective.eq_iff, String.toList_inj]
  · simp
  · simp
  · simp

theorem traceRows_eq_iff {ls ms : List Location} :
    ls.map Layout.traceRow = ms.map Layout.traceRow ↔
      ls.map Location.toText = ms.map Location.toText := by
  have hrow (ks : List Location) : ks.map Layout.traceRow =
      (ks.map Location.toText).map fun text => Layout.traceLabel ++ text.toList := by
    rw [List.map_map]
    rfl
  rw [hrow, hrow]
  refine List.map_inj_right fun s t hst => ?_
  exact String.toList_inj.1 (List.append_cancel_left hst)

/-- Two diagnostics that are plain have the same text in the compiler layout exactly if they have the same
message, both or neither a place, and then the same text and the same excerpt of it, the same texts of the
trace, one by one and with the empty ones of synthetic entries, and the same description with its hint. So
nothing in a description or a hint can be taken for another part. The text always ends with a line feed. -/
theorem render_unambiguous (hd : d.IsPlain) (he : e.IsPlain) :
    (d.render = e.render ↔
      d.message = e.message ∧ d.hasLocation = e.hasLocation ∧
      (d.hasLocation = true →
        d.location.toText = e.location.toText ∧ d.location.excerpt = e.location.excerpt) ∧
      d.trace.map Location.toText = e.trace.map Location.toText ∧
      d.shownDescription = e.shownDescription) ∧
    ∃ text, d.render = text ++ "\n" := by
  rw [← d.fullDescription_eq, ← e.fullDescription_eq]
  refine ⟨⟨fun hrender => ?_, ?_⟩, d.exists_render_eq⟩
  · have hrows := congrArg (fun text => splitLines text.toList) hrender
    simp only [splitLines_render hd, splitLines_render he, List.cons.injEq,
      List.append_cancel_left_eq, String.toList_inj] at hrows
    obtain ⟨hmessage, hafter⟩ := hrows
    have hline : 0 < d.location.line ↔ 0 < e.location.line := by
      rw [← d.exists_arrow_iff_line_pos hd.message, ← e.exists_arrow_iff_line_pos he.message, hrender]
    obtain ⟨harrow, htrace, hexcerpt, hdescription⟩ := Layout.rows_injective hline hafter
    obtain ⟨hplace, htexts⟩ := (placeRows_eq_iff hd he).1 ⟨harrow, hexcerpt⟩
    exact ⟨hmessage, hplace, htexts, traceRows_eq_iff.1 htrace, hdescription⟩
  · rintro ⟨hmessage, hplace, htexts, htrace, hdescription⟩
    obtain ⟨harrow, hexcerpt⟩ := (placeRows_eq_iff hd he).2 ⟨hplace, htexts⟩
    have hrows : splitLines d.render.toList = splitLines e.render.toList := by
      rw [splitLines_render hd, splitLines_render he, hmessage, harrow, traceRows_eq_iff.2 htrace,
        hexcerpt, hdescription]
    exact String.toList_inj.1 (splitLines_injective hrows)

/-- A division by zero in the first line of a text. -/
def division : Diagnostic :=
  ((ofCode .divisionByZero).withMessage "Division by zero.").withLocation
    ⟨some ⟨"e.pat", "1 / 0\nf()"⟩, 1, 3, 1⟩

/-- The same, reached from the second line. -/
def divisionInCall : Diagnostic := division.withTrace [⟨some ⟨"e.pat", "1 / 0\nf()"⟩, 2, 1, 3⟩]

/-- A description cannot pass for an entry of the trace, but it can for a hint. -/
theorem render_unambiguous_imitations :
    (division.withDescription "   >> from e.pat:2:1").render ≠ divisionInCall.render ∧
      (division.withDescription "a\nhint: b").render =
        ((division.withDescription "a").withHint "b").render := by
  have hdivision : division.IsPlain := ⟨by decide, by decide, by decide⟩
  have hcall : divisionInCall.IsPlain := ⟨by decide, by decide, by decide⟩
  constructor
  · intro hrender
    obtain ⟨-, -, -, htrace, -⟩ :=
      (render_unambiguous (hdivision.withDescription "   >> from e.pat:2:1") hcall).1.1 hrender
    cases htrace
  · refine (render_unambiguous (hdivision.withDescription "a\nhint: b")
      ((hdivision.withDescription "a").withHint "b")).1.2 ?_
    exact ⟨rfl, rfl, fun _ => ⟨rfl, rfl⟩, rfl, by decide⟩

end Diagnostic
end PatternExpr
