import PatternExpr.Proofs.Source.Caret

/-! What the line and column of an offset tell of it. On a character boundary they give it back: the
lines before the place, each with its line feed, and the characters before it on its own line are all
of the text before the offset. -/
namespace PatternExpr

def byteSize (cs : List Char) : Nat := (String.ofList cs).utf8ByteSize

@[simp] theorem byteSize_nil : byteSize [] = 0 := rfl

@[simp] theorem byteSize_append (as bs : List Char) :
    byteSize (as ++ bs) = byteSize as + byteSize bs := by
  rw [byteSize, String.ofList_append, String.utf8ByteSize_append]
  rfl

theorem byteSize_cons (c : Char) (cs : List Char) : byteSize (c :: cs) = c.utf8Size + byteSize cs := by
  rw [byteSize, String.ofList_cons, String.utf8ByteSize_append, String.utf8ByteSize_singleton]
  rfl

theorem byteSize_toList (s : String) : byteSize s.toList = s.utf8ByteSize := by
  rw [byteSize, String.ofList_toList]

theorem eq_nil_of_byteSize_eq_zero {cs : List Char} (h : byteSize cs = 0) : cs = [] := by
  cases cs with
  | nil => rfl
  | cons c cs =>
    have hpos := c.utf8Size_pos
    rw [byteSize_cons] at h
    omega

/-- The characters before an offset are the prefix of the text that has as many bytes, if there is one. -/
theorem charsBefore?_eq_some_iff {offset : Nat} {cs before : List Char} :
    charsBefore? offset cs = some before ↔ before <+: cs ∧ byteSize before = offset := by
  constructor
  · intro h
    fun_induction charsBefore? offset cs generalizing before with
    | case1 cs =>
      cases h
      exact ⟨List.nil_prefix, rfl⟩
    | case2 n => cases h
    | case3 n c cs hsize ih =>
      obtain ⟨earlier, hearlier, rfl⟩ := Option.map_eq_some_iff.1 h
      obtain ⟨hstarts, hbytes⟩ := ih hearlier
      refine ⟨(List.prefix_cons_inj c).2 hstarts, ?_⟩
      rw [byteSize_cons, hbytes]
      omega
    | case4 n c cs hsize => cases h
  · rintro ⟨⟨after, rfl⟩, rfl⟩
    exact charsBefore?_utf8ByteSize before after

theorem isValid_iff_exists_charsBefore {s : String} {offset : Nat} :
    (⟨offset⟩ : String.Pos.Raw).IsValid s ↔ ∃ before, charsBefore? offset s.toList = some before := by
  rw [String.Pos.Raw.isValid_iff_exists_take_toList]
  constructor
  · rintro ⟨i, hi⟩
    exact ⟨s.toList.take i, charsBefore?_eq_some_iff.2 ⟨List.take_prefix i s.toList, hi.symm⟩⟩
  · rintro ⟨before, h⟩
    obtain ⟨hstarts, hbytes⟩ := charsBefore?_eq_some_iff.1 h
    refine ⟨before.length, ?_⟩
    rw [← List.prefix_iff_eq_take.1 hstarts]
    exact hbytes.symm

theorem charsBefore?_getD_of_byteSize_le {offset : Nat} {cs : List Char} (h : byteSize cs ≤ offset) :
    (charsBefore? offset cs).getD cs = cs := by
  cases hbefore : charsBefore? offset cs with
  | none => rfl
  | some before =>
    obtain ⟨⟨after, rfl⟩, hbytes⟩ := charsBefore?_eq_some_iff.1 hbefore
    rw [byteSize_append] at h
    have hafter : after = [] := eq_nil_of_byteSize_eq_zero (by omega)
    rw [hafter, List.append_nil]
    rfl

/-- The place a position names, as an offset. -/
def Position.offsetIn (p : Position) (cs : List Char) : Nat :=
  byteSize (((splitLines cs).take (p.line - 1)).flatMap (· ++ ['\n'])) +
    byteSize (((splitLines cs)[p.line - 1]?.getD []).take (p.column - 1))

theorem Position.offsetIn_ofText (before after : List Char) :
    (ofText before).offsetIn (before ++ after) = byteSize before := by
  conv_rhs => rw [eq_flatMap_append_lastLine before after, byteSize_append]
  rw [offsetIn, ofText_eq]
  simp only [Nat.add_sub_cancel, getElem?_splitLines, Option.getD_some]
  rw [List.take_left' rfl]

/-- The numbers of a position that a location can hold. -/
def Position.Fits (p : Position) : Prop := p.line ≤ maxCoordinate ∧ p.column ≤ maxCoordinate

instance (p : Position) : Decidable p.Fits := inferInstanceAs (Decidable (_ ∧ _))

def Location.position (l : Location) : Position := ⟨l.line, l.column⟩

namespace Source

/-- The line and column of an offset, however large they are. -/
def positionAt (s : Source) (offset : Nat) : Position :=
  Position.ofText ((charsBefore? offset s.content.toList).getD s.content.toList)

variable {s : Source} {offset : Nat}

theorem position_locationAt (length : Nat) : (s.locationAt offset length).position =
    ⟨min (s.positionAt offset).line maxCoordinate, min (s.positionAt offset).column maxCoordinate⟩ :=
  rfl

theorem position_locationAt_of_fits (h : (s.positionAt offset).Fits) (length : Nat) :
    (s.locationAt offset length).position = s.positionAt offset := by
  rw [position_locationAt, Nat.min_eq_left h.1, Nat.min_eq_left h.2]

theorem positionAt_byteSize {before after : List Char} (hs : s.content.toList = before ++ after) :
    s.positionAt (byteSize before) = Position.ofText before := by
  rw [positionAt, hs, byteSize, charsBefore?_utf8ByteSize]
  rfl

theorem exists_before_of_isValid (h : (⟨offset⟩ : String.Pos.Raw).IsValid s.content) :
    ∃ before after, s.content.toList = before ++ after ∧ byteSize before = offset ∧
      s.positionAt offset = Position.ofText before := by
  obtain ⟨before, hbefore⟩ := isValid_iff_exists_charsBefore.1 h
  obtain ⟨⟨after, hafter⟩, rfl⟩ := charsBefore?_eq_some_iff.1 hbefore
  exact ⟨before, after, hafter.symm, rfl, positionAt_byteSize hafter.symm⟩

theorem offsetIn_positionAt (h : (⟨offset⟩ : String.Pos.Raw).IsValid s.content) :
    (s.positionAt offset).offsetIn s.content.toList = offset := by
  obtain ⟨before, after, hs, hbytes, hposition⟩ := exists_before_of_isValid h
  rw [hposition, hs, Position.offsetIn_ofText, hbytes]

theorem positionAt_pos (s : Source) (offset : Nat) :
    0 < (s.positionAt offset).line ∧ 0 < (s.positionAt offset).column := by
  rw [positionAt, Position.ofText_eq]
  exact ⟨Nat.succ_pos _, Nat.succ_pos _⟩

/-- The line of a boundary is there, and its column is at most the one after the last character. -/
theorem exists_piece_positionAt (h : (⟨offset⟩ : String.Pos.Raw).IsValid s.content) :
    ∃ piece, (splitLines s.content.toList)[(s.positionAt offset).line - 1]? = some piece ∧
      (s.positionAt offset).column ≤ piece.length + 1 := by
  obtain ⟨before, after, hs, -, hposition⟩ := exists_before_of_isValid h
  rw [hs, hposition, Position.ofText_eq, Nat.add_sub_cancel]
  refine ⟨lastLine before ++ firstLine after, getElem?_splitLines before after, ?_⟩
  rw [List.length_append]
  simp only
  omega

theorem locationAt_of_utf8ByteSize_le {beyond : Nat} (h : s.content.utf8ByteSize ≤ beyond)
    (length : Nat) : s.locationAt beyond length = s.locationAt s.content.utf8ByteSize length := by
  rw [← byteSize_toList] at h ⊢
  rw [locationAt, locationAt, charsBefore?_getD_of_byteSize_le h,
    charsBefore?_getD_of_byteSize_le (Nat.le_refl _)]

theorem length_splitLines_excerpt_locationAt (h : (⟨offset⟩ : String.Pos.Raw).IsValid s.content)
    (hfits : (s.positionAt offset).Fits) (length : Nat) :
    (splitLines (s.locationAt offset length).excerpt.toList).length = 3 := by
  obtain ⟨before, after, hs, rfl, hposition⟩ := exists_before_of_isValid h
  rw [hposition] at hfits
  rw [byteSize, excerpt_locationAt_eq_render hs hfits.1 hfits.2,
    Excerpt.splitLines_render (newline_not_mem_lineAround before after)]
  rfl

/-- On a character boundary the location names a line of the text and a column of that line, or the one
after its last character. The offset is the bytes of the lines before, of their line feeds and of the
characters before the column, so no other boundary has the same line and column. There is an excerpt to
show for every such offset, and the end stands for all offsets from there on. -/
theorem offset_of_locationAt (h : (⟨offset⟩ : String.Pos.Raw).IsValid s.content)
    (hfits : (s.positionAt offset).Fits) (length : Nat) :
    let l := s.locationAt offset length
    let pieces := splitLines s.content.toList
    (1 ≤ l.line ∧ l.line ≤ pieces.length ∧ ∃ piece, pieces[l.line - 1]? = some piece ∧
      1 ≤ l.column ∧ l.column ≤ piece.length + 1 ∧
      offset = byteSize ((pieces.take (l.line - 1)).flatMap (· ++ ['\n'])) +
        byteSize (piece.take (l.column - 1))) ∧
    (∀ other otherLength, (⟨other⟩ : String.Pos.Raw).IsValid s.content →
      (s.positionAt other).Fits → other ≠ offset →
      (s.locationAt other otherLength).position ≠ l.position) ∧
    l.isSynthetic = false ∧ (splitLines l.excerpt.toList).length = 3 ∧
    ∀ beyond, s.content.utf8ByteSize ≤ beyond →
      s.locationAt beyond length = s.locationAt s.content.utf8ByteSize length := by
  intro l pieces
  have hl : l.position = s.positionAt offset := position_locationAt_of_fits hfits length
  have hline : l.line = (s.positionAt offset).line := congrArg Position.line hl
  have hcolumn : l.column = (s.positionAt offset).column := congrArg Position.column hl
  obtain ⟨piece, hpiece, hwidth⟩ := exists_piece_positionAt h
  obtain ⟨hfirstLine, hfirstColumn⟩ := positionAt_pos s offset
  have hoffset := offsetIn_positionAt h
  rw [Position.offsetIn, hpiece, Option.getD_some, ← hline, ← hcolumn] at hoffset
  rw [← hline] at hpiece hfirstLine
  rw [← hcolumn] at hwidth hfirstColumn
  have hlines : l.line - 1 < pieces.length := (List.getElem?_eq_some_iff.1 hpiece).1
  refine ⟨⟨hfirstLine, by omega, piece, hpiece, hfirstColumn, hwidth, hoffset.symm⟩, ?_, ?_, ?_, ?_⟩
  · intro other otherLength hvalid hother hne heq
    rw [hl, position_locationAt_of_fits hother] at heq
    rw [← offsetIn_positionAt hvalid, ← offsetIn_positionAt h, heq] at hne
    exact hne rfl
  · exact Location.isSynthetic_eq_false_iff.2 ⟨hfirstLine, hfirstColumn⟩
  · exact length_splitLines_excerpt_locationAt h hfits length
  · exact fun beyond hbeyond => locationAt_of_utf8ByteSize_le hbeyond length

end Source

/-- Wide characters, a carriage return, an empty line and a line feed at the end. -/
def wideLines : Source := ⟨"w.pat", "é\r\n\n→b\n"⟩

/-- The `b` is at offset 8, and the text has 10 bytes. -/
theorem offset_of_locationAt_wideLines :
    let l := wideLines.locationAt 8 1
    let pieces := splitLines wideLines.content.toList
    (∃ piece, pieces[l.line - 1]? = some piece ∧
      8 = byteSize ((pieces.take (l.line - 1)).flatMap (· ++ ['\n'])) +
        byteSize (piece.take (l.column - 1))) ∧
      (wideLines.locationAt 10 1).position ≠ l.position ∧
      wideLines.locationAt 99 1 = wideLines.locationAt 10 1 := by
  intro l pieces
  have hvalid : (⟨8⟩ : String.Pos.Raw).IsValid wideLines.content := by decide
  have hend : (⟨10⟩ : String.Pos.Raw).IsValid wideLines.content := by decide
  have hsize : wideLines.content.utf8ByteSize = 10 := by decide
  obtain ⟨⟨-, -, piece, hpiece, -, -, hoffset⟩, hother, -, -, hbeyond⟩ :=
    Source.offset_of_locationAt hvalid (by decide) 1
  rw [hsize] at hbeyond
  exact ⟨⟨piece, hpiece, hoffset⟩, hother 10 1 hend (by decide) (by decide), hbeyond 99 (by decide)⟩

end PatternExpr
