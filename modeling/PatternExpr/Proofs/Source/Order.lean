import PatternExpr.Proofs.Source.Offsets

/-! The order of positions. More characters never lead to an earlier position, so offsets are located in
their order as long as what counts as before the one is also before the other. For an offset inside a
character that is the whole text. -/
namespace PatternExpr
namespace Position

variable {p q r : Position}

instance (p q : Position) : Decidable (p.le q) := inferInstanceAs (Decidable (_ ∨ _))

theorem le_refl (p : Position) : p.le p := .inr ⟨rfl, Nat.le_refl _⟩

theorem le_trans (hpq : p.le q) (hqr : q.le r) : p.le r := by
  unfold le at *
  omega

theorem le_advance (p : Position) (c : Char) : p.le (p.advance c) := by
  unfold advance
  split
  · exact .inl (Nat.lt_succ_self p.line)
  · exact .inr ⟨rfl, Nat.le_succ p.column⟩

theorem ofText_le_of_isPrefix {as bs : List Char} (h : as <+: bs) : (ofText as).le (ofText bs) := by
  obtain ⟨rest, rfl⟩ := h
  induction rest using List.reverseRecOn with
  | nil =>
    rw [List.append_nil]
    exact le_refl _
  | append_singleton rest c ih =>
    rw [← List.append_assoc, ofText_concat]
    exact le_trans ih (le_advance _ c)

/-- Coordinates that are held back at a largest one keep their order as long as the line of the first is
not held back or both are on one line. -/
theorem clamp_le_clamp (bound : Nat) (h : p.le q) (hline : p.line < bound ∨ p.line = q.line) :
    le ⟨min p.line bound, min p.column bound⟩ ⟨min q.line bound, min q.column bound⟩ := by
  unfold le at *
  simp only
  omega

end Position

theorem isPrefix_of_byteSize_le {as bs cs : List Char} (ha : as <+: cs) (hb : bs <+: cs)
    (h : byteSize as ≤ byteSize bs) : as <+: bs := by
  rcases List.prefix_or_prefix_of_prefix ha hb with hle | ⟨rest, rfl⟩
  · exact hle
  · rw [byteSize_append] at h
    have hrest : rest = [] := eq_nil_of_byteSize_eq_zero (by omega)
    exact ⟨[], by rw [hrest, List.append_nil, List.append_nil]⟩

theorem isPrefix_charsBefore?_getD {a b : Nat} {cs before : List Char} (hab : a ≤ b)
    (h : charsBefore? a cs = some before) : before <+: (charsBefore? b cs).getD cs := by
  obtain ⟨hstarts, rfl⟩ := charsBefore?_eq_some_iff.1 h
  cases hb : charsBefore? b cs with
  | none => exact hstarts
  | some later =>
    obtain ⟨hlater, rfl⟩ := charsBefore?_eq_some_iff.1 hb
    exact isPrefix_of_byteSize_le hstarts hlater hab

namespace Source

variable {s : Source} {a b : Nat}

theorem charsBefore?_of_not_isValid (h : ¬ (⟨a⟩ : String.Pos.Raw).IsValid s.content) :
    charsBefore? a s.content.toList = none :=
  Option.eq_none_iff_forall_ne_some.2 fun before hbefore =>
    h (isValid_iff_exists_charsBefore.2 ⟨before, hbefore⟩)

theorem charsBefore?_getD_of_not_boundary
    (h : (⟨a⟩ : String.Pos.Raw).IsValid s.content → s.content.utf8ByteSize ≤ a) :
    (charsBefore? a s.content.toList).getD s.content.toList = s.content.toList := by
  by_cases hvalid : (⟨a⟩ : String.Pos.Raw).IsValid s.content
  · have hpast := h hvalid
    rw [← byteSize_toList] at hpast
    exact charsBefore?_getD_of_byteSize_le hpast
  · rw [charsBefore?_of_not_isValid hvalid]
    rfl

theorem locationAt_of_not_isValid (h : ¬ (⟨a⟩ : String.Pos.Raw).IsValid s.content) (length : Nat) :
    s.locationAt a length = s.locationAt s.content.utf8ByteSize length := by
  rw [locationAt, locationAt, charsBefore?_getD_of_not_boundary (absurd · h),
    charsBefore?_getD_of_not_boundary fun _ => Nat.le_refl _]

/-- Positions are in the order of their offsets, unless the second offset is on a boundary within the
text and the first is not. -/
theorem positionAt_le (hab : a ≤ b)
    (hboundary : (⟨b⟩ : String.Pos.Raw).IsValid s.content → b < s.content.utf8ByteSize →
      (⟨a⟩ : String.Pos.Raw).IsValid s.content) : (s.positionAt a).le (s.positionAt b) := by
  refine Position.ofText_le_of_isPrefix ?_
  by_cases hinside : (⟨b⟩ : String.Pos.Raw).IsValid s.content ∧ b < s.content.utf8ByteSize
  · obtain ⟨before, hbefore⟩ := isValid_iff_exists_charsBefore.1 (hboundary hinside.1 hinside.2)
    rw [hbefore]
    exact isPrefix_charsBefore?_getD hab hbefore
  · -- the second offset has all of the text before it, so it does not matter where the first is
    have hall := charsBefore?_getD_of_not_boundary fun hvalid : (⟨b⟩ : String.Pos.Raw).IsValid s.content =>
      Nat.le_of_not_lt fun hlt => hinside ⟨hvalid, hlt⟩
    rw [hall]
    cases ha : charsBefore? a s.content.toList with
    | none => exact List.prefix_rfl
    | some before => exact (charsBefore?_eq_some_iff.1 ha).1

/-- An offset on no boundary is located at the end of the text. Of two offsets the first is not located
after the second, by line and then by column, unless the first is inside a character and the second on a
boundary before the end, or they are on two lines and the number of the first is not below the largest
there is: a later line then has the same one. -/
theorem locationAt_le (hab : a ≤ b) (length otherLength : Nat) :
    (¬ (⟨a⟩ : String.Pos.Raw).IsValid s.content →
      s.locationAt a length = s.locationAt s.content.utf8ByteSize length) ∧
    (((⟨b⟩ : String.Pos.Raw).IsValid s.content → b < s.content.utf8ByteSize →
        (⟨a⟩ : String.Pos.Raw).IsValid s.content) →
      ((s.positionAt a).line < maxCoordinate ∨ (s.positionAt a).line = (s.positionAt b).line) →
      (s.locationAt a length).position.le (s.locationAt b otherLength).position) := by
  refine ⟨fun h => locationAt_of_not_isValid h length, fun hboundary hline => ?_⟩
  rw [position_locationAt, position_locationAt]
  exact Position.clamp_le_clamp maxCoordinate (positionAt_le hab hboundary) hline

end Source

/-- The third line starts with a wide character at offset 5 and ends at offset 9, and offset 6 is inside
the wide character. -/
theorem locationAt_le_wideLines :
    (wideLines.locationAt 5 1).position.le (wideLines.locationAt 9 1).position ∧
      (wideLines.locationAt 5 1).position.le (wideLines.locationAt 6 1).position ∧
      wideLines.locationAt 6 1 = wideLines.locationAt wideLines.content.utf8ByteSize 1 := by
  have hboundary : (⟨5⟩ : String.Pos.Raw).IsValid wideLines.content := by decide
  have hinside : ¬ (⟨6⟩ : String.Pos.Raw).IsValid wideLines.content := by decide
  have hline : (wideLines.positionAt 5).line < maxCoordinate := by decide
  obtain ⟨-, hlater⟩ := Source.locationAt_le (show 5 ≤ 9 by decide) 1 1
  obtain ⟨-, hwithin⟩ := Source.locationAt_le (show 5 ≤ 6 by decide) 1 1
  obtain ⟨hend, -⟩ := Source.locationAt_le (Nat.le_refl 6) 1 1
  exact ⟨hlater (fun _ _ => hboundary) (.inl hline), hwithin (fun _ _ => hboundary) (.inl hline),
    hend hinside⟩

/-- Its first character has two bytes. -/
def accented : Source := ⟨"e.pat", "éa"⟩

/-- Line feeds, as many that the letter after them is on the last line that has a number of its own. -/
def numberedLines : List Char := List.replicate (maxCoordinate - 1) '\n' ++ ['a']

def endless : Source := ⟨"long.pat", String.ofList (numberedLines ++ ['\n'])⟩

theorem byteSize_replicate_newline (n : Nat) : byteSize (List.replicate n '\n') = n := by
  induction n with
  | zero => rfl
  | succ n ih =>
    rw [List.replicate_succ, byteSize_cons, ih]
    exact Nat.add_comm 1 n

theorem byteSize_numberedLines : byteSize numberedLines = maxCoordinate := by
  rw [numberedLines, byteSize_append, byteSize_replicate_newline]
  exact Nat.sub_add_cancel (by decide)

theorem Position.ofText_replicate_newline (n : Nat) : ofText (List.replicate n '\n') = ⟨n + 1, 1⟩ := by
  induction n with
  | zero => rfl
  | succ n ih =>
    rw [List.replicate_succ', ofText_concat, ih]
    rfl

theorem Position.ofText_numberedLines : ofText numberedLines = ⟨maxCoordinate, 2⟩ := by
  rw [numberedLines, ofText_concat, ofText_replicate_newline, Nat.sub_add_cancel (by decide)]
  rfl

/-- Inside a character, and past the last line that has a number of its own, a later offset may have an
earlier location. -/
theorem locationAt_not_monotone :
    ¬ (accented.locationAt 1 1).position.le (accented.locationAt 2 1).position ∧
      ¬ (endless.locationAt maxCoordinate 1).position.le
        (endless.locationAt (maxCoordinate + 1) 1).position := by
  refine ⟨by decide, ?_⟩
  have hs : endless.content.toList = numberedLines ++ ['\n'] := String.toList_ofList
  have hletter : endless.positionAt maxCoordinate = ⟨maxCoordinate, 2⟩ := by
    rw [← Position.ofText_numberedLines, ← Source.positionAt_byteSize hs, byteSize_numberedLines]
  have hfeed : endless.positionAt (maxCoordinate + 1) = ⟨maxCoordinate + 1, 1⟩ := by
    have hend : endless.content.toList = (numberedLines ++ ['\n']) ++ [] := by
      rw [hs, List.append_nil]
    have hposition := Source.positionAt_byteSize hend
    rwa [byteSize_append, byteSize_numberedLines, Position.ofText_concat, Position.ofText_numberedLines]
      at hposition
  have htwo : 2 ≤ maxCoordinate := by decide
  rw [Source.position_locationAt, Source.position_locationAt, hletter, hfeed]
  unfold Position.le
  simp only
  omega

end PatternExpr
