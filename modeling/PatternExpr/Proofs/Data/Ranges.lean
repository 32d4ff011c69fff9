import PatternExpr.Data.Store

/-! What a read of a store depends on: whether the section is there and the range ends within it, and
then the bytes of the range one by one. Two ranges are read alike if those are the same, wherever the
ranges lie. -/
namespace PatternExpr
namespace Store

/-- The section exists and the range ends within it. -/
def Holds (s : Store) (r : ByteRange) : Prop :=
  ∃ bytes, s.get? r.within = some bytes ∧ r.offset + r.size ≤ bytes.length

/-- The byte so many places after the start of a range. -/
def byteAt? (s : Store) (r : ByteRange) (i : Nat) : Option UInt8 :=
  (s.get? r.within).bind fun bytes => bytes[r.offset + i]?

/-- The ranges are of one size, and byte by byte the same. -/
def SameBytes (s : Store) (r r' : ByteRange) : Prop :=
  r.size = r'.size ∧ ∀ i < r.size, s.byteAt? r i = s.byteAt? r' i

/-- What is wrong with a range that the store does not hold. -/
def failure (s : Store) (r : ByteRange) : ReadError :=
  match s.get? r.within with
  | none => .unknownSection r.within
  | some bytes => .outOfBounds r bytes.length

variable {s : Store} {r r₁ r₂ r₃ : ByteRange}

theorem SameBytes.refl (s : Store) (r : ByteRange) : s.SameBytes r r := ⟨rfl, fun _ _ => rfl⟩

theorem SameBytes.symm (h : s.SameBytes r₁ r₂) : s.SameBytes r₂ r₁ :=
  ⟨h.1.symm, fun i hi => (h.2 i (h.1 ▸ hi)).symm⟩

theorem SameBytes.trans (h : s.SameBytes r₁ r₂) (h' : s.SameBytes r₂ r₃) : s.SameBytes r₁ r₃ :=
  ⟨h.1.trans h'.1, fun i hi => (h.2 i hi).trans (h'.2 i (h.1 ▸ hi))⟩

theorem read_of_not_holds (h : ¬ s.Holds r) : s.read r = .error (s.failure r) := by
  unfold read failure
  cases hbytes : s.get? r.within with
  | none => rfl
  | some bytes => exact if_neg fun hle => h ⟨bytes, hbytes, hle⟩

theorem exists_read_of_holds (h : s.Holds r) :
    ∃ bytes, s.read r = .ok bytes ∧ bytes.length = r.size ∧ ∀ i < r.size, bytes[i]? = s.byteAt? r i := by
  obtain ⟨whole, hwhole, hle⟩ := h
  have hread : s.read r = .ok ((whole.drop r.offset).take r.size) := by
    unfold read
    rw [hwhole]
    exact if_pos hle
  refine ⟨_, hread, length_of_read hread, fun i hi => ?_⟩
  rw [byteAt?, hwhole, List.getElem?_take_of_lt hi, List.getElem?_drop]
  rfl

/-- Two reads yield the same exactly if the ranges are the same byte by byte. -/
theorem exists_reads_of_holds (h₁ : s.Holds r₁) (h₂ : s.Holds r₂) :
    ∃ a b, s.read r₁ = .ok a ∧ s.read r₂ = .ok b ∧ (a = b ↔ s.SameBytes r₁ r₂) := by
  obtain ⟨a, ha, halength, habytes⟩ := exists_read_of_holds h₁
  obtain ⟨b, hb, hblength, hbbytes⟩ := exists_read_of_holds h₂
  refine ⟨a, b, ha, hb, fun heq => ?_, fun hsame => ?_⟩
  · subst heq
    have hsize : r₁.size = r₂.size := halength.symm.trans hblength
    exact ⟨hsize, fun i hi => (habytes i hi).symm.trans (hbbytes i (hsize ▸ hi))⟩
  · have hsize := hsame.1
    refine List.ext_getElem? fun i => ?_
    by_cases hi : i < r₁.size
    · rw [habytes i hi, hbbytes i (hsize ▸ hi), hsame.2 i hi]
    · rw [List.getElem?_eq_none (by omega), List.getElem?_eq_none (by omega)]

end Store
end PatternExpr
