/-! Texts in the order of their code points and in the order of their UTF-8 bytes, which is the same. The
bytes of a character are the digits of its code point in base 64, the first one raised by an offset that
grows with the number of digits. So of two characters the smaller one has the smaller bytes, and the
difference shows within them, whatever text follows. -/
namespace PatternExpr

/-- The Unicode code points of a text. -/
def codePoints (s : String) : List Nat := s.toList.map Char.toNat

theorem codePoints_append (a b : String) : codePoints (a ++ b) = codePoints a ++ codePoints b := by
  unfold codePoints
  rw [String.toList_append, List.map_append]

theorem codePoints_injective {a b : String} (h : codePoints a = codePoints b) : a = b := by
  have hchars : a.toList = b.toList := (List.map_inj_right fun _ _ => Char.toNat_inj.1).1 h
  exact String.toList_inj.1 hchars

/-- The bytes of a text in UTF-8. -/
def utf8Bytes (s : String) : List UInt8 := s.toUTF8.data.toList

/-- A number in base 64: what is left of it without so many digits, raised by an offset, and then these
digits, raised by 128. -/
def digitBytes (offset : Nat) : Nat → Nat → List UInt8
  | 0, v => [UInt8.ofNat (v + offset)]
  | k + 1, v => digitBytes offset k (v / 64) ++ [UInt8.ofNat (v % 64 + 128)]

/-- The number without its last digits. -/
def leadingPart : Nat → Nat → Nat
  | 0, v => v
  | k + 1, v => leadingPart k (v / 64)

/-- How much the first byte of a character is raised if so many bytes follow it. -/
def firstOffset : Nat → Nat
  | 0 => 0
  | 1 => 192
  | 2 => 224
  | _ => 240

/-- So many bytes follow the first one of a character with this code point. -/
inductive EncodesWith : Nat → Nat → Prop
  | none {v : Nat} (h : v < 0x80) : EncodesWith 0 v
  | one {v : Nat} (h : 0x80 ≤ v) (h' : v < 0x800) : EncodesWith 1 v
  | two {v : Nat} (h : 0x800 ≤ v) (h' : v < 0x10000) : EncodesWith 2 v
  | three {v : Nat} (h : 0x10000 ≤ v) (h' : v < 0x110000) : EncodesWith 3 v

theorem exists_encodesWith (c : Char) : ∃ k, EncodesWith k c.toNat ∧
    String.utf8EncodeChar c = digitBytes (firstOffset k) k c.toNat := by
  have hvalid : c.val.toNat < 0x110000 := by
    rcases c.valid with h | ⟨-, h⟩
    · exact Nat.lt_trans h (by decide)
    · exact h
  unfold String.utf8EncodeChar Char.toNat
  generalize c.val.toNat = v at hvalid
  dsimp only
  split
  case isTrue h => exact ⟨0, .none (by omega), rfl⟩
  case isFalse h =>
    split
    case isTrue h' =>
      have hfirst : v / 64 % 32 = v / 64 := by omega
      exact ⟨1, .one (by omega) (by omega), by rw [hfirst]; rfl⟩
    case isFalse h' =>
      split
      case isTrue h'' =>
        have hfirst : v / 4096 % 16 = v / 64 / 64 := by omega
        exact ⟨2, .two (by omega) (by omega), by rw [hfirst]; rfl⟩
      case isFalse h'' =>
        have hfirst : v / 262144 % 8 = v / 64 / 64 / 64 := by omega
        have hnext : v / 4096 = v / 64 / 64 := by omega
        exact ⟨3, .three (by omega) hvalid, by rw [hfirst, hnext]; rfl⟩

namespace EncodesWith

variable {k k' v w : Nat}

theorem first_lt_size (h : EncodesWith k v) : leadingPart k v + firstOffset k < UInt8.size := by
  have hsize : UInt8.size = 256 := rfl
  cases h <;> simp only [leadingPart, firstOffset] <;> omega

theorem first_lt_first (hv : EncodesWith k v) (hw : EncodesWith k' w) (h : v < w) (hk : k ≠ k') :
    leadingPart k v + firstOffset k < leadingPart k' w + firstOffset k' := by
  cases hv <;> cases hw <;> simp only [leadingPart, firstOffset] <;> omega

end EncodesWith

theorem compare_append_left {α : Type} [Ord α] [Std.ReflOrd α] (xs ys zs : List α) :
    compare (xs ++ ys) (xs ++ zs) = compare ys zs := by
  induction xs with
  | nil => rfl
  | cons x xs ih =>
    rw [List.cons_append, List.cons_append, List.compare_cons_cons, Std.compare_self, ih]
    rfl

theorem compare_cons_of_lt {a b : Nat} (h : a < b) (hb : b < UInt8.size) (xs ys : List UInt8) :
    compare (UInt8.ofNat a :: xs) (UInt8.ofNat b :: ys) = .lt := by
  have hlt : UInt8.ofNat a < UInt8.ofNat b := by
    rwa [UInt8.lt_iff_toNat_lt, UInt8.toNat_ofNat_of_lt' (Nat.lt_trans h hb),
      UInt8.toNat_ofNat_of_lt' hb]
  rw [List.compare_cons_cons, Std.compare_eq_lt.2 hlt]
  rfl

theorem exists_digitBytes_eq_cons (offset k v : Nat) :
    ∃ rest, digitBytes offset k v = UInt8.ofNat (leadingPart k v + offset) :: rest := by
  induction k generalizing v with
  | zero => exact ⟨[], rfl⟩
  | succ k ih =>
    obtain ⟨rest, hrest⟩ := ih (v / 64)
    exact ⟨rest ++ [UInt8.ofNat (v % 64 + 128)], by rw [digitBytes, hrest]; rfl⟩

/-- Of two numbers with as many digits the smaller one has the smaller digits. -/
theorem compare_digitBytes_append {offset k v w : Nat} (h : v < w)
    (hfits : leadingPart k w + offset < UInt8.size) (xs ys : List UInt8) :
    compare (digitBytes offset k v ++ xs) (digitBytes offset k w ++ ys) = .lt := by
  induction k generalizing v w xs ys with
  | zero => exact compare_cons_of_lt (Nat.add_lt_add_right h offset) hfits xs ys
  | succ k ih =>
    simp only [digitBytes, List.append_assoc]
    rcases Nat.lt_or_ge (v / 64) (w / 64) with hlt | hge
    · exact ih hlt hfits _ _
    · have heq : v / 64 = w / 64 := by omega
      have hlast : v % 64 + 128 < w % 64 + 128 := by omega
      have hbyte : w % 64 + 128 < UInt8.size := by
        have hsize : UInt8.size = 256 := rfl
        omega
      rw [heq, compare_append_left]
      exact compare_cons_of_lt hlast hbyte xs ys

/-- The smaller of two characters has the smaller bytes, whatever follows either. -/
theorem compare_utf8EncodeChar_append {c d : Char} (h : c.toNat < d.toNat) (xs ys : List UInt8) :
    compare (String.utf8EncodeChar c ++ xs) (String.utf8EncodeChar d ++ ys) = .lt := by
  obtain ⟨k, hc, hcbytes⟩ := exists_encodesWith c
  obtain ⟨k', hd, hdbytes⟩ := exists_encodesWith d
  rw [hcbytes, hdbytes]
  by_cases hk : k = k'
  · subst hk
    exact compare_digitBytes_append h hd.first_lt_size xs ys
  · -- the first bytes differ already, as more bytes follow the greater one
    obtain ⟨cs, hcs⟩ := exists_digitBytes_eq_cons (firstOffset k) k c.toNat
    obtain ⟨ds, hds⟩ := exists_digitBytes_eq_cons (firstOffset k') k' d.toNat
    rw [hcs, hds]
    exact compare_cons_of_lt (hc.first_lt_first hd h hk) hd.first_lt_size _ _

theorem compare_nil_utf8EncodeChar_append (c : Char) (xs : List UInt8) :
    compare [] (String.utf8EncodeChar c ++ xs) = .lt := by
  obtain ⟨k, -, hc⟩ := exists_encodesWith c
  obtain ⟨rest, hrest⟩ := exists_digitBytes_eq_cons (firstOffset k) k c.toNat
  rw [hc, hrest]
  rfl

theorem compare_flatMap_utf8EncodeChar (cs ds : List Char) :
    compare (cs.flatMap String.utf8EncodeChar) (ds.flatMap String.utf8EncodeChar) =
      compare (cs.map Char.toNat) (ds.map Char.toNat) := by
  induction cs generalizing ds with
  | nil =>
    cases ds with
    | nil => rfl
    | cons d ds => exact compare_nil_utf8EncodeChar_append d _
  | cons c cs ih =>
    cases ds with
    | nil =>
      rw [Std.OrientedOrd.eq_swap, List.flatMap_cons, List.flatMap_nil,
        compare_nil_utf8EncodeChar_append]
      rfl
    | cons d ds =>
      rw [List.flatMap_cons, List.flatMap_cons, List.map_cons, List.map_cons,
        List.compare_cons_cons]
      rcases Nat.lt_trichotomy c.toNat d.toNat with h | h | h
      · rw [compare_utf8EncodeChar_append h, Nat.compare_eq_lt.2 h]
        rfl
      · have hcd : c = d := Char.toNat_inj.1 h
        rw [hcd, compare_append_left, Std.compare_self, ih]
        rfl
      · rw [Std.OrientedOrd.eq_swap, compare_utf8EncodeChar_append h, Nat.compare_eq_gt.2 h]
        rfl

theorem lt_iff_compare_codePoints {a b : String} :
    a < b ↔ compare (codePoints a) (codePoints b) = .lt := by
  rw [String.lt_iff]
  unfold codePoints
  generalize a.toList = cs
  generalize b.toList = ds
  induction cs generalizing ds with
  | nil => cases ds <;> simp
  | cons c cs ih =>
    cases ds with
    | nil => simp
    | cons d ds =>
      rw [List.cons_lt_cons_iff, List.map_cons, List.map_cons, List.compare_cons_cons,
        Ordering.then_eq_lt, Nat.compare_eq_lt, Nat.compare_eq_eq, Char.toNat_inj, ih]
      rfl

theorem compare_codePoints (a b : String) :
    compare (codePoints a) (codePoints b) = compare a b := by
  change _ = compareOfLessAndEq a b
  unfold compareOfLessAndEq
  split
  case isTrue hlt => exact lt_iff_compare_codePoints.1 hlt
  case isFalse hlt =>
    split
    case isTrue heq => rw [heq, Std.compare_self]
    case isFalse hne =>
      cases horder : compare (codePoints a) (codePoints b) with
      | lt => exact absurd (lt_iff_compare_codePoints.2 horder) hlt
      | gt => rfl
      | eq =>
        exact absurd (codePoints_injective (Std.LawfulEqOrd.eq_of_compare horder)) hne

theorem utf8Bytes_eq_flatMap (s : String) :
    utf8Bytes s = s.toList.flatMap String.utf8EncodeChar := by
  have h : s.toByteArray = s.toList.utf8Encode := by
    rw [← String.toByteArray_ofList, String.ofList_toList]
  unfold utf8Bytes
  rw [String.toUTF8_eq_toByteArray, h, List.utf8Encode, List.data_toByteArray]

/-- The bytes of texts are in the order of their code points. -/
theorem compare_utf8Bytes (a b : String) :
    compare (utf8Bytes a) (utf8Bytes b) = compare (codePoints a) (codePoints b) := by
  rw [utf8Bytes_eq_flatMap, utf8Bytes_eq_flatMap]
  exact compare_flatMap_utf8EncodeChar a.toList b.toList

end PatternExpr
