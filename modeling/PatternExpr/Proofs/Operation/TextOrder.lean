import PatternExpr.Proofs.Operation.Joining
import PatternExpr.Proofs.Text.Encoding

/-! The order of strings. The relations go by the code points of two strings, which come to the same order
as their bytes, so they are the relations of one total order. A string is not above what it begins, and
what two strings begin with in common does not count. -/
namespace PatternExpr

theorem Relation.lt_holds_iff {o : Ordering} : lt.holds (some o) = true ↔ o = .lt := by
  cases o <;> simp [holds]

theorem Relation.eq_holds_iff {o : Ordering} : eq.holds (some o) = true ↔ o = .eq := by
  cases o <;> simp [holds]

theorem Relation.count_holds_swap (o : Ordering) :
    [lt.holds (some o), eq.holds (some o), lt.holds (some o.swap)].count true = 1 := by
  cases o <;> rfl

theorem related_strings (ctx : Context) (m : Machine) (rel : Relation) (a b : String) :
    related ctx m rel (.string a) (.string b) =
      .ok (.bool (rel.holds (some (compare (codePoints a) (codePoints b))))) := by
  rw [compare_codePoints]
  rfl

theorem compare_codePoints_swap (a b : String) :
    compare (codePoints b) (codePoints a) = (compare (codePoints a) (codePoints b)).swap :=
  Std.OrientedOrd.eq_swap

theorem related_strings_converse (ctx : Context) (m : Machine) (rel : Relation) (a b : String) :
    related ctx m rel (.string a) (.string b) =
      related ctx m rel.converse (.string b) (.string a) := by
  rw [related_strings, related_strings, compare_codePoints_swap a b, ← Relation.holds_converse rel]
  rfl

/-- A beginning that two strings have in common does not count. -/
theorem related_strings_append_left (ctx : Context) (m : Machine) (rel : Relation)
    (a b c : String) :
    related ctx m rel (.string (c ++ a)) (.string (c ++ b)) =
      related ctx m rel (.string a) (.string b) := by
  rw [related_strings, related_strings, codePoints_append, codePoints_append, compare_append_left]

theorem related_le_append (ctx : Context) (m : Machine) (a b : String) :
    related ctx m .le (.string a) (.string (a ++ b)) = .ok (.bool true) := by
  have hempty : compare (codePoints "") (codePoints b) ≠ .gt := by
    change compare [] (codePoints b) ≠ .gt
    cases codePoints b with
    | nil => exact nofun
    | cons n rest => exact nofun
  have hle : Relation.le.holds (some (compare (codePoints "") (codePoints b))) = true := by
    cases horder : compare (codePoints "") (codePoints b) with
    | lt | eq => rfl
    | gt => exact absurd horder hempty
  -- `a` begins with itself and goes on with nothing
  have hstart := related_strings_append_left ctx m .le "" b a
  rw [String.append_empty, related_strings ctx m .le "" b, hle] at hstart
  exact hstart

/-- The six relations on strings are those of one order: the lexicographic order of the code points, and
just as well that of the bytes. It is total, and only equal strings are equal in it. A string is at most
what it begins, and a common beginning changes no answer. -/
theorem strings_ordered (ctx : Context) (m : Machine) (a b c : String) :
    let answer (rel : Relation) (x y : String) := related ctx m rel (.string x) (.string y)
    let less (x y : String) : Prop := answer .lt x y = .ok (.bool true)
    (∀ rel, answer rel a b =
      .ok (.bool (rel.holds (some (List.compareLex compare (codePoints a) (codePoints b)))))) ∧
    (∀ rel, answer rel a b =
      .ok (.bool (rel.holds (some (List.compareLex compare (utf8Bytes a) (utf8Bytes b)))))) ∧
    (less a b → less b c → less a c) ∧ ¬ less a a ∧
    (∃ below same above : Bool, answer .lt a b = .ok (.bool below) ∧
      answer .eq a b = .ok (.bool same) ∧ answer .lt b a = .ok (.bool above) ∧
      [below, same, above].count true = 1 ∧ (same = true ↔ a = b)) ∧
    answer .lt a b = answer .gt b a ∧
    (∃ whole, joined ctx m (.string a) (.string b) = .ok whole ∧
      related ctx m .le (.string a) whole = .ok (.bool true)) ∧
    ∃ left right, joined ctx m (.string c) (.string a) = .ok left ∧
      joined ctx m (.string c) (.string b) = .ok right ∧
      ∀ rel, related ctx m rel left right = answer rel a b := by
  intro answer less
  have hless (x y : String) : less x y ↔ compare (codePoints x) (codePoints y) = .lt := by
    have hx : answer .lt x y = _ := related_strings ctx m .lt x y
    rw [← Relation.lt_holds_iff]
    simp only [less, hx, Except.ok.injEq, Value.numeric.injEq, Numeric.bool.injEq]
  have hbelow : answer .lt b a = _ := related_strings ctx m .lt b a
  rw [compare_codePoints_swap a b] at hbelow
  refine ⟨fun rel => related_strings ctx m rel a b, fun rel => ?_, ?_, ?_, ?_, ?_, ?_, ?_⟩
  · have hbytes := related_strings ctx m rel a b
    rw [← compare_utf8Bytes] at hbytes
    exact hbytes
  · rw [hless, hless, hless]
    exact Std.TransCmp.lt_trans
  · rw [hless, Std.compare_self]
    exact nofun
  · refine ⟨_, _, _, related_strings ctx m .lt a b, related_strings ctx m .eq a b, hbelow,
      Relation.count_holds_swap _, ?_⟩
    rw [Relation.eq_holds_iff, compare_codePoints, Std.LawfulEqOrd.compare_eq_iff_eq]
  · exact related_strings_converse ctx m .lt a b
  · exact ⟨_, joined_strings ctx m a b, related_le_append ctx m a b⟩
  · exact ⟨_, _, joined_strings ctx m c a, joined_strings ctx m c b,
      fun rel => related_strings_append_left ctx m rel a b c⟩

/-- U+FB00 is below U+1D11E, although the first UTF-16 unit of the latter is smaller. -/
theorem strings_ordered_clef :
    compared .lt (.string "ﬀ") (.string "𝄞") = .ok (.bool true) ∧
      compared .gt (.string "𝄞") (.string "ﬀ") = .ok (.bool true) ∧
      compared .lt (.string ("é" ++ "ﬀ")) (.string ("é" ++ "𝄞")) = .ok (.bool true) := by
  obtain ⟨hpoints, -, -, -, -, hconverse, -, left, right, hleft, hright, hsame⟩ :=
    strings_ordered ⟨none, .default⟩ ⟨.empty none, #[]⟩ "ﬀ" "𝄞" "é"
  have horder : List.compareLex compare (codePoints "ﬀ") (codePoints "𝄞") = .lt := by decide
  have hless : compared .lt (.string "ﬀ") (.string "𝄞") = .ok (.bool true) := by
    have h := hpoints .lt
    rw [horder] at h
    exact h
  cases hleft
  cases hright
  exact ⟨hless, hconverse.symm.trans hless, (hsame .lt).trans hless⟩

end PatternExpr
