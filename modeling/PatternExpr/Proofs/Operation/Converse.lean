import PatternExpr.Proofs.Operation.Integers
import PatternExpr.Tree.Evaluation

/-! A pattern compared with another operand, on either side of it. The pattern is decoded for its
peer before anything is compared, so both are of one kind and the converse relation answers the same
from the other side. A character alone has no kind to decode to: it meets a signed integer, which it
narrows to the 32 bits of a code point when it stands on the left. -/
namespace PatternExpr

theorem compare_natCast (a b : Nat) : compare (a : Int) (b : Int) = compare a b := by
  rw [Int.compare_eq_ite_lt, Nat.compare_eq_ite_lt]
  simp only [Int.ofNat_lt]

namespace Numeric

theorem compare?_swap {a b : Numeric} (h : a.kind = b.kind) :
    b.compare? a = (a.compare? b).map Ordering.swap := by
  cases a with
  | float x =>
    cases b with
    | float y => exact Binary64.compare?_swap x y
    | _ => cases h
  | unsigned v =>
    cases b with
    | unsigned w => exact congrArg some Std.OrientedOrd.eq_swap
    | _ => cases h
  | signed v =>
    cases b with
    | signed w => exact congrArg some Std.OrientedOrd.eq_swap
    | _ => cases h
  | bool x =>
    cases b with
    | bool y => exact congrArg some Std.OrientedOrd.eq_swap
    | _ => cases h
  | char c =>
    cases b with
    | char d => exact congrArg some Std.OrientedOrd.eq_swap
    | _ => cases h

/-- Narrowing keeps the low 32 bits, which a number from zero up to `2 ^ 32` has no others than. -/
theorem toCodePoint_signed (w : Word) :
    ((Numeric.signed w).toCodePoint : Int) = w.toInt % 4294967296 := by
  have hcode : (Numeric.signed w).toCodePoint = w.toNat % 4294967296 := rfl
  have hint := BitVec.toInt_eq_toNat_cond w
  rw [hcode, hint]
  split <;> omega

theorem compare?_signed_char (w : Word) (c : Char) :
    (Numeric.signed w).compare? (.char c) = some (compare w.toInt c.toNat) := by
  have hcode : c.toNat < UInt32.size := c.val.toNat_lt
  have hsmall : 2 * (char c).toSigned.toNat < Nat.pow 2 128 := by
    rw [toNat_toSigned_char]
    exact Nat.lt_trans (Nat.mul_lt_mul_of_pos_left hcode Nat.two_pos) (by decide)
  have hchar : (char c).toSigned.toInt = c.toNat := by
    rw [BitVec.toInt_eq_toNat_of_lt hsmall, toNat_toSigned_char]
  change some (compare w.toInt (char c).toSigned.toInt) = _
  rw [hchar]

theorem compare?_char_signed (c : Char) (w : Word) :
    (Numeric.char c).compare? (.signed w) = some (compare (c.toNat : Int) (w.toInt % 4294967296)) := by
  change some (compare c.toNat (Numeric.signed w).toCodePoint) = _
  rw [← compare_natCast, toCodePoint_signed]

end Numeric

namespace Value

theorem exists_char_of_type {v : Value} (h : v.type = .numeric .char) : ∃ c, v = .char c := by
  cases v with
  | numeric n =>
    cases n with
    | char c => exact ⟨c, rfl⟩
    | _ => cases h
  | string s => cases h
  | pattern p => cases h

theorem exists_numeric_of_kind {v : Value} (h : v.numericKind? ≠ none) : ∃ n, v = .numeric n := by
  cases v with
  | numeric n => exact ⟨n, rfl⟩
  | string s => exact absurd rfl h
  | pattern p => exact absurd rfl h

end Value

/-- What a relation between two values answers. -/
def related (ctx : Context) (m : Machine) (rel : Relation) (l r : Value) : Except Stop Value :=
  ((applyOperator ctx (.relation rel) l r).run m).1

section

variable (ctx : Context) (m m' : Machine) (rel : Relation) (p : Pattern)

theorem related_pattern_numeric (n : Numeric) :
    related ctx m rel (.pattern p) (.numeric n) =
      Stop.ofExcept ((p.content.castTo n.kind).map fun d => .bool (rel.holds (d.compare? n))) := by
  change Stop.ofExcept (p.content.castTo n.kind >>= fun d =>
    relateDecoded (.relation rel) _ _ (d.compare? n)) = _
  cases p.content.castTo n.kind with
  | error f => rfl
  | ok d => rfl

theorem related_numeric_pattern (n : Numeric) :
    related ctx m rel (.numeric n) (.pattern p) =
      Stop.ofExcept ((p.content.castTo n.kind).map fun d => .bool (rel.holds (n.compare? d))) := by
  change Stop.ofExcept (p.content.castTo n.kind >>= fun d =>
    relateDecoded (.relation rel) _ _ (n.compare? d)) = _
  cases p.content.castTo n.kind with
  | error f => rfl
  | ok d => rfl

theorem related_converse_string (s : String) :
    related ctx m rel (.pattern p) (.string s) =
      related ctx m' rel.converse (.string s) (.pattern p) := by
  change (Except.ok (Value.bool (rel.holds (some (compare p.toText s)))) : Except Stop Value) =
    Except.ok (Value.bool (rel.converse.holds (some (compare s p.toText))))
  have hswap : some (compare s p.toText) = (some (compare p.toText s)).map Ordering.swap :=
    congrArg some Std.OrientedOrd.eq_swap
  rw [hswap, Relation.holds_converse]

theorem related_converse_numeric {n : Numeric} (hn : n.kind ≠ .char) :
    related ctx m rel (.pattern p) (.numeric n) =
      related ctx m' rel.converse (.numeric n) (.pattern p) := by
  rw [related_pattern_numeric, related_numeric_pattern]
  cases hd : p.content.castTo n.kind with
  | error f => rfl
  | ok d =>
    obtain ⟨content, -, rfl⟩ := Value.castTo_eq_ok_iff.1 hd
    have htarget : n.kind.castTarget = n.kind := by
      cases hk : n.kind with
      | char => exact absurd hk hn
      | _ => rfl
    have hkind : (content.castTo n.kind).kind = n.kind :=
      (Numeric.kind_castTo content n.kind).trans htarget
    change (Except.ok (Value.bool (rel.holds _)) : Except Stop Value) =
      Except.ok (Value.bool (rel.converse.holds _))
    rw [Numeric.compare?_swap hkind, Relation.holds_converse]

/-- Before a character the decoded number stays whole, after one only its low 32 bits count. -/
theorem related_char {n : Numeric} (hp : p.content = .numeric n) (c : Char) :
    related ctx m rel (.pattern p) (.char c) =
        .ok (.bool (rel.holds (some (compare n.toSigned.toInt c.toNat)))) ∧
      related ctx m' rel.converse (.char c) (.pattern p) =
        .ok (.bool (rel.holds (some (compare (n.toSigned.toInt % 4294967296) c.toNat)))) := by
  rw [related_pattern_numeric, related_numeric_pattern, hp, Value.castTo_numeric]
  change Except.ok (Value.bool (rel.holds ((Numeric.signed n.toSigned).compare? (.char c)))) = _ ∧
    Except.ok (Value.bool (rel.converse.holds
      ((Numeric.char c).compare? (.signed n.toSigned)))) = _
  have hswap (d : Int) : some (compare (c.toNat : Int) d) =
      (some (compare d (c.toNat : Int))).map Ordering.swap := congrArg some Std.OrientedOrd.eq_swap
  rw [Numeric.compare?_signed_char, Numeric.compare?_char_signed, hswap, Relation.holds_converse]
  exact ⟨rfl, rfl⟩

theorem related_of_not_numeric (h : p.content.numericKind? = none) (n : Numeric) :
    related ctx m rel (.pattern p) (.numeric n) =
      related ctx m' rel.converse (.numeric n) (.pattern p) := by
  rw [related_pattern_numeric, related_numeric_pattern]
  cases hp : p.content with
  | numeric content =>
    rw [hp] at h
    cases h
  | string text | pattern inner => rw [Value.castTo_of_numericKind?_eq_none rfl]; rfl

theorem related_cases {s : Value} (hs : s.type ≠ .pattern) :
    (∃ f : Fault, related ctx m rel (.pattern p) s = .error f) ∨
      ∃ b, related ctx m rel (.pattern p) s = .ok (.bool b) := by
  cases s with
  | numeric n =>
    rw [related_pattern_numeric]
    cases p.content.castTo n.kind with
    | error f => exact .inl ⟨f, rfl⟩
    | ok d => exact .inr ⟨_, rfl⟩
  | string text => exact .inr ⟨_, rfl⟩
  | pattern q => exact absurd rfl hs

/-- The order of the operands does not show unless a character meets a decoded number. -/
theorem related_converse {s : Value} (hs : s.type ≠ .pattern)
    (h : s.type ≠ .numeric .char ∨ p.content.numericKind? = none) :
    related ctx m rel (.pattern p) s = related ctx m' rel.converse s (.pattern p) := by
  cases s with
  | string text => exact related_converse_string ctx m m' rel p text
  | pattern q => exact absurd rfl hs
  | numeric n =>
    rcases h with hn | hp
    · have hkind : n.kind ≠ .char := fun hk => hn (congrArg ValueType.numeric hk)
      exact related_converse_numeric ctx m m' rel p hkind
    · exact related_of_not_numeric ctx m m' rel p hp n

/-- Either order of a pattern and another operand fails with the same fault or answers, and the answer
of the converse relation from the other side is the same. Only with a character can it differ: there
it is the answer about the decoded number modulo `2 ^ 32`, so that negative and large numbers tell the
orders apart. -/
theorem relation_converse {s : Value} (hs : s.type ≠ .pattern) :
    let forward := related ctx m rel (.pattern p) s
    let backward := related ctx m' rel.converse s (.pattern p)
    ((∃ f : Fault, forward = .error f ∧ backward = .error f) ∨
      ∃ a b, forward = .ok (.bool a) ∧ backward = .ok (.bool b)) ∧
    (s.type ≠ .numeric .char ∨ p.content.numericKind? = none → forward = backward) ∧
    ∀ c n, s = .char c → p.content = .numeric n →
      let decoded := n.toSigned.toInt
      forward = .ok (.bool (rel.holds (some (compare decoded c.toNat)))) ∧
      backward = .ok (.bool (rel.holds (some (compare (decoded % 4294967296) c.toNat)))) ∧
      (0 ≤ decoded → decoded < 4294967296 → forward = backward) := by
  intro forward backward
  refine ⟨?_, related_converse ctx m m' rel p hs, ?_⟩
  · by_cases h : s.type ≠ .numeric .char ∨ p.content.numericKind? = none
    · have hsame : forward = backward := related_converse ctx m m' rel p hs h
      rcases related_cases ctx m rel p hs with ⟨f, hf⟩ | ⟨b, hb⟩
      · exact .inl ⟨f, hf, hsame.symm.trans hf⟩
      · exact .inr ⟨b, b, hb, hsame.symm.trans hb⟩
    · obtain ⟨htype, hkind⟩ := not_or.1 h
      obtain ⟨c, rfl⟩ := Value.exists_char_of_type (not_not.1 htype)
      obtain ⟨n, hp⟩ := Value.exists_numeric_of_kind hkind
      obtain ⟨hforward, hbackward⟩ := related_char ctx m m' rel p hp c
      exact .inr ⟨_, _, hforward, hbackward⟩
  · rintro c n rfl hp decoded
    obtain ⟨hforward, hbackward⟩ := related_char ctx m m' rel p hp c
    refine ⟨hforward, hbackward, ?_⟩
    intro h0 hlt
    have hwhole : decoded % 4294967296 = decoded := Int.emod_eq_of_lt h0 hlt
    rw [hwhole] at hbackward
    exact hforward.trans hbackward.symm

end

def compared (rel : Relation) (l r : Value) : Except Stop Value :=
  related ⟨none, .default⟩ ⟨.empty none, #[]⟩ rel l r

def letterB : Pattern := ⟨0, ⟨.main, 0, 1⟩, .unsigned 66, none, .synthetic⟩

theorem relation_converse_letterB :
    compared .gt (.pattern letterB) (.char 'A') = .ok (.bool true) ∧
      compared .lt (.char 'A') (.pattern letterB) = .ok (.bool true) := by
  obtain ⟨-, -, hchar⟩ := relation_converse ⟨none, .default⟩ ⟨.empty none, #[]⟩ ⟨.empty none, #[]⟩ .gt
    letterB (s := .char 'A') nofun
  obtain ⟨hforward, -, hsame⟩ := hchar 'A' (.unsigned 66) rfl rfl
  have hanswer : compared .gt (.pattern letterB) (.char 'A') = .ok (.bool true) := hforward
  exact ⟨hanswer, (hsame (by decide) (by decide)).symm.trans hanswer⟩

def minusOne : Pattern := ⟨0, ⟨.main, 0, 8⟩, .signed (-1), none, .synthetic⟩

/-- Minus one is below the letter, but for the letter on its left it is the highest 32-bit number. -/
theorem relation_converse_minusOne :
    compared .lt (.pattern minusOne) (.char 'A') = .ok (.bool true) ∧
      compared Relation.lt.converse (.char 'A') (.pattern minusOne) = .ok (.bool false) :=
  ⟨rfl, rfl⟩

end PatternExpr
