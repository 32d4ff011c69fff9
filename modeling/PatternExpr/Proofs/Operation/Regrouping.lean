import Mathlib.Data.List.Perm.Basic
import PatternExpr.Operation.Arithmetic

/-! Integers combined in any order. The operators below are associative and commutative on words, and
the kind of a result depends only on whether an unsigned integer takes part, so neither grouping nor
order shows in what many operands combine to, however the kinds of the parts differ. -/
namespace PatternExpr

/-- The operator computes an associative and commutative operation on words, whatever their
signedness. -/
structure Operator.Regroups (op : Operator) (f : Word → Word → Word) (unit : Word) : Prop where
  operate : ∀ signed a b shift, Word.operate? signed a b shift op = some (f a b)
  assoc : ∀ a b c, f (f a b) c = f a (f b c)
  comm : ∀ a b, f a b = f b a
  unit_left : ∀ a, f unit a = a

namespace Operator

def regroupable : List Operator := [.add, .mul, .bitAnd, .bitOr, .bitXor]

theorem exists_regroups {op : Operator} (h : op ∈ regroupable) :
    ∃ f unit, op.Regroups f unit := by
  simp only [regroupable, List.mem_cons, List.not_mem_nil, or_false] at h
  rcases h with rfl | rfl | rfl | rfl | rfl
  · exact ⟨(· + ·), 0, fun _ _ _ _ => rfl, BitVec.add_assoc, BitVec.add_comm, BitVec.zero_add⟩
  · exact ⟨(· * ·), 1, fun _ _ _ _ => rfl, BitVec.mul_assoc, BitVec.mul_comm, BitVec.one_mul⟩
  · exact ⟨(· &&& ·), BitVec.allOnes 128, fun _ _ _ _ => rfl, BitVec.and_assoc, BitVec.and_comm,
      fun _ => BitVec.allOnes_and⟩
  · exact ⟨(· ||| ·), 0, fun _ _ _ _ => rfl, BitVec.or_assoc, BitVec.or_comm,
      fun _ => BitVec.zero_or⟩
  · exact ⟨(· ^^^ ·), 0, fun _ _ _ _ => rfl, BitVec.xor_assoc, BitVec.xor_comm,
      fun _ => BitVec.zero_xor⟩

namespace Regroups

variable {op : Operator} {f : Word → Word → Word} {unit : Word}

theorem foldr_append (h : op.Regroups f unit) (as bs : List Word) :
    (as ++ bs).foldr f unit = f (as.foldr f unit) (bs.foldr f unit) := by
  have : Std.Associative f := ⟨h.assoc⟩
  calc
    (as ++ bs).foldr f unit = as.foldr f (bs.foldr f unit) := List.foldr_append ..
    _ = as.foldr f (f unit (bs.foldr f unit)) := by rw [h.unit_left]
    _ = f (as.foldr f unit) (bs.foldr f unit) := List.foldr_assoc

theorem foldr_eq_of_perm (h : op.Regroups f unit) {as bs : List Word} (hp : as.Perm bs) :
    as.foldr f unit = bs.foldr f unit := by
  have : LeftCommutative f := ⟨fun a b c => by rw [← h.assoc, h.comm a b, h.assoc]⟩
  exact hp.foldr_eq unit

end Regroups
end Operator

namespace Numeric

/-- Integers and characters, which have the same bits in both signednesses. -/
def isIntegral : Numeric → Bool
  | .unsigned _ | .signed _ | .char _ => true
  | .float _ | .bool _ => false

def isUnsigned (n : Numeric) : Bool := n.kind == .unsigned

theorem toUnsigned_of_isIntegral {n : Numeric} (h : n.isIntegral = true) :
    n.toUnsigned = n.toSigned := by
  cases n with
  | unsigned | signed | char => rfl
  | float | bool => cases h

/-- The integer with this word; it is signed unless some part was unsigned. -/
def ofWord (unsigned : Bool) (w : Word) : Numeric := if unsigned then .unsigned w else .signed w

/-- What integers combine to: one word, unsigned if one of them is. -/
def combined (f : Word → Word → Word) (unit : Word) (ns : List Numeric) : Numeric :=
  ofWord (ns.any isUnsigned) ((ns.map toSigned).foldr f unit)

/-- The integer stands for these combined, though a single character stays one. -/
structure Combines (f : Word → Word → Word) (unit : Word) (n : Numeric) (ns : List Numeric) :
    Prop where
  isIntegral : n.isIntegral = true
  toSigned : n.toSigned = (ns.map Numeric.toSigned).foldr f unit
  isUnsigned : n.isUnsigned = ns.any Numeric.isUnsigned

variable {op : Operator} {f : Word → Word → Word} {unit : Word}

theorem combines_combined (f : Word → Word → Word) (unit : Word) (ns : List Numeric) :
    Combines f unit (combined f unit ns) ns := by
  unfold combined
  cases h : ns.any isUnsigned with
  | false => exact ⟨rfl, rfl, h.symm⟩
  | true => exact ⟨rfl, rfl, h.symm⟩

theorem combines_singleton (h : op.Regroups f unit) {n : Numeric} (hn : n.isIntegral = true) :
    Combines f unit n [n] where
  isIntegral := hn
  toSigned := by
    rw [List.map_singleton, List.foldr_cons, List.foldr_nil, h.comm, h.unit_left]
  isUnsigned := by simp

theorem promotedKind_of_isIntegral {a b : Numeric} (ha : a.isIntegral = true)
    (hb : b.isIntegral = true) :
    promotedKind a b = if a.isUnsigned || b.isUnsigned then .unsigned else .signed := by
  cases a with
  | float | bool => cases ha
  | unsigned | signed | char =>
    cases b with
    | float | bool => cases hb
    | unsigned | signed | char => rfl

theorem apply_of_regroups (h : op.Regroups f unit) {a b : Numeric} (ha : a.isIntegral = true)
    (hb : b.isIntegral = true) :
    apply op a b = .ok (ofWord (a.isUnsigned || b.isUnsigned) (f a.toSigned b.toSigned)) := by
  have happly : apply op a b = orInvalid op a b (applyInKind? (promotedKind a b) op a b) := by
    have ho := h.operate false 0 0 0
    cases op with
    | add | sub | mul | shl | shr | bitAnd | bitXor | bitOr => rfl
    | _ => cases ho
  rw [happly, promotedKind_of_isIntegral ha hb]
  cases a.isUnsigned || b.isUnsigned with
  | true =>
    rw [if_pos rfl, applyInKind?, h.operate, toUnsigned_of_isIntegral ha,
      toUnsigned_of_isIntegral hb]
    rfl
  | false =>
    rw [if_neg Bool.false_ne_true, applyInKind?, h.operate]
    rfl

/-- Combining two parts combines everything they stand for. -/
theorem apply_of_combines (h : op.Regroups f unit) {a b : Numeric} {as bs : List Numeric}
    (ha : Combines f unit a as) (hb : Combines f unit b bs) :
    apply op a b = .ok (combined f unit (as ++ bs)) := by
  rw [apply_of_regroups h ha.isIntegral hb.isIntegral, ha.toSigned, hb.toSigned, ha.isUnsigned,
    hb.isUnsigned, ← h.foldr_append, ← List.map_append, ← List.any_append]
  rfl

theorem combined_eq_of_perm (h : op.Regroups f unit) {as bs : List Numeric} (hp : as.Perm bs) :
    combined f unit as = combined f unit bs := by
  unfold combined
  rw [hp.any_eq, h.foldr_eq_of_perm (hp.map toSigned)]

end Numeric
end PatternExpr
