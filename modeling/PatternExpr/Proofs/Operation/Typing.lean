import PatternExpr.Tree.Evaluation
import PatternExpr.Tree.Typing

/-! Operators keep to their result types: what one returns has the type read off the operands, and
where there is such a type the operands are never what it complains about. -/
namespace PatternExpr

/-- A complaint about what the operands are, which their types rule out. -/
def Cause.isTypeFault : Cause → Bool
  | .voidOperand | .nonLiteralOperand | .invalidOperand .. | .booleanArithmetic => true
  | _ => false

/-- A pattern has no content of the needed type, or its bytes cannot be read. -/
def Cause.isDecodingFault : Cause → Bool
  | .invalidCast .. | .dataRead _ => true
  | _ => false

/-- A value has the given type. A fault, if there is a type at all, is no type fault, and one of
decoding only if patterns are involved, as it is with an overflow. -/
def Conforms (type : Option ValueType) (patterns : Prop) : Except Stop Value → Prop
  | .ok v => type = some v.type
  | .error (.fault f) => type ≠ none →
    f.cause.isTypeFault = false ∧ (f.cause.isDecodingFault = true → patterns)
  | .error .capacityOverflow => patterns

namespace NumericKind

variable (l r : NumericKind)

/-- The static kind of arithmetic is the kind in which operators work. -/
theorem join_eq_promote : l.join r = l.promote r := by
  cases l <;> cases r <;> rfl

theorem promote_eq_bool_iff : l.promote r = .bool ↔ l = .bool ∧ r = .bool := by
  cases l <;> cases r <;> decide

theorem promote_eq_float_iff : l.promote r = .float ↔ l = .float ∨ r = .float := by
  cases l <;> cases r <;> decide

end NumericKind

namespace Numeric

theorem kind_applyInKind? {op : Operator}
    (h : op ∈ [.add, .sub, .mul, .shl, .shr, .bitAnd, .bitXor, .bitOr]) (l r : Numeric) :
    (applyInKind? (promotedKind l r) op l r).map kind = op.numericResult? l.kind r.kind := by
  have hk := NumericKind.promote_ne_char l.kind r.kind
  simp only [promotedKind, Operator.numericResult?, NumericKind.join_eq_promote,
    ← NumericKind.promote_eq_float_iff]
  generalize l.kind.promote r.kind = k at hk
  simp only [List.mem_cons, List.not_mem_nil, or_false] at h
  rcases h with rfl | rfl | rfl | rfl | rfl | rfl | rfl | rfl <;> cases k <;>
    first | rfl | exact absurd rfl hk

theorem kind_complement? (l r : Numeric) :
    (complement? (promotedKind l r) r).map kind = Operator.bitNot.numericResult? l.kind r.kind := by
  have hk := NumericKind.promote_ne_char l.kind r.kind
  simp only [promotedKind, Operator.numericResult?, NumericKind.join_eq_promote,
    ← NumericKind.promote_eq_float_iff]
  generalize l.kind.promote r.kind = k at hk
  cases k <;> first | rfl | exact absurd rfl hk

theorem conforms_orInvalid (op : Operator) (l r : Numeric) (n : Option Numeric) :
    Conforms ((n.map kind).map .numeric) False
      (Stop.ofExcept ((orInvalid op l r n).map .numeric)) := by
  cases n with
  | none => exact fun h => absurd rfl h
  | some n => rfl

theorem conforms_orZeroDivisor (ofWord : Word → Numeric) {k : NumericKind}
    (h : ∀ w, (ofWord w).kind = k) (w : Option Word) :
    Conforms (some (.numeric k)) False
      (Stop.ofExcept ((orZeroDivisor (w.map ofWord)).map .numeric)) := by
  cases w with
  | none => exact fun _ => ⟨rfl, nofun⟩
  | some w => exact congrArg (fun k => some (ValueType.numeric k)) (h w).symm

theorem conforms_divide (part : DivisionPart) (l r : Numeric) :
    Conforms ((Operator.div.numericResult? l.kind r.kind).map .numeric) False
      (Stop.ofExcept ((divide part l r).map .numeric)) := by
  have hk := NumericKind.promote_ne_char l.kind r.kind
  unfold divide promotedKind
  cases r.toBool with
  | false => exact fun _ => ⟨rfl, nofun⟩
  | true =>
    simp only [Operator.numericResult?, NumericKind.join_eq_promote,
      ← NumericKind.promote_eq_bool_iff]
    generalize l.kind.promote r.kind = k at hk
    cases k with
    | bool => exact fun h => absurd rfl h
    | char => exact absurd rfl hk
    | unsigned => exact conforms_orZeroDivisor .unsigned (fun _ => rfl) _
    | signed => exact conforms_orZeroDivisor .signed (fun _ => rfl) _
    | float => rfl

theorem conforms_apply (op : Operator) (l r : Numeric) :
    Conforms ((op.numericResult? l.kind r.kind).map .numeric) False
      (Stop.ofExcept ((apply op l r).map .numeric)) := by
  cases op with
  | div => exact conforms_divide .quotient l r
  | mod => exact conforms_divide .remainder l r
  | relation | and | or | xor | not => rfl
  | bitNot =>
    rw [← kind_complement?]
    exact conforms_orInvalid _ l r _
  | _ =>
    rw [← kind_applyInKind? (by decide)]
    exact conforms_orInvalid _ l r _

end Numeric

theorem Conforms.mono {type : Option ValueType} {p q : Prop} {x : Except Stop Value}
    (h : Conforms type p x) (hpq : p → q) : Conforms type q x := by
  rcases x with (f | _) | v
  · exact fun ht => ⟨(h ht).1, fun hd => hpq ((h ht).2 hd)⟩
  · exact hpq h
  · exact h

theorem conforms_repeatString (limits : Limits) (s : String) (count : Int) :
    Conforms (some .string) False (Stop.ofExcept ((repeatString limits s count).map .string)) := by
  unfold repeatString
  dsimp only
  split
  · exact fun _ => ⟨rfl, nofun⟩
  · split
    · exact fun _ => ⟨rfl, nofun⟩
    · rfl

theorem conforms_fault (p : Prop) (f : Fault) : Conforms none p (.error f) := fun h => absurd rfl h

theorem conforms_relateDecoded (op : Operator) (l r : Value) (order : Option Ordering) (p : Prop) :
    Conforms (if op.isRelational then some (.numeric .bool) else none) p
      (Stop.ofExcept (relateDecoded op l r order)) := by
  cases op with
  | relation => rfl
  | _ => exact conforms_fault _ _

theorem conforms_applyText_strings (limits : Limits) (op : Operator) (a b : String) :
    Conforms (op.result? .string .string) False
      (Stop.ofExcept (applyText limits op (.string a) (.string b))) := by
  cases op with
  | add | relation => rfl
  | _ => exact conforms_fault _ _

theorem conforms_applyText_left (limits : Limits) (op : Operator) (s : String) (n : Numeric) :
    Conforms (op.result? .string (.numeric n.kind)) False
      (Stop.ofExcept (applyText limits op (.string s) (.numeric n))) := by
  cases op with
  | add =>
    cases n with
    | char c => rfl
    | _ => exact conforms_fault _ _
  | mul =>
    cases n with
    | char c => exact conforms_fault _ _
    | _ =>
      rw [applyText_repetition limits s fun hchar => by cases hchar]
      exact conforms_repeatString limits s _
  | _ => exact conforms_fault _ _

theorem conforms_applyText_right (limits : Limits) (op : Operator) (n : Numeric) (s : String) :
    Conforms (op.result? (.numeric n.kind) .string) False
      (Stop.ofExcept (applyText limits op (.numeric n) (.string s))) := by
  cases op with
  | add =>
    cases n with
    | char c => rfl
    | _ => exact conforms_fault _ _
  | _ => exact conforms_fault _ _

/-- A pattern that is decoded for its peer can have content of another type, but no other trouble. -/
theorem conforms_decoded {p : Pattern} {k : NumericKind} {op : Operator}
    {relate : Numeric → Except Fault Value}
    (h : ∀ d, Conforms (if op.isRelational then some (.numeric .bool) else none) True
      (Stop.ofExcept (relate d))) :
    Conforms (if op.isRelational then some (.numeric .bool) else none) True
      (Stop.ofExcept (do relate (← p.content.castTo k))) := by
  cases hc : p.content with
  | numeric n =>
    rw [Value.castTo_numeric]
    exact h (n.castTo k)
  | string s | pattern q =>
    rw [Value.castTo_of_numericKind?_eq_none rfl]
    exact fun _ => ⟨rfl, fun _ => trivial⟩

/-- Bytes that cannot be read are a fault of decoding, if there can be a buffer for them. -/
theorem conforms_readPattern_bind {ctx : Context} {p : Pattern} {type : Option ValueType}
    {next : List UInt8 → Evaluation Value}
    (h : ∀ bytes m, Conforms type True ((next bytes).run m).1) (m : Machine) :
    Conforms type True ((Evaluation.readPattern ctx p >>= next).run m).1 := by
  unfold Evaluation.readPattern
  split
  · exact fun _ => ⟨rfl, fun _ => trivial⟩
  · split
    · trivial
    · rcases Evaluation.fst_run_read_bind ctx p.range next m with ⟨e, hx⟩ | ⟨bytes, after, hx⟩
      · rw [hx]
        exact fun _ => ⟨rfl, fun _ => trivial⟩
      · rw [hx]
        exact h bytes after

theorem conforms_comparePatterns (ctx : Context) (op : Operator) (l r : Pattern) (m : Machine) :
    Conforms (op.result? .pattern .pattern) True ((comparePatterns ctx op l r).run m).1 := by
  refine conforms_readPattern_bind (fun a m => conforms_readPattern_bind (fun b m => ?_) m) m
  cases op with
  | relation rel => cases rel <;> first | rfl | exact conforms_fault _ _
  | _ => exact conforms_fault _ _

theorem conforms_applyOperator (ctx : Context) (op : Operator) (l r : Value) (m : Machine) :
    Conforms (op.result? l.type r.type) (l.type = .pattern ∨ r.type = .pattern)
      ((applyOperator ctx op l r).run m).1 := by
  cases l with
  | numeric a =>
    cases r with
    | numeric b => exact (Numeric.conforms_apply op a b).mono False.elim
    | string b => exact (conforms_applyText_right ctx.limits op a b).mono False.elim
    | pattern q =>
      exact (conforms_decoded fun d => conforms_relateDecoded op _ _ _ _).mono fun _ => .inr rfl
  | string a =>
    cases r with
    | numeric b => exact (conforms_applyText_left ctx.limits op a b).mono False.elim
    | string b => exact (conforms_applyText_strings ctx.limits op a b).mono False.elim
    | pattern q => exact conforms_relateDecoded op _ _ _ _
  | pattern p =>
    cases r with
    | numeric b =>
      exact (conforms_decoded fun d => conforms_relateDecoded op _ _ _ _).mono fun _ => .inl rfl
    | string b => exact conforms_relateDecoded op _ _ _ _
    | pattern q => exact (conforms_comparePatterns ctx op p q m).mono fun _ => .inl rfl

end PatternExpr
