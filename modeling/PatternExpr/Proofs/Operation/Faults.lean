import PatternExpr.Tree.Evaluation

/-! The faults that operators raise. There is one list of them, from which everything else about them
is read off: the operands that a refusal names, and that an operator knows neither its place in a tree
nor how deep the evaluation is, so that its faults name no place and never blame the depth. -/
namespace PatternExpr

/-- The type by which an operand is called when the operator does not apply. A pattern beside another
operand has been decoded by then. -/
def Value.namedType (v peer : Value) : ValueType :=
  match v, peer with
  | .pattern _, .numeric n => .numeric n.kind.castTarget
  | .pattern _, .string _ => .string
  | _, _ => v.type

/-- The faults an operator can raise on operands that are called by these types. -/
inductive Operator.CanRaise (op : Operator) (left right : ValueType) : Fault → Prop
  | invalidOperand : CanRaise op left right (.invalidOperand op left right)
  | invalidCast (source target : String) : CanRaise op left right (.invalidCast source target)
  | divisionByZero : CanRaise op left right .divisionByZero
  | booleanArithmetic : CanRaise op left right .booleanArithmetic
  | negativeRepeatCount : CanRaise op left right .negativeRepeatCount
  | repeatLimitExceeded (count : Int) (limit : Nat) :
    CanRaise op left right (.repeatLimitExceeded count limit)
  | dataRead (e : ReadError) : CanRaise op left right (.dataRead e)

/-- Every fault of the computation has the property. -/
def FailsWith {α : Type} (P : Fault → Prop) (x : Except Fault α) : Prop := ∀ f, x = .error f → P f

namespace FailsWith

variable {α β : Type} {P : Fault → Prop}

theorem ok (a : α) : FailsWith P (.ok a) := by
  intro f h
  cases h

theorem error {f : Fault} (h : P f) : FailsWith P (.error f : Except Fault α) := by
  intro g hg
  cases hg
  exact h

theorem map {x : Except Fault α} (h : FailsWith P x) (g : α → β) : FailsWith P (x.map g) := by
  cases x with
  | ok a => exact ok _
  | error f => exact error (h f rfl)

theorem mapError {ε : Type} {g : ε → Fault} (h : ∀ e, P (g e)) (x : Except ε α) :
    FailsWith P (x.mapError g) := by
  cases x with
  | ok a => exact ok a
  | error e => exact error (h e)

theorem bind {x : Except Fault α} {next : α → Except Fault β} (h : FailsWith P x)
    (hnext : ∀ a, x = .ok a → FailsWith P (next a)) : FailsWith P (x >>= next) := by
  cases x with
  | ok a => exact hnext a rfl
  | error f => exact error (h f rfl)

end FailsWith

namespace Numeric

variable (op : Operator) (l r : Numeric)

theorem failsWith_orInvalid (n : Option Numeric) :
    FailsWith (op.CanRaise (.numeric l.kind) (.numeric r.kind)) (orInvalid op l r n) := by
  cases n with
  | none => exact .error .invalidOperand
  | some n => exact .ok n

section

variable (left right : ValueType)

theorem failsWith_orZeroDivisor (n : Option Numeric) :
    FailsWith (op.CanRaise left right) (orZeroDivisor n) := by
  cases n with
  | none => exact .error .divisionByZero
  | some n => exact .ok n

theorem failsWith_divide (part : DivisionPart) :
    FailsWith (op.CanRaise left right) (divide part l r) := by
  unfold divide
  split
  · exact .error .divisionByZero
  · split
    · exact .error .booleanArithmetic
    · exact failsWith_orZeroDivisor op left right _
    · exact failsWith_orZeroDivisor op left right _
    · exact failsWith_orZeroDivisor op left right _
    · exact .ok _

end

theorem failsWith_apply :
    FailsWith (op.CanRaise (.numeric l.kind) (.numeric r.kind)) (apply op l r) := by
  unfold apply
  split
  case h_1 | h_2 => exact failsWith_divide _ l r _ _ _
  case h_8 | h_9 => exact failsWith_orInvalid _ l r _
  all_goals exact .ok _

end Numeric

section

variable (limits : Limits) (op : Operator)

theorem failsWith_repeatString (left right : ValueType) (s : String) (count : Int) :
    FailsWith (op.CanRaise left right) (repeatString limits s count) := by
  unfold repeatString
  dsimp only
  split
  · exact .error .negativeRepeatCount
  · split
    · exact .error (.repeatLimitExceeded _ _)
    · exact .ok _

theorem failsWith_applyText (l r : Value) :
    FailsWith (op.CanRaise l.type r.type) (applyText limits op l r) := by
  unfold applyText
  split
  case h_5 | h_7 => exact .error .invalidOperand
  case h_6 =>
    rw [Value.toSigned_numeric]
    exact (failsWith_repeatString limits _ _ _ _ _).map _
  all_goals exact .ok _

theorem failsWith_relateDecoded (l r : Value) (order : Option Ordering) :
    FailsWith (op.CanRaise l.type r.type) (relateDecoded op l r order) := by
  unfold relateDecoded
  split
  · exact .ok _
  · exact .error .invalidOperand

theorem Value.failsWith_castTo (left right : ValueType) (v : Value) (k : NumericKind) :
    FailsWith (op.CanRaise left right) (v.castTo k) := by
  cases v with
  | numeric n =>
    rw [castTo_numeric]
    exact .ok _
  | string s | pattern p =>
    rw [castTo_of_numericKind?_eq_none rfl]
    exact .error (.invalidCast _ _)

theorem Value.type_of_castTo {v : Value} {k : NumericKind} {n : Numeric} (h : v.castTo k = .ok n) :
    (Value.numeric n).type = .numeric k.castTarget := by
  obtain ⟨content, -, rfl⟩ := Value.castTo_eq_ok_iff.1 h
  exact congrArg ValueType.numeric (Numeric.kind_castTo content k)

theorem failsWith_pattern_numeric (p : Pattern) (n : Numeric) :
    FailsWith (op.CanRaise (.numeric n.kind.castTarget) (.numeric n.kind))
      (applyScalar limits op (.pattern p) (.numeric n)) := by
  apply FailsWith.bind (Value.failsWith_castTo _ _ _ _ _)
  intro d hd
  rw [← Value.type_of_castTo hd]
  exact failsWith_relateDecoded op _ _ _

theorem failsWith_numeric_pattern (n : Numeric) (p : Pattern) :
    FailsWith (op.CanRaise (.numeric n.kind) (.numeric n.kind.castTarget))
      (applyScalar limits op (.numeric n) (.pattern p)) := by
  apply FailsWith.bind (Value.failsWith_castTo _ _ _ _ _)
  intro d hd
  rw [← Value.type_of_castTo hd]
  exact failsWith_relateDecoded op _ _ _

theorem failsWith_applyScalar (l r : Value) :
    FailsWith (op.CanRaise (l.namedType r) (r.namedType l)) (applyScalar limits op l r) := by
  cases l with
  | numeric a =>
    cases r with
    | numeric b => exact (Numeric.failsWith_apply op a b).map _
    | string b => exact failsWith_applyText limits op _ _
    | pattern q => exact failsWith_numeric_pattern limits op a q
  | string a =>
    cases r with
    | numeric b => exact failsWith_applyText limits op _ _
    | string b => exact failsWith_applyText limits op _ _
    | pattern q => exact failsWith_relateDecoded op _ _ _
  | pattern p =>
    cases r with
    | numeric b => exact failsWith_pattern_numeric limits op p b
    | string b => exact failsWith_relateDecoded op _ _ _
    | pattern q => exact failsWith_applyText limits op _ _

end

namespace Evaluation

variable {α β : Type} {P : Fault → Prop}

/-- Every fault that the evaluation answers with has the property, on every machine. -/
def FailsWith (P : Fault → Prop) (e : Evaluation α) : Prop :=
  ∀ m (f : Fault), (e.run m).1 = .error f → P f

theorem failsWith_fail {f : Fault} (h : P f) : FailsWith P (fail f : Evaluation α) := by
  intro m g hg
  cases hg
  exact h

theorem failsWith_overflow : FailsWith P (overflow : Evaluation α) := by
  intro m f hf
  cases hf

theorem failsWith_record (event : Event) : FailsWith P (record event) := by
  intro m f hf
  cases hf

theorem failsWith_ofExcept {x : Except Fault α} (h : PatternExpr.FailsWith P x) :
    FailsWith P (ofExcept x) := by
  intro m f hf
  cases x with
  | ok a => cases hf
  | error g =>
    cases hf
    exact h _ rfl

theorem FailsWith.bind {e : Evaluation α} {next : α → Evaluation β} (he : FailsWith P e)
    (hnext : ∀ a, FailsWith P (next a)) : FailsWith P (e >>= next) := by
  intro m f hf
  have h := he m
  rw [run_bind] at hf
  rcases hr : e.run m with ⟨s | a, after⟩
  · rw [hr] at h hf
    cases hf
    exact h f rfl
  · rw [hr] at hf
    exact hnext a after f hf

theorem failsWith_readPattern (op : Operator) (left right : ValueType) (ctx : Context) (p : Pattern) :
    FailsWith (op.CanRaise left right) (readPattern ctx p) := by
  unfold readPattern
  split
  · exact failsWith_fail (.dataRead _)
  · split
    · exact failsWith_overflow
    · unfold read
      split
      · exact failsWith_fail (.dataRead _)
      · refine FailsWith.bind (failsWith_record _) fun _ => failsWith_ofExcept ?_
        exact .mapError .dataRead _

end Evaluation

theorem failsWith_comparePatterns (ctx : Context) (op : Operator) (l r : Pattern) :
    (comparePatterns ctx op l r).FailsWith (op.CanRaise .pattern .pattern) := by
  refine (Evaluation.failsWith_readPattern op _ _ ctx l).bind fun a =>
    (Evaluation.failsWith_readPattern op _ _ ctx r).bind fun b => ?_
  split
  · exact Evaluation.failsWith_ofExcept (.ok _)
  · exact Evaluation.failsWith_ofExcept (.ok _)
  · exact Evaluation.failsWith_fail .invalidOperand

theorem failsWith_applyOperator (ctx : Context) (op : Operator) (l r : Value) :
    (applyOperator ctx op l r).FailsWith (op.CanRaise (l.namedType r) (r.namedType l)) := by
  unfold applyOperator
  split
  · exact failsWith_comparePatterns ctx op _ _
  · exact Evaluation.failsWith_ofExcept (failsWith_applyScalar ctx.limits op l r)

/-- No place has been noted in the fault, and it is not a refused frame. -/
structure Fault.IsLocal (f : Fault) : Prop where
  location : f.location = none
  trace : f.trace = []
  cause : ∀ limit, f.cause ≠ .recursionLimitExceeded limit

theorem Fault.isLocal_voidOperand : voidOperand.IsLocal := ⟨rfl, rfl, nofun⟩

theorem Fault.isLocal_nonLiteralOperand : nonLiteralOperand.IsLocal := ⟨rfl, rfl, nofun⟩

theorem Operator.CanRaise.isLocal {op : Operator} {left right : ValueType} {f : Fault}
    (h : op.CanRaise left right f) : f.IsLocal := by
  cases h <;> exact ⟨rfl, rfl, nofun⟩

theorem Reduct.failsWith_operand (r : Reduct) : FailsWith Fault.IsLocal r.operand := by
  cases r with
  | nothing => exact .error Fault.isLocal_voidOperand
  | literal l => exact .ok _
  | irreducible location => exact .error Fault.isLocal_nonLiteralOperand

theorem isLocal_of_applyOperator (ctx : Context) (op : Operator) (l r : Value) :
    (applyOperator ctx op l r).FailsWith Fault.IsLocal := by
  intro m f hf
  exact (failsWith_applyOperator ctx op l r m f hf).isLocal

end PatternExpr
