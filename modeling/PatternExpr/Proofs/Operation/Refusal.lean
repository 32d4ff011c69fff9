import PatternExpr.Proofs.Operation.Faults
import PatternExpr.Proofs.Operation.Typing

/-! Operands that an operator refuses. The fault gives the types it was refused for. They are the types
of the operands, but a pattern beside another operand has been decoded by then and is named after what
it was decoded to. -/
namespace PatternExpr

theorem Operator.CanRaise.eq_invalidOperand {op : Operator} {left right : ValueType} {f : Fault}
    (h : op.CanRaise left right f) (hcode : f.cause.code = .invalidOperand) :
    f = .invalidOperand op left right := by
  cases h with
  | invalidOperand => rfl
  | _ => cases hcode

theorem Value.namedType_of_alike {v peer : Value} (h : v.type = .pattern ↔ peer.type = .pattern) :
    v.namedType peer = v.type := by
  cases v with
  | numeric n => rfl
  | string s => rfl
  | pattern p =>
    cases peer with
    | numeric n => cases h.1 rfl
    | string s => cases h.1 rfl
    | pattern q => rfl

theorem Value.namedType_eq_pattern_iff {v peer : Value} :
    v.namedType peer = .pattern ↔ v.type = .pattern ∧ peer.type = .pattern := by
  constructor
  · intro h
    cases v with
    | numeric n => cases h
    | string s => cases h
    | pattern p =>
      cases peer with
      | numeric n => cases h
      | string s => cases h
      | pattern q => exact ⟨rfl, rfl⟩
  · rintro ⟨hv, hpeer⟩
    rw [Value.namedType_of_alike (by rw [hv, hpeer]), hv]

theorem Operator.isRelational_of_result?_eq_none {op : Operator} {l r : ValueType}
    (h : op.result? l r = none) (hl : ¬ (l = .pattern ↔ r = .pattern)) :
    op.isRelational = false := by
  have hmixed : op.result? l r = if op.isRelational then some (.numeric .bool) else none := by
    cases l with
    | pattern =>
      cases r with
      | pattern => exact absurd Iff.rfl hl
      | _ => rfl
    | numeric k =>
      cases r with
      | pattern => rfl
      | _ => exact absurd ⟨nofun, nofun⟩ hl
    | string =>
      cases r with
      | pattern => rfl
      | _ => exact absurd ⟨nofun, nofun⟩ hl
  rw [hmixed] at h
  cases hop : op.isRelational with
  | false => rfl
  | true =>
    rw [hop] at h
    cases h

section

variable {ctx : Context} {op : Operator} {l r : Value} {m : Machine} {f : Fault}

theorem fault_of_refused (hf : ((applyOperator ctx op l r).run m).1 = .error f)
    (hcode : f.cause.code = .invalidOperand) :
    f = .invalidOperand op (l.namedType r) (r.namedType l) :=
  (failsWith_applyOperator ctx op l r m f hf).eq_invalidOperand hcode

/-- Only operands are refused for whose types the operator has no result. -/
theorem result?_eq_none_of_refused (hf : ((applyOperator ctx op l r).run m).1 = .error f)
    (hcode : f.cause.code = .invalidOperand) : op.result? l.type r.type = none := by
  have hfault := fault_of_refused hf hcode
  have hconforms := conforms_applyOperator ctx op l r m
  rw [hf] at hconforms
  cases hresult : op.result? l.type r.type with
  | none => rfl
  | some type =>
    have hne : op.result? l.type r.type ≠ none := by
      rw [hresult]
      exact nofun
    obtain ⟨htype, -⟩ := hconforms hne
    rw [hfault] at htype
    cases htype

/-- A refusal gives the operator and names the operands in their order, in the text as well. If both
are patterns or neither is, the names are their types, and the operator indeed has no result for those.
A pattern beside another operand is refused only where the two are not compared, and then no pattern is
named, so that the operator may well apply to what is named. -/
theorem refusal_names_operands (hf : ((applyOperator ctx op l r).run m).1 = .error f)
    (hcode : f.cause.code = .invalidOperand) :
    let left := l.namedType r
    let right := r.namedType l
    f.cause = .invalidOperand op left right ∧
    f.description = some ("operator `" ++ op.symbol ++ "` cannot be applied to `" ++ left.name ++
      "` and `" ++ right.name ++ "`") ∧
    op.result? l.type r.type = none ∧
    ((l.type = .pattern ↔ r.type = .pattern) →
      left = l.type ∧ right = r.type ∧ op.result? left right = none) ∧
    (¬ (l.type = .pattern ↔ r.type = .pattern) →
      op.isRelational = false ∧ left ≠ .pattern ∧ right ≠ .pattern) := by
  intro left right
  have hfault : f = .invalidOperand op left right := fault_of_refused hf hcode
  have hresult := result?_eq_none_of_refused hf hcode
  refine ⟨?_, ?_, hresult, ?_, ?_⟩
  · rw [hfault]
    rfl
  · rw [hfault]
    rfl
  · intro halike
    have hleft : left = l.type := Value.namedType_of_alike halike
    have hright : right = r.type := Value.namedType_of_alike halike.symm
    rw [hleft, hright]
    exact ⟨rfl, rfl, hresult⟩
  · intro hmixed
    refine ⟨Operator.isRelational_of_result?_eq_none hresult hmixed, ?_, ?_⟩
    · intro hleft
      obtain ⟨hl, hr⟩ := Value.namedType_eq_pattern_iff.1 hleft
      exact hmixed (by rw [hl, hr])
    · intro hright
      obtain ⟨hr, hl⟩ := Value.namedType_eq_pattern_iff.1 hright
      exact hmixed (by rw [hl, hr])

end

/-- A source of endless zeros. -/
def zeros : Context := ⟨some fun range => .ok (List.replicate range.size 0), .default⟩

def oneByte : Value := .pattern ⟨0, ⟨.main, 0, 1⟩, .unsigned 2, none, .synthetic⟩

theorem refusal_names_operands_patterns :
    let refused := ((applyOperator zeros .add oneByte oneByte).run ⟨.empty none, #[]⟩).1
    refused = .error (Fault.invalidOperand .add .pattern .pattern) ∧
      Operator.add.result? .pattern .pattern = none := by
  intro refused
  have hf : refused = .error (Fault.invalidOperand .add .pattern .pattern) := rfl
  obtain ⟨-, -, -, halike, -⟩ := refusal_names_operands hf rfl
  obtain ⟨-, -, hresult⟩ := halike Iff.rfl
  exact ⟨hf, hresult⟩

/-- The sum of a pattern and an integer is refused as the sum of two integers, which there is. -/
theorem refusal_names_decoded_pattern :
    ((applyOperator zeros .add oneByte (.unsigned 1)).run ⟨.empty none, #[]⟩).1 =
        .error (Fault.invalidOperand .add (.numeric .unsigned) (.numeric .unsigned)) ∧
      (oneByte.type, (Value.unsigned 1).type) ≠ (.numeric .unsigned, .numeric .unsigned) ∧
      Operator.add.result? (.numeric .unsigned) (.numeric .unsigned) = some (.numeric .unsigned) ∧
      ((applyOperator zeros .add (.unsigned 2) (.unsigned 1)).run ⟨.empty none, #[]⟩).1 =
        .ok (.unsigned 3) := by
  exact ⟨rfl, by decide, rfl, rfl⟩

end PatternExpr
