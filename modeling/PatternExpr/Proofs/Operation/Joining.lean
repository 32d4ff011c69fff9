import PatternExpr.Proofs.Operation.Converse

/-! Text joined by `+`. Two strings, or a string and a character, join to a string in which the left
operand comes first. Two characters are numbers to `+`. -/
namespace PatternExpr

def joined (ctx : Context) (m : Machine) (l r : Value) : Except Stop Value :=
  ((applyOperator ctx .add l r).run m).1

def Value.IsText (v : Value) : Prop := v.type = .string ∨ v.type = .numeric .char

theorem Value.exists_string_of_type {v : Value} (h : v.type = .string) : ∃ s, v = .string s := by
  cases v with
  | string s => exact ⟨s, rfl⟩
  | numeric n => cases h
  | pattern p => cases h

section

variable (ctx : Context) (m : Machine)

theorem joined_strings (a b : String) :
    joined ctx m (.string a) (.string b) = .ok (.string (a ++ b)) := rfl

theorem joined_string_char (a : String) (c : Char) :
    joined ctx m (.string a) (.char c) = .ok (.string (a ++ c.toString)) := by
  rw [Char.toString_eq_singleton, ← String.push_eq_append]
  rfl

theorem joined_char_string (c : Char) (b : String) :
    joined ctx m (.char c) (.string b) = .ok (.string (c.toString ++ b)) := rfl

theorem joined_of_isText {l r : Value} (hl : l.IsText) (hr : r.IsText)
    (h : l.type = .numeric .char → r.type ≠ .numeric .char) :
    joined ctx m l r = .ok (.string (l.toText ++ r.toText)) := by
  rcases hl with hl | hl
  · obtain ⟨a, rfl⟩ := Value.exists_string_of_type hl
    rcases hr with hr | hr
    · obtain ⟨b, rfl⟩ := Value.exists_string_of_type hr
      exact joined_strings ctx m a b
    · obtain ⟨c, rfl⟩ := Value.exists_char_of_type hr
      exact joined_string_char ctx m a c
  · obtain ⟨c, rfl⟩ := Value.exists_char_of_type hl
    obtain ⟨b, rfl⟩ := Value.exists_string_of_type (hr.resolve_right (h hl))
    exact joined_char_string ctx m c b

end

end PatternExpr
