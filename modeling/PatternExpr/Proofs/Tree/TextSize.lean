import PatternExpr.Proofs.Operation.Repetition
import PatternExpr.Proofs.Operation.Typing
import PatternExpr.Proofs.Tree.Rules
import PatternExpr.Tree.Shape

/-! How much text an evaluation can make. Joining adds up the bytes of its operands, and a repetition
has a limit of its own, whatever it repeats. -/
namespace PatternExpr

/-- The bytes of a string or of a character; other values are no text. -/
def Value.textSize : Value → Nat
  | .string s => s.utf8ByteSize
  | .char c => c.utf8Size
  | _ => 0

def Reduct.textSize : Reduct → Nat
  | .literal l => l.value.textSize
  | .nothing | .irreducible _ => 0

/-- The bytes of all text among the literals of a tree. -/
def Expr.textSize (t : Expr) : Nat := t.leaves.foldr (fun l n => l.value.textSize + n) 0

theorem Operator.numericResult?_ne_char (op : Operator) (k k' : NumericKind) :
    op.numericResult? k k' ≠ some .char := by
  have hk : k.join k' ≠ .char := by
    rw [NumericKind.join_eq_promote]
    exact NumericKind.promote_ne_char k k'
  unfold numericResult?
  (repeat' split) <;> simp [hk]

theorem Operator.result?_ne_char (op : Operator) (l r : ValueType) :
    op.result? l r ≠ some (.numeric .char) := by
  have hn := fun k k' => op.numericResult?_ne_char k k'
  unfold result?
  (repeat' split) <;> simp [hn]

theorem Value.textSize_eq_zero {v : Value} (hs : v.type ≠ .string)
    (hc : v.type ≠ .numeric .char) : v.textSize = 0 := by
  cases v with
  | numeric n => cases n <;> first | rfl | exact absurd rfl hc
  | string s => exact absurd rfl hs
  | pattern p => rfl

/-- How much text an operator can make of so much in its operands. -/
def textBound (limits : Limits) (op : Operator) (l r : Nat) : Nat :=
  if op = .mul then limits.maxStringLength else l + r

theorem textBound_mono (limits : Limits) (op : Operator) {l l' r r' : Nat} (hl : l ≤ l')
    (hr : r ≤ r') : textBound limits op l r ≤ textBound limits op l' r' := by
  unfold textBound
  split
  · exact Nat.le_refl _
  · exact Nat.add_le_add hl hr

theorem textSize_applyText {limits : Limits} {op : Operator} {l r v : Value}
    (h : applyText limits op l r = .ok v) :
    v.textSize ≤ textBound limits op l.textSize r.textSize := by
  unfold applyText at h
  split at h
  case h_1 a b =>
    cases h
    simp [Value.textSize, textBound, String.utf8ByteSize_append]
  case h_2 a c =>
    cases h
    simp [Value.textSize, textBound]
  case h_3 c b =>
    cases h
    simp [Value.textSize, textBound]
  case h_4 =>
    cases h
    exact Nat.zero_le _
  case h_6 s n _ =>
    rw [Value.toSigned_numeric] at h
    change (repeatString limits s n.toSigned.toInt).map Value.string = .ok v at h
    cases hr : repeatString limits s n.toSigned.toInt with
    | error f =>
      rw [hr] at h
      cases h
    | ok text =>
      rw [hr] at h
      cases h
      exact utf8ByteSize_of_repeatString hr
  case h_5 | h_7 => cases h

/-- Where operators yield a string, they take the operands as text. -/
theorem applyText_of_string {ctx : Context} {op : Operator} {l r : Value} {m after : Machine}
    {s : String} (h : (applyOperator ctx op l r).run m = (.ok (.string s), after)) :
    applyText ctx.limits op l r = .ok (.string s) := by
  have ht : op.result? l.type r.type = some .string := by
    have hc := conforms_applyOperator ctx op l r m
    rwa [h] at hc
  have hx : ((applyOperator ctx op l r).run m).1 = .ok (.string s) := by rw [h]
  cases l with
  | numeric a =>
    cases r with
    | numeric b => simp [Value.type, Operator.result?] at ht
    | string b => exact Stop.ofExcept_eq_ok_iff.1 hx
    | pattern q => simp [Value.type, Operator.result?] at ht
  | string a =>
    cases r with
    | numeric b | string b => exact Stop.ofExcept_eq_ok_iff.1 hx
    | pattern q => simp [Value.type, Operator.result?] at ht
  | pattern p => cases r <;> simp [Value.type, Operator.result?] at ht

theorem textSize_applyOperator {ctx : Context} {op : Operator} {l r v : Value} {m after : Machine}
    (h : (applyOperator ctx op l r).run m = (.ok v, after)) :
    v.textSize ≤ textBound ctx.limits op l.textSize r.textSize := by
  by_cases hs : v.type = .string
  · cases v with
    | string s => exact textSize_applyText (applyText_of_string h)
    | numeric | pattern => cases hs
  · have hc := conforms_applyOperator ctx op l r m
    rw [h] at hc
    have hn : v.type ≠ .numeric .char := fun hv =>
      op.result?_ne_char _ _ (hc.trans (congrArg some hv))
    rw [Value.textSize_eq_zero hs hn]
    exact Nat.zero_le _

theorem textSize_applyReducts {ctx : Context} {op : Operator} {l r : Reduct} {m after : Machine}
    {v : Value} (h : (applyReducts ctx op l r).run m = (.ok v, after)) :
    v.textSize ≤ textBound ctx.limits op l.textSize r.textSize := by
  cases l with
  | nothing | irreducible => cases h
  | literal a =>
    cases r with
    | nothing | irreducible => cases h
    | literal b => exact textSize_applyOperator h

namespace Expr

variable {ctx : Context} {t : Expr} {m after : Machine}

theorem foldr_textSize_add (ls : List Literal) (n : Nat) :
    ls.foldr (fun l k => l.value.textSize + k) n =
      ls.foldr (fun l k => l.value.textSize + k) 0 + n := by
  induction ls with
  | nil => exact (Nat.zero_add n).symm
  | cons l ls ih => rw [List.foldr_cons, List.foldr_cons, ih, Nat.add_assoc]

theorem textSize_binary (op : Operator) (left right : Expr) (location : Location) :
    (binary op (some left) (some right) location).textSize = left.textSize + right.textSize := by
  rw [textSize, leaves_binary, List.foldr_append, foldr_textSize_add]
  rfl

/-- The text in the literals of a tree and as much as its repetitions can make. -/
def textBudget (limits : Limits) (t : Expr) : Nat :=
  t.textSize + limits.maxStringLength * t.operators.count .mul

theorem textBudget_binary (limits : Limits) (op : Operator) (left right : Expr)
    (location : Location) :
    textBound limits op (left.textBudget limits) (right.textBudget limits) ≤
      (binary op (some left) (some right) location).textBudget limits := by
  unfold textBudget textBound
  rw [textSize_binary, operators_binary, List.count_append, List.count_append]
  split
  next h =>
    subst h
    simp only [List.count_singleton_self, Nat.mul_add, Nat.mul_one]
    omega
  next =>
    simp only [Nat.mul_add]
    omega

theorem textSize_of_evaluates {r : Reduct} (h : t.Evaluates ctx m (.ok r) after) :
    r.textSize ≤ t.textBudget ctx.limits := by
  generalize hx : Except.ok r = x at h
  induction h generalizing r with
  | literal l =>
    cases hx
    simp [Reduct.textSize, textBudget, textSize, leaves]
  | void | irreducible =>
    cases hx
    exact Nat.zero_le _
  | failing | refused | incomplete | left | right | failed => cases hx
  | probe _ ih => exact ih hx
  | @value op left right location _ _ _ _ _ l r _ _ _ _ hv hl hr =>
    cases hx
    have hl : l.textSize ≤ left.textBudget ctx.limits := hl rfl
    have hr : r.textSize ≤ right.textBudget ctx.limits := hr rfl
    calc
      _ ≤ textBound ctx.limits op l.textSize r.textSize := textSize_applyReducts hv
      _ ≤ textBound ctx.limits op (left.textBudget ctx.limits) (right.textBudget ctx.limits) :=
        textBound_mono _ op hl hr
      _ ≤ _ := textBudget_binary ctx.limits op left right location

theorem textSize_of_repetition {left right : Option Expr} {location : Location} {r : Reduct}
    (h : (binary .mul left right location).Evaluates ctx m (.ok r) after) :
    r.textSize ≤ ctx.limits.maxStringLength := by
  cases h with
  | value _ _ _ hv => exact textSize_applyReducts hv

/-- A string that a tree evaluates to has at most the bytes of its strings and characters and the limit
on a string once for each repetition in it. The result of a repetition keeps to that limit alone,
whatever it repeats. -/
theorem textSize_evaluate (ctx : Context) (t : Expr) (m : Machine) (s : String) (place : Location)
    (after : Machine) (h : (t.evaluate ctx).run m = (.ok (.literal ⟨.string s, place⟩), after)) :
    s.utf8ByteSize ≤ t.textSize + ctx.limits.maxStringLength * t.operators.count .mul ∧
      ∀ left right location, t = .binary .mul left right location →
        s.utf8ByteSize ≤ ctx.limits.maxStringLength := by
  have he := evaluates_iff.2 h
  refine ⟨textSize_of_evaluates he, ?_⟩
  rintro left right location rfl
  exact textSize_of_repetition he

def nestedRepetition : Expr :=
  .binary .mul
    (some (.binary .mul (some (.literal ⟨.string "ab", .synthetic⟩)) (some (number 3)) .synthetic))
    (some (number 2)) .synthetic

def prefixedRepetition : Expr :=
  .binary .add (some (.literal ⟨.char 'é', .synthetic⟩)) (some nestedRepetition) .synthetic

/-- A repeated string may have twelve bytes, as many as these repetitions make. -/
def twelveBytes : Context := ⟨none, ⟨5, 12, none⟩⟩

theorem textSize_evaluate_nestedRepetition :
    (∃ after, (prefixedRepetition.evaluate twelveBytes).run ⟨.empty none, #[]⟩ =
        (.ok (.literal ⟨.string "éabababababab", .synthetic⟩), after) ∧
      "éabababababab".utf8ByteSize ≤ (2 + 2) + 12 * 2) ∧
    ∃ after, (nestedRepetition.evaluate twelveBytes).run ⟨.empty none, #[]⟩ =
        (.ok (.literal ⟨.string "abababababab", .synthetic⟩), after) ∧
      "abababababab".utf8ByteSize ≤ 12 := by
  have hprefixed : (prefixedRepetition.evaluate twelveBytes).run ⟨.empty none, #[]⟩ =
      (.ok (.literal ⟨.string "éabababababab", .synthetic⟩), ⟨.empty none, #[]⟩) := rfl
  have hnested : (nestedRepetition.evaluate twelveBytes).run ⟨.empty none, #[]⟩ =
      (.ok (.literal ⟨.string "abababababab", .synthetic⟩), ⟨.empty none, #[]⟩) := rfl
  obtain ⟨hsize, -⟩ := textSize_evaluate twelveBytes prefixedRepetition _ _ _ _ hprefixed
  obtain ⟨-, hlimit⟩ := textSize_evaluate twelveBytes nestedRepetition _ _ _ _ hnested
  exact ⟨⟨_, hprefixed, hsize⟩, _, hnested, hlimit _ _ _ rfl⟩

end Expr
end PatternExpr
