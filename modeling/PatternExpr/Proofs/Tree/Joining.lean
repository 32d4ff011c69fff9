import PatternExpr.Proofs.Operation.Joining
import PatternExpr.Proofs.Tree.Regrouping
import PatternExpr.Proofs.Tree.Soundness

/-! Trees that join text. However such a tree is bracketed, it evaluates to the text of its leaves from
left to right, unless it adds two characters somewhere: they make a number, and no text comes of a number
again. -/
namespace PatternExpr
namespace Expr

/-- The text of the leaves, from left to right. -/
def text (t : Expr) : String := String.join (t.leaves.map fun l => l.value.toText)

def isCharacter : Expr → Bool
  | .literal l => l.value.type == .numeric .char
  | _ => false

/-- Both operands of some expression in the tree are character literals. -/
def addsCharacters : Expr → Bool
  | .binary _ (some left) (some right) _ =>
    left.isCharacter && right.isCharacter || left.addsCharacters || right.addsCharacters
  | .probe _ inner => inner.addsCharacters
  | _ => false
termination_by structural t => t

variable {ctx : Context} {t left right : Expr} {location : Location} {stack : FrameStack}

theorem text_binary (op : Operator) (left right : Expr) (location : Location) :
    (binary op (some left) (some right) location).text = left.text ++ right.text := by
  unfold text
  rw [leaves_binary, List.map_append, String.join_append]

theorem addsCharacters_binary (op : Operator) (left right : Expr) (location : Location) :
    (binary op (some left) (some right) location).addsCharacters = true ↔
      left.isCharacter = true ∧ right.isCharacter = true ∨
        left.addsCharacters = true ∨ right.addsCharacters = true := by
  change (left.isCharacter && right.isCharacter || left.addsCharacters || right.addsCharacters) = true
    ↔ _
  rw [Bool.or_eq_true, Bool.or_eq_true, Bool.and_eq_true, or_assoc]

theorem operators_of_isCharacter (h : t.isCharacter = true) : t.operators = [] := by
  cases t with
  | literal l => rfl
  | _ => cases h

/-- Unless characters are added, a tree yields the text of its leaves, as a string or as the character
that it is itself. -/
theorem outcome_of_texts (ctx : Context) (ht : t.Uniform .add Value.IsText)
    (hadds : t.addsCharacters = false) (hs : stack.maxDepth = none) :
    ∃ v, t.outcome ctx stack = .ok (.literal ⟨v, t.location⟩) ∧ v.IsText ∧ v.toText = t.text ∧
      (v.type = .numeric .char → t.isCharacter = true) := by
  induction ht generalizing stack with
  | literal l hl =>
    refine ⟨l.value, rfl, hl, ?_, fun hchar => beq_iff_eq.2 hchar⟩
    simp [text, leaves, String.join_cons]
  | @binary left right location _ _ ihl ihr =>
    have hnone := mt (addsCharacters_binary .add left right location).2 (ne_true_of_eq_false hadds)
    rw [not_or, not_or, Bool.not_eq_true, Bool.not_eq_true] at hnone
    obtain ⟨hpair, hleft, hright⟩ := hnone
    obtain ⟨inner, hp, hi⟩ := FrameStack.exists_push hs ⟨binaryName, location⟩
    obtain ⟨a, hla, ha, hatext, hachar⟩ := ihl hleft hi
    obtain ⟨b, hrb, hb, hbtext, hbchar⟩ := ihr hright hi
    have hab : joined ctx ⟨.empty none, #[]⟩ a b = .ok (.string (left.text ++ right.text)) := by
      rw [← hatext, ← hbtext]
      exact joined_of_isText ctx _ ha hb fun hl hr => hpair ⟨hachar hl, hbchar hr⟩
    refine ⟨.string (left.text ++ right.text), ?_, .inl rfl, (text_binary _ _ _ _).symm, nofun⟩
    rw [outcome_binary_eq_ok_iff hp]
    exact ⟨_, _, _, hla, hrb, hab, rfl⟩

theorem type?_of_isCharacter (h : t.isCharacter = true) : t.type? = some (.numeric .char) := by
  cases t with
  | literal l => exact congrArg some (beq_iff_eq.1 h)
  | _ => cases h

/-- The types that text and sums of characters have. -/
def textTypes : List ValueType := [.string, .numeric .char, .numeric .signed]

theorem result?_add_of_textTypes {a b type : ValueType} (ha : a ∈ textTypes) (hb : b ∈ textTypes)
    (h : Operator.add.result? a b = some type) :
    type = .numeric .signed ∨ type = .string ∧ a ≠ .numeric .signed ∧ b ≠ .numeric .signed ∧
      (a = .string ∨ b = .string) := by
  simp only [textTypes, List.mem_cons, List.not_mem_nil, or_false] at ha hb
  rcases ha with rfl | rfl | rfl <;> rcases hb with rfl | rfl | rfl <;> cases h <;> decide

theorem type?_of_texts (ht : t.Uniform .add Value.IsText) {type : ValueType}
    (htype : t.type? = some type) :
    type ∈ textTypes ∧ (type ≠ .numeric .signed → t.addsCharacters = false) := by
  induction ht generalizing type with
  | literal l hl =>
    cases htype
    refine ⟨?_, fun _ => rfl⟩
    rcases hl with hl | hl
    · rw [hl]
      decide
    · rw [hl]
      decide
  | @binary left right location _ _ ihl ihr =>
    obtain ⟨a, b, ha, hb, hresult⟩ := operand_types htype
    obtain ⟨hatype, hleft⟩ := ihl ha
    obtain ⟨hbtype, hright⟩ := ihr hb
    rcases result?_add_of_textTypes hatype hbtype hresult with rfl | ⟨rfl, hna, hnb, hstring⟩
    · exact ⟨by decide, fun h => absurd rfl h⟩
    · refine ⟨by decide, fun _ => ?_⟩
      rw [← Bool.not_eq_true, addsCharacters_binary, hleft hna, hright hnb]
      rintro (⟨hlchar, hrchar⟩ | h | h)
      · rcases hstring with rfl | rfl
        · cases ha.symm.trans (type?_of_isCharacter hlchar)
        · cases hb.symm.trans (type?_of_isCharacter hrchar)
      · cases h
      · cases h

theorem outcome_ne_string (ht : t.Uniform .add Value.IsText) (hadds : t.addsCharacters = true)
    (s : String) (p : Location) : t.outcome ctx stack ≠ .ok (.literal ⟨.string s, p⟩) := by
  intro h
  obtain ⟨after, he⟩ := evaluates_of_outcome (m := ⟨stack, #[]⟩) h
  have htype : t.type? = some .string := (type?_of_evaluates he).symm
  obtain ⟨-, hnone⟩ := type?_of_texts ht htype
  rw [hnone nofun] at hadds
  cases hadds

/-- A tree that adds strings and characters evaluates to the text of its leaves from left to right, so
that trees with the same leaves evaluate to the same string however they are bracketed. All that is asked
is that no two characters are added: then no string can come of the tree. -/
theorem evaluate_of_texts (ht : t.Uniform .add Value.IsText) (ctx : Context) (m : Machine) :
    (t.operators ≠ [] → t.addsCharacters = false → m.stack.maxDepth = none →
      ((t.evaluate ctx).run m).1 = .ok (.literal ⟨.string t.text, t.location⟩)) ∧
    (∀ u : Expr, u.Uniform .add Value.IsText → u.operators ≠ [] → u.addsCharacters = false →
      u.leaves.map Literal.value = t.leaves.map Literal.value → m.stack.maxDepth = none →
        ((u.evaluate ctx).run m).1 = .ok (.literal ⟨.string t.text, u.location⟩)) ∧
    (t.addsCharacters = true →
      ∀ s location, ((t.evaluate ctx).run m).1 ≠ .ok (.literal ⟨.string s, location⟩)) := by
  have hjoined {u : Expr} (hu : u.Uniform .add Value.IsText) (hops : u.operators ≠ [])
      (hadds : u.addsCharacters = false) (hm : m.stack.maxDepth = none) :
      ((u.evaluate ctx).run m).1 = .ok (.literal ⟨.string u.text, u.location⟩) := by
    obtain ⟨v, hv, htype, htext, hchar⟩ := outcome_of_texts ctx hu hadds hm
    have hstring : v.type = .string :=
      htype.resolve_right fun h => hops (operators_of_isCharacter (hchar h))
    obtain ⟨joinedText, rfl⟩ := Value.exists_string_of_type hstring
    rw [run_evaluate_fst, hv, ← htext]
    rfl
  refine ⟨hjoined ht, fun u hu hops hadds hleaves hm => ?_, fun hadds s location => ?_⟩
  · have htext : u.text = t.text := by
      have h := congrArg (fun vs => String.join (vs.map Value.toText)) hleaves
      simp only [List.map_map] at h
      exact h
    rw [← htext]
    exact hjoined hu hops hadds hm
  · rw [run_evaluate_fst]
    exact outcome_ne_string ht hadds s location

def letterFirst : Expr :=
  .binary .add
    (some (.binary .add (some (generated (.char 'a'))) (some (generated (.string "b"))) .synthetic))
    (some (generated (.char 'c'))) .synthetic

def letterLast : Expr :=
  .binary .add (some (generated (.char 'a')))
    (some (.binary .add (some (generated (.string "b"))) (some (generated (.char 'c'))) .synthetic))
    .synthetic

def lettersAdded : Expr :=
  .binary .add (some (generated (.string "b")))
    (some (.binary .add (some (generated (.char 'a'))) (some (generated (.char 'c'))) .synthetic))
    .synthetic

theorem evaluate_of_texts_letters :
    ((letterFirst.evaluate ⟨none, .default⟩).run ⟨.empty none, #[]⟩).1 =
        .ok (.literal ⟨.string "abc", .synthetic⟩) ∧
      ((letterLast.evaluate ⟨none, .default⟩).run ⟨.empty none, #[]⟩).1 =
        .ok (.literal ⟨.string "abc", .synthetic⟩) ∧
      ((lettersAdded.evaluate ⟨none, .default⟩).run ⟨.empty none, #[]⟩).1 ≠
        .ok (.literal ⟨.string "bac", .synthetic⟩) := by
  have hfirst : letterFirst.Uniform .add Value.IsText :=
    .binary (.binary (.literal _ (.inr rfl)) (.literal _ (.inl rfl))) (.literal _ (.inr rfl))
  have hlast : letterLast.Uniform .add Value.IsText :=
    .binary (.literal _ (.inr rfl)) (.binary (.literal _ (.inl rfl)) (.literal _ (.inr rfl)))
  have hadded : lettersAdded.Uniform .add Value.IsText :=
    .binary (.literal _ (.inl rfl)) (.binary (.literal _ (.inr rfl)) (.literal _ (.inr rfl)))
  have htext : letterFirst.text = "abc" := rfl
  obtain ⟨hown, hother, -⟩ := evaluate_of_texts hfirst ⟨none, .default⟩ ⟨.empty none, #[]⟩
  obtain ⟨-, -, hnever⟩ := evaluate_of_texts hadded ⟨none, .default⟩ ⟨.empty none, #[]⟩
  rw [htext] at hown hother
  exact ⟨hown (by decide) rfl rfl, hother letterLast hlast (by decide) rfl rfl rfl, hnever rfl "bac" _⟩

end Expr
end PatternExpr
