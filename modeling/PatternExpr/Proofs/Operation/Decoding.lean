import PatternExpr.Proofs.Operation.Converse

/-! What a pattern is compared as. Beside another operand it is decoded for that one, and the operand
then compares with what came out as it would have done with the content itself: to read a number in the
kind of its peer and to compare it in that kind is to compare it. -/
namespace PatternExpr

/-- What a value is compared as beside its peer. A pattern counts as its content in the kind of a number
and as its text beside a string. -/
def Value.decodedFor (v peer : Value) : Except Fault Value :=
  match v, peer with
  | .pattern p, .numeric n => (p.content.castTo n.kind).map .numeric
  | .pattern p, .string _ => .ok (.string p.toText)
  | _, _ => .ok v

theorem Value.decodedFor_numeric {p : Pattern} {n : Numeric} (hp : p.content = .numeric n)
    (peer : Numeric) :
    (pattern p).decodedFor (.numeric peer) = .ok (.numeric (n.castTo peer.kind)) := by
  change (p.content.castTo peer.kind).map Value.numeric = _
  rw [hp, castTo_numeric]
  rfl

namespace Numeric

/-- Only the low 32 bits of an integer make a code point, and the cast to a signed integer keeps them.
A float would be clamped to fewer bits. -/
theorem toCodePoint_toSigned {n : Numeric} (h : n.kind ≠ .float) :
    (signed n.toSigned).toCodePoint = n.toCodePoint := by
  cases n with
  | unsigned w | signed w => rfl
  | float x => exact absurd rfl h
  | bool b => cases b <;> rfl
  | char c =>
    have hcode : c.toNat < 4294967296 := c.val.toNat_lt
    change (char c).toSigned.toNat % 4294967296 = c.toNat
    rw [toNat_toSigned_char]
    exact Nat.mod_eq_of_lt hcode

theorem compare?_castTo {s n : Numeric} (h : s.kind ≠ .char ∨ n.kind ≠ .float) :
    s.compare? (n.castTo s.kind) = s.compare? n := by
  cases s with
  | unsigned | signed | float | bool => rfl
  | char c =>
    -- nothing is decoded to a character, so the cast was to a signed integer
    have hn : n.kind ≠ .float := h.resolve_left fun hc => hc rfl
    change some (compare c.toNat (Numeric.signed n.toSigned).toCodePoint) = _
    rw [toCodePoint_toSigned hn]
    rfl

end Numeric

section

variable (ctx : Context) (rel : Relation)

/-- A relation decodes the pattern among its operands and then relates what came out. -/
theorem applyOperator_decoded {l r : Value} (h : ¬ (l.type = .pattern ∧ r.type = .pattern)) :
    applyOperator ctx (.relation rel) l r = .ofExcept (do
      let a ← l.decodedFor r
      let b ← r.decodedFor l
      applyScalar ctx.limits (.relation rel) a b) := by
  cases l with
  | numeric a =>
    cases r with
    | numeric b | string b => rfl
    | pattern q =>
      have hread (x : Except Fault Numeric) :
          (x >>= fun d => relateDecoded (.relation rel) (.numeric a) (.numeric d) (a.compare? d)) =
            (x.map .numeric >>= applyScalar ctx.limits (.relation rel) (.numeric a)) := by
        cases x <;> rfl
      exact congrArg Evaluation.ofExcept (hread (q.content.castTo a.kind))
  | string a =>
    cases r with
    | numeric b | string b | pattern q => rfl
  | pattern p =>
    cases r with
    | numeric b =>
      have hread (x : Except Fault Numeric) :
          (x >>= fun d => relateDecoded (.relation rel) (.numeric d) (.numeric b) (d.compare? b)) =
            (x.map .numeric >>= fun a => applyScalar ctx.limits (.relation rel) a (.numeric b)) := by
        cases x <;> rfl
      exact congrArg Evaluation.ofExcept (hread (p.content.castTo b.kind))
    | string b => rfl
    | pattern q => exact absurd ⟨rfl, rfl⟩ h

variable (p : Pattern)

theorem applyOperator_numeric_decoded {s n : Numeric} (hp : p.content = .numeric n)
    (h : s.kind ≠ .char ∨ n.kind ≠ .float) :
    applyOperator ctx (.relation rel) (.numeric s) (.pattern p) =
      applyOperator ctx (.relation rel) (.numeric s) p.content := by
  rw [applyOperator_decoded ctx rel (l := .numeric s) nofun, Value.decodedFor_numeric hp, hp]
  change Evaluation.ofExcept (.ok (Value.bool (rel.holds (s.compare? (n.castTo s.kind))))) = _
  rw [Numeric.compare?_castTo h]
  rfl

theorem applyOperator_of_not_numeric (h : p.content.numericKind? = none) (s : Numeric) :
    let refused := Fault.invalidCast p.content.type.name s.kind.castTarget.typeName
    applyOperator ctx (.relation rel) (.numeric s) (.pattern p) = .fail refused ∧
      applyOperator ctx (.relation rel) (.pattern p) (.numeric s) = .fail refused := by
  intro refused
  have hdecoded : (Value.pattern p).decodedFor (.numeric s) = .error refused := by
    change (p.content.castTo s.kind).map Value.numeric = _
    rw [Value.castTo_of_numericKind?_eq_none h]
    rfl
  constructor
  · rw [applyOperator_decoded ctx rel (l := .numeric s) nofun, hdecoded]
    rfl
  · rw [applyOperator_decoded ctx rel (r := .numeric s) nofun, hdecoded]
    rfl

/-- A relation does the same with a pattern on its right as with the content of the pattern, where that
is a number; only a float beside a character is decoded to something else. A number is decoded as it
would be cast among the numbers. Other content fails to be decoded for a number, on either side and named
by its type. A string is compared with the text of the pattern, whatever the content. -/
theorem decoding_transparent :
    (∀ s n : Numeric, p.content = .numeric n → s.kind ≠ .char ∨ n.kind ≠ .float →
      applyOperator ctx (.relation rel) (.numeric s) (.pattern p) =
        applyOperator ctx (.relation rel) (.numeric s) p.content) ∧
    (∀ n : Numeric, p.content = .numeric n →
      p.content.toUnsigned = .ok n.toUnsigned ∧ p.content.toSigned = .ok n.toSigned ∧
        p.content.toFloat = .ok n.toFloat ∧ p.content.toBool = .ok n.toBool) ∧
    (p.content.type = .string ∨ p.content.type = .pattern → ∀ s : Numeric,
      let refused := Fault.invalidCast p.content.type.name s.kind.castTarget.typeName
      applyOperator ctx (.relation rel) (.numeric s) (.pattern p) = .fail refused ∧
        applyOperator ctx (.relation rel) (.pattern p) (.numeric s) = .fail refused) ∧
    ∀ s : String,
      applyOperator ctx (.relation rel) (.string s) (.pattern p) =
        applyOperator ctx (.relation rel) (.string s) (.string p.toText) ∧
      applyOperator ctx (.relation rel) (.pattern p) (.string s) =
        applyOperator ctx (.relation rel) (.string p.toText) (.string s) := by
  refine ⟨fun s n => applyOperator_numeric_decoded ctx rel p, fun n hp => ?_, fun htype s => ?_,
    fun s => ⟨rfl, rfl⟩⟩
  · rw [hp]
    exact ⟨Value.toUnsigned_numeric n, Value.toSigned_numeric n, Value.toFloat_numeric n,
      Value.toBool_numeric n⟩
  · have hkind : p.content.numericKind? = none := by
      cases hp : p.content with
      | numeric n =>
        rw [hp] at htype
        rcases htype with h | h <;> cases h
      | string text => rfl
      | pattern inner => rfl
    exact applyOperator_of_not_numeric ctx rel p hkind s

end

/-- What is decoded for a character is cut to 32 bits; a float by itself is clamped to them. -/
example : let n := Numeric.float (.ofInt 4294967361)
    (Numeric.signed n.toSigned).toCodePoint = 65 ∧ n.toCodePoint = 4294967295 := by
  decide +kernel

/-- Its content has more than 32 bits, the low ones being those of a letter, and its text is a word. -/
def wideLetter : Pattern := ⟨0, ⟨.main, 0, 8⟩, .signed 4294967361, some "wide", .synthetic⟩

def letterText : Pattern := ⟨0, ⟨.main, 0, 1⟩, .string "A", none, .synthetic⟩

theorem decoding_transparent_letters :
    compared .eq (.char 'A') (.pattern wideLetter) = .ok (.bool true) ∧
      compared .eq (.string "wide") (.pattern wideLetter) = .ok (.bool true) ∧
      compared .eq (.pattern letterText) (.char 'A') =
        .error (Fault.invalidCast "str" "signed") := by
  obtain ⟨hnumbers, -, -, htexts⟩ := decoding_transparent ⟨none, .default⟩ .eq wideLetter
  have hletter := hnumbers (.char 'A') (.signed 4294967361) rfl (.inr nofun)
  obtain ⟨-, -, hrefused, -⟩ := decoding_transparent ⟨none, .default⟩ .eq letterText
  obtain ⟨-, hcast⟩ := hrefused (.inl rfl) (.char 'A')
  unfold compared related
  rw [hletter, (htexts "wide").1, hcast]
  exact ⟨rfl, rfl, rfl⟩

end PatternExpr
