import Mathlib.Order.Bounds.Defs
import PatternExpr.Proofs.Source.Excerpt

/-! The window that is cut out of a long line. Its edges move in turn, step by step, and the character at an
edge decides about the next step of that edge alone. So each edge moves over the longest run of word
characters that starts where it stood, or over as much of that run as it has steps for. -/
namespace PatternExpr

section

variable {P : Nat → Prop} {bound n : Nat}

theorem isGreatest_run_succ (h : P 0) (hrun : IsGreatest {k | k ≤ bound ∧ ∀ j < k, P (j + 1)} n) :
    IsGreatest {k | k ≤ bound + 1 ∧ ∀ j < k, P j} (n + 1) := by
  obtain ⟨⟨hn, hall⟩, hmax⟩ := hrun
  constructor
  · exact ⟨Nat.succ_le_succ hn, Nat.forall_lt_succ_left.2 ⟨h, hall⟩⟩
  · intro k hk
    cases k with
    | zero => exact Nat.zero_le _
    | succ k =>
      obtain ⟨-, hafter⟩ := Nat.forall_lt_succ_left.1 hk.2
      exact Nat.succ_le_succ (hmax ⟨Nat.le_of_succ_le_succ hk.1, hafter⟩)

theorem isGreatest_run_zero (h : 0 < bound → ¬ P 0) :
    IsGreatest {k | k ≤ bound ∧ ∀ j < k, P j} 0 := by
  constructor
  · exact ⟨Nat.zero_le _, fun j hj => absurd hj (Nat.not_lt_zero j)⟩
  · intro k hk
    have hempty : ¬ 0 < k := fun hpos => h (Nat.lt_of_lt_of_le hpos hk.1) (hk.2 0 hpos)
    omega

theorem eq_bound_of_isGreatest_run (hrun : IsGreatest {k | k ≤ bound ∧ ∀ j < k, P j} n) (h : P n) :
    n = bound := by
  obtain ⟨⟨hn, hall⟩, hmax⟩ := hrun
  by_contra hne
  have hlonger : n + 1 ≤ n := by
    refine hmax ⟨by omega, fun j hj => ?_⟩
    rcases Nat.lt_succ_iff_lt_or_eq.1 hj with hlt | rfl
    · exact hall j hlt
    · exact h
  omega

end

namespace Excerpt

/-- The line has a character at this index, and it is not a blank. -/
def IsWordAt (cs : List Char) (i : Nat) : Prop := ∃ c, cs[i]? = some c ∧ isBlank c = false

/-- The `k` characters that end at index `i` are there, none is blank and none is the first of the line. -/
def WordUpTo (cs : List Char) (i k : Nat) : Prop := ∀ j < k, j < i ∧ IsWordAt cs (i - j)

/-- The `k` characters that start at index `i` are there and none is blank. -/
def WordFrom (cs : List Char) (i k : Nat) : Prop := ∀ j < k, IsWordAt cs (i + j)

variable {cs : List Char}

theorem inWord_eq_true_iff {i : Nat} : inWord cs i = true ↔ IsWordAt cs i := by
  unfold inWord IsWordAt
  cases cs[i]? <;> simp

theorem isGreatest_extendLeft (cs : List Char) (n i : Nat) :
    IsGreatest {k | k ≤ n ∧ WordUpTo cs i k} (i - extendLeft cs n i) := by
  fun_induction extendLeft cs n i with
  | case1 i =>
    rw [Nat.sub_self]
    exact isGreatest_run_zero fun h => absurd h (Nat.lt_irrefl 0)
  | case2 n i h ih =>
    obtain ⟨hpos, hword⟩ := h
    have hlength : i - extendLeft cs n (i - 1) = i - 1 - extendLeft cs n (i - 1) + 1 := by
      have hle := extendLeft_le cs n (i - 1)
      omega
    have hshift (j : Nat) : (j + 1 < i ∧ IsWordAt cs (i - (j + 1))) ↔
        (j < i - 1 ∧ IsWordAt cs (i - 1 - j)) := by
      rw [show i - (j + 1) = i - 1 - j by omega, show j + 1 < i ↔ j < i - 1 by omega]
    rw [hlength]
    refine isGreatest_run_succ ⟨hpos, inWord_eq_true_iff.1 hword⟩ ?_
    simp only [hshift]
    exact ih
  | case3 n i h =>
    rw [Nat.sub_self]
    exact isGreatest_run_zero fun _ hfirst => h ⟨hfirst.1, inWord_eq_true_iff.2 hfirst.2⟩

theorem isGreatest_extendRight (cs : List Char) (n i : Nat) :
    IsGreatest {k | k ≤ n ∧ WordFrom cs i k} (extendRight cs n i - i) := by
  fun_induction extendRight cs n i with
  | case1 i =>
    rw [Nat.sub_self]
    exact isGreatest_run_zero fun h => absurd h (Nat.lt_irrefl 0)
  | case2 n i h ih =>
    have hlength : extendRight cs n (i + 1) - i = extendRight cs n (i + 1) - (i + 1) + 1 := by
      have hle := le_extendRight cs n (i + 1)
      omega
    have hshift (j : Nat) : IsWordAt cs (i + (j + 1)) ↔ IsWordAt cs (i + 1 + j) := by
      rw [show i + (j + 1) = i + 1 + j by omega]
    rw [hlength]
    refine isGreatest_run_succ (inWord_eq_true_iff.1 h) ?_
    simp only [hshift]
    exact ih
  | case3 n i h =>
    rw [Nat.sub_self]
    exact isGreatest_run_zero fun _ hfirst => h (inWord_eq_true_iff.2 hfirst)

/-- Where an edge comes to does not depend on where the other edge is, and no step fails. -/
theorem exists_widenTimes? (cs : List Char) (steps : Nat) :
    (∀ i, ∃ i', ∀ other, (Window.widenTimes? cs steps ⟨i, other⟩).map Window.start = some i') ∧
      ∀ j, ∃ j', ∀ other, (Window.widenTimes? cs steps ⟨other, j⟩).map Window.stop = some j' := by
  constructor
  · exact fun i => ⟨extendLeft cs steps i, fun other => by rw [widenTimes?_eq, Option.map_some]⟩
  · exact fun j => ⟨extendRight cs steps j, fun other => by rw [widenTimes?_eq, Option.map_some]⟩

/-- Cutting a long line at any column takes no character and no column that is not there. What is shown
lies around the column, as far as the radius reaches within the line. On the left it starts earlier by the
longest run of word characters there, the first character of the line left out, and on the right it ends
later by the longest run of them there, on either side by no more than the steps of an edge. So nothing is
too wide, and an edge that leaves a word cut has made all of its steps. -/
theorem window_of_long_line (hlong : 40 < cs.length) (column : Nat) :
    ∃ (w : Window) (p q k m : Nat),
      cut? cs column = some (cs.extract w.start w.stop, column - w.start) ∧
      (p = min (column - 20) cs.length ∧ q = min (column + 20) cs.length) ∧
      (w.start + k = p ∧ IsGreatest {k | k ≤ 10 ∧ WordUpTo cs p k} k) ∧
      (w.stop = q + m ∧ IsGreatest {m | m ≤ 10 ∧ WordFrom cs q m} m) ∧
      (w.start ≤ p ∧ p ≤ q ∧ q ≤ w.stop) ∧
      (w.start ≤ column ∧ w.stop ≤ cs.length) ∧
      (cs.extract w.start w.stop).length ≤ 60 ∧
      (0 < w.start → IsWordAt cs w.start → k = 10) ∧
      (IsWordAt cs w.stop → m = 10) ∧
      ∀ steps,
        (∀ i, ∃ i', ∀ other, (Window.widenTimes? cs steps ⟨i, other⟩).map Window.start = some i') ∧
        ∀ j, ∃ j', ∀ other, (Window.widenTimes? cs steps ⟨other, j⟩).map Window.stop = some j' := by
  obtain ⟨p, hp⟩ : ∃ p, p = min (column - 20) cs.length := ⟨_, rfl⟩
  obtain ⟨q, hq⟩ : ∃ q, q = min (column + 20) cs.length := ⟨_, rfl⟩
  have hwindow : window cs column = ⟨extendLeft cs 10 p, extendRight cs 10 q⟩ := by
    rw [hp, hq]
    exact if_neg (Nat.not_le_of_lt hlong)
  have hcut : cut? cs column = some (cs.extract (extendLeft cs 10 p) (extendRight cs 10 q),
      column - extendLeft cs 10 p) := by
    rw [cut?_eq, hwindow]
    rfl
  have hleft := isGreatest_extendLeft cs 10 p
  have hright := isGreatest_extendRight cs 10 q
  have hstart : extendLeft cs 10 p ≤ p := extendLeft_le cs 10 p
  have hstop : q ≤ extendRight cs 10 q := le_extendRight cs 10 q
  have hpq : p ≤ q := by omega
  have hcolumn : extendLeft cs 10 p ≤ column := by omega
  have hend : extendRight cs 10 q ≤ cs.length := extendRight_le_length 10 (by omega)
  have hwidth : ((window cs column).text cs).length ≤ 60 := length_window_text_le cs column
  rw [hwindow] at hwidth
  refine ⟨⟨extendLeft cs 10 p, extendRight cs 10 q⟩, p, q, p - extendLeft cs 10 p,
    extendRight cs 10 q - q, hcut, ⟨hp, hq⟩, ⟨Nat.add_sub_cancel' hstart, hleft⟩,
    ⟨(Nat.add_sub_cancel' hstop).symm, hright⟩, ⟨hstart, hpq, hstop⟩, ⟨hcolumn, hend⟩, hwidth,
    fun hpos hword => ?_, fun hword => ?_, exists_widenTimes? cs⟩
  -- the character at either edge would make the run there longer
  · have hinside : p - extendLeft cs 10 p < p := by
      change 0 < extendLeft cs 10 p at hpos
      omega
    refine eq_bound_of_isGreatest_run hleft ⟨hinside, ?_⟩
    rwa [Nat.sub_sub_self hstart]
  · refine eq_bound_of_isGreatest_run hright ?_
    rwa [Nat.add_sub_cancel' hstop]

/-- A short word and a very long one. -/
def twoWords : List Char := List.replicate 8 'a' ++ ' ' :: List.replicate 60 'b'

/-- The left edge starts at index 10 and could make ten steps, but after two it stands at the blank between
the words. -/
theorem window_of_long_line_twoWords :
    40 < twoWords.length ∧ ∃ (w : Window) (k : Nat),
      cut? twoWords 30 = some (twoWords.extract w.start w.stop, 30 - w.start) ∧
      (twoWords.extract w.start w.stop).length ≤ 60 ∧
      w.start + k = 10 ∧ IsGreatest {k | k ≤ 10 ∧ WordUpTo twoWords 10 k} k ∧ k = 2 := by
  have hlong : 40 < twoWords.length := by decide
  have hcut : (cut? twoWords 30).map Prod.snd = some 22 := by decide
  obtain ⟨w, p, q, k, m, hshown, ⟨hp, -⟩, ⟨hstart, hk⟩, -, -, ⟨hcolumn, -⟩, hwidth, -⟩ :=
    window_of_long_line hlong 30
  rw [hshown] at hcut
  have hcaret : 30 - w.start = 22 := Option.some.inj hcut
  have hten : p = 10 := hp.trans (by decide)
  subst hten
  exact ⟨hlong, w, k, hshown, hwidth, hstart, hk, by omega⟩

end Excerpt
end PatternExpr
