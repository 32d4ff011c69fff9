import PatternExpr.Text.Blank
import PatternExpr.Source.Location

/-! The excerpt under a diagnostic: the line it points at, a row of carets and a row of spaces. A
long line is cut down to a window around the column, whose edges move outward to a blank if one is
near, so that words stay whole. -/
namespace PatternExpr

/-- The pieces of a text between line feeds; there is always one more piece than line feeds. -/
def splitLines : List Char → List (List Char)
  | [] => [[]]
  | c :: cs => if c = '\n' then [] :: splitLines cs else (splitLines cs).modifyHead (c :: ·)

theorem splitLines_ne_nil (cs : List Char) : splitLines cs ≠ [] := by
  induction cs with
  | nil => simp [splitLines]
  | cons c cs ih => by_cases h : c = '\n' <;> simp [splitLines, h, ih]

theorem length_splitLines (cs : List Char) : (splitLines cs).length = cs.count '\n' + 1 := by
  induction cs with
  | nil => rfl
  | cons c cs ih => by_cases h : c = '\n' <;> simp [splitLines, h, ih]

namespace Excerpt

/-- A line of at most this many characters is shown whole. -/
def maxWidth : Nat := 40

/-- How far the window reaches on either side of the column before its edges move. -/
def radius : Nat := 20

/-- How far an edge of the window moves at most. -/
def edgeSteps : Nat := 10

def inWord (cs : List Char) (i : Nat) : Bool := cs[i]?.any fun c => !isBlank c

/-- The characters `start` to `stop` of a line, `stop` excluded. -/
structure Window where
  start : Nat
  stop : Nat
deriving DecidableEq

namespace Window

def text (w : Window) (cs : List Char) : List Char := (cs.drop w.start).take (w.stop - w.start)

/-- As far as the radius reaches from a column, but not out of the line. -/
def around (cs : List Char) (column : Nat) : Window :=
  ⟨min (column - radius) cs.length, min (column + radius) cs.length⟩

/-- Each edge moves outward by one character, unless it stands at a blank or at an end of the line.
None if the line has no character where the right edge stands. -/
def widen? (cs : List Char) (w : Window) : Option Window := do
  let start := if 0 < w.start ∧ inWord cs w.start then w.start - 1 else w.start
  if w.stop < cs.length then
    let c ← cs[w.stop]?
    pure ⟨start, if isBlank c then w.stop else w.stop + 1⟩
  else
    pure ⟨start, w.stop⟩

/-- Both edges move in turn, so many times. -/
def widenTimes? (cs : List Char) : Nat → Window → Option Window
  | 0, w => some w
  | n + 1, w => do widenTimes? cs n (← w.widen? cs)

/-- The characters of a window, none if it ends before it starts or after the line ends. -/
def text? (w : Window) (cs : List Char) : Option (List Char) :=
  if w.start ≤ w.stop ∧ w.stop ≤ cs.length then some (w.text cs) else none

/-- A column counted from the start of a window, none if it lies before that. -/
def rebase? (w : Window) (column : Nat) : Option Nat :=
  if w.start ≤ column then some (column - w.start) else none

end Window

/-- What is shown of a line, and the column counted from there. None if that asks for a character the
line does not have, or for a column before the start of what is shown. -/
def cut? (cs : List Char) (column : Nat) : Option (List Char × Nat) :=
  if cs.length ≤ maxWidth then some (cs, column)
  else do
    let w ← (Window.around cs column).widenTimes? cs edgeSteps
    let shown ← w.text? cs
    let caret ← w.rebase? column
    pure (shown, caret)

/-! The edges can also be moved one by one: neither of them looks at where the other one stands. -/

def extendLeft (cs : List Char) : Nat → Nat → Nat
  | 0, i => i
  | n + 1, i => if 0 < i ∧ inWord cs i then extendLeft cs n (i - 1) else i

def extendRight (cs : List Char) : Nat → Nat → Nat
  | 0, i => i
  | n + 1, i => if inWord cs i then extendRight cs n (i + 1) else i

def window (cs : List Char) (column : Nat) : Window :=
  if cs.length ≤ maxWidth then ⟨0, cs.length⟩
  else
    { start := extendLeft cs edgeSteps (min (column - radius) cs.length)
      stop := extendRight cs edgeSteps (min (column + radius) cs.length) }

theorem extendLeft_le (cs : List Char) (n i : Nat) : extendLeft cs n i ≤ i := by
  fun_induction extendLeft cs n i with
  | case1 => exact Nat.le_refl _
  | case2 n i _ ih => omega
  | case3 => exact Nat.le_refl _

theorem le_extendRight (cs : List Char) (n i : Nat) : i ≤ extendRight cs n i := by
  fun_induction extendRight cs n i with
  | case1 => exact Nat.le_refl _
  | case2 n i _ ih => omega
  | case3 => exact Nat.le_refl _

theorem lt_length_of_inWord {cs : List Char} {i : Nat} (h : inWord cs i = true) : i < cs.length := by
  by_cases hi : i < cs.length
  · exact hi
  · have hnone : cs[i]? = none := List.getElem?_eq_none (Nat.le_of_not_lt hi)
    simp [inWord, hnone] at h

theorem extendRight_le_length {cs : List Char} (n : Nat) {i : Nat} (h : i ≤ cs.length) :
    extendRight cs n i ≤ cs.length := by
  fun_induction extendRight cs n i with
  | case1 => exact h
  | case2 n i hword ih => exact ih (lt_length_of_inWord hword)
  | case3 => exact h

theorem window_start_le_column (cs : List Char) (column : Nat) : (window cs column).start ≤ column := by
  unfold window
  split
  · exact Nat.zero_le _
  · have := extendLeft_le cs edgeSteps (min (column - radius) cs.length)
    simp only
    omega

/-- An edge that does not move at one step does not move at any later one. -/
theorem extendLeft_succ (cs : List Char) (n i : Nat) :
    extendLeft cs (n + 1) i =
      extendLeft cs n (if 0 < i ∧ inWord cs i then i - 1 else i) := by
  by_cases h : 0 < i ∧ inWord cs i
  · simp [extendLeft, h]
  · cases n with
    | zero => simp [extendLeft]
    | succ n => simp [extendLeft, h]

theorem extendRight_succ (cs : List Char) (n i : Nat) :
    extendRight cs (n + 1) i = extendRight cs n (if inWord cs i then i + 1 else i) := by
  by_cases h : inWord cs i
  · simp [extendRight, h]
  · cases n with
    | zero => simp [extendRight]
    | succ n => simp [extendRight, h]

theorem widen?_eq (cs : List Char) (i j : Nat) :
    Window.widen? cs ⟨i, j⟩ = some ⟨extendLeft cs 1 i, extendRight cs 1 j⟩ := by
  by_cases h : j < cs.length
  · cases hblank : isBlank cs[j] <;> simp [Window.widen?, extendLeft, extendRight, inWord, h, hblank]
  · simp [Window.widen?, extendLeft, extendRight, inWord, h]

/-- Moving both edges in turn is moving each of them on its own. -/
theorem widenTimes?_eq (cs : List Char) (n i j : Nat) :
    Window.widenTimes? cs n ⟨i, j⟩ = some ⟨extendLeft cs n i, extendRight cs n j⟩ := by
  induction n generalizing i j with
  | zero => rfl
  | succ n ih =>
    have hleft : extendLeft cs (n + 1) i = extendLeft cs n (extendLeft cs 1 i) := extendLeft_succ cs n i
    have hright : extendRight cs (n + 1) j = extendRight cs n (extendRight cs 1 j) :=
      extendRight_succ cs n j
    rw [hleft, hright, ← ih]
    simp [Window.widenTimes?, widen?_eq]

/-- Nothing is asked for that is not there. -/
theorem cut?_eq (cs : List Char) (column : Nat) :
    cut? cs column = some ((window cs column).text cs, column - (window cs column).start) := by
  have hcolumn : (window cs column).start ≤ column := window_start_le_column cs column
  by_cases hshort : cs.length ≤ maxWidth
  · simp [cut?, window, hshort, Window.text]
  · have hwindow : (Window.around cs column).widenTimes? cs edgeSteps = some (window cs column) := by
      rw [Window.around, widenTimes?_eq, window, if_neg hshort]
    have hinside : (window cs column).start ≤ (window cs column).stop ∧
        (window cs column).stop ≤ cs.length := by
      have hstart := extendLeft_le cs edgeSteps (min (column - radius) cs.length)
      have hstop := le_extendRight cs edgeSteps (min (column + radius) cs.length)
      have hend := extendRight_le_length edgeSteps (Nat.min_le_right (column + radius) cs.length)
      rw [window, if_neg hshort]
      simp only
      omega
    simp [cut?, hshort, hwindow, Window.text?, hinside, Window.rebase?, hcolumn]

/-- What is shown of a line, and the column counted from there; there is always an answer. -/
def cut (cs : List Char) (column : Nat) : List Char × Nat :=
  (cut? cs column).get (by rw [cut?_eq]; rfl)

theorem cut_eq (cs : List Char) (column : Nat) :
    cut cs column = ((window cs column).text cs, column - (window cs column).start) := by
  simp [cut, cut?_eq]

def row (n : Nat) (c : Char) : String := String.ofList (List.replicate n c)

/-- The three rows for one line of source; the carets start below the character one past the
column, counted from the start of what is shown. -/
def render (cs : List Char) (line column length : Nat) : String :=
  let (shown, caret) := cut cs column
  let label := s!"{line} | "
  let margin := row (label.length + caret) ' '
  label ++ String.ofList shown ++ "\n" ++
    margin ++ row length '^' ++ "\n" ++
    margin ++ row length ' '

end Excerpt

/-- The line a location names, without carriage returns. -/
def Location.lineText? (l : Location) : Option (List Char) := do
  let s ← l.source
  if l.line = 0 then none
  else
    let cs ← (splitLines s.content.toList)[l.line - 1]?
    some (cs.filter (· ≠ '\r'))

/-- The excerpt of a location, empty if its source or its line is missing. -/
def Location.excerpt (l : Location) : String :=
  match l.lineText? with
  | none => ""
  | some cs => Excerpt.render cs l.line l.column l.length

end PatternExpr
