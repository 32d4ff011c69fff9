import PatternExpr.Fault.Basic

/-! The frames of the nodes being evaluated, under an optional bound on their number. -/
namespace PatternExpr

structure Frame where
  name : String
  location : Location
deriving DecidableEq

/-- The frames stand innermost first. -/
structure FrameStack where
  frames : List Frame
  maxDepth : Option Nat
deriving DecidableEq

namespace FrameStack

def empty (maxDepth : Option Nat) : FrameStack := ⟨[], maxDepth⟩

def depth (s : FrameStack) : Nat := s.frames.length

/-- All locations, innermost first. -/
def trace (s : FrameStack) : List Location := s.frames.map Frame.location

/-- Refused when the stack is as deep as it may be; the fault then lists where that happened. -/
def push (s : FrameStack) (f : Frame) : Except Fault FrameStack :=
  match s.maxDepth with
  | none => .ok { s with frames := f :: s.frames }
  | some limit =>
    if limit ≤ s.depth then
      .error ((Fault.recursionLimitExceeded limit).withTrace (Location.shown s.trace))
    else .ok { s with frames := f :: s.frames }

def pop (s : FrameStack) : FrameStack := { s with frames := s.frames.tail }

theorem eq_of_push {s t : FrameStack} {f : Frame} (h : s.push f = .ok t) :
    t = { s with frames := f :: s.frames } := by
  unfold push at h
  split at h
  · cases h; rfl
  · split at h
    · cases h
    · cases h; rfl

theorem pop_of_push {s t : FrameStack} {f : Frame} (h : s.push f = .ok t) : t.pop = s := by
  rw [eq_of_push h]
  rfl

theorem trace_of_push {s t : FrameStack} {f : Frame} (h : s.push f = .ok t) :
    t.trace = f.location :: s.trace := by
  rw [eq_of_push h]
  rfl

theorem maxDepth_of_push {s t : FrameStack} {frame : Frame} (h : s.push frame = .ok t) :
    t.maxDepth = s.maxDepth := by
  rw [eq_of_push h]

theorem depth_of_push {s t : FrameStack} {f : Frame} (h : s.push f = .ok t) :
    t.depth = s.depth + 1 := by
  rw [eq_of_push h]
  rfl

theorem exists_push {s : FrameStack} (hs : s.maxDepth = none) (f : Frame) :
    ∃ t, s.push f = .ok t ∧ t.maxDepth = none := by
  refine ⟨{ s with frames := f :: s.frames }, ?_, hs⟩
  simp [push, hs]

theorem push_ne_error {s : FrameStack} (hs : s.maxDepth = none) (frame : Frame) (f : Fault) :
    s.push frame ≠ .error f := by
  simp [push, hs]

theorem eq_of_push_error {s : FrameStack} {frame : Frame} {f : Fault}
    (h : s.push frame = .error f) :
    ∃ limit, s.maxDepth = some limit ∧
      f = (Fault.recursionLimitExceeded limit).withTrace (Location.shown s.trace) := by
  unfold push at h
  split at h
  · cases h
  · next limit hl =>
    split at h
    · cases h
      exact ⟨limit, hl, rfl⟩
    · cases h

/-- There are no more frames than there may be. -/
def Fits (s : FrameStack) : Prop := ∀ limit, s.maxDepth = some limit → s.depth ≤ limit

theorem fits_empty (maxDepth : Option Nat) : (empty maxDepth).Fits :=
  fun limit _ => Nat.zero_le limit

theorem fits_of_push {s t : FrameStack} {f : Frame} (h : s.push f = .ok t) : t.Fits := by
  intro limit hl
  have hd : t.depth = s.depth + 1 := depth_of_push h
  rw [maxDepth_of_push h] at hl
  have hroom : ¬ limit ≤ s.depth := by
    intro hfull
    simp [push, hl, hfull] at h
  omega

end FrameStack
end PatternExpr
