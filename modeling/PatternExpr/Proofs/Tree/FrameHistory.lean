import Mathlib.Data.List.Infix
import PatternExpr.Tree.FrameStack

/-! What a frame stack holds after a history of pushes and pops. A frame that was let in stands on the stack
until a pop takes it, and a pop takes the latest one that stands. So it is gone as soon as more frames were
popped after it than were let in, which can be found out by counting and without a stack. -/
namespace PatternExpr.FrameStack

inductive Request
  | push (frame : Frame)
  | pop

inductive Reply
  | accepted (frame : Frame)
  | refused (frame : Frame) (f : Fault)
  | popped

def Reply.isAccepted : Reply → Bool
  | .accepted _ => true
  | _ => false

def Reply.isPopped : Reply → Bool
  | .popped => true
  | _ => false

/-- The reply to a request and the stack it leaves. A refused frame leaves the stack as it was. -/
def serve (s : FrameStack) : Request → Reply × FrameStack
  | .push frame =>
    match s.push frame with
    | .error f => (.refused frame f, s)
    | .ok t => (.accepted frame, t)
  | .pop => (.popped, s.pop)

def after (s : FrameStack) (requests : List Request) : FrameStack :=
  requests.foldl (fun s request => (s.serve request).2) s

def replies (s : FrameStack) : List Request → List Reply
  | [] => []
  | request :: rest => (s.serve request).1 :: (s.serve request).2.replies rest

/-- A frame that was there before this history outlasts it: at no moment of it were more frames popped than
let in. -/
def Outlasts (history : List Reply) : Prop :=
  ∀ part, part <+: history → part.countP Reply.isPopped ≤ part.countP Reply.isAccepted

instance (history : List Reply) : Decidable (Outlasts history) :=
  decidable_of_iff
    (∀ part ∈ history.inits, part.countP Reply.isPopped ≤ part.countP Reply.isAccepted)
    (by simp only [List.mem_inits, Outlasts])

/-- The frames that were let in and not popped since, in the order they were pushed. -/
def standing : List Reply → List Frame
  | [] => []
  | .accepted frame :: later => if Outlasts later then frame :: standing later else standing later
  | _ :: later => standing later

/-- How many frames a history takes from what was there before it. Of the frames that are taken later one is
the frame that is let in here, if any are taken. -/
def taken : List Reply → Nat
  | [] => 0
  | .accepted _ :: later => taken later - 1
  | .refused _ _ :: later => taken later
  | .popped :: later => taken later + 1

theorem forall_prefix_cons {α : Type} {P : List α → Prop} (a : α) (as : List α) :
    (∀ part, part <+: a :: as → P part) ↔ P [] ∧ ∀ part, part <+: as → P (a :: part) := by
  constructor
  · intro h
    exact ⟨h [] List.nil_prefix, fun part hpart => h (a :: part) (List.cons_prefix_cons.2 ⟨rfl, hpart⟩)⟩
  · intro h part hpart
    rcases List.prefix_cons_iff.1 hpart with rfl | ⟨rest, rfl, hrest⟩
    · exact h.1
    · exact h.2 rest hrest

/-- As many are taken as the popped frames outnumber the ones let in at the moment where they do most. -/
theorem taken_le_iff (history : List Reply) (n : Nat) :
    taken history ≤ n ↔ ∀ part, part <+: history →
      part.countP Reply.isPopped ≤ part.countP Reply.isAccepted + n := by
  induction history generalizing n with
  | nil => simp [taken]
  | cons reply later ih =>
    rw [forall_prefix_cons]
    cases reply with
    | accepted frame =>
      have hstep : taken later - 1 ≤ n ↔ taken later ≤ n + 1 := by omega
      simp only [taken, hstep, ih, List.countP_cons, List.countP_nil, Reply.isPopped, Reply.isAccepted]
      simp [Nat.add_right_comm, Nat.add_assoc]
    | refused frame f => simp [taken, ih, Reply.isPopped, Reply.isAccepted]
    | popped =>
      cases n with
      | zero =>
        constructor
        · intro h
          simp [taken] at h
        · intro h
          -- right after this pop there is one more popped than let in
          have hfirst := h.2 [] List.nil_prefix
          simp [Reply.isPopped, Reply.isAccepted] at hfirst
      | succ n => simp [taken, ih, List.countP_cons, Reply.isPopped, Reply.isAccepted, ← Nat.add_assoc]

theorem outlasts_iff {history : List Reply} : Outlasts history ↔ taken history = 0 := by
  rw [← Nat.le_zero, taken_le_iff]
  rfl

@[simp] theorem standing_accepted (frame : Frame) : standing [.accepted frame] = [frame] := by
  simp [standing, outlasts_iff, taken]

@[simp] theorem standing_refused (frame : Frame) (f : Fault) : standing [.refused frame f] = [] := rfl

section

variable (history : List Reply) {reply : Reply}

theorem taken_concat_of_ne_popped (h : reply ≠ .popped) : taken (history ++ [reply]) = taken history := by
  induction history with
  | nil =>
    cases reply with
    | accepted frame => rfl
    | refused frame f => rfl
    | popped => exact absurd rfl h
  | cons first later ih => cases first <;> simp [taken, ih]

theorem standing_concat_of_ne_popped (h : reply ≠ .popped) :
    standing (history ++ [reply]) = standing history ++ standing [reply] := by
  induction history with
  | nil => rfl
  | cons first later ih =>
    cases first with
    | accepted frame =>
      have htaken : taken (later ++ [reply]) = taken later := taken_concat_of_ne_popped later h
      by_cases hnone : taken later = 0 <;> simp [standing, outlasts_iff, htaken, hnone, ih]
    | refused frame f => exact ih
    | popped => exact ih

theorem taken_concat_popped :
    taken (history ++ [.popped]) = taken history + if standing history = [] then 1 else 0 := by
  induction history with
  | nil => rfl
  | cons first later ih =>
    cases first with
    | accepted frame =>
      -- a frame that still stands is there for the pop if no later one is
      by_cases h : taken later = 0
      · simp only [List.cons_append, taken, ih, standing, outlasts_iff, h, if_true]
        split <;> simp
      · simp only [List.cons_append, taken, ih, standing, outlasts_iff, h, if_false]
        omega
    | refused frame f => exact ih
    | popped =>
      change taken (later ++ [.popped]) + 1 =
        taken later + 1 + if standing later = [] then 1 else 0
      omega

theorem standing_concat_popped : standing (history ++ [.popped]) = (standing history).dropLast := by
  induction history with
  | nil => rfl
  | cons first later ih =>
    cases first with
    | accepted frame =>
      by_cases h : taken later = 0
      · by_cases hnone : standing later = []
        · simp [standing, outlasts_iff, taken_concat_popped, h, hnone, ih]
        · simp [standing, outlasts_iff, taken_concat_popped, h, hnone, ih,
            List.dropLast_cons_of_ne_nil hnone]
      · simp [standing, outlasts_iff, taken_concat_popped, h, ih]
    | refused frame f => exact ih
    | popped => exact ih

end

variable {s : FrameStack}

theorem after_concat (s : FrameStack) (requests : List Request) (request : Request) :
    s.after (requests ++ [request]) = ((s.after requests).serve request).2 := by
  simp [after]

theorem replies_concat (s : FrameStack) (requests : List Request) (request : Request) :
    s.replies (requests ++ [request]) =
      s.replies requests ++ [((s.after requests).serve request).1] := by
  induction requests generalizing s with
  | nil => rfl
  | cons first rest ih =>
    have hafter : s.after (first :: rest) = (s.serve first).2.after rest := rfl
    simp [replies, ih, hafter]

/-- The fault of a frame that there is no room for, told at these places. -/
def refusal (limit : Nat) (places : List Location) : Fault :=
  { cause := .recursionLimitExceeded limit
    message := "Expression nesting exceeded the limit of " ++ toString limit ++ "."
    description := none
    hint := none
    location := none
    trace := places.filter fun l => !l.isSynthetic }

theorem serve_of_push_ok {t : FrameStack} {frame : Frame} (h : s.push frame = .ok t) :
    s.serve (.push frame) = (.accepted frame, t) := by
  simp only [serve, h]

theorem serve_of_push_error {frame : Frame} {f : Fault} (h : s.push frame = .error f) :
    s.serve (.push frame) = (.refused frame f, s) := by
  simp only [serve, h]

theorem serve_push (hs : s.Fits) (frame : Frame) :
    (s.maxDepth = some s.depth ∧
      s.serve (.push frame) = (.refused frame (refusal s.depth s.trace), s)) ∨
    (s.maxDepth ≠ some s.depth ∧
      s.serve (.push frame) = (.accepted frame, { s with frames := frame :: s.frames })) := by
  cases hlimit : s.maxDepth with
  | none =>
    right
    simp [serve, push, hlimit]
  | some limit =>
    have hle : s.depth ≤ limit := hs limit hlimit
    by_cases hfull : limit = s.depth
    · left
      subst hfull
      simp only [serve, push, hlimit, Nat.le_refl, if_true, true_and]
      rfl
    · right
      have hroom : ¬ limit ≤ s.depth := by omega
      simp [serve, push, hlimit, hfull, hroom]

theorem maxDepth_serve (s : FrameStack) (request : Request) :
    (s.serve request).2.maxDepth = s.maxDepth := by
  cases request with
  | pop => rfl
  | push frame =>
    cases hpush : s.push frame with
    | error f => rw [serve_of_push_error hpush]
    | ok t =>
      rw [serve_of_push_ok hpush]
      exact maxDepth_of_push hpush

theorem fits_serve (hs : s.Fits) (request : Request) : (s.serve request).2.Fits := by
  cases request with
  | pop =>
    intro limit hlimit
    have hle : s.depth ≤ limit := hs limit hlimit
    have hpop : s.pop.depth = s.depth - 1 := List.length_tail
    change s.pop.depth ≤ limit
    omega
  | push frame =>
    cases hpush : s.push frame with
    | error f =>
      rw [serve_of_push_error hpush]
      exact hs
    | ok t =>
      rw [serve_of_push_ok hpush]
      exact fits_of_push hpush

theorem maxDepth_after (s : FrameStack) (requests : List Request) :
    (s.after requests).maxDepth = s.maxDepth := by
  induction requests using List.reverseRecOn with
  | nil => rfl
  | append_singleton requests request ih => rw [after_concat, maxDepth_serve, ih]

theorem fits_after (hs : s.Fits) (requests : List Request) : (s.after requests).Fits := by
  induction requests using List.reverseRecOn with
  | nil => exact hs
  | append_singleton requests request ih =>
    rw [after_concat]
    exact fits_serve ih request

/-- A stack that was empty at first holds the frames that stand, the latest first. -/
theorem frames_after_empty (maxDepth : Option Nat) (requests : List Request) :
    ((empty maxDepth).after requests).frames =
      (standing ((empty maxDepth).replies requests)).reverse := by
  induction requests using List.reverseRecOn with
  | nil => rfl
  | append_singleton requests request ih =>
    rw [after_concat, replies_concat]
    cases request with
    | pop =>
      change ((empty maxDepth).after requests).frames.tail =
        (standing ((empty maxDepth).replies requests ++ [.popped])).reverse
      rw [standing_concat_popped, ih, List.tail_reverse]
    | push frame =>
      have hfits := fits_after (fits_empty maxDepth) requests
      rcases serve_push hfits frame with ⟨-, hrefused⟩ | ⟨-, haccepted⟩
      · rw [hrefused]
        simp [standing_concat_of_ne_popped, ih]
      · rw [haccepted]
        simp [standing_concat_of_ne_popped, ih]

/-- Whatever is pushed and popped, even where nothing is left to pop, a stack that was empty at first holds
the frames that were let in and not popped since, in the order they were pushed, and its trace lists the
locations of all of them from the innermost on. It never gets deeper than it may. A push is refused exactly
when the stack is as deep as that. Then the stack stays as it is, and the fault tells the limit, no location
of its own, and from the innermost on the locations of the standing frames that can be shown. -/
theorem standing_of_requests (maxDepth : Option Nat) (requests : List Request) :
    let s := (empty maxDepth).after requests
    let frames := standing ((empty maxDepth).replies requests)
    s.frames = frames.reverse ∧
    s.trace = (frames.map Frame.location).reverse ∧
    (∀ limit, maxDepth = some limit → s.depth ≤ limit) ∧
    ∀ frame,
      ((∃ f, (s.serve (.push frame)).1 = .refused frame f) ↔ maxDepth = some s.depth) ∧
      ∀ f, (s.serve (.push frame)).1 = .refused frame f →
        (s.serve (.push frame)).2 = s ∧
        ∃ limit, maxDepth = some limit ∧ f = refusal limit (frames.map Frame.location).reverse := by
  intro s frames
  have hframes : s.frames = frames.reverse := frames_after_empty maxDepth requests
  have htrace : s.trace = (frames.map Frame.location).reverse := by
    rw [trace, hframes, List.map_reverse]
  have hmax : s.maxDepth = maxDepth := maxDepth_after (empty maxDepth) requests
  have hfits : s.Fits := fits_after (fits_empty maxDepth) requests
  refine ⟨hframes, htrace, fun limit hlimit => hfits limit (hmax.trans hlimit), fun frame => ?_⟩
  rw [← hmax, ← htrace]
  rcases serve_push hfits frame with ⟨hfull, hserve⟩ | ⟨hroom, hserve⟩
  · rw [hserve]
    constructor
    · exact ⟨fun _ => hfull, fun _ => ⟨_, rfl⟩⟩
    · intro f hf
      cases hf
      exact ⟨rfl, s.depth, hfull, rfl⟩
  · rw [hserve]
    have haccepted (f : Fault) : Reply.accepted frame ≠ .refused frame f := nofun
    refine ⟨⟨?_, fun hfull => absurd hfull hroom⟩, fun f hf => absurd hf (haccepted f)⟩
    rintro ⟨f, hf⟩
    exact absurd hf (haccepted f)

def outerFrame : Frame := ⟨"mathematical expression", ⟨none, 1, 1, 9⟩⟩

def innerFrame : Frame := ⟨"mathematical expression", ⟨none, 1, 2, 5⟩⟩

def generatedFrame : Frame := ⟨"void", .synthetic⟩

/-- The third frame does not fit on a stack of two, and the fourth does after a pop. -/
def fullTwice : List Request :=
  [.push outerFrame, .push innerFrame, .push innerFrame, .pop, .push generatedFrame]

/-- The stack is full again, and the next refusal leaves the generated frame out of its trace. -/
theorem standing_of_requests_fullTwice :
    let s := (empty (some 2)).after fullTwice
    s.frames = [generatedFrame, outerFrame] ∧ s.trace = [.synthetic, outerFrame.location] ∧
      ∃ f, (s.serve (.push innerFrame)).1 = .refused innerFrame f ∧
        (s.serve (.push innerFrame)).2 = s ∧ f = refusal 2 [.synthetic, outerFrame.location] ∧
        f.trace = [outerFrame.location] := by
  intro s
  have hstanding : standing ((empty (some 2)).replies fullTwice) = [outerFrame, generatedFrame] := by
    decide
  obtain ⟨hframes, htrace, -, hpush⟩ := standing_of_requests (some 2) fullTwice
  obtain ⟨hiff, hrefused⟩ := hpush innerFrame
  rw [hstanding] at hframes htrace hrefused
  have hdepth : s.depth = 2 := congrArg List.length hframes
  obtain ⟨f, hf⟩ := hiff.2 (congrArg some hdepth.symm)
  obtain ⟨hstays, limit, hlimit, hfault⟩ := hrefused f hf
  cases hlimit
  exact ⟨hframes, htrace, f, hf, hstays, hfault, by rw [hfault]; decide⟩

end PatternExpr.FrameStack
