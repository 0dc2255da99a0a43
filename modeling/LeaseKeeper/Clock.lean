/-
# Runs on the clock

A system on the clock moves as long as it can at the present moment, and what it does takes no
time.  When it cannot move, the clock goes on to the next moment at which it wants to be woken.
-/
import LeaseKeeper.Time.Duration

namespace LeaseKeeper

/-- A system that runs on the clock. -/
structure Clocked (α : Type) where
  /-- One move at this moment, if there is one. -/
  move? : Instant → α → Option α
  /-- The moment at which the system wants to be woken, if there is one. -/
  wake? : α → Option Instant

/-- A state of a system and the moment. -/
structure Timed (α : Type) where
  /-- The moment. -/
  now : Instant
  /-- The state of the system. -/
  state : α

namespace Clocked

variable {α : Type}

/-- The next step up to a deadline: a move, or else the way of the clock to the next wake-up. -/
def step? (c : Clocked α) (deadline : Instant) (s : Timed α) : Option (Timed α) :=
  match c.move? s.now s.state with
  | some state => some { s with state }
  | none =>
    match c.wake? s.state with
    | none => none
    | some t => if s.now < t ∧ t ≤ deadline then some { s with now := t } else none

/-- The run until something holds, up to a deadline and in at most `fuel` steps. -/
def runUntil (c : Clocked α) (holds : Timed α → Bool) (deadline : Instant) :
    Nat → Timed α → Timed α
  | 0, s => s
  | fuel + 1, s =>
    if holds s then s
    else
      match c.step? deadline s with
      | some s => c.runUntil holds deadline fuel s
      | none => { s with now := max s.now deadline }

/-- The run up to a deadline, in at most `fuel` steps. -/
def runTo (c : Clocked α) (deadline : Instant) (fuel : Nat) (s : Timed α) : Timed α :=
  c.runUntil (fun _ => false) deadline fuel s

/-- The run until something can be taken from the state, up to a deadline and in at most `fuel`
steps.  When the deadline has come, nothing moves any more. -/
def takeBy {β : Type} (c : Clocked α) (take? : α → Option (β × α)) (deadline : Instant) :
    Nat → Timed α → Option β × Timed α
  | 0, s => (none, s)
  | fuel + 1, s =>
    match take? s.state with
    | some (b, state) => (some b, { s with state })
    | none =>
      if deadline ≤ s.now then (none, s)
      else
        match c.step? deadline s with
        | some s => c.takeBy take? deadline fuel s
        | none => (none, { s with now := max s.now deadline })

/-- One step of a system whose clock is not bounded. -/
inductive Step (c : Clocked α) : Timed α → Timed α → Prop
  | move {now : Instant} {a b : α} (h : c.move? now a = some b) : Step c ⟨now, a⟩ ⟨now, b⟩
  /-- The system cannot move, and the clock goes on, at most to the next wake-up. -/
  | wait {now later : Instant} {a : α} (h : c.move? now a = none) (hle : now ≤ later)
      (hwake : ∀ t, c.wake? a = some t → now < t → later ≤ t) : Step c ⟨now, a⟩ ⟨later, a⟩

theorem Step.of_step? {c : Clocked α} {deadline : Instant} {s t : Timed α}
    (h : c.step? deadline s = some t) : c.Step s t := by
  obtain ⟨now, a⟩ := s
  simp only [step?] at h
  split at h
  · rename_i b hb
    cases h
    exact .move hb
  · rename_i hn
    split at h
    · cases h
    · rename_i w hw
      split at h
      · rename_i hlt
        cases h
        refine .wait hn (Nat.le_of_lt hlt.1) fun t ht _ => ?_
        rw [hw] at ht
        cases ht
        exact Nat.le_refl _
      · cases h

/-- When there is no step up to a deadline, the clock can go on to it. -/
theorem Step.of_step?_eq_none {c : Clocked α} {deadline : Instant} {s : Timed α}
    (h : c.step? deadline s = none) : c.Step s { s with now := max s.now deadline } := by
  obtain ⟨now, a⟩ := s
  simp only [step?] at h
  split at h
  · cases h
  · rename_i hn
    refine .wait hn (Nat.le_max_left _ _) fun t ht hlt => ?_
    simp only [ht] at h
    split at h
    · cases h
    · rename_i hnot
      have hlate : deadline ≤ t := Nat.le_of_not_le fun hle => hnot ⟨hlt, hle⟩
      exact Nat.max_le.mpr ⟨Nat.le_of_lt hlt, hlate⟩

end Clocked
end LeaseKeeper
