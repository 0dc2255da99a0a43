/-
# A story on the clock

A story tells in which order a task and its owner act, but not when.  On the clock the task does not
linger: time passes only while the task has to wait, and at most up to the moment at which it wants
to be woken.  The owner still acts at any moment.
-/
import LeaseKeeper.Proofs.Watch.Stream

namespace LeaseKeeper
namespace Watch

open Relation

/-- A story and the moment. -/
abbrev Timeline (σ : Type) := Timed (Story σ)

namespace Timeline

variable {σ : Type} {r : Renewer σ}

/-- The watch at that moment. -/
def watch (t : Timeline σ) : Watch := t.state.run.watch

/-- A new watch over a lease. -/
def start (begun : Instant) (lease : Lease) (config : Config) (others : σ) : Timeline σ :=
  ⟨begun, .start lease config others⟩

/-- What happens next. -/
inductive Step (r : Renewer σ) : Timeline σ → Timeline σ → Prop
  /-- The task runs. -/
  | work {now : Instant} {s : Story σ} {run : Run σ} (h : s.run.poll? r now = some run) :
      Step r ⟨now, s⟩ ⟨now, s.work r now run⟩
  /-- The task has to wait, and the clock goes on, at most to the next wake-up. -/
  | wait {now later : Instant} {s : Story σ} (h : s.run.poll? r now = none) (hle : now ≤ later)
      (hwake : ∀ t, s.run.watch.task.wake? = some t → now < t → later ≤ t) :
      Step r ⟨now, s⟩ ⟨later, s⟩
  /-- The owner asks for the next event. -/
  | next (now : Instant) (s : Story σ) : Step r ⟨now, s⟩ ⟨now, s.next⟩
  /-- The owner asks the task to stop. -/
  | stop (now : Instant) (s : Story σ) : Step r ⟨now, s⟩ ⟨now, s.stop⟩

/-- One moment of a timeline comes after another. -/
def Later (r : Renewer σ) : Timeline σ → Timeline σ → Prop := ReflTransGen (Step r)

/-- What is true at the start and is kept by each step is true all along. -/
lemma Later.induction {P : Timeline σ → Prop} {t t' : Timeline σ} (h : Later r t t') (hstart : P t)
    (hstep : ∀ u u', P u → Step r u u' → P u') : P t' := by
  induction h with
  | refl => exact hstart
  | tail _ hlast ih => exact hstep _ _ ih hlast

/-- Without its moments, a timeline is a story. -/
lemma Later.story {t t' : Timeline σ} (h : Later r t t') : Story.Later r t.state t'.state := by
  induction h with
  | refl => exact .refl
  | tail _ hlast ih =>
    cases hlast with
    | work h => exact ih.tail (.work _ h)
    | wait => exact ih
    | next now s => exact ih.tail (.next s)
    | stop now s => exact ih.tail (.stop s)

end Timeline
end Watch
end LeaseKeeper
