/-
# How a failing renewal is tried again

After a failed renewal the task rests for two thirds of what is left of its last good lease and for
a third of the window, but no longer than `longestRetry`, and its timer fires at a whole millisecond.
So with each retry `longestRetry` or two thirds of what is left are gone, and a millisecond at least.
This file bounds the number of retries by what is left, and says what one run of the task does as
long as renewals fail.
-/
import LeaseKeeper.Proofs.Watch.Calls

namespace LeaseKeeper

namespace Instant

/-- The last whole millisecond that is not after `t`. -/
def roundDown (t : ℕ) : ℕ := t / milli * milli

lemma roundDown_le (t : ℕ) : roundDown t ≤ t := Nat.div_mul_le_self t milli

lemma lt_roundDown_add (t : ℕ) : t < roundDown t + milli := by
  unfold roundDown milli
  omega

lemma roundDown_mono {t u : ℕ} (h : t ≤ u) : roundDown t ≤ roundDown u :=
  Nat.mul_le_mul_right _ (Nat.div_le_div_right h)

@[simp] lemma roundDown_roundUp (t : ℕ) : roundDown (roundUp t) = roundUp t := by
  unfold roundDown roundUp
  rw [Nat.mul_div_cancel _ (by decide)]

/-- A timer that is set for later fires at a later whole millisecond. -/
lemma roundDown_add_le_roundUp {t u : ℕ} (h : t < u) : roundDown t + milli ≤ roundUp u := by
  unfold roundDown roundUp milli
  omega

end Instant

namespace Lease

/-- The moment at which a lease runs out. -/
def expiry (l : Lease) : ℕ := l.obtained + l.ttl.nanos

lemma nanos_remaining_eq {l : Lease} {now : Instant} (h : l.obtained ≤ now) :
    (l.remaining now).nanos = l.expiry - now := by
  rw [nanos_remaining, Nat.sub_sub_right _ h, expiry, Nat.add_comm]

end Lease

namespace Watch

open Instant

/-! ### How many retries are left -/

lemma nanos_longestRetry : longestRetry.nanos = 30000000000 := rfl

/-- With less than this to go, from a whole millisecond on, a renewal that fails is tried again `n`
times at most: each retry takes a millisecond at least, and two thirds of what is left unless that
is more than `longestRetry`. -/
def reach : ℕ → ℕ
  | 0 => 1
  | n + 1 => max (reach n + milli) (min (3 * reach n - 1) (reach n + longestRetry.nanos))

/-- At a moment, the end of a lease is within reach of `n` retries. -/
def InReach (l : Lease) (n : ℕ) (t : Instant) : Prop := l.expiry < roundDown t + reach n

lemma InReach.of_le {l : Lease} {n : ℕ} {t u : Instant} (h : InReach l n t) (hle : t ≤ u) :
    InReach l n u :=
  Nat.lt_of_lt_of_le h (Nat.add_le_add_right (roundDown_mono hle) _)

/-- A retry takes so much of the time that is left that one retry less is to come. -/
lemma InReach.exists_of_retry {l : Lease} {now : Instant} {grace rest : Duration} {n : ℕ}
    (h : InReach l n now) (hpast : l.obtained ≤ now)
    (hn : nextRenewal? (l.remaining now) grace = some rest)
    (hf : grace.nanos < (l.remaining now).nanos - (rest.shorter longestRetry).nanos) :
    ∃ m, n = m + 1 ∧ InReach l m (roundUp (now + (rest.shorter longestRetry).nanos)) := by
  unfold InReach at h ⊢
  rw [roundDown_roundUp]
  obtain ⟨most, hscale, hrest⟩ := nextRenewal?_eq_some hn
  have hthirds := (near_twoThirds hscale).2
  have hdown := roundDown_le now
  rw [Lease.nanos_remaining_eq hpast] at hf hthirds
  rw [Duration.nanos_shorter, nanos_longestRetry] at hf ⊢
  cases n with
  | zero =>
    -- The lease has run out.
    simp only [reach] at h
    omega
  | succ m =>
    refine ⟨m, rfl, ?_⟩
    -- Something is left, and two thirds of even one nanosecond round to one.
    have hpos : 0 < min rest.nanos 30000000000 := by omega
    have hup := le_roundUp (now + min rest.nanos 30000000000)
    have hmilli := roundDown_add_le_roundUp (Nat.lt_add_of_pos_right (n := now) hpos)
    simp only [reach, nanos_longestRetry] at h
    omega

/-- Once it is long enough, the reach grows by half a minute with each retry. -/
lemma add_le_reach_succ {n : ℕ} (h : longestRetry.nanos ≤ reach n) :
    reach n + longestRetry.nanos ≤ reach (n + 1) := by
  simp only [reach, nanos_longestRetry] at h ⊢
  omega

/-- Half a minute is within reach of fifteen retries, and each further retry reaches half a minute
further. -/
lemma mul_add_le_reach (n : ℕ) : (n + 1) * longestRetry.nanos + milli ≤ reach (n + 15) := by
  induction n with
  | zero => decide +kernel
  | succ n ih =>
    have hlong : longestRetry.nanos ≤ reach (n + 15) := by
      refine le_trans ?_ ih
      rw [Nat.succ_mul]
      omega
    calc (n + 1 + 1) * longestRetry.nanos + milli
        = (n + 1) * longestRetry.nanos + milli + longestRetry.nanos := by ring
      _ ≤ reach (n + 15) + longestRetry.nanos := Nat.add_le_add_right ih _
      _ ≤ reach (n + 15 + 1) := add_le_reach_succ hlong

/-- What is left of a lease is within reach of one retry for each half minute, and fifteen more. -/
lemma inReach_remaining {l : Lease} {now : Instant} (hpast : l.obtained ≤ now) :
    InReach l ((l.remaining now).nanos / longestRetry.nanos + 15) now := by
  have hdown := lt_roundDown_add now
  have hleft : (l.remaining now).nanos <
      ((l.remaining now).nanos / longestRetry.nanos + 1) * longestRetry.nanos := by
    rw [Nat.mul_comm]
    exact Nat.lt_mul_div_succ _ (by decide)
  have hreach := mul_add_le_reach ((l.remaining now).nanos / longestRetry.nanos)
  have hexpiry := Lease.nanos_remaining_eq hpast
  unfold InReach
  omega

/-! ### Renewals that fail -/

/-- The renewal has failed, but the lease could be renewed. -/
def Fails (answer : Answer Renewal) : Prop :=
  ∃ error, answer.value = .failed error ∧ error ≠ .notRenewable

/-- From a state with `P` on, all renewals fail. -/
structure Barren {σ : Type} (r : Renewer σ) (P : σ → Prop) : Prop where
  renew : ∀ s now token increment, P s →
    P (r.renew s now token increment).2 ∧ ∃ answer,
      (r.renew s now token increment).1.answer = some answer ∧ now ≤ answer.ready ∧ Fails answer
  draw : ∀ s, P s → P (r.draw s).2

/-- The task gives up after a failure, or rests and tries again. -/
lemma Reaction.of_failed {now : Instant} {draw : ℕ} {w w' : Watch} {answer : Answer Renewal}
    (h : Reaction now draw w answer w') {error : VaultError} (hv : answer.value = .failed error)
    (hne : error ≠ .notRenewable) :
    (w' = w.finish (.error (.renewalFailed error)) ∧
        (w.lastGood.remaining now).nanos ≤ w.grace.nanos + longestRetry.nanos) ∨
      ∃ rest, nextRenewal? (w.lastGood.remaining now) w.grace = some rest ∧
        w.grace.nanos < (w.lastGood.remaining now).nanos - (rest.shorter longestRetry).nanos ∧
        w' = { w with
          task := .resting (roundUp (now + (rest.shorter longestRetry).nanos)) } := by
  cases h with
  | giveUp hv' hf =>
    rw [hv] at hv'
    cases hv'
    obtain ⟨rest, -, hleft⟩ := hf.resolve_left hne
    have hshort : (rest.shorter longestRetry).nanos ≤ longestRetry.nanos := by
      rw [Duration.nanos_shorter]
      exact Nat.min_le_right _ _
    exact Or.inl ⟨rfl, by omega⟩
  | retry hv' _ hn hf => exact Or.inr ⟨_, hn, hf, rfl⟩
  | crash hv' | spent hv' | final hv' | rest hv' =>
    rw [hv] at hv'
    cases hv'

variable {σ : Type} {r : Renewer σ} {P : σ → Prop} {good : Lease} {now : Instant}

namespace Run

/-- The moment at which the task goes on. -/
def due (now : Instant) (s : Run σ) : Instant := s.watch.task.wake?.getD now

lemma due_of_resting {s : Run σ} {t : Instant} (ht : s.watch.task = .resting t) :
    s.due now = t := by
  simp [due, ht, Task.wake?]

lemma due_of_renewing {s : Run σ} {answer : Answer Renewal}
    (ht : s.watch.task = .renewing (some answer)) : s.due now = answer.ready := by
  simp [due, ht, Task.wake?]

/-- A task that goes on, was not asked to stop, and meets nothing but failures from now on. -/
structure Failing (P : σ → Prop) (good : Lease) (now : Instant) (s : Run σ) : Prop where
  others : P s.others
  unasked : s.watch.stopAsked = false
  renewable : s.watch.lease.renewable = true
  lastGood : s.watch.lastGood = good
  past : good.obtained ≤ now
  going : s.watch.task ≠ .ended
  resting : ∀ u, s.watch.task = .resting u → now ≤ u
  pending : ∀ pending, s.watch.task = .renewing pending →
    ∃ answer, pending = some answer ∧ now ≤ answer.ready ∧ Fails answer

/-- A task with no call open that may open one is not early. -/
lemma due_le {s : Run σ} (hd : s.isDue now = true)
    (ht : ∀ answer, s.watch.task ≠ .renewing answer) : s.due now ≤ now := by
  unfold due
  cases htask : s.watch.task with
  | fresh => exact Nat.le_refl now
  | resting u =>
    simp only [isDue, htask, decide_eq_true_eq] at hd
    exact hd
  | renewing answer => exact absurd htask (ht answer)
  | ended => exact Nat.le_refl now

/-- Opening a call, a task will meet another failure. -/
lemma Failing.opened (hb : Barren r P) {s : Run σ} (h : Failing P good now s)
    (hd : s.isDue now = true) :
    Failing P good now (s.opened r now) ∧ s.due now ≤ (s.opened r now).due now := by
  rcases opened_cases r hd with hsame | ⟨ht, others, hothers, htask, hstate⟩
  · rw [hsame]
    exact ⟨h, Nat.le_refl _⟩
  · obtain ⟨grace, task, hopen, -⟩ := exists_opened_watch r now s
    have hP : P others := by
      rcases hothers with rfl | rfl
      · exact h.others
      · exact hb.draw _ h.others
    obtain ⟨hP', answer, hanswer, hready, hfails⟩ :=
      hb.renew others now s.watch.lease.token s.watch.increment hP
    rw [hanswer] at htask
    refine ⟨⟨hstate ▸ hP', ?_, ?_, ?_, h.past, by simp [htask], by simp [htask], ?_⟩, ?_⟩
    · rw [hopen]
      exact h.unasked
    · rw [hopen]
      exact h.renewable
    · rw [hopen]
      exact h.lastGood
    · intro pending hpending
      rw [htask] at hpending
      cases hpending
      exact ⟨answer, rfl, hready, hfails⟩
    · rw [due_of_renewing htask]
      exact Nat.le_trans (due_le hd ht) hready

/-- What one run of a task that meets nothing but failures can do, with the reply that it takes. -/
inductive Attempt (P : σ → Prop) (good : Lease) (now : Instant) (s : Run σ) :
    Option (Answer Renewal) → Run σ → Prop
  /-- The task opens a call and has to wait. -/
  | wait {s' : Run σ} {pending : Option (Answer Renewal)} (h : Failing P good now s')
      (ht : s'.watch.task = .renewing pending) (hdue : s.due now ≤ s'.due now) :
      Attempt P good now s none s'
  /-- The task rests before it tries again; it has one retry less to come. -/
  | retry {answer : Answer Renewal} {s' : Run σ} (hf : Fails answer) (hready : answer.ready = now)
      (hdue : s.due now ≤ now) (h : Failing P good now s')
      (hreach : ∀ n, InReach good n now → ∃ m, n = m + 1 ∧ InReach good m (s'.due now)) :
      Attempt P good now s (some answer) s'
  /-- The task gives up, and says why. -/
  | giveUp {answer : Answer Renewal} {s' : Run σ} {error : VaultError}
      (hv : answer.value = .failed error) (hne : error ≠ .notRenewable)
      (hready : answer.ready = now) (hdue : s.due now ≤ now) (ht : s'.watch.task = .ended)
      (hunasked : s'.watch.stopAsked = false)
      (hqueue : s'.watch.queue = s.watch.queue ++ [.done (.error (.renewalFailed error))])
      (hgrace : s.watch.task ≠ .fresh → s'.watch.grace = s.watch.grace)
      (hleft : (good.remaining now).nanos ≤ s'.watch.grace.nanos + longestRetry.nanos) :
      Attempt P good now s (some answer) s'

/-- A reply that a failing task takes fails, and has just come. -/
lemma Failing.of_come? {s : Run σ} (h : Failing P good now s) {answer : Answer Renewal}
    (hc : s.come? now = some answer) :
    Fails answer ∧ answer.ready = now ∧ s.due now = now := by
  obtain ⟨ht, hle⟩ := come?_eq_some.1 hc
  obtain ⟨answer', hsome, hready, hfails⟩ := h.pending _ ht
  cases hsome
  have hnow : answer.ready = now := Nat.le_antisymm hle hready
  exact ⟨hfails, hnow, (due_of_renewing ht).trans hnow⟩

/-- Whatever a failing task does when it runs is one of these. -/
lemma Failing.poll (hb : Barren r P) {s s' : Run σ} {reply : Option (Answer Renewal)}
    (h : Failing P good now s) (hp : Poll r now s reply s') : Attempt P good now s reply s' := by
  cases hp with
  | stop hs =>
    rw [h.unasked] at hs
    cases hs
  | refuse _ _ hr =>
    rw [h.renewable] at hr
    cases hr
  | wait _ hd =>
    obtain ⟨hnext, hdue⟩ := h.opened hb hd
    obtain ⟨pending, ht⟩ := exists_opened_task hd
    exact .wait hnext ht hdue
  | @take answer _ hd hc =>
    obtain ⟨hopen, hdue⟩ := h.opened hb hd
    obtain ⟨⟨error, hv, hne⟩, hready, hnow⟩ := hopen.of_come? hc
    rw [hnow] at hdue
    have hothers : ((s.opened r now).receive r now answer).others = (s.opened r now).others := by
      simp only [receive, hv, record]
    have hgrace := grace_opened r now (s := s)
    have hqueue := queue_opened r now s
    have hlast := hopen.lastGood
    rcases (reaction_receive r now answer (s.opened r now)).of_failed hv hne with
      ⟨hw, hleft⟩ | ⟨rest, hn, hf, hw⟩
    · rw [hlast] at hleft
      refine .giveUp hv hne hready hdue ?_ ?_ ?_ ?_ ?_ <;> rw [hw]
      · rfl
      · exact hopen.unasked
      · simp only [finish, hqueue]
      · exact hgrace
      · exact hleft
    · -- The timer fires at a whole millisecond, from which the reach is counted again.
      rw [hlast] at hn hf
      refine .retry ⟨error, hv, hne⟩ hready hdue
        ⟨hothers ▸ hopen.others, ?_, ?_, ?_, h.past, ?_, ?_, ?_⟩ fun n hreach => ?_
      · rw [hw]
        exact hopen.unasked
      · rw [hw]
        exact hopen.renewable
      · rw [hw]
        exact hlast
      · simp [hw]
      · rw [hw]
        intro u hu
        cases hu
        exact Nat.le_trans (Nat.le_add_right _ _) (le_roundUp _)
      · simp [hw]
      · rw [due_of_resting (congrArg Watch.task hw)]
        exact hreach.exists_of_retry h.past hn hf

end Run
end Watch
end LeaseKeeper
