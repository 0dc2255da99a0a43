/-
# A watch gives up in time

When all calls are answered at once and the grace window is fixed, the task of a watch rests only
while its last good lease outlasts the rest by the window.  So when the task ends, for whatever
reason, the lease still has most of the window left.
-/
import LeaseKeeper.Proofs.Watch.Reaction

namespace LeaseKeeper

/-- The last good lease after a reply, or without one. -/
def Lease.afterReply (lease : Lease) : Option (Answer Renewal) → Lease
  | some ⟨ready, .granted grant, _⟩ => grant.startingAt ready
  | _ => lease

/-- At some moment a lease has more than `d` nanoseconds left. -/
def Lease.Outlasts (l : Lease) (d : ℕ) (t : Instant) : Prop := d < (l.remaining t).nanos

namespace Lease

variable {l : Lease} {d e : ℕ} {t u : Instant}

lemma outlasts_iff : l.Outlasts d t ↔ d < l.ttl.nanos - (t - l.obtained) := Iff.rfl

lemma Outlasts.of_le (h : l.Outlasts d t) (hle : u ≤ t) : l.Outlasts d u := by
  have hpast : u - l.obtained ≤ t - l.obtained := Nat.sub_le_sub_right hle _
  exact Nat.lt_of_lt_of_le h (Nat.sub_le_sub_left hpast _)

lemma Outlasts.anti (h : l.Outlasts d t) (hle : e ≤ d) : l.Outlasts e t := Nat.lt_of_le_of_lt hle h

/-- When time passes, no more is lost of a lease. -/
lemma Outlasts.of_add_le (h : l.Outlasts d t) (hle : e + (u - t) ≤ d) : l.Outlasts e u := by
  rw [outlasts_iff] at h ⊢
  omega

end Lease

/-- A lease that has just been granted has all of its time left. -/
lemma Grant.remaining_startingAt (g : Grant) (now : Instant) :
    ((g.startingAt now).remaining now).nanos = g.ttl.nanos := by
  rw [Lease.nanos_remaining]
  exact Nat.sub_eq_of_eq_add (by simp [Grant.startingAt])

lemma Grant.outlasts_startingAt {g : Grant} {now : Instant} {d : ℕ} (h : d < g.ttl.nanos) :
    (g.startingAt now).Outlasts d now := by
  unfold Lease.Outlasts
  rwa [g.remaining_startingAt now]

namespace Watch

/-- All renewals are answered at once, and what is granted lives for more than `least`
nanoseconds. -/
def Swift {σ : Type} (r : Renewer σ) (least : ℕ) : Prop :=
  ∀ s now token increment, ∃ answer, (r.renew s now token increment).1.answer = some answer ∧
    answer.ready = now ∧ ∀ grant, answer.value = .granted grant → least < grant.ttl.nanos

/-- The task of a watch goes on before its last good lease has only `least` nanoseconds left, or has
ended before. -/
def IsPunctual (w : Watch) (grace : Duration) (least : ℕ) (now : Instant) : Prop :=
  match w.task with
  | .fresh => w.lastGood.Outlasts least now
  | .resting t => now ≤ t ∧ w.lastGood.Outlasts least t ∧ w.grace = grace
  | .renewing _ => False
  | .ended => w.lastGood.Outlasts least now

variable {w w' : Watch} {grace : Duration} {least : ℕ} {now : Instant}

lemma IsPunctual.outlasts (h : w.IsPunctual grace least now) : w.lastGood.Outlasts least now := by
  unfold IsPunctual at h
  cases ht : w.task with
  | fresh => rwa [ht] at h
  | resting t =>
    rw [ht] at h
    exact h.2.1.of_le h.1
  | renewing answer =>
    rw [ht] at h
    exact h.elim
  | ended => rwa [ht] at h

/-- A punctual task that may open a call again keeps the window. -/
lemma IsPunctual.grace_eq {σ : Type} {s : Run σ} (h : s.watch.IsPunctual grace least now)
    (hd : s.isDue now = true) (hfresh : s.watch.task ≠ .fresh) : s.watch.grace = grace := by
  unfold IsPunctual at h
  cases ht : s.watch.task with
  | fresh => exact absurd ht hfresh
  | resting t =>
    rw [ht] at h
    exact h.2.2
  | renewing answer =>
    rw [ht] at h
    exact h.elim
  | ended => simp [Run.isDue, ht] at hd

/-- A rest that leaves the window still leaves all but two milliseconds of it when its timer has
fired. -/
lemma outlasts_roundUp {l : Lease} {rest : ℕ} (hleast : least + Instant.milli ≤ grace.nanos)
    (h : grace.nanos < (l.remaining now).nanos - rest) :
    l.Outlasts least (Instant.roundUp (now + rest)) := by
  have hround := Instant.roundUp_lt (now + rest)
  have hnow : l.Outlasts (grace.nanos + rest) now := Nat.add_lt_of_lt_sub h
  refine hnow.of_add_le ?_
  omega

lemma Reaction.lastGood_eq {draw : ℕ} {answer : Answer Renewal}
    (h : Reaction now draw w answer w') : w'.lastGood = w.lastGood.afterReply (some answer) := by
  obtain ⟨ready, value, notes⟩ := answer
  cases h with
  | crash hv => cases hv; rfl
  | spent hv => cases hv; rfl
  | final hv => cases hv; rfl
  | rest hv => cases hv; rfl
  | giveUp hv => cases hv; rfl
  | retry hv => cases hv; rfl

lemma Reaction.isPunctual {draw : ℕ} {answer : Answer Renewal} (h : Reaction now draw w answer w')
    (hready : answer.ready = now)
    (hgranted : ∀ grant, answer.value = .granted grant → least < grant.ttl.nanos)
    (hleast : least + Instant.milli ≤ grace.nanos) (hconfig : w.config.grace = some grace)
    (hgrace : w.grace = grace) (hw : w.lastGood.Outlasts least now) :
    w'.IsPunctual grace least now := by
  cases h with
  | crash => exact hw
  | spent hv =>
    change Lease.Outlasts _ least now
    rw [hready]
    exact Grant.outlasts_startingAt (hgranted _ hv)
  | final hv =>
    change Lease.Outlasts _ least now
    rw [hready]
    exact Grant.outlasts_startingAt (hgranted _ hv)
  | @rest grant grace' rest hv _ hg _ hf =>
    -- The window is fixed, whether it is chosen anew or kept.
    have hsame : grace' = grace := by
      unfold graceAfter? at hg
      split at hg
      · rw [graceFor?_fixed hconfig] at hg
        exact (Option.some.inj hg).symm
      · rw [hgrace] at hg
        exact (Option.some.inj hg).symm
    subst hsame
    refine ⟨Nat.le_trans (Nat.le_add_right _ _) (Instant.le_roundUp _), ?_, rfl⟩
    change (grant.startingAt answer.ready).Outlasts least _
    rw [hready]
    exact outlasts_roundUp hleast (by rw [grant.remaining_startingAt now]; exact hf)
  | giveUp => exact hw
  | @retry error rest _ _ _ hf =>
    rw [hgrace] at hf
    exact ⟨Nat.le_trans (Nat.le_add_right _ _) (Instant.le_roundUp _),
      outlasts_roundUp hleast hf, hgrace⟩

namespace Run

variable {σ : Type} {r : Renewer σ} {s s' : Run σ}

/-- A task that opens a call which is answered at once can take the answer. -/
lemma exists_come? (hr : Swift r least) (hd : s.isDue now = true)
    (ht : ∀ answer, s.watch.task ≠ .renewing answer) :
    ∃ answer, (s.opened r now).come? now = some answer ∧ answer.ready = now ∧
      ∀ grant, answer.value = .granted grant → least < grant.ttl.nanos := by
  have hcall : ∀ t : Run σ, ∃ answer, (t.call r now).come? now = some answer ∧
      answer.ready = now ∧ ∀ grant, answer.value = .granted grant → least < grant.ttl.nanos := by
    intro t
    obtain ⟨answer, hanswer, hready, hgranted⟩ :=
      hr t.others now t.watch.lease.token t.watch.increment
    refine ⟨answer, ?_, hready, hgranted⟩
    simp only [come?, call, hanswer, Answer.come?_eq_some, true_and]
    exact Nat.le_of_eq hready
  cases htask : s.watch.task with
  | fresh =>
    obtain ⟨grace', hg⟩ :=
      exists_graceFor? s.watch.config s.watch.lease.ttl (r.draw s.others).1
    simp only [opened, htask, begin, hg]
    exact hcall _
  | resting t =>
    simp only [opened, htask]
    exact hcall s
  | renewing answer => exact absurd htask (ht answer)
  | ended => simp [isDue, htask] at hd

lemma Poll.lastGood_eq {reply : Option (Answer Renewal)} (h : Poll r now s reply s') :
    s'.watch.lastGood = s.watch.lastGood.afterReply reply := by
  obtain ⟨grace', task, hopen, -⟩ := exists_opened_watch r now s
  cases h with
  | stop => rfl
  | refuse => rfl
  | wait =>
    rw [hopen]
    rfl
  | @take answer => rw [(reaction_receive r now answer (s.opened r now)).lastGood_eq, hopen]

/-- The task stays punctual. -/
lemma Poll.isPunctual {reply : Option (Answer Renewal)} (h : Poll r now s reply s')
    (hr : Swift r least) (hleast : least + Instant.milli ≤ grace.nanos)
    (hconfig : s.watch.config.grace = some grace) (hstop : s.watch.stopAsked = false)
    (hs : s.watch.IsPunctual grace least now) : s'.watch.IsPunctual grace least now := by
  have hgood := hs.outlasts
  have ht : ∀ answer, s.watch.task ≠ .renewing answer := by
    intro answer htask
    rw [IsPunctual, htask] at hs
    exact hs
  cases h with
  | stop hasked =>
    rw [hstop] at hasked
    cases hasked
  | refuse => exact hgood
  | wait _ hd hnone =>
    -- The call would have been answered at once.
    obtain ⟨answer, hcome, -⟩ := exists_come? hr hd ht
    rw [hnone] at hcome
    cases hcome
  | @take answer _ hd hcome =>
    obtain ⟨answer', hcome', hready, hgranted⟩ := exists_come? hr hd ht
    rw [hcome] at hcome'
    cases hcome'
    obtain ⟨grace', task, hopen, hwindow⟩ := exists_opened_watch r now s
    have hsame : grace' = grace := by
      rcases hwindow with ⟨hfresh, hkept⟩ | ⟨draw, hchosen⟩
      · rw [hkept]
        exact hs.grace_eq hd hfresh
      · rw [graceFor?_fixed hconfig] at hchosen
        exact (Option.some.inj hchosen).symm
    have hreact := reaction_receive r now answer (s.opened r now)
    rw [hopen] at hreact
    exact hreact.isPunctual hready hgranted hleast hconfig hsame hgood

/-- A punctual task that cannot go on, and has nothing for its owner, is resting. -/
lemma exists_resting (hs : s.watch.IsPunctual grace least now) (hstop : s.watch.stopAsked = false)
    (hfinished : s.watch.finished = false) (hpoll : s.poll? r now = none)
    (htake : s.watch.take? = none) : ∃ t, s.watch.task = .resting t ∧ now < t := by
  cases ht : s.watch.task with
  | fresh =>
    simp only [poll?, ht, hstop, Bool.false_eq_true, if_false] at hpoll
    split at hpoll <;> cases hpoll
  | resting t =>
    simp only [poll?, ht, hstop, Bool.false_eq_true, if_false] at hpoll
    split at hpoll
    · cases hpoll
    · rename_i hnot
      exact ⟨t, rfl, Nat.lt_of_not_le hnot⟩
  | renewing answer =>
    rw [IsPunctual, ht] at hs
    exact hs.elim
  | ended =>
    -- Whether or not the task has said how it ended, its owner has an event to take.
    cases hq : s.watch.queue with
    | nil => simp [take?, hfinished, hq, ht, Task.hasEnded] at htake
    | cons event rest => simp [take?, hfinished, hq] at htake

end Run

/-- A task that rests stays punctual until its timer fires. -/
lemma IsPunctual.of_le {t later : Instant} (h : w.IsPunctual grace least now)
    (ht : w.task = .resting t) (hle : later ≤ t) : w.IsPunctual grace least later := by
  unfold IsPunctual at h ⊢
  rw [ht] at h ⊢
  exact ⟨hle, h.2⟩

end Watch
end LeaseKeeper
