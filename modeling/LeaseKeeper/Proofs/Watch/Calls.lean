/-
# Renewals are never late

The task of a watch rests only while its last good lease outlasts the rest by the grace window, and
a timer fires less than a millisecond late.  So whenever the task renews again, its last good lease
still has more than the window left but for that millisecond.  The first renewal begins as soon as
the task runs.
-/
import LeaseKeeper.Proofs.Watch.Punctual
import LeaseKeeper.Proofs.Watch.Timeline

namespace LeaseKeeper

/-- No answer comes before its call. -/
def Renewer.IsCausal {σ : Type} (r : Renewer σ) : Prop :=
  ∀ s now token increment answer,
    (r.renew s now token increment).1.answer = some answer → now ≤ answer.ready

/-- The last good lease after some replies: that of the latest success, or else the first lease. -/
def Lease.afterReplies (lease : Lease) (replies : List (Answer Renewal)) : Lease :=
  replies.foldl (fun l reply => l.afterReply (some reply)) lease

lemma Lease.afterReplies_append (lease : Lease) (replies : List (Answer Renewal))
    (reply : Option (Answer Renewal)) :
    lease.afterReplies (replies ++ reply.toList) = (lease.afterReplies replies).afterReply reply := by
  cases reply <;> simp [afterReplies, afterReply]

namespace Trace

/-- The moments at which renewal calls begin. -/
def calls (t : Trace) : List Instant :=
  t.filterMap fun e => match e.2 with
    | .renew _ _ => some e.1
    | _ => none

@[simp] lemma calls_append (t u : Trace) : calls (t ++ u) = calls t ++ calls u :=
  List.filterMap_append

@[simp] lemma calls_ofNotes (now : Instant) (notes : List Note) :
    calls (ofNotes now notes) = [] := by
  simp [calls, ofNotes]

@[simp] lemma calls_renew (now : Instant) (token : String) (increment : Duration) (t : Trace) :
    calls ((now, .renew token increment) :: t) = now :: calls t := rfl

end Trace

namespace Watch

variable {σ : Type} {r : Renewer σ} {now : Instant}

/-! ### When calls begin -/

namespace Run

/-- Whether the task begins a call when it runs at this moment. -/
def begins (now : Instant) (s : Run σ) : Bool :=
  !s.watch.stopAsked && match s.watch.task with
    | .fresh => s.watch.lease.renewable
    | .resting t => t ≤ now
    | _ => false

lemma begins_eq_true_iff {s : Run σ} :
    s.begins now = true ↔ s.watch.stopAsked = false ∧
      (s.watch.task = .fresh ∧ s.watch.lease.renewable = true ∨
        ∃ t, s.watch.task = .resting t ∧ t ≤ now) := by
  unfold begins
  cases s.watch.task <;> simp

lemma calls_opened {s : Run σ} (hs : s.watch.stopAsked = false) (hd : s.isDue now = true) :
    (s.opened r now).trace.calls = s.trace.calls ++ if s.begins now then [now] else [] := by
  cases ht : s.watch.task with
  | fresh =>
    have hrenewable : s.watch.lease.renewable = true := by simpa only [isDue, ht] using hd
    obtain ⟨grace, hg⟩ := exists_graceFor? s.watch.config s.watch.lease.ttl (r.draw s.others).1
    simp [opened, ht, begin, hg, call, begins, hs, hrenewable]
  | resting t =>
    have hle : t ≤ now := by simpa only [isDue, ht, decide_eq_true_eq] using hd
    simp [opened, ht, call, begins, hs, hle]
  | renewing answer => simp [opened, ht, begins]
  | ended => simp [isDue, ht] at hd

lemma calls_receive (r : Renewer σ) (now : Instant) (answer : Answer Renewal) (s : Run σ) :
    (s.receive r now answer).trace.calls = s.trace.calls := by
  unfold receive
  cases answer.value <;> simp [record]

/-- A run of the task begins one call or none. -/
lemma Poll.calls_eq {s s' : Run σ} {reply : Option (Answer Renewal)} (h : Poll r now s reply s') :
    s'.trace.calls = s.trace.calls ++ if s.begins now then [now] else [] := by
  cases h with
  | stop hs => simp [begins, hs]
  | refuse _ ht hr => simp [begins, ht, hr]
  | wait hs hd => exact calls_opened hs hd
  | take hs hd =>
    rw [calls_receive]
    exact calls_opened hs hd

/-- Unless the task ends, a call has begun after its first run. -/
lemma Poll.calls_ne_nil {s s' : Run σ} {reply : Option (Answer Renewal)} (h : Poll r now s reply s')
    (hs : s.watch.task ≠ .fresh → s.trace.calls ≠ []) (hend : s'.watch.task ≠ .ended) :
    s'.trace.calls ≠ [] := by
  rw [h.calls_eq]
  by_cases ht : s.watch.task = .fresh
  · have hbegins : s.watch.stopAsked = false → s.isDue now = true → s.begins now = true := by
      intro hstop hd
      simp only [isDue, ht] at hd
      simp [begins, ht, hstop, hd]
    cases h with
    | stop => exact absurd rfl hend
    | refuse => exact absurd rfl hend
    | wait hstop hd => simp [hbegins hstop hd]
    | take hstop hd => simp [hbegins hstop hd]
  · exact List.append_ne_nil_of_left_ne_nil (hs ht) _

/-- A call that is open has not been answered before this moment. -/
lemma le_ready_opened (hr : r.IsCausal) {s : Run σ} (hd : s.isDue now = true)
    {answer : Answer Renewal} (hs : s.watch.task = .renewing (some answer) → now ≤ answer.ready)
    (h : (s.opened r now).watch.task = .renewing (some answer)) : now ≤ answer.ready := by
  rcases opened_cases r hd with hsame | ⟨-, others, -, htask, -⟩
  · rw [hsame] at h
    exact hs h
  · exact hr _ _ _ _ _ (Task.renewing.inj (htask.symm.trans h))

/-- A reply that the task takes has just come. -/
lemma ready_eq_of_come? (hr : r.IsCausal) {s : Run σ} (hd : s.isDue now = true)
    {answer : Answer Renewal} (hs : ∀ a, s.watch.task = .renewing (some a) → now ≤ a.ready)
    (h : (s.opened r now).come? now = some answer) : answer.ready = now :=
  Nat.le_antisymm (come?_eq_some.1 h).2 (le_ready_opened hr hd (hs answer) (come?_eq_some.1 h).1)

end Run

/-! ### How long tasks rest -/

/-- A rest that leaves more than the window leaves more than the window but for a millisecond when
its timer has fired. -/
lemma lt_remaining_roundUp {l : Lease} {rest grace : ℕ}
    (h : grace < (l.remaining now).nanos - rest) :
    grace < (l.remaining (Instant.roundUp (now + rest))).nanos + Instant.milli := by
  have hround := Instant.roundUp_lt (now + rest)
  rw [Lease.nanos_remaining] at h ⊢
  omega

/-- A task that has taken a reply rests or has ended. -/
lemma Reaction.rests_or_ended {draw : ℕ} {w w' : Watch} {answer : Answer Renewal}
    (h : Reaction now draw w answer w') : w'.task = .ended ∨ ∃ t, w'.task = .resting t := by
  cases h with
  | rest => exact Or.inr ⟨_, rfl⟩
  | retry => exact Or.inr ⟨_, rfl⟩
  | _ => exact Or.inl rfl

/-- A task that has taken a reply has no call open. -/
lemma Reaction.ne_renewing {draw : ℕ} {w w' : Watch} {answer : Answer Renewal}
    (h : Reaction now draw w answer w') (pending : Option (Answer Renewal)) :
    w'.task ≠ .renewing pending := by
  rcases h.rests_or_ended with hend | ⟨t, hrest⟩
  · simp [hend]
  · simp [hrest]

/-- A task that rests after a reply goes on while its last good lease has the window left. -/
lemma Reaction.lt_remaining {draw : ℕ} {w w' : Watch} {answer : Answer Renewal} {t : Instant}
    (h : Reaction now draw w answer w') (hready : answer.ready = now)
    (ht : w'.task = .resting t) :
    now ≤ t ∧ w'.grace.nanos < (w'.lastGood.remaining t).nanos + Instant.milli := by
  cases h with
  | @rest grant grace rest _ _ _ _ hf =>
    cases ht
    refine ⟨Nat.le_trans (Nat.le_add_right _ _) (Instant.le_roundUp _), ?_⟩
    change grace.nanos < ((grant.startingAt answer.ready).remaining _).nanos + _
    rw [hready]
    exact lt_remaining_roundUp (by rw [grant.remaining_startingAt now]; exact hf)
  | retry _ _ _ hf =>
    cases ht
    exact ⟨Nat.le_trans (Nat.le_add_right _ _) (Instant.le_roundUp _), lt_remaining_roundUp hf⟩
  | _ => cases ht

namespace Run

variable {s s' : Run σ} {reply : Option (Answer Renewal)}

/-- A task that has run is not fresh any more. -/
lemma Poll.ne_fresh (h : Poll r now s reply s') : s'.watch.task ≠ .fresh := by
  cases h with
  | stop => nofun
  | refuse => nofun
  | wait _ hd =>
    obtain ⟨answer, htask⟩ := exists_opened_task (r := r) hd
    simp [htask]
  | @take answer =>
    rcases (reaction_receive r now answer (s.opened r now)).rests_or_ended with hend | ⟨t, hrest⟩
    · simp [hend]
    · simp [hrest]

/-- A task that has begun to rest goes on while its last good lease has the window left. -/
lemma Poll.lt_remaining (hr : r.IsCausal) (h : Poll r now s reply s')
    (hs : ∀ a, s.watch.task = .renewing (some a) → now ≤ a.ready) {t : Instant}
    (ht : s'.watch.task = .resting t) :
    now ≤ t ∧ s'.watch.grace.nanos < (s'.watch.lastGood.remaining t).nanos + Instant.milli := by
  cases h with
  | stop => cases ht
  | refuse => cases ht
  | wait _ hd =>
    obtain ⟨answer, htask⟩ := exists_opened_task (r := r) hd
    rw [htask] at ht
    cases ht
  | take _ hd hc =>
    exact (reaction_receive r now _ _).lt_remaining (ready_eq_of_come? hr hd hs hc) ht

/-- A call that has been left open is answered later. -/
lemma Poll.le_ready (hr : r.IsCausal) (h : Poll r now s reply s')
    (hs : ∀ a, s.watch.task = .renewing (some a) → now ≤ a.ready) {answer : Answer Renewal}
    (ht : s'.watch.task = .renewing (some answer)) : now ≤ answer.ready := by
  cases h with
  | stop => cases ht
  | refuse => cases ht
  | wait _ hd => exact le_ready_opened hr hd (hs answer) ht
  | take => exact absurd ht ((reaction_receive r now _ _).ne_renewing _)

/-- A fresh task can run at any moment. -/
lemma exists_poll?_of_fresh (r : Renewer σ) (now : Instant) (ht : s.watch.task = .fresh) :
    ∃ run, s.poll? r now = some run := by
  simp only [poll?, ht]
  split
  · exact ⟨_, rfl⟩
  · split <;> exact ⟨_, rfl⟩

/-- A task that has to wait wants to be woken later. -/
lemma lt_of_poll?_eq_none (h : s.poll? r now = none) {t : Instant}
    (ht : s.watch.task.wake? = some t) : now < t := by
  rw [← Nat.not_le]
  intro hle
  unfold Task.wake? at ht
  split at ht
  · rename_i answer htask
    cases ht
    simp only [poll?, htask, if_pos hle] at h
    split at h <;> cases h
  · rename_i u htask
    cases ht
    simp only [poll?, htask, if_pos hle] at h
    split at h <;> cases h
  · cases ht

end Run

namespace Timeline

/-- The moments at which calls have begun. -/
def calls (t : Timeline σ) : List Instant := t.state.run.trace.calls

variable {begun : Instant} {first : Lease} {t t' : Timeline σ}

/-- A watch over a lease is on time.  Its task has not run, or it rests until a moment at which the
last good lease still has the window left but for a millisecond, or it waits for a reply that is yet
to come. -/
structure OnTime (begun : Instant) (first : Lease) (t : Timeline σ) : Prop where
  lease : t.watch.lease = first
  good : t.watch.lastGood = first.afterReplies t.state.taken
  fresh : t.watch.task = .fresh → t.now = begun ∧ t.calls = [] ∧ t.state.taken = []
  called : t.watch.task ≠ .fresh → t.watch.task ≠ .ended → t.calls ≠ []
  resting : ∀ u, t.watch.task = .resting u → t.now ≤ u ∧
    t.watch.grace.nanos < (t.watch.lastGood.remaining u).nanos + Instant.milli
  renewing : ∀ answer, t.watch.task = .renewing (some answer) → t.now ≤ answer.ready

lemma onTime_start (begun : Instant) (lease : Lease) (config : Config) (others : σ) :
    OnTime begun lease (start begun lease config others) where
  lease := rfl
  good := rfl
  fresh _ := ⟨rfl, rfl, rfl⟩
  called h := absurd rfl h
  resting _ := nofun
  renewing _ := nofun

lemma OnTime.work (hr : r.IsCausal) {s : Story σ} {run : Run σ} (h : OnTime begun first ⟨now, s⟩)
    (hpoll : s.run.poll? r now = some run) : OnTime begun first ⟨now, s.work r now run⟩ := by
  have hp := Run.poll_of_poll? hpoll
  have hend := Run.ne_ended_of_poll? hpoll
  refine ⟨hp.sameTerms.lease.trans h.lease, ?_, fun ht => absurd ht hp.ne_fresh,
    fun _ => hp.calls_ne_nil fun hf => h.called hf hend, fun u hu => hp.lt_remaining hr h.renewing hu,
    fun answer ha => hp.le_ready hr h.renewing ha⟩
  exact (hp.lastGood_eq.trans (congrArg (Lease.afterReply · _) h.good)).trans
    (first.afterReplies_append _ _).symm

/-- The task of a watch that is on time does not let its moment pass. -/
lemma OnTime.wait {s : Story σ} {later : Instant} (h : OnTime begun first ⟨now, s⟩)
    (hpoll : s.run.poll? r now = none)
    (hwake : ∀ t, s.run.watch.task.wake? = some t → now < t → later ≤ t) :
    OnTime begun first ⟨later, s⟩ := by
  have hlater : ∀ t, s.run.watch.task.wake? = some t → later ≤ t :=
    fun t ht => hwake t ht (Run.lt_of_poll?_eq_none hpoll ht)
  refine ⟨h.lease, h.good, fun ht => ?_, h.called, fun u hu => ⟨hlater u ?_, (h.resting u hu).2⟩,
    fun answer ha => hlater answer.ready ?_⟩
  · obtain ⟨run, hrun⟩ := Run.exists_poll?_of_fresh r now ht
    rw [hpoll] at hrun
    cases hrun
  · exact congrArg Task.wake? hu
  · exact congrArg Task.wake? ha

lemma OnTime.step (hr : r.IsCausal) (h : OnTime begun first t) (hstep : Step r t t') :
    OnTime begun first t' := by
  cases hstep with
  | work hpoll => exact h.work hr hpoll
  | wait hpoll _ hwake => exact h.wait hpoll hwake
  | next now s =>
    obtain ⟨queue, finished, hrun⟩ := s.exists_next_run
    have htaken := (Story.next_frame s).1
    refine ⟨?_, ?_, ?_, ?_, ?_, ?_⟩ <;> simp only [watch, calls, hrun, htaken]
    · exact h.lease
    · exact h.good
    · exact h.fresh
    · exact h.called
    · exact h.resting
    · exact h.renewing
  | stop now s => exact ⟨h.lease, h.good, h.fresh, h.called, h.resting, h.renewing⟩

lemma onTime_of_later (hr : r.IsCausal) {config : Config} {others : σ}
    (h : Later r (start begun first config others) t) : OnTime begun first t :=
  h.induction (onTime_start begun first config others) fun _ _ hu hstep => hu.step hr hstep

/-- A call begins in a step only at the moment of the step.  If it is not the first call, the last
good lease -- that of the latest renewed reply, or the first lease -- has more than the window in
force left but for a millisecond.  The first call begins when the task first runs, which is as soon
as the watch begins, unless the lease cannot be renewed or the task was asked to stop before. -/
theorem never_late (hr : r.IsCausal) {config : Config} {others : σ}
    (h : Later r (start begun first config others) t) :
    (∀ t', Step r t t' → t'.calls = t.calls ∨ t'.calls = t.calls ++ [t.now] ∧
      (t.calls = [] → t.watch.task = .fresh ∧ first.renewable = true ∧ t.watch.stopAsked = false) ∧
      (t.calls ≠ [] → t.watch.grace.nanos <
        ((first.afterReplies t.state.taken).remaining t.now).nanos + Instant.milli)) ∧
    (t.watch.task = .fresh → t.now = begun ∧ t.calls = [] ∧
      ∃ run, t.state.run.poll? r t.now = some run ∧ run.trace.calls =
        if first.renewable = true ∧ t.watch.stopAsked = false then [t.now] else []) := by
  have htime := onTime_of_later hr h
  refine ⟨fun t' hstep => ?_, fun hfresh => ?_⟩
  · cases hstep with
    | @work now s run hpoll =>
      have hcalls := (Run.poll_of_poll? hpoll).calls_eq
      by_cases hbegins : s.run.begins now = true
      · rw [if_pos hbegins] at hcalls
        obtain ⟨hstop, ⟨hfresh, hrenewable⟩ | ⟨u, hrest, hle⟩⟩ := Run.begins_eq_true_iff.1 hbegins
        · exact Or.inr ⟨hcalls, fun _ => ⟨hfresh, htime.lease ▸ hrenewable, hstop⟩,
            fun hne => absurd (htime.fresh hfresh).2.1 hne⟩
        · -- The timer has just fired, since the task has not let its moment pass.
          obtain ⟨hge, hleft⟩ := htime.resting u hrest
          obtain rfl : now = u := Nat.le_antisymm hge hle
          have hcalled : s.run.trace.calls ≠ [] :=
            htime.called (by simp [watch, hrest]) (by simp [watch, hrest])
          exact Or.inr ⟨hcalls, fun hnil => absurd hnil hcalled, fun _ => htime.good ▸ hleft⟩
      · rw [if_neg hbegins, List.append_nil] at hcalls
        exact Or.inl hcalls
    | wait => exact Or.inl rfl
    | next now s => exact Or.inl (congrArg Trace.calls (Story.next_frame s).2.2.2)
    | stop => exact Or.inl rfl
  · obtain ⟨hnow, hcalls, -⟩ := htime.fresh hfresh
    obtain ⟨run, hrun⟩ := Run.exists_poll?_of_fresh r t.now hfresh
    refine ⟨hnow, hcalls, run, hrun, ?_⟩
    have hbegins : t.state.run.begins t.now = true ↔
        first.renewable = true ∧ t.watch.stopAsked = false := by
      have hlease : t.state.run.watch.lease = first := htime.lease
      have htask : t.state.run.watch.task = .fresh := hfresh
      rw [Run.begins_eq_true_iff, hlease, htask]
      simp [watch, and_comm]
    have hnone : t.state.run.trace.calls = [] := hcalls
    rw [(Run.poll_of_poll? hrun).calls_eq, hnone, List.nil_append]
    exact if_congr hbegins rfl rfl

/-- Renewals that are answered at once, each with another minute. -/
def steady : Renewer Unit where
  renew _ now _ _ := (.answered now (.granted ⟨"token", none, [], .ofSeconds 60, true⟩), ())
  draw _ := (3000000000, ())

lemma isCausal_steady : steady.IsCausal := by
  intro s now token increment answer h
  cases h
  exact Nat.le_refl now

/-- A lease for a minute. -/
def minute : Lease := ⟨⟨"token", none, [], .ofSeconds 60, true⟩, 0⟩

/-- The story of a watch with steady renewals and a drawn window, while it rests for the first
time. -/
def rested : Story Unit :=
  (Story.start minute ⟨none, none⟩ ()).work steady 0
    { watch :=
        { Watch.start minute ⟨none, none⟩ with
          grace := ⟨9000000000, by decide⟩
          prior := .ofSeconds 60
          task := .resting 43000000000
          queue := [.renewed minute] }
      others := ()
      trace := [(0, .renew "token" (.ofSeconds 60)), (0, .note (.leaseRenewed (.ofSeconds 60)))] }

lemma later_rested : Later steady (start 0 minute ⟨none, none⟩ ()) ⟨43000000000, rested⟩ := by
  have h : Later steady (start 0 minute ⟨none, none⟩ ()) ⟨0, rested⟩ := .single (.work rfl)
  refine h.tail (.wait rfl (Nat.zero_le _) fun t ht _ => ?_)
  cases ht
  exact Nat.le_refl _

/-- The second call begins while seventeen seconds are left, and the window is nine. -/
theorem never_late_steady :
    ∃ t', Step steady ⟨43000000000, rested⟩ t' ∧ t'.calls = [0, 43000000000] ∧
      9000000000 < ((minute.afterReplies rested.taken).remaining 43000000000).nanos +
        Instant.milli := by
  have hstep : Step steady ⟨43000000000, rested⟩ _ := .work rfl
  refine ⟨_, hstep, rfl, ?_⟩
  rcases (never_late isCausal_steady later_rested).1 _ hstep with hsame | ⟨-, -, hlater⟩
  · cases hsame
  · exact hlater nofun

end Timeline
end Watch
end LeaseKeeper
