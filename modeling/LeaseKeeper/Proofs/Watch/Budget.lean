/-
# The error budget of a watch

When renewals fail from some point on, the task of a watch gives up after a bounded number of calls,
though nothing counts them: with each retry, so much of its last good lease is gone that one retry
less is to come.  It does not give up before the lease has come near the window, and, when replies
come at once, not after the window has begun but for a millisecond.
-/
import LeaseKeeper.Proofs.Watch.Owner
import LeaseKeeper.Proofs.Watch.Retry

namespace LeaseKeeper

/-- All answers come without delay. -/
def Renewer.AnswersAtOnce {σ : Type} (r : Renewer σ) : Prop :=
  ∀ s now token increment answer,
    (r.renew s now token increment).1.answer = some answer → answer.ready = now

namespace Clocked

variable {α : Type} {c : Clocked α}

/-- A run reaches a goal at which nothing moves if each step before it takes from a measure. -/
lemma exists_runTo_of_measure {I : ℕ → Timed α → Prop} {G : α → Prop}
    (hrest : ∀ deadline t, G t.state → c.step? deadline t = none)
    (hstep : ∀ n t, I n t → G t.state ∨ ∃ bound t' m, m < n ∧ I m t' ∧
      ∀ deadline, bound ≤ deadline → c.step? deadline t = some t')
    {n : ℕ} {t : Timed α} (h : I n t) :
    ∃ deadline fuel, ∀ d ≥ deadline, ∀ f ≥ fuel, G (c.runTo d f t).state := by
  induction n using Nat.strong_induction_on generalizing t with
  | _ n ih =>
    rcases hstep n t h with hG | ⟨bound, t', m, hlt, h', hbound⟩
    · refine ⟨0, 0, fun d _ f _ => ?_⟩
      cases f with
      | zero => exact hG
      | succ f => simpa [runTo, runUntil, hrest d t hG] using hG
    · obtain ⟨deadline, fuel, hrun⟩ := ih m hlt h'
      refine ⟨max bound deadline, fuel + 1, fun d hd f hf => ?_⟩
      obtain ⟨f, rfl⟩ := Nat.exists_eq_add_of_le' (Nat.lt_of_lt_of_le (Nat.succ_pos fuel) hf)
      have hgoal := hrun d (le_trans (Nat.le_max_right _ _) hd) f (Nat.le_of_succ_le_succ hf)
      simpa [runTo, runUntil, hbound d (le_trans (Nat.le_max_left _ _) hd)] using hgoal

end Clocked

namespace Watch

open Instant

variable {σ : Type} {r : Renewer σ} {P : σ → Prop} {good : Lease} {now : Instant}

/-! ### The task gives up -/

namespace Run

/-- A failing task waits for its next call or reply. -/
lemma Failing.wait {s : Run σ} (h : Failing P good now s) {later : Instant} (hle : now ≤ later)
    (hwake : ∀ t, s.watch.task.wake? = some t → later ≤ t) : Failing P good later s := by
  refine ⟨h.others, h.unasked, h.renewable, h.lastGood, le_trans h.past hle, h.going,
    fun u hu => hwake u (by simp [hu, Task.wake?]), fun pending hp => ?_⟩
  obtain ⟨answer, rfl, -, hfails⟩ := h.pending pending hp
  exact ⟨answer, rfl, hwake _ (by simp [hp, Task.wake?]), hfails⟩

/-- What a failing task does next is not in the past. -/
lemma Failing.le_due {s : Run σ} (h : Failing P good now s) : now ≤ s.due now := by
  unfold due
  cases ht : s.watch.task with
  | fresh => exact Nat.le_refl now
  | resting u => exact h.resting u ht
  | renewing pending =>
    obtain ⟨answer, rfl, hle, -⟩ := h.pending pending ht
    exact hle
  | ended => exact Nat.le_refl now

/-- A failing task that cannot run waits for its next call or reply. -/
lemma Failing.exists_wake {s : Run σ} (h : Failing P good now s) (hpoll : s.poll? r now = none) :
    ∃ t, s.watch.task.wake? = some t ∧ now < t := by
  suffices hwake : ∃ t, s.watch.task.wake? = some t by
    obtain ⟨t, ht⟩ := hwake
    exact ⟨t, ht, lt_of_poll?_eq_none hpoll ht⟩
  cases ht : s.watch.task with
  | fresh =>
    obtain ⟨run, hrun⟩ := exists_poll?_of_fresh r now ht
    rw [hpoll] at hrun
    cases hrun
  | resting u => exact ⟨u, rfl⟩
  | renewing pending =>
    obtain ⟨answer, rfl, -⟩ := h.pending pending ht
    exact ⟨answer.ready, rfl⟩
  | ended => exact absurd ht h.going

/-- A failing task that runs takes the reply that it has waited for. -/
lemma Failing.ne_renewing {s s' : Run σ} (h : Failing P good now s)
    (hpoll : s.poll? r now = some s') (hnone : s.reply? r now = none)
    (pending : Option (Answer Renewal)) : s.watch.task ≠ .renewing pending := by
  intro ht
  obtain ⟨answer, rfl, -⟩ := h.pending pending ht
  simp only [poll?, ht, h.unasked, Bool.false_eq_true, if_false] at hpoll
  split at hpoll
  · rename_i hle
    have hopen : s.opened r now = s := by simp only [Run.opened, ht]
    simp [reply?, h.unasked, isDue, ht, hopen, come?, Answer.come?_of_le hle] at hnone
  · cases hpoll

/-- How much a task with `n` retries to come has still to do at most: for each retry it waits, opens
a call, waits, and takes the reply. -/
def toDo (now : Instant) (n : ℕ) (s : Run σ) : ℕ :=
  4 * n + (match s.watch.task with
    | .renewing _ => 0
    | _ => 2) + (if now < s.due now then 1 else 0) + 1

lemma toDo_le (now : Instant) (n : ℕ) (s : Run σ) : s.toDo now n ≤ 4 * n + 4 := by
  unfold toDo
  split <;> split <;> omega

lemma lt_toDo (now : Instant) (n : ℕ) (s : Run σ) : 4 * n < s.toDo now n := by
  unfold toDo
  omega

lemma toDo_of_renewing {s : Run σ} {pending : Option (Answer Renewal)}
    (ht : s.watch.task = .renewing pending) (now : Instant) (n : ℕ) :
    s.toDo now n ≤ 4 * n + 2 := by
  simp only [toDo, ht]
  split <;> omega

lemma lt_toDo_of_ne_renewing {s : Run σ} (ht : ∀ pending, s.watch.task ≠ .renewing pending)
    (now : Instant) (n : ℕ) : 4 * n + 2 < s.toDo now n := by
  unfold toDo
  split
  · rename_i pending hp
    exact absurd hp (ht pending)
  · omega

/-- The task has ended by itself. -/
def IsOver (s : Run σ) : Prop := s.watch.task = .ended ∧ s.watch.stopAsked = false

/-- The task is over, or has `n` things left to do at most. -/
def Nears (P : σ → Prop) (good : Lease) (n : ℕ) (t : Timed (Run σ)) : Prop :=
  t.state.IsOver ∨ ∃ m, Failing P good t.now t.state ∧ InReach good m (t.state.due t.now) ∧
    n = t.state.toDo t.now m

/-- A run of the task leaves less to do. -/
lemma Failing.exists_nears_of_poll (hb : Barren r P) {s s' : Run σ} (h : Failing P good now s)
    {n : ℕ} (hreach : InReach good n (s.due now)) (hpoll : s.poll? r now = some s') :
    ∃ m < s.toDo now n, Nears P good m ⟨now, s'⟩ := by
  have hattempt := h.poll hb (poll_of_poll? hpoll)
  cases hreply : s.reply? r now with
  | none =>
    rw [hreply] at hattempt
    cases hattempt with
    | wait hnext ht hdue =>
      refine ⟨_, ?_, Or.inr ⟨n, hnext, hreach.of_le hdue, rfl⟩⟩
      exact Nat.lt_of_le_of_lt (toDo_of_renewing ht now n)
        (lt_toDo_of_ne_renewing (h.ne_renewing hpoll hreply) now n)
  | some answer =>
    rw [hreply] at hattempt
    cases hattempt with
    | retry _ _ hdue hnext hless =>
      obtain ⟨m, rfl, hreach'⟩ := hless n (hreach.of_le hdue)
      refine ⟨_, ?_, Or.inr ⟨m, hnext, hreach', rfl⟩⟩
      exact Nat.lt_of_le_of_lt (toDo_le now m s') (lt_toDo now (m + 1) s)
    | giveUp _ _ _ _ ht hunasked => exact ⟨0, Nat.succ_pos _, Or.inl ⟨ht, hunasked⟩⟩

/-- Waiting leaves less to do. -/
lemma Failing.exists_nears_of_wait {s : Run σ} (h : Failing P good now s) {n : ℕ}
    (hreach : InReach good n (s.due now)) {t : Instant} (hwake : s.watch.task.wake? = some t)
    (hlt : now < t) : ∃ m < s.toDo now n, Nears P good m ⟨t, s⟩ := by
  have hdue : ∀ now, s.due now = t := by simp [due, hwake]
  refine ⟨_, ?_, Or.inr ⟨n, h.wait (Nat.le_of_lt hlt) fun u hu => ?_, ?_, rfl⟩⟩
  · simp only [toDo, hdue, if_pos hlt, Nat.lt_irrefl, if_false]
    omega
  · rw [hwake] at hu
    cases hu
    exact Nat.le_refl _
  · rw [hdue] at hreach ⊢
    exact hreach

/-- A task that meets nothing but failures ends. -/
lemma Failing.exists_over (hb : Barren r P) {s : Run σ} (h : Failing P good now s) :
    ∃ deadline fuel, ∀ d ≥ deadline, ∀ f ≥ fuel, ((clocked r).runTo d f ⟨now, s⟩).state.IsOver := by
  refine Clocked.exists_runTo_of_measure (I := Nears P good) (t := ⟨now, s⟩) ?_ ?_
    (Or.inr ⟨_, h, (inReach_remaining h.past).of_le h.le_due, rfl⟩)
  · rintro deadline t ⟨hend, -⟩
    simp [Clocked.step?, clocked, poll?, hend, Task.wake?]
  · rintro n ⟨now, s⟩ (hover | ⟨m, h, hreach, rfl⟩)
    · exact Or.inl hover
    -- The clock lets the task run if it can, and goes on to the next wake-up if it cannot.
    dsimp only at h hreach
    cases hpoll : s.poll? r now with
    | some s' =>
      obtain ⟨k, hlt, hnears⟩ := h.exists_nears_of_poll hb hreach hpoll
      exact Or.inr ⟨0, _, k, hlt, hnears, fun deadline _ => by
        simp [Clocked.step?, clocked, hpoll]⟩
    | none =>
      obtain ⟨t, hwake, hlt⟩ := h.exists_wake hpoll
      obtain ⟨k, hless, hnears⟩ := h.exists_nears_of_wait hreach hwake hlt
      exact Or.inr ⟨t, _, k, hless, hnears, fun deadline hle => by
        simp [Clocked.step?, clocked, hpoll, hwake, hlt, hle]⟩

/-- The owner takes events. -/
lemma Failing.of_take {s : Run σ} (h : Failing P good now s) (queue : List Event)
    (finished : Bool) :
    Failing P good now { s with watch := { s.watch with queue := queue, finished := finished } } :=
  ⟨h.others, h.unasked, h.renewable, h.lastGood, h.past, h.going, h.resting, h.pending⟩

/-- When answers come without delay, a task that has run has taken the answer to its call. -/
lemma Poll.not_renewing (hr : r.AnswersAtOnce) {s s' : Run σ} {reply : Option (Answer Renewal)}
    (h : Poll r now s reply s') (hs : ∀ answer, s.watch.task ≠ .renewing (some answer))
    (answer : Answer Renewal) : s'.watch.task ≠ .renewing (some answer) := by
  intro ht
  cases h with
  | stop => cases ht
  | refuse => cases ht
  | wait _ hd hc =>
    rcases opened_cases r hd with hsame | ⟨-, others, -, htask, -⟩
    · rw [hsame] at ht
      exact hs answer ht
    · have hanswer := Task.renewing.inj (htask.symm.trans ht)
      have hcome := come?_eq_some.2 ⟨ht, Nat.le_of_eq (hr _ _ _ _ _ hanswer)⟩
      rw [hc] at hcome
      cases hcome
  | take => exact (reaction_receive r now _ _).ne_renewing _ ht

/-- A reply that a task takes has come. -/
lemma Poll.ready_le {s s' : Run σ} {answer : Answer Renewal}
    (h : Poll r now s (some answer) s') : answer.ready ≤ now := by
  cases h with
  | take _ _ hc => exact (come?_eq_some.1 hc).2

end Run

/-! ### The calls that fail -/

/-- How many calls may fail: one for each half minute that is left of a lease, and sixteen more. -/
def budget (good : Lease) (t : Instant) : ℕ :=
  (good.remaining t).nanos / longestRetry.nanos + 16

/-- The replies that have failed and the retries to come are within the budget. -/
def WithinBudget (good : Lease) (fails : List (Answer Renewal)) (retries : ℕ) : Prop :=
  ∀ first ∈ fails.head?, fails.length + retries ≤ budget good first.ready

/-- Another reply has failed just now. -/
lemma exists_withinBudget_concat {fails : List (Answer Renewal)} {answer : Answer Renewal}
    (hready : answer.ready = now) (hpast : good.obtained ≤ now)
    (h : fails ≠ [] → ∃ n, InReach good n now ∧ WithinBudget good fails (n + 1)) :
    ∃ n, InReach good n now ∧ WithinBudget good (fails ++ [answer]) n := by
  cases fails with
  | nil =>
    refine ⟨_, inReach_remaining hpast, ?_⟩
    rintro first ⟨⟩
    rw [budget, hready, List.nil_append, List.length_singleton]
    omega
  | cons first fails =>
    obtain ⟨n, hreach, hwithin⟩ := h (List.cons_ne_nil _ _)
    refine ⟨n, hreach, ?_⟩
    rintro _ ⟨⟩
    have hfirst := hwithin first rfl
    rw [List.length_append, List.length_singleton]
    omega

/-- The task says how it ends. -/
lemma Story.verdict_work {s : Story σ} {run : Run σ} {result : Except VaultError Unit}
    (h : run.watch.queue = s.run.watch.queue ++ [.done result]) :
    (s.work r now run).verdict = result := by
  simp [Story.verdict, Story.sent_work h]

namespace Timeline

/-- The owner has not asked the task to stop if it has not done so later. -/
lemma Step.unasked {t t' : Timeline σ} (h : Step r t t') (hs : t'.watch.stopAsked = false) :
    t.watch.stopAsked = false := by
  cases h with
  | work hpoll => exact (Run.poll_of_poll? hpoll).sameTerms.stopAsked.symm.trans hs
  | wait => exact hs
  | next now s =>
    obtain ⟨queue, finished, hrun⟩ := s.exists_next_run
    simpa only [watch, hrun] using hs
  | stop => cases hs

lemma not_renewing (hr : r.AnswersAtOnce) {begun : Instant} {first : Lease} {config : Config}
    {others : σ} {t : Timeline σ} (h : Later r (start begun first config others) t) :
    ∀ answer, t.watch.task ≠ .renewing (some answer) := by
  refine h.induction (P := fun t => ∀ answer, t.watch.task ≠ .renewing (some answer))
    (fun _ => by simp [start, watch, Story.start, Watch.start]) fun t t' ht hstep => ?_
  cases hstep with
  | work hpoll => exact (Run.poll_of_poll? hpoll).not_renewing hr ht
  | wait => exact ht
  | next now s =>
    simp only [watch, (Story.next_frame s).2.2.1]
    exact ht
  | stop => exact ht

variable {before : List (Answer Renewal)} {t t' : Timeline σ}

/-- The calls that have failed, from some point on. -/
inductive Tally (r : Renewer σ) (P : σ → Prop) (good : Lease) (before : List (Answer Renewal))
    (t : Timeline σ) : Prop
  /-- The task goes on. -/
  | going {fails : List (Answer Renewal)} (htaken : t.state.taken = before ++ fails)
      (hfails : ∀ a ∈ fails, Fails a) (h : Run.Failing P good t.now t.state.run)
      (hcount : fails ≠ [] → ∃ n, InReach good n (t.state.run.due t.now) ∧
        WithinBudget good fails (n + 1))
  /-- The task has given up. -/
  | gaveUp {fails : List (Answer Renewal)} {last : Answer Renewal} {error : VaultError}
      (htaken : t.state.taken = before ++ fails) (hfails : ∀ a ∈ fails, Fails a)
      (hcount : WithinBudget good fails 0) (hend : t.watch.task = .ended)
      (hlast : fails.getLast? = some last) (hv : last.value = .failed error)
      (hverdict : t.state.verdict = .error (.renewalFailed error))
      (hleft : (good.remaining last.ready).nanos ≤ t.watch.grace.nanos + longestRetry.nanos)
      (hlate : r.AnswersAtOnce → (∃ a ∈ before, ∃ grant, a.value = .granted grant) →
        t.watch.grace.nanos < (good.remaining last.ready).nanos + milli)

/-- A task that gives up when a reply has come at once has just rested, unless this was its first
call. -/
lemma OnTime.lt_remaining {begun : Instant} {first : Lease} {s : Story σ}
    (htime : OnTime begun first ⟨now, s⟩) (h : Run.Failing P good now s.run)
    (hopen : ∀ answer, s.run.watch.task ≠ .renewing (some answer)) (hdue : s.run.due now ≤ now)
    (htaken : s.taken ≠ []) :
    s.run.watch.task ≠ .fresh ∧
      s.run.watch.grace.nanos < (good.remaining now).nanos + milli := by
  cases ht : s.run.watch.task with
  | fresh => exact absurd (htime.fresh ht).2.2 htaken
  | resting u =>
    refine ⟨nofun, ?_⟩
    obtain ⟨hle, hleft⟩ := htime.resting u ht
    have hnow : u = now := Nat.le_antisymm (Run.due_of_resting ht ▸ hdue) hle
    have hgood : s.run.watch.lastGood = good := h.lastGood
    rw [← hgood, ← hnow]
    exact hleft
  | renewing pending =>
    obtain ⟨answer, rfl, -⟩ := h.pending pending ht
    exact absurd ht (hopen answer)
  | ended => exact absurd ht h.going

/-- The task runs. -/
lemma Tally.work (hb : Barren r P) {begun : Instant} {first : Lease} {s : Story σ} {run : Run σ}
    (htime : OnTime begun first ⟨now, s⟩)
    (hopen : r.AnswersAtOnce → ∀ answer, s.run.watch.task ≠ .renewing (some answer))
    (h : Tally r P good before ⟨now, s⟩) (hpoll : s.run.poll? r now = some run) :
    Tally r P good before ⟨now, s.work r now run⟩ := by
  cases h with
  | gaveUp _ _ _ hend =>
    exact absurd hend (Run.ne_ended_of_poll? hpoll)
  | @going fails htaken hfails h hcount =>
    have hattempt := h.poll hb (Run.poll_of_poll? hpoll)
    have hmore : (s.work r now run).taken = s.taken ++ (s.run.reply? r now).toList := rfl
    cases hreply : s.run.reply? r now with
    | none =>
      rw [hreply] at hattempt hmore
      cases hattempt with
      | wait hnext _ hdue =>
        refine .going (hmore.trans (by simpa using htaken)) hfails hnext fun hne => ?_
        obtain ⟨n, hreach, hwithin⟩ := hcount hne
        exact ⟨n, hreach.of_le hdue, hwithin⟩
    | some answer =>
      rw [hreply] at hattempt hmore
      have htaken' : (s.work r now run).taken = before ++ (fails ++ [answer]) := by
        rw [hmore, ← List.append_assoc]
        exact congrArg (· ++ [answer]) htaken
      have hfails' : Fails answer → ∀ a ∈ fails ++ [answer], Fails a := by
        intro hanswer a ha
        rcases List.mem_append.1 ha with ha | ha
        · exact hfails a ha
        · rwa [List.mem_singleton.1 ha]
      -- The first failure fixes the budget; each other one takes one of the retries to come.
      have hcount' : answer.ready = now → s.run.due now ≤ now →
          ∃ n, InReach good n now ∧ WithinBudget good (fails ++ [answer]) n := by
        intro hready hdue
        refine exists_withinBudget_concat hready h.past fun hne => ?_
        obtain ⟨n, hreach, hwithin⟩ := hcount hne
        exact ⟨n, hreach.of_le hdue, hwithin⟩
      cases hattempt with
      | retry hf hready hdue hnext hless =>
        obtain ⟨n, hreach, hwithin⟩ := hcount' hready hdue
        obtain ⟨m, rfl, hreach'⟩ := hless n hreach
        exact .going htaken' (hfails' hf) hnext fun _ => ⟨m, hreach', hwithin⟩
      | @giveUp _ _ error hv hne hready hdue ht _ hqueue hgrace hleft =>
        obtain ⟨n, hreach, hwithin⟩ := hcount' hready hdue
        refine .gaveUp htaken' (hfails' ⟨error, hv, hne⟩)
          (fun first hfirst => le_trans (Nat.le_add_right _ n) (hwithin first hfirst)) ht
          List.getLast?_concat hv (Story.verdict_work hqueue) (hready ▸ hleft) ?_
        rintro hr ⟨a, hmem, -⟩
        have hne : s.taken ≠ [] :=
          List.ne_nil_of_mem (htaken ▸ List.mem_append_left fails hmem)
        obtain ⟨hfresh, hlate⟩ := htime.lt_remaining h (hopen hr) hdue hne
        rw [hready]
        exact (hgrace hfresh).symm ▸ hlate

/-- Time passes. -/
lemma Tally.wait {s : Story σ} {later : Instant} (h : Tally r P good before ⟨now, s⟩)
    (hpoll : s.run.poll? r now = none) (hle : now ≤ later)
    (hwake : ∀ t, s.run.watch.task.wake? = some t → now < t → later ≤ t) :
    Tally r P good before ⟨later, s⟩ := by
  cases h with
  | gaveUp htaken hfails hcount hend hlast hv hverdict hleft hlate =>
    exact .gaveUp htaken hfails hcount hend hlast hv hverdict hleft hlate
  | going htaken hfails h hcount =>
    obtain ⟨t, ht, hlt⟩ := h.exists_wake hpoll
    refine .going htaken hfails (h.wait hle fun u hu => ?_) fun hne => ?_
    · rw [ht] at hu
      cases hu
      exact hwake t ht hlt
    · have hdue : s.run.due later = s.run.due now := by simp [Run.due, ht]
      rw [hdue]
      exact hcount hne

/-- The owner asks for the next event. -/
lemma Tally.next {s : Story σ} (h : Tally r P good before ⟨now, s⟩) :
    Tally r P good before ⟨now, s.next⟩ := by
  obtain ⟨queue, finished, hrun⟩ := s.exists_next_run
  obtain ⟨htaken', hsent, -, -⟩ := Story.next_frame s
  cases h with
  | going htaken hfails h hcount =>
    refine .going (htaken'.trans htaken) hfails ?_ ?_ <;> rw [hrun]
    · exact h.of_take queue finished
    · exact hcount
  | gaveUp htaken hfails hcount hend hlast hv hverdict hleft hlate =>
    refine .gaveUp (htaken'.trans htaken) hfails hcount ?_ hlast hv ?_ ?_ ?_
    · simp only [watch, hrun]
      exact hend
    · simp only [Story.verdict, hsent]
      exact hverdict
    · simp only [watch, hrun]
      exact hleft
    · simp only [watch, hrun]
      exact hlate

variable {begun : Instant} {first : Lease} {config : Config} {others : σ}

/-- The last good lease of a watch has been obtained. -/
lemma obtained_le (h : Later r (start begun first config others) t)
    (hfirst : first.obtained ≤ begun) : t.watch.lastGood.obtained ≤ t.now := by
  refine h.induction (P := fun t => t.watch.lastGood.obtained ≤ t.now) hfirst fun t t' ht hstep => ?_
  cases hstep with
  | @work now s run hpoll =>
    have hp := Run.poll_of_poll? hpoll
    change run.watch.lastGood.obtained ≤ now
    rw [hp.lastGood_eq]
    cases hreply : s.run.reply? r now with
    | none => exact ht
    | some answer =>
      rw [hreply] at hp
      obtain ⟨ready, value, notes⟩ := answer
      cases value with
      | granted grant => exact hp.ready_le
      | failed => exact ht
      | crashed => exact ht
  | wait _ hle => exact le_trans ht hle
  | next now s =>
    obtain ⟨queue, finished, hrun⟩ := s.exists_next_run
    simp only [watch, hrun]
    exact ht
  | stop => exact ht

lemma Tally.later (hr : r.IsCausal) (hb : Barren r P)
    (hstart : Later r (start begun first config others) t) (ht : Tally r P good before t)
    (h : Later r t t') (hs : t'.watch.stopAsked = false) : Tally r P good before t' := by
  induction h with
  | refl => exact ht
  | @tail u _ hlater hstep ih =>
    have hu := ih (hstep.unasked hs)
    cases hstep with
    | work hpoll =>
      exact hu.work hb (onTime_of_later hr (hstart.trans hlater))
        (fun honce => not_renewing honce (hstart.trans hlater)) hpoll
    | wait hpoll hle hwake => exact hu.wait hpoll hle hwake
    | next => exact hu.next
    | stop => cases hs

/-- From some point on all renewals fail. -/
lemma failing_of_later (hr : r.IsCausal) (h : Later r (start begun first config others) t)
    (hfirst : first.obtained ≤ begun) (hrenewable : first.renewable = true)
    (hothers : P t.state.run.others)
    (hpending : ∀ pending, t.watch.task = .renewing pending →
      ∃ answer, pending = some answer ∧ Fails answer)
    (hunasked : t.watch.stopAsked = false) (hgoing : t.watch.task ≠ .ended) :
    Run.Failing P (first.afterReplies t.state.taken) t.now t.state.run where
  others := hothers
  unasked := hunasked
  renewable := (congrArg (·.renewable) (onTime_of_later hr h).lease).trans hrenewable
  lastGood := (onTime_of_later hr h).good
  past := (onTime_of_later hr h).good ▸ obtained_le h hfirst
  going := hgoing
  resting u hu := ((onTime_of_later hr h).resting u hu).1
  pending pending hp := by
    obtain ⟨answer, rfl, hfails⟩ := hpending pending hp
    exact ⟨answer, rfl, (onTime_of_later hr h).renewing answer hp, hfails⟩

/-- The error budget.  Let all renewals fail from some point on, after some replies, with answers
that may take their time.  Then the task ends by itself.  It ends with the error of the last reply;
at that moment its last good lease has the window and `longestRetry` left at most, and more than the
window but for a millisecond if a renewal had been granted before and answers come without delay.
The calls that fail are within the budget of what that lease had left when the first of them
failed. -/
theorem error_budget (hr : r.IsCausal) (hb : Barren r P)
    (h : Later r (start begun first config others) t) (hfirst : first.obtained ≤ begun)
    (hrenewable : first.renewable = true) (hothers : P t.state.run.others)
    (hpending : ∀ pending, t.watch.task = .renewing pending →
      ∃ answer, pending = some answer ∧ Fails answer)
    (hunasked : t.watch.stopAsked = false) (hgoing : t.watch.task ≠ .ended) :
    (∃ deadline fuel, ∀ d ≥ deadline, ∀ f ≥ fuel, ∃ t', Later r t t' ∧
      t'.IsAt ((Run.clocked r).runTo d f ⟨t.now, t.state.run⟩) ∧
      t'.watch.task = .ended ∧ t'.watch.stopAsked = false) ∧
    ∀ t', Later r t t' → t'.watch.stopAsked = false →
      ∃ fails, t'.state.taken = t.state.taken ++ fails ∧ (∀ a ∈ fails, Fails a) ∧
        (∀ a ∈ fails.head?,
          fails.length ≤ budget (first.afterReplies t.state.taken) a.ready) ∧
        (t'.watch.task = .ended → ∃ last error, fails.getLast? = some last ∧
          last.value = .failed error ∧ t'.state.verdict = .error (.renewalFailed error) ∧
          ((first.afterReplies t.state.taken).remaining last.ready).nanos ≤
            t'.watch.grace.nanos + longestRetry.nanos ∧
          (r.AnswersAtOnce → (∃ a ∈ t.state.taken, ∃ grant, a.value = .granted grant) →
            t'.watch.grace.nanos <
              ((first.afterReplies t.state.taken).remaining last.ready).nanos + milli)) := by
  have hfailing := failing_of_later hr h hfirst hrenewable hothers hpending hunasked hgoing
  constructor
  · obtain ⟨deadline, fuel, hover⟩ := hfailing.exists_over hb
    refine ⟨deadline, fuel, fun d hd f hf => ?_⟩
    obtain ⟨t', hlater, hat, -⟩ :=
      leadsTo_runTo d f ⟨t.now, t.state.run⟩ (r := r) (t := t) ⟨rfl, rfl⟩
    have hends := hover d hd f hf
    rw [← hat.2] at hends
    exact ⟨t', hlater, hat, hends⟩
  · intro t' hlater hunasked'
    have hstart : Tally r P (first.afterReplies t.state.taken) t.state.taken t :=
      .going (List.append_nil _).symm (by simp) hfailing (absurd rfl ·)
    cases hstart.later hr hb h hlater hunasked' with
    | @going fails htaken hfails hnext hcount =>
      refine ⟨fails, htaken, hfails, fun a ha => ?_, fun hend => absurd hend hnext.going⟩
      obtain ⟨n, -, hwithin⟩ := hcount (by rintro rfl; cases ha)
      exact le_trans (Nat.le_add_right _ _) (hwithin a ha)
    | @gaveUp fails last error htaken hfails hcount _ hlast hv hverdict hleft hlate =>
      exact ⟨fails, htaken, hfails, hcount,
        fun _ => ⟨last, error, hlast, hv, hverdict, hleft, hlate⟩⟩

/-- Renewals that are answered at once: the first gives another minute, and all others fail. -/
def lapsing : Renewer Bool where
  renew isFirst now _ _ :=
    (.answered now (if isFirst then .granted ⟨"token", none, [], .ofSeconds 60, true⟩
      else .failed .addressMissing), false)
  draw s := (3000000000, s)

lemma isCausal_lapsing : lapsing.IsCausal := by
  intro s now token increment answer h
  cases h
  exact Nat.le_refl now

lemma barren_lapsing : Barren lapsing (· = false) where
  renew := by
    rintro _ now token increment rfl
    exact ⟨rfl, _, rfl, Nat.le_refl now, .addressMissing, rfl, nofun⟩
  draw s hs := hs

/-- The watch ends with an error after eighteen calls that fail, or fewer. -/
theorem error_budget_lapsing :
    ∃ (t : Timeline Bool) (fails : List (Answer Renewal)) (error : VaultError),
      Later lapsing (start 0 minute ⟨none, none⟩ true) t ∧ t.watch.task = .ended ∧
      t.state.verdict = .error (.renewalFailed error) ∧
      t.state.taken.length = 1 + fails.length ∧ fails.length ≤ 18 := by
  have h : Later lapsing (start 0 minute ⟨none, none⟩ true) _ := .single (.work rfl)
  obtain ⟨⟨deadline, fuel, hends⟩, hbudget⟩ :=
    error_budget isCausal_lapsing barren_lapsing h (Nat.le_refl 0) rfl rfl nofun rfl nofun
  obtain ⟨t, hlater, -, hend, hunasked⟩ := hends _ (Nat.le_refl _) _ (Nat.le_refl _)
  obtain ⟨fails, htaken, -, hcount, hover⟩ := hbudget t hlater hunasked
  obtain ⟨last, error, -, -, hverdict, -⟩ := hover hend
  refine ⟨t, fails, error, h.trans hlater, hend, hverdict, ?_, ?_⟩
  · rw [htaken, List.length_append]
    rfl
  · cases fails with
    | nil => exact Nat.zero_le _
    | cons a fails =>
      refine le_trans (hcount a rfl) (Nat.add_le_add_right (Nat.div_le_of_le_mul ?_) 16)
      exact Nat.sub_le _ _

end Timeline
end Watch
end LeaseKeeper
