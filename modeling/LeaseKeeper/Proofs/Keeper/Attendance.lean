/-
# What is shown while a lease is watched

While the keeper watches a lease, the task of the watch opens one call after the other, and the
keeper reports the renewals in the order in which they were granted.  The events that the keeper
has not taken are the renewals that it still owes a report.  When the task has ended no call is
open, and the keeper reports what it owes before it takes the terminal event.
-/
import LeaseKeeper.Proofs.Keeper.Chronicle
import LeaseKeeper.Proofs.Watch.Stream

namespace LeaseKeeper

namespace Watch

/-- Whether a call of the task waits for its reply. -/
def Task.isOpen : Task → Bool
  | renewing _ => true
  | _ => false

variable {σ : Type} {r : Renewer σ} {now : Instant}

lemma Reaction.isOpen_eq {draw : ℕ} {w w' : Watch} {answer : Answer Renewal}
    (h : Reaction now draw w answer w') : w'.task.isOpen = false := by
  cases h <;> rfl

namespace Run

/-- The calls that the task begins when it runs. -/
def calls (now : Instant) (s : Run σ) : List Keeper.Entry :=
  if !s.watch.stopAsked && s.isDue now && !s.watch.task.isOpen then
    [(now, .shown (.renew s.watch.lease.token s.watch.increment))]
  else []

lemma exists_opened_shown (s : Run σ) (hs : s.watch.stopAsked = false)
    (hd : s.isDue now = true) :
    ∃ work, (s.opened r now).trace = s.trace ++ work ∧ Keeper.shownOf work = s.calls now := by
  have hcall : ∀ notes, Keeper.shownOf ((now, .renew s.watch.lease.token s.watch.increment) ::
      Trace.ofNotes now notes) =
        [(now, .shown (.renew s.watch.lease.token s.watch.increment))] := by
    intro notes
    simp [Keeper.shownOf_cons, Happening.isShown]
  cases ht : s.watch.task with
  | fresh =>
    obtain ⟨grace, hg⟩ :=
      exists_graceFor? s.watch.config s.watch.lease.ttl (r.draw s.others).1
    simp only [opened, ht, begin, hg]
    refine ⟨_, rfl, ?_⟩
    simp only [calls, hs, hd, ht]
    exact hcall _
  | resting t =>
    simp only [opened, ht]
    refine ⟨_, rfl, ?_⟩
    simp only [calls, hs, hd, ht]
    exact hcall _
  | renewing answer =>
    refine ⟨[], ?_, ?_⟩
    · simp only [opened, ht, List.append_nil]
    · simp [calls, ht, Task.isOpen]
  | ended => simp [isDue, ht] at hd

lemma exists_receive_shown (now : Instant) (answer : Answer Renewal) (s : Run σ) :
    ∃ work, (s.receive r now answer).trace = s.trace ++ work ∧ Keeper.shownOf work = [] := by
  unfold receive
  cases answer.value with
  | crashed => exact ⟨_, rfl, by simp⟩
  | failed error => exact ⟨_, List.append_assoc _ _ _, by simp⟩
  | granted grant => exact ⟨_, List.append_assoc _ _ _, by simp⟩

/-- The task shows nothing but the call that it begins. -/
lemma Poll.exists_shown {s s' : Run σ} {reply : Option (Answer Renewal)}
    (h : Poll r now s reply s') :
    ∃ work, s'.trace = s.trace ++ work ∧ Keeper.shownOf work = s.calls now := by
  cases h with
  | stop hs => exact ⟨[], (List.append_nil _).symm, by simp [calls, hs]⟩
  | refuse hs ht hr => exact ⟨[], (List.append_nil _).symm, by simp [calls, isDue, ht, hr]⟩
  | wait hs hd => exact exists_opened_shown s hs hd
  | @take answer hs hd =>
    obtain ⟨work, htrace, hwork⟩ := exists_opened_shown (r := r) s hs hd
    obtain ⟨notes, hnotes, hsilent⟩ := exists_receive_shown (r := r) now answer (s.opened r now)
    refine ⟨work ++ notes, ?_, ?_⟩
    · rw [hnotes, htrace, List.append_assoc]
    · rw [Keeper.shownOf_append, hwork, hsilent, List.append_nil]

end Run
end Watch

namespace Keeper

/-- The increment that a keeper asks for when it renews a lease. -/
def Plan.increment (plan : Plan) (lease : Lease) : Duration :=
  plan.watch.increment.getD lease.ttl

def granted (answer : Answer Renewal) : List Lease :=
  match answer.value with
  | .granted grant => [grant.startingAt answer.ready]
  | _ => []

lemma renewals_singleton (answer : Answer Renewal) :
    Watch.renewals [answer] = (granted answer).map .renewed := by
  unfold Watch.renewals Watch.renewal? granted
  cases h : answer.value <;> simp [h]

def reports (now : Instant) (leases : List Lease) : List Entry :=
  leases.map fun lease => (now, .shown (.report (.tokenRenewed lease)))

lemma reports_append (now : Instant) (leases more : List Lease) :
    reports now (leases ++ more) = reports now leases ++ reports now more := List.map_append

/-- The calls to renew a lease with their replies, and the reports in between, of which each is about
the oldest renewal that was not reported.  It is noted whether the last call waits for its reply,
and which renewals were granted but not reported yet. -/
inductive Tending (plan : Plan) (lease : Lease) : Bool → List Lease → List Entry → Prop
  | nothing : Tending plan lease false [] []
  | call {owed : List Lease} {l : List Entry} (t : Instant) (h : Tending plan lease false owed l) :
      Tending plan lease true owed
        (l ++ [(t, .shown (.renew lease.token (plan.increment lease)))])
  | reply {owed : List Lease} {l : List Entry} (t : Instant) (answer : Answer Renewal)
      (h : Tending plan lease true owed l) :
      Tending plan lease false (owed ++ granted answer)
        (l ++ [(t, .heard (.renewal lease.token answer))])
  | report {isOpen : Bool} {renewed : Lease} {owed : List Lease} {l : List Entry} (t : Instant)
      (h : Tending plan lease isOpen (renewed :: owed) l) :
      Tending plan lease isOpen owed (l ++ reports t [renewed])

/-- What a task that has ended leaves in the queue: the renewals that the keeper owes a report, and
behind them its last word, unless this is lost. -/
def Leaves (owed : List Lease) (verdict : Except VaultError Unit)
    (queue : List Watch.Event) : Prop :=
  queue = owed.map .renewed ++ [.done verdict] ∨
    queue = owed.map .renewed ∧ verdict = .error .watchLost

/-- What has happened while a keeper watches a lease: the events of the queue are what the keeper
still owes, and once the task has ended, they are what it has left.  What the keeper has reported
since then it has reported at the same moment. -/
inductive Attends (plan : Plan) (now : Instant) (w : Watch) : List Entry → Prop
  | going {owed : List Lease} {l : List Entry}
      (hl : Tending plan w.lease w.task.isOpen owed l) (hq : w.queue = owed.map .renewed)
      (ht : w.task ≠ .ended) : Attends plan now w l
  | ended {told owed : List Lease} {verdict : Except VaultError Unit} {l : List Entry}
      (hl : Tending plan w.lease false (told ++ owed) l) (ht : w.task = .ended)
      (hq : Leaves owed verdict w.queue) :
      Attends plan now w (l ++ (now, .ended verdict) :: reports now told)

variable {σ : Type} {plan : Plan} {now : Instant}

/-- An open call, or one that the task begins now. -/
lemma Tending.calls {s : Watch.Run σ} {owed : List Lease} {l : List Entry}
    (h : Tending plan s.watch.lease s.watch.task.isOpen owed l)
    (hconfig : s.watch.config = plan.watch) (hs : s.watch.stopAsked = false)
    (hd : s.isDue now = true) : Tending plan s.watch.lease true owed (l ++ s.calls now) := by
  have hinc : s.watch.increment = plan.increment s.watch.lease := by
    rw [Watch.increment, hconfig, Plan.increment]
  unfold Watch.Run.calls
  cases ho : s.watch.task.isOpen with
  | true =>
    rw [ho] at h
    simpa using h
  | false =>
    rw [ho] at h
    simp only [hs, hd, Bool.not_false, Bool.and_self, if_true, hinc]
    exact h.call now

/-- A queue that ends with renewals says nothing about the end of the task. -/
lemma lastWord_of_renewed {w : Watch} {owed : List Lease} (hq : w.queue = owed.map .renewed) :
    w.lastWord = .error .watchLost := by
  unfold Watch.lastWord
  rw [hq, List.getLast?_map]
  cases owed.getLast? <;> rfl

lemma lastWord_of_done {w : Watch} {events : List Watch.Event} {result : Except VaultError Unit}
    (hq : w.queue = events ++ [.done result]) : w.lastWord = result := by
  simp [Watch.lastWord, hq]

lemma taskEnd?_watching {w w' : Watch} (ht : w.task ≠ .ended) :
    taskEnd? (.watching w) (.watching w') =
      if w'.task.hasEnded then some (.ended w'.lastWord) else none := by
  have hfalse : w.task.hasEnded = false :=
    Bool.eq_false_iff.2 fun h => ht (Watch.Task.hasEnded_iff.mp h)
  simp only [taskEnd?, hfalse]
  cases w'.task.hasEnded <;> simp

/-- When the task ends, the keeper owes what it has not reported. -/
lemma Tending.ended {w : Watch} {owed : List Lease} {verdict : Except VaultError Unit}
    {l : List Entry} (hl : Tending plan w.lease false owed l) (ht : w.task = .ended)
    (hq : Leaves owed verdict w.queue) : Attends plan now w (l ++ [(now, .ended verdict)]) := by
  have hnone : Tending plan w.lease false ([] ++ owed) l := hl
  exact .ended hnone ht hq

/-- The task goes on, or ends, after it has sent some events. -/
lemma Tending.attends {w w' : Watch} {l : List Entry} {owed : List Lease} (now : Instant)
    (more : List Lease) {replies : List (Answer Renewal)} {new : List Watch.Event}
    (hl : Tending plan w'.lease w'.task.isOpen (owed ++ more) l)
    (ht : w.task ≠ .ended) (hq : w.queue = owed.map .renewed)
    (hqueue : w'.queue = w.queue ++ new) (hout : Watch.Output replies w'.task new)
    (hmore : Watch.renewals replies = more.map .renewed) :
    Attends plan now w' (l ++
      (taskEnd? (.watching w) (.watching w')).toList.map fun deed => (now, deed)) := by
  rw [taskEnd?_watching ht]
  have hsent : ∀ rest, new = Watch.renewals replies ++ rest →
      w'.queue = (owed ++ more).map .renewed ++ rest := by
    intro rest hrest
    rw [hqueue, hq, hrest, hmore, List.map_append, List.append_assoc]
  generalize htask : w'.task = task at hout hl
  cases hout with
  | going hc hne =>
    have hgoing : task.hasEnded = false :=
      Bool.eq_false_iff.2 fun h => hne (Watch.Task.hasEnded_iff.mp h)
    rw [hgoing]
    simp only [Bool.false_eq_true, if_false, Option.toList_none, List.map_nil, List.append_nil]
    have hend : w'.queue = (owed ++ more).map .renewed := by
      simpa using hsent [] (List.append_nil _).symm
    rw [← htask] at hl hne
    exact .going hl hend hne
  | @told result hc hv =>
    have hend := hsent [.done result] rfl
    rw [lastWord_of_done hend]
    exact hl.ended htask (Or.inl hend)
  | lost hc =>
    have hend : w'.queue = (owed ++ more).map .renewed := by
      simpa using hsent [] (List.append_nil _).symm
    rw [lastWord_of_renewed hend]
    exact hl.ended htask (Or.inr ⟨hend, rfl⟩)

/-- What happens when the task of a watch runs. -/
lemma Attends.work {r : Renewer σ} {s s' : Watch.Run σ} {reply : Option (Answer Renewal)}
    (hpoll : Watch.Run.Poll r now s reply s') {l : List Entry} (h : Attends plan now s.watch l)
    (hconfig : s.watch.config = plan.watch) (hstop : s.watch.stopAsked = false) :
    Attends plan now s'.watch (l ++ (s.calls now ++
      reply.toList.map (fun a => (now, .heard (.renewal s.watch.lease.token a))) ++
      (taskEnd? (.watching s.watch) (.watching s'.watch)).toList.map fun deed => (now, deed))) := by
  obtain ⟨new, hqueue, hout⟩ := hpoll.output
  obtain ⟨grace, task, hopen, -⟩ := Watch.Run.exists_opened_watch r now s
  cases h with
  | ended hl ht hq =>
    -- A task that has ended does not run.
    cases hpoll with
    | stop hs => rw [hstop] at hs; cases hs
    | refuse _ hfresh => rw [ht] at hfresh; cases hfresh
    | wait _ hd => simp [Watch.Run.isDue, ht] at hd
    | take _ hd => simp [Watch.Run.isDue, ht] at hd
  | @going owed _ hl hq ht =>
    cases hpoll with
    | stop hs => rw [hstop] at hs; cases hs
    | refuse _ hfresh hr =>
      have hcalls : s.calls now = [] := by simp [Watch.Run.calls, Watch.Run.isDue, hfresh, hr]
      rw [hfresh] at hl
      have htended : Tending plan (s.watch.finish Watch.cannotRenew).lease
          (s.watch.finish Watch.cannotRenew).task.isOpen (owed ++ []) l := by
        rw [List.append_nil]
        exact hl
      have hattends := htended.attends now [] ht hq hqueue hout rfl
      simpa [hcalls] using hattends
    | wait _ hd hc =>
      have hcalled := hl.calls hconfig hstop hd
      obtain ⟨answer, htask⟩ := Watch.Run.exists_opened_task (r := r) hd
      have htended : Tending plan (s.opened r now).watch.lease
          (s.opened r now).watch.task.isOpen (owed ++ []) (l ++ s.calls now) := by
        rw [htask, List.append_nil, hopen]
        exact hcalled
      have hattends := htended.attends now [] ht hq hqueue hout rfl
      simpa using hattends
    | @take answer _ hd hc =>
      have hcalled := (hl.calls hconfig hstop hd).reply now answer
      have hreact := Watch.Run.reaction_receive r now answer (s.opened r now)
      have hlease : ((s.opened r now).receive r now answer).watch.lease = s.watch.lease := by
        rw [hreact.sameTerms.lease, hopen]
      rw [← hlease, ← hreact.isOpen_eq] at hcalled
      have hattends := hcalled.attends now (granted answer) ht hq hqueue hout
        (renewals_singleton answer)
      rw [hlease] at hattends
      simpa using hattends

/-- The first event that a task leaves is its last word only when nothing is owed. -/
lemma Leaves.cases {owed : List Lease} {verdict : Except VaultError Unit} {event : Watch.Event}
    {rest : List Watch.Event} (h : Leaves owed verdict (event :: rest)) :
    (owed = [] ∧ event = .done verdict) ∨
      ∃ lease more, owed = lease :: more ∧ event = .renewed lease ∧ Leaves more verdict rest := by
  cases owed with
  | nil =>
    rcases h with h | ⟨h, -⟩
    · obtain ⟨rfl, -⟩ := List.cons.inj h
      exact Or.inl ⟨rfl, rfl⟩
    · cases h
  | cons lease more =>
    rcases h with h | ⟨h, hlost⟩
    · obtain ⟨rfl, hrest⟩ := List.cons.inj h
      exact Or.inr ⟨lease, more, rfl, rfl, Or.inl hrest⟩
    · obtain ⟨rfl, hrest⟩ := List.cons.inj h
      exact Or.inr ⟨lease, more, rfl, rfl, Or.inr ⟨hrest, hlost⟩⟩

/-- A task that leaves nothing has lost its last word. -/
lemma Leaves.of_nil {owed : List Lease} {verdict : Except VaultError Unit}
    (h : Leaves owed verdict []) : owed = [] ∧ verdict = .error .watchLost := by
  rcases h with h | ⟨h, hlost⟩
  · simp at h
  · cases owed with
    | nil => exact ⟨rfl, hlost⟩
    | cons lease owed => cases h

/-- What the keeper takes: the oldest renewal that it owes a report, or, when it owes none, the
last word of the task at the moment at which the task ended. -/
lemma Attends.take {w w' : Watch} {event : Watch.Event} (htake : w.take? = some (event, w'))
    (hfinished : w.finished = false) {l : List Entry} (h : Attends plan now w l) :
    (∃ lease, event = .renewed lease ∧ w'.finished = false ∧
        Attends plan now w' (l ++ reports now [lease])) ∨
      ∃ verdict told tended, event = .done verdict ∧ Tending plan w.lease false told tended ∧
        l = tended ++ (now, .ended verdict) :: reports now told := by
  cases Watch.take_of_take? htake with
  | quiet hf => rw [hfinished] at hf; cases hf
  | @queued _ rest hf hqueue =>
    cases h with
    | @going owed _ hl hq ht =>
      rw [hqueue] at hq
      cases owed with
      | nil => cases hq
      | cons lease owed =>
        obtain ⟨rfl, hrest⟩ := List.cons.inj hq
        exact Or.inl ⟨lease, rfl, rfl, .going (hl.report now) hrest ht⟩
    | @ended told owed verdict tended hl ht hq =>
      rw [hqueue] at hq
      rcases hq.cases with ⟨rfl, rfl⟩ | ⟨lease, more, rfl, rfl, hrest⟩
      · rw [List.append_nil] at hl
        exact Or.inr ⟨verdict, told, tended, rfl, hl, rfl⟩
      · -- The report is one more after the end of the task.
        have hmore : Tending plan w.lease false ((told ++ [lease]) ++ more) tended := by
          simpa using hl
        refine Or.inl ⟨lease, rfl, rfl, ?_⟩
        rw [List.append_assoc, List.cons_append, ← reports_append]
        exact .ended hmore ht hrest
  | lost hf hqueue ht =>
    cases h with
    | going hl hq hne => exact absurd ht hne
    | @ended told owed verdict tended hl _ hq =>
      rw [hqueue] at hq
      obtain ⟨rfl, rfl⟩ := hq.of_nil
      rw [List.append_nil] at hl
      exact Or.inr ⟨_, told, tended, rfl, hl, rfl⟩

/-- The clock goes on only while the task does, since there is something to take after that. -/
lemma Attends.wait {w : Watch} {l : List Entry} {later : Instant} (h : Attends plan now w l)
    (hfinished : w.finished = false) (htake : w.take? = none) : Attends plan later w l := by
  cases h with
  | going hl hq ht => exact .going hl hq ht
  | ended hl ht hq =>
    cases hqueue : w.queue with
    | nil => simp [Watch.take?, hfinished, hqueue, ht, Watch.Task.hasEnded] at htake
    | cons event rest => simp [Watch.take?, hfinished, hqueue] at htake

end Keeper
end LeaseKeeper
