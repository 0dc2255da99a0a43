/-
# What the task of a watch does in one go

When the task runs, it obeys a request to stop, or finds that its lease cannot be renewed, or opens
the call that is due.  If the reply to its call has come, the task takes it and reacts in one of six
ways.  This file says so once: `poll_of_poll?` lists what one run of the task can do, and
`reaction_receive` how the watch looks after a reply.  On the other side of the queue,
`take_of_take?` lists what the owner can be handed.
-/
import LeaseKeeper.Proofs.Watch.Window
import LeaseKeeper.Watch.Task

namespace LeaseKeeper

/-- The answer to a call, if it has come by now. -/
def Answer.come? {α : Type} (now : Instant) (answer : Option (Answer α)) : Option (Answer α) :=
  answer.filter fun a => a.ready ≤ now

@[simp] lemma Answer.come?_eq_some {α : Type} {now : Instant} {answer : Option (Answer α)}
    {a : Answer α} : come? now answer = some a ↔ answer = some a ∧ a.ready ≤ now := by
  simp [come?, Option.filter_eq_some_iff]

lemma Answer.come?_of_le {α : Type} {now : Instant} {a : Answer α} (h : a.ready ≤ now) :
    come? now (some a) = some a :=
  come?_eq_some.mpr ⟨rfl, h⟩

namespace Watch

/-- The watch whose task has taken a renewed lease, but not decided how to go on. -/
def told (w : Watch) (renewed : Lease) : Watch :=
  { w with lastGood := renewed, queue := w.queue ++ [Event.renewed renewed] }

/-- The watch with another window and another time to live to compare with. -/
def moved (w : Watch) (grace prior : Duration) : Watch := { w with grace := grace, prior := prior }

/-- How a watch looks after its task has taken a reply. -/
inductive Reaction (now : Instant) (draw : ℕ) (w : Watch) : Answer Renewal → Watch → Prop
  /-- The call crashes the task. -/
  | crash {answer : Answer Renewal} (h : answer.value = .crashed) :
      Reaction now draw w answer w.crash
  /-- The lease is renewed, but cannot be renewed again. -/
  | spent {answer : Answer Renewal} {grant : Grant} (h : answer.value = .granted grant)
      (hr : grant.renewable = false) :
      Reaction now draw w answer ((w.told (grant.startingAt answer.ready)).finish cannotRenew)
  /-- The renewed lease is in its final window. -/
  | final {answer : Answer Renewal} {grant : Grant} {grace rest : Duration}
      (h : answer.value = .granted grant) (hr : grant.renewable = true)
      (hg : w.graceAfter? (grant.startingAt answer.ready) draw = some grace)
      (hn : nextRenewal? grant.ttl grace = some rest)
      (hf : grant.ttl.nanos - rest.nanos ≤ grace.nanos) :
      Reaction now draw w answer
        (((w.told (grant.startingAt answer.ready)).moved grace grant.ttl).finish (.ok ()))
  /-- The lease is renewed, and the task rests before it renews again. -/
  | rest {answer : Answer Renewal} {grant : Grant} {grace rest : Duration}
      (h : answer.value = .granted grant) (hr : grant.renewable = true)
      (hg : w.graceAfter? (grant.startingAt answer.ready) draw = some grace)
      (hn : nextRenewal? grant.ttl grace = some rest)
      (hf : grace.nanos < grant.ttl.nanos - rest.nanos) :
      Reaction now draw w answer
        (((w.told (grant.startingAt answer.ready)).moved grace grant.ttl).follow now (.rest rest))
  /-- The renewal fails, and the task gives up. -/
  | giveUp {answer : Answer Renewal} {error : VaultError} (h : answer.value = .failed error)
      (hf : error = .notRenewable ∨ ∃ rest,
        nextRenewal? (w.lastGood.remaining now) w.grace = some rest ∧
        (w.lastGood.remaining now).nanos - (rest.shorter longestRetry).nanos ≤ w.grace.nanos) :
      Reaction now draw w answer (w.finish (.error (.renewalFailed error)))
  /-- The renewal fails, and the task rests before it tries again. -/
  | retry {answer : Answer Renewal} {error : VaultError} {rest : Duration}
      (h : answer.value = .failed error) (hne : error ≠ .notRenewable)
      (hn : nextRenewal? (w.lastGood.remaining now) w.grace = some rest)
      (hf : w.grace.nanos <
        (w.lastGood.remaining now).nanos - (rest.shorter longestRetry).nanos) :
      Reaction now draw w answer (w.follow now (.rest (rest.shorter longestRetry)))

/-- The window that is in force after a renewal. -/
lemma exists_graceAfter? (w : Watch) (renewed : Lease) (draw : ℕ) :
    ∃ grace, w.graceAfter? renewed draw = some grace := by
  unfold graceAfter?
  split
  · exact exists_graceFor? w.config renewed.ttl draw
  · exact ⟨w.grace, rfl⟩

lemma reaction_accept (w : Watch) (now : Instant) (draw : ℕ) {answer : Answer Renewal}
    {grant : Grant} (h : answer.value = .granted grant) :
    Reaction now draw w answer (w.accept now (grant.startingAt answer.ready) draw).1 := by
  obtain ⟨grace, hg⟩ := exists_graceAfter? w (grant.startingAt answer.ready) draw
  obtain ⟨rest, hn⟩ := exists_nextRenewal? grant.ttl grace
  by_cases hr : grant.renewable = true
  · have hr' : (grant.startingAt answer.ready).renewable = true := hr
    have hn' : nextRenewal? (grant.startingAt answer.ready).ttl grace = some rest := hn
    by_cases hf : grant.ttl.nanos - rest.nanos ≤ grace.nanos
    · have hf' : isFinal (grant.startingAt answer.ready).ttl rest grace = true := isFinal_iff.2 hf
      simp only [accept, hr', hg, afterSuccess, hn', hf', if_true]
      exact .final h hr hg hn hf
    · have hf' : isFinal (grant.startingAt answer.ready).ttl rest grace ≠ true :=
        fun hc => hf (isFinal_iff.1 hc)
      simp only [accept, hr', hg, afterSuccess, hn', if_neg hf', if_true]
      exact .rest h hr hg hn (Nat.lt_of_not_le hf)
  · have hr' : (grant.startingAt answer.ready).renewable ≠ true := hr
    simp only [accept, if_neg hr']
    exact .spent h (Bool.eq_false_iff.2 hr)

lemma reaction_reject (w : Watch) (now : Instant) (draw : ℕ) {answer : Answer Renewal}
    {error : VaultError} (h : answer.value = .failed error) :
    Reaction now draw w answer (w.reject now error).1 := by
  obtain ⟨rest, hn⟩ := exists_nextRenewal? (w.lastGood.remaining now) w.grace
  by_cases hne : error = .notRenewable
  · subst hne
    simp only [reject, afterFailure, if_true]
    exact .giveUp h (Or.inl rfl)
  · by_cases hf : (w.lastGood.remaining now).nanos - (rest.shorter longestRetry).nanos
        ≤ w.grace.nanos
    · simp only [reject, afterFailure, if_neg hne, hn, isFinal_iff.2 hf, if_true]
      exact .giveUp h (Or.inr ⟨rest, hn, hf⟩)
    · have hf' : isFinal (w.lastGood.remaining now) (rest.shorter longestRetry) w.grace ≠ true :=
        fun hc => hf (isFinal_iff.1 hc)
      simp only [reject, afterFailure, if_neg hne, hn, if_neg hf']
      exact .retry h hne hn (Nat.lt_of_not_le hf)

/-- Two watches over one lease under one configuration, with the same owner. -/
structure SameTerms (w w' : Watch) : Prop where
  lease : w'.lease = w.lease
  config : w'.config = w.config
  stopAsked : w'.stopAsked = w.stopAsked
  finished : w'.finished = w.finished

lemma Reaction.sameTerms {now : Instant} {draw : ℕ} {w w' : Watch} {answer : Answer Renewal}
    (h : Reaction now draw w answer w') : SameTerms w w' := by
  cases h <;> exact ⟨rfl, rfl, rfl, rfl⟩

lemma SameTerms.trans {w₁ w₂ w₃ : Watch} (h : SameTerms w₁ w₂) (h' : SameTerms w₂ w₃) :
    SameTerms w₁ w₃ where
  lease := h'.lease.trans h.lease
  config := h'.config.trans h.config
  stopAsked := h'.stopAsked.trans h.stopAsked
  finished := h'.finished.trans h.finished

lemma SameTerms.increment {w w' : Watch} (h : SameTerms w w') : w'.increment = w.increment := by
  unfold Watch.increment
  rw [h.lease, h.config]

/-- Calls to renew the lease of a watch, and notes, all at one moment. -/
def IsWork (w : Watch) (now : Instant) (events : Trace) : Prop :=
  ∀ e ∈ events, e.1 = now ∧ (e.2 = .renew w.lease.token w.increment ∨ ∃ note, e.2 = .note note)

lemma IsWork.append {w : Watch} {now : Instant} {s t : Trace} (hs : IsWork w now s)
    (ht : IsWork w now t) : IsWork w now (s ++ t) := by
  intro e he
  rcases List.mem_append.mp he with he | he
  · exact hs e he
  · exact ht e he

lemma SameTerms.isWork {w w' : Watch} (h : SameTerms w w') {now : Instant} {events : Trace}
    (hw : IsWork w' now events) : IsWork w now events := by
  intro e he
  have hevent := hw e he
  rwa [h.lease, h.increment] at hevent

lemma isWork_ofNotes (w : Watch) (now : Instant) (notes : List Note) :
    IsWork w now (Trace.ofNotes now notes) := by
  intro e he
  simp only [Trace.ofNotes, List.mem_map] at he
  obtain ⟨note, -, rfl⟩ := he
  exact ⟨rfl, Or.inr ⟨note, rfl⟩⟩

/-- What the owner of a watch can be handed, and how that leaves the watch. -/
inductive Take (w : Watch) : Event → Watch → Prop
  /-- The owner has taken a terminal event before. -/
  | quiet (hf : w.finished = true) : Take w (.done (.ok ())) w
  /-- The oldest event of the queue. -/
  | queued {event : Event} {rest : List Event} (hf : w.finished = false)
      (hq : w.queue = event :: rest) :
      Take w event { w with queue := rest, finished := event.isDone }
  /-- The task has ended, and there is no event left. -/
  | lost (hf : w.finished = false) (hq : w.queue = []) (ht : w.task = .ended) :
      Take w (.done (.error .watchLost)) { w with finished := true }

@[simp] lemma Task.hasEnded_iff {task : Task} : task.hasEnded = true ↔ task = .ended := by
  cases task <;> simp [Task.hasEnded]

lemma take_of_take? {w w' : Watch} {event : Event} (h : w.take? = some (event, w')) :
    Take w event w' := by
  unfold take? at h
  split at h
  · rename_i hf
    cases h
    exact .quiet hf
  · rename_i hf
    rw [Bool.not_eq_true] at hf
    split at h
    · rename_i hq
      cases h
      exact .queued hf hq
    · rename_i hq
      split at h
      · rename_i ht
        cases h
        exact .lost hf hq (Task.hasEnded_iff.mp ht)
      · cases h

namespace Run

variable {σ : Type} {r : Renewer σ} {now : Instant}

/-- The reply to the open call, if it has come by now. -/
def come? (now : Instant) (s : Run σ) : Option (Answer Renewal) :=
  match s.watch.task with
  | .renewing answer => Answer.come? now answer
  | _ => none

lemma come?_eq_some {s : Run σ} {answer : Answer Renewal} :
    s.come? now = some answer ↔
      s.watch.task = .renewing (some answer) ∧ answer.ready ≤ now := by
  unfold come?
  cases s.watch.task <;> simp

/-- Whether the task has a call open, or may open one at this moment. -/
def isDue (now : Instant) (s : Run σ) : Bool :=
  match s.watch.task with
  | .fresh => s.watch.lease.renewable
  | .resting t => t ≤ now
  | .renewing _ => true
  | .ended => false

/-- The run with a call open. -/
def opened (r : Renewer σ) (now : Instant) (s : Run σ) : Run σ :=
  match s.watch.task with
  | .fresh => s.begin r now
  | .resting _ => s.call r now
  | _ => s

/-- The reply that the task takes at this moment: the one to the call that is open, or that it
opens now, if it has come. -/
def reply? (r : Renewer σ) (now : Instant) (s : Run σ) : Option (Answer Renewal) :=
  if !s.watch.stopAsked && s.isDue now then (s.opened r now).come? now else none

/-- What one run of the task can do, with the reply that it takes. -/
inductive Poll (r : Renewer σ) (now : Instant) (s : Run σ) :
    Option (Answer Renewal) → Run σ → Prop
  /-- The task was asked to stop. -/
  | stop (hs : s.watch.stopAsked = true) (he : s.watch.task ≠ .ended) :
      Poll r now s none { s with watch := s.watch.finish (.ok ()) }
  /-- The lease cannot be renewed. -/
  | refuse (hs : s.watch.stopAsked = false) (ht : s.watch.task = .fresh)
      (hr : s.watch.lease.renewable = false) :
      Poll r now s none { s with watch := s.watch.finish cannotRenew }
  /-- The task opens a call and has to wait. -/
  | wait (hs : s.watch.stopAsked = false) (hd : s.isDue now = true)
      (hc : (s.opened r now).come? now = none) : Poll r now s none (s.opened r now)
  /-- The task takes the reply to its call. -/
  | take {answer : Answer Renewal} (hs : s.watch.stopAsked = false) (hd : s.isDue now = true)
      (hc : (s.opened r now).come? now = some answer) :
      Poll r now s (some answer) ((s.opened r now).receive r now answer)

lemma settle_eq (s : Run σ) :
    s.settle r now = match s.come? now with
      | some answer => s.receive r now answer
      | none => s := by
  unfold settle come?
  cases ht : s.watch.task with
  | renewing answer =>
    cases answer with
    | none => rfl
    | some answer =>
      by_cases hle : answer.ready ≤ now
      · simp [Answer.come?, Option.filter, hle]
      · simp [Answer.come?, Option.filter, hle]
  | _ => rfl

/-- A task that may open a call opens it, and takes the reply if it has come. -/
lemma poll_settle {s : Run σ} (hs : s.watch.stopAsked = false) (hd : s.isDue now = true) :
    Poll r now s (s.reply? r now) ((s.opened r now).settle r now) := by
  rw [settle_eq]
  simp only [reply?, hs, hd, Bool.not_false, Bool.and_self, if_true]
  cases hc : (s.opened r now).come? now with
  | none => exact .wait hs hd hc
  | some answer => exact .take hs hd hc

/-- Whatever the task does when it runs is one of these. -/
lemma poll_of_poll? {s s' : Run σ} (h : s.poll? r now = some s') :
    Poll r now s (s.reply? r now) s' := by
  unfold poll? at h
  by_cases hs : s.watch.stopAsked = true
  · have hnone : s.reply? r now = none := by simp [reply?, hs]
    rw [hnone]
    split at h
    · cases h
    · rename_i he
      rw [if_pos hs] at h
      cases h
      exact .stop hs he
  · rw [Bool.not_eq_true] at hs
    -- `isDue` and `opened` follow the task as `poll?` does, so what is left is `poll_settle`.
    cases ht : s.watch.task with
    | ended => simp [ht] at h
    | fresh =>
      simp only [ht, hs, Bool.false_eq_true, if_false] at h
      split at h
      · rename_i hr
        cases h
        have hopen : s.opened r now = s.begin r now := by simp only [opened, ht]
        rw [← hopen]
        exact poll_settle hs (by simpa only [isDue, ht] using hr)
      · rename_i hr
        cases h
        rw [Bool.not_eq_true] at hr
        have hnone : s.reply? r now = none := by simp [reply?, isDue, ht, hr]
        rw [hnone]
        exact .refuse hs ht hr
    | resting t =>
      simp only [ht, hs, Bool.false_eq_true, if_false] at h
      split at h
      · rename_i hle
        cases h
        have hopen : s.opened r now = s.call r now := by simp only [opened, ht]
        rw [← hopen]
        exact poll_settle hs (by simpa only [isDue, ht, decide_eq_true_eq] using hle)
      · cases h
    | renewing answer =>
      have hopen : s.opened r now = s := by simp only [opened, ht]
      have hd : s.isDue now = true := by simp only [isDue, ht]
      cases answer with
      | none => simp [ht, hs] at h
      | some answer =>
        simp only [ht, hs, Bool.false_eq_true, if_false] at h
        split at h
        · rename_i hle
          cases h
          have hsettle : s.receive r now answer = (s.opened r now).settle r now := by
            rw [hopen]
            simp only [settle, ht, if_pos hle]
          rw [hsettle]
          exact poll_settle hs hd
        · cases h

/-- A task that runs has not ended. -/
lemma ne_ended_of_poll? {s s' : Run σ} (h : s.poll? r now = some s') :
    s.watch.task ≠ .ended := by
  intro ht
  simp [poll?, ht] at h

/-- A task that cannot go on takes no reply. -/
lemma reply?_eq_none {s : Run σ} (h : s.poll? r now = none) : s.reply? r now = none := by
  by_cases hs : s.watch.stopAsked = true
  · simp [reply?, hs]
  · rw [Bool.not_eq_true] at hs
    cases ht : s.watch.task with
    | ended => simp [reply?, isDue, ht]
    | fresh =>
      simp only [poll?, ht, hs, Bool.false_eq_true, if_false] at h
      split at h <;> cases h
    | resting t =>
      simp only [poll?, ht, hs, Bool.false_eq_true, if_false] at h
      split at h
      · cases h
      · rename_i hlt
        simp [reply?, isDue, ht, hlt]
    | renewing answer =>
      cases answer with
      | none => simp [reply?, isDue, ht, opened, come?, Answer.come?]
      | some answer =>
        simp only [poll?, ht, hs, Bool.false_eq_true, if_false] at h
        split at h
        · cases h
        · rename_i hlt
          simp [reply?, isDue, ht, opened, come?, Answer.come?, Option.filter, hlt]

/-- A task that opens a call changes nothing but what it is doing and, when it is fresh, its
window. -/
lemma exists_opened_watch (r : Renewer σ) (now : Instant) (s : Run σ) :
    ∃ grace task, (s.opened r now).watch = { s.watch with grace := grace, task := task } ∧
      (s.watch.task ≠ .fresh ∧ grace = s.watch.grace ∨
        ∃ draw, s.watch.config.graceFor? s.watch.lease.ttl draw = some grace) := by
  cases ht : s.watch.task with
  | fresh =>
    obtain ⟨grace, hg⟩ :=
      exists_graceFor? s.watch.config s.watch.lease.ttl (r.draw s.others).1
    refine ⟨grace, (s.begin r now).watch.task, ?_, Or.inr ⟨_, hg⟩⟩
    simp only [opened, ht, begin, hg, call]
  | resting t =>
    refine ⟨s.watch.grace, (s.call r now).watch.task, ?_, Or.inl ⟨by simp, rfl⟩⟩
    simp only [opened, ht, call]
  | renewing answer =>
    have hopen : s.opened r now = s := by simp only [opened, ht]
    exact ⟨s.watch.grace, s.watch.task, by rw [hopen], Or.inl ⟨by simp, rfl⟩⟩
  | ended =>
    have hopen : s.opened r now = s := by simp only [opened, ht]
    exact ⟨s.watch.grace, s.watch.task, by rw [hopen], Or.inl ⟨by simp, rfl⟩⟩

/-- Only a fresh task chooses a window when it opens a call. -/
lemma grace_opened (r : Renewer σ) (now : Instant) {s : Run σ} (ht : s.watch.task ≠ .fresh) :
    (s.opened r now).watch.grace = s.watch.grace := by
  unfold opened
  split
  · rename_i hfresh
    exact absurd hfresh ht
  · rfl
  · rfl

/-- A task that may open a call has one open then. -/
lemma exists_opened_task {s : Run σ} (hd : s.isDue now = true) :
    ∃ answer, (s.opened r now).watch.task = .renewing answer := by
  cases ht : s.watch.task with
  | fresh =>
    obtain ⟨grace, hg⟩ :=
      exists_graceFor? s.watch.config s.watch.lease.ttl (r.draw s.others).1
    simp only [opened, ht, begin, hg]
    exact ⟨_, rfl⟩
  | resting t =>
    simp only [opened, ht]
    exact ⟨_, rfl⟩
  | renewing answer => exact ⟨answer, by simp only [opened, ht]⟩
  | ended => simp [isDue, ht] at hd

lemma queue_opened (r : Renewer σ) (now : Instant) (s : Run σ) :
    (s.opened r now).watch.queue = s.watch.queue := by
  obtain ⟨grace, task, hopen, -⟩ := exists_opened_watch r now s
  rw [hopen]

/-- A task that may open a call has one open already, or asks its collaborators, perhaps after a
draw. -/
lemma opened_cases (r : Renewer σ) {s : Run σ} (hd : s.isDue now = true) :
    s.opened r now = s ∨ (∀ pending, s.watch.task ≠ .renewing pending) ∧
      ∃ others, (others = s.others ∨ others = (r.draw s.others).2) ∧
        (s.opened r now).watch.task = .renewing
          (r.renew others now s.watch.lease.token s.watch.increment).1.answer ∧
        (s.opened r now).others =
          (r.renew others now s.watch.lease.token s.watch.increment).2 := by
  cases htask : s.watch.task with
  | fresh =>
    obtain ⟨grace, hg⟩ :=
      exists_graceFor? s.watch.config s.watch.lease.ttl (r.draw s.others).1
    refine Or.inr ⟨by simp, (r.draw s.others).2, Or.inr rfl, ?_⟩
    simp only [opened, htask, begin, hg]
    exact ⟨rfl, rfl⟩
  | resting t =>
    refine Or.inr ⟨by simp, s.others, Or.inl rfl, ?_⟩
    simp only [opened, htask]
    exact ⟨rfl, rfl⟩
  | renewing pending => exact Or.inl (by simp only [opened, htask])
  | ended => simp [isDue, htask] at hd

/-- Opening a call adds work to the trace. -/
lemma exists_opened_trace (r : Renewer σ) (now : Instant) (s : Run σ) :
    ∃ work, (s.opened r now).trace = s.trace ++ work ∧ IsWork s.watch now work := by
  -- A new task has set its window before the call, which changes neither lease nor trace.
  have hcall : ∀ s' : Run σ, s'.watch.lease = s.watch.lease → s'.watch.config = s.watch.config →
      s'.trace = s.trace →
      ∃ work, (s'.call r now).trace = s.trace ++ work ∧ IsWork s.watch now work := by
    intro s' hlease hconfig htrace
    refine ⟨_, by rw [← htrace]; rfl, ?_⟩
    have hinc : s'.watch.increment = s.watch.increment := by
      simp only [increment, hlease, hconfig]
    rw [hlease, hinc]
    exact IsWork.append (s := [_]) (by simp [IsWork]) (isWork_ofNotes _ _ _)
  unfold opened
  split
  · obtain ⟨grace, hg⟩ :=
      exists_graceFor? s.watch.config s.watch.lease.ttl (r.draw s.others).1
    simp only [begin, hg]
    exact hcall _ rfl rfl rfl
  · exact hcall s rfl rfl rfl
  · exact ⟨[], (List.append_nil _).symm, by simp [IsWork]⟩

/-- The watch reacts to the reply that its task takes. -/
lemma reaction_receive (r : Renewer σ) (now : Instant) (answer : Answer Renewal) (s : Run σ) :
    Reaction now (r.draw s.others).1 s.watch answer (s.receive r now answer).watch := by
  unfold receive
  cases h : answer.value with
  | crashed => exact .crash h
  | failed error => exact reaction_reject s.watch now _ h
  | granted grant => exact reaction_accept s.watch now _ h

/-- To take a reply adds notes to the trace. -/
lemma exists_receive_trace (r : Renewer σ) (now : Instant) (answer : Answer Renewal) (s : Run σ) :
    ∃ work, (s.receive r now answer).trace = s.trace ++ work ∧ IsWork s.watch now work := by
  unfold receive
  cases answer.value with
  | crashed => exact ⟨_, rfl, isWork_ofNotes _ _ _⟩
  | failed error =>
    exact ⟨_, List.append_assoc _ _ _, (isWork_ofNotes _ _ _).append (isWork_ofNotes _ _ _)⟩
  | granted grant =>
    exact ⟨_, List.append_assoc _ _ _, (isWork_ofNotes _ _ _).append (isWork_ofNotes _ _ _)⟩

lemma Poll.sameTerms {s s' : Run σ} {reply : Option (Answer Renewal)}
    (h : Poll r now s reply s') : SameTerms s.watch s'.watch := by
  obtain ⟨grace, task, hopen, -⟩ := exists_opened_watch r now s
  cases h with
  | stop => exact ⟨rfl, rfl, rfl, rfl⟩
  | refuse => exact ⟨rfl, rfl, rfl, rfl⟩
  | wait =>
    rw [hopen]
    exact ⟨rfl, rfl, rfl, rfl⟩
  | @take answer hs hd hc =>
    have hreact := (reaction_receive r now answer (s.opened r now)).sameTerms
    rw [hopen] at hreact
    exact ⟨hreact.lease, hreact.config, hreact.stopAsked, hreact.finished⟩

/-- One run of the task adds work to the trace. -/
lemma Poll.exists_trace {s s' : Run σ} {reply : Option (Answer Renewal)}
    (h : Poll r now s reply s') :
    ∃ work, s'.trace = s.trace ++ work ∧ IsWork s.watch now work := by
  cases h with
  | stop => exact ⟨[], (List.append_nil _).symm, by simp [IsWork]⟩
  | refuse => exact ⟨[], (List.append_nil _).symm, by simp [IsWork]⟩
  | wait => exact exists_opened_trace r now s
  | @take answer hs hd hc =>
    obtain ⟨calls, hcalls, hwork⟩ := exists_opened_trace r now s
    obtain ⟨notes, hnotes, hwork'⟩ := exists_receive_trace r now answer (s.opened r now)
    refine ⟨calls ++ notes, by rw [hnotes, hcalls, List.append_assoc], hwork.append ?_⟩
    obtain ⟨grace, task, hopen, -⟩ := exists_opened_watch r now s
    rw [hopen] at hwork'
    exact hwork'

end Run
end Watch
end LeaseKeeper
