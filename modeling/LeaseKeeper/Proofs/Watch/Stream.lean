/-
# The stream of events of a watch

The task of a watch and its owner meet in a queue only.  The task runs at any moment at which it
can, and the owner asks for events and asks the task to stop at any moment in between.  Whatever
their order, the owner is handed one event for each renewed lease, in the order of the replies,
then one terminal event, then the quiet end for ever.
-/
import LeaseKeeper.Proofs.Watch.Reaction
import LeaseKeeper.Watch.Session
import Mathlib.Data.List.Infix
import Mathlib.Logic.Relation

namespace LeaseKeeper
namespace Watch

open Relation

/-! ### What a task sends -/

/-- The event that a reply to a renewal call makes: only a renewed lease makes one. -/
def renewal? (reply : Answer Renewal) : Option Event :=
  match reply.value with
  | .granted grant => some (.renewed (grant.startingAt reply.ready))
  | _ => none

/-- One event for each renewed lease, in the order of the replies. -/
def renewals (replies : List (Answer Renewal)) : List Event := replies.filterMap renewal?

/-- How a task that says how it ends can end. -/
def IsVerdict (result : Except VaultError Unit) : Prop :=
  result = .ok () ∨ ∃ cause, result = .error (.renewalFailed cause)

lemma IsVerdict.ne_watchLost {result : Except VaultError Unit} (h : IsVerdict result) :
    result ≠ .error .watchLost := by
  rcases h with rfl | ⟨cause, rfl⟩ <;> simp

/-- What a task has sent, by the replies it took and by what it is doing. -/
inductive Output (replies : List (Answer Renewal)) : Task → List Event → Prop
  /-- The task goes on. -/
  | going {task : Task} (hc : ∀ a ∈ replies, a.value ≠ .crashed) (ht : task ≠ .ended) :
      Output replies task (renewals replies)
  /-- The task has said how it ended. -/
  | told {result : Except VaultError Unit} (hc : ∀ a ∈ replies, a.value ≠ .crashed)
      (hv : IsVerdict result) : Output replies .ended (renewals replies ++ [.done result])
  /-- A reply has crashed the task. -/
  | lost (hc : ∃ a ∈ replies, a.value = .crashed) : Output replies .ended (renewals replies)

lemma renewals_of_granted {a : Answer Renewal} {grant : Grant} (h : a.value = .granted grant) :
    renewals [a] = [.renewed (grant.startingAt a.ready)] := by
  simp [renewals, renewal?, h]

lemma renewals_of_not_granted {a : Answer Renewal} (h : ∀ grant, a.value ≠ .granted grant) :
    renewals [a] = [] := by
  unfold renewals renewal?
  cases hv : a.value with
  | granted grant => exact absurd hv (h grant)
  | _ => simp [hv]

lemma isDone_renewals {replies : List (Answer Renewal)} {e : Event} (h : e ∈ renewals replies) :
    e.isDone = false := by
  obtain ⟨reply, -, he⟩ := List.mem_filterMap.mp h
  unfold renewal? at he
  split at he
  · cases he
    rfl
  · cases he

lemma done_not_mem_renewals (replies : List (Answer Renewal)) (result : Except VaultError Unit) :
    Event.done result ∉ renewals replies := by
  intro h
  have hdone := isDone_renewals h
  simp [Event.isDone] at hdone

/-- A task sends nothing but renewals and one terminal event after them. -/
lemma Output.sent_eq {replies : List (Answer Renewal)} {task : Task} {sent : List Event}
    (h : Output replies task sent) :
    sent = renewals replies ∨
      task = .ended ∧ ∃ result, sent = renewals replies ++ [.done result] := by
  cases h with
  | going => exact Or.inl rfl
  | told => exact Or.inr ⟨rfl, _, rfl⟩
  | lost => exact Or.inl rfl

/-- A task that has ended has said so, or has crashed. -/
lemma Output.told_or_lost {replies : List (Answer Renewal)} {task : Task} {sent : List Event}
    (h : Output replies task sent) (ht : task = .ended) :
    (∃ result, IsVerdict result ∧ (∀ a ∈ replies, a.value ≠ .crashed) ∧
        sent = renewals replies ++ [.done result]) ∨
      (∃ a ∈ replies, a.value = .crashed) ∧ sent = renewals replies := by
  cases h with
  | going _ hne => exact absurd ht hne
  | told hc hv => exact Or.inl ⟨_, hv, hc, rfl⟩
  | lost hc => exact Or.inr ⟨hc, rfl⟩

/-- What a task sends later comes after what it has sent. -/
lemma Output.append {replies more : List (Answer Renewal)} {task task' : Task}
    {sent new : List Event} (h : Output replies task sent) (ht : task ≠ .ended)
    (h' : Output more task' new) : Output (replies ++ more) task' (sent ++ new) := by
  cases h with
  | told => exact absurd rfl ht
  | lost => exact absurd rfl ht
  | going hc =>
    have hsum : renewals (replies ++ more) = renewals replies ++ renewals more :=
      List.filterMap_append
    have hall : (∀ a ∈ more, a.value ≠ .crashed) →
        ∀ a ∈ replies ++ more, a.value ≠ .crashed := by
      intro hm a ha
      rcases List.mem_append.mp ha with ha | ha
      · exact hc a ha
      · exact hm a ha
    cases h' with
    | going hm ht' =>
      rw [← hsum]
      exact .going (hall hm) ht'
    | told hm hv =>
      rw [← List.append_assoc, ← hsum]
      exact .told (hall hm) hv
    | lost hm =>
      obtain ⟨a, ha, hcrash⟩ := hm
      rw [← hsum]
      exact .lost ⟨a, List.mem_append_right _ ha, hcrash⟩

/-- What a task sends when it takes a reply. -/
lemma Reaction.output {now : Instant} {draw : ℕ} {w w' : Watch} {answer : Answer Renewal}
    (h : Reaction now draw w answer w') :
    ∃ new, w'.queue = w.queue ++ new ∧ Output [answer] w'.task new := by
  have hcrash : answer.value ≠ .crashed → ∀ a ∈ [answer], a.value ≠ .crashed := by
    intro hne a ha
    rw [List.mem_singleton.mp ha]
    exact hne
  cases h with
  | crash hv =>
    refine ⟨[], (List.append_nil _).symm, ?_⟩
    rw [← renewals_of_not_granted (a := answer) (by simp [hv])]
    exact .lost ⟨answer, List.mem_singleton_self _, hv⟩
  | spent hv =>
    refine ⟨_, List.append_assoc _ _ _, ?_⟩
    rw [← renewals_of_granted hv]
    exact .told (hcrash (by simp [hv])) (Or.inr ⟨_, rfl⟩)
  | final hv =>
    refine ⟨_, List.append_assoc _ _ _, ?_⟩
    rw [← renewals_of_granted hv]
    exact .told (hcrash (by simp [hv])) (Or.inl rfl)
  | rest hv =>
    refine ⟨_, rfl, ?_⟩
    rw [← renewals_of_granted hv]
    exact .going (hcrash (by simp [hv])) (by simp [follow])
  | @giveUp error hv =>
    have hout : Output [answer] .ended
        (renewals [answer] ++ [.done (.error (.renewalFailed error))]) :=
      .told (hcrash (by simp [hv])) (Or.inr ⟨error, rfl⟩)
    rw [renewals_of_not_granted (by simp [hv])] at hout
    exact ⟨_, rfl, hout⟩
  | retry hv =>
    refine ⟨[], (List.append_nil _).symm, ?_⟩
    rw [← renewals_of_not_granted (a := answer) (by simp [hv])]
    exact .going (hcrash (by simp [hv])) (by simp [follow])

/-- What a task sends when it runs. -/
lemma Run.Poll.output {σ : Type} {r : Renewer σ} {now : Instant} {s s' : Run σ}
    {reply : Option (Answer Renewal)} (h : Poll r now s reply s') :
    ∃ new, s'.watch.queue = s.watch.queue ++ new ∧ Output reply.toList s'.watch.task new := by
  obtain ⟨grace, task, hopen, -⟩ := exists_opened_watch r now s
  have hqueue : (s.opened r now).watch.queue = s.watch.queue := by rw [hopen]
  cases h with
  | stop => exact ⟨_, rfl, .told (by simp) (Or.inl rfl)⟩
  | refuse => exact ⟨_, rfl, .told (by simp) (Or.inr ⟨_, rfl⟩)⟩
  | wait hs hd hc =>
    obtain ⟨answer, htask⟩ := exists_opened_task hd
    refine ⟨[], by rw [hqueue, List.append_nil], .going (by simp) ?_⟩
    rw [htask]
    simp
  | @take answer hs hd hc =>
    obtain ⟨new, hnew, hout⟩ := (reaction_receive r now answer (s.opened r now)).output
    exact ⟨new, by rw [hnew, hqueue], hout⟩

/-! ### A task and its owner -/

/-- A watch, with the replies that its task has taken, the events that the task has sent, and the
events that its owner was handed. -/
structure Story (σ : Type) where
  /-- The watch. -/
  run : Run σ
  /-- The replies that the task has taken. -/
  taken : List (Answer Renewal)
  /-- The events that the task has sent. -/
  sent : List Event
  /-- The events that the owner was handed. -/
  handed : List Event

namespace Story

variable {σ : Type} {r : Renewer σ}

/-- A new watch over a lease. -/
def start (lease : Lease) (config : Config) (others : σ) : Story σ :=
  ⟨⟨.start lease config, others, []⟩, [], [], []⟩

/-- The task has run. -/
def work (r : Renewer σ) (now : Instant) (run : Run σ) (s : Story σ) : Story σ where
  run := run
  taken := s.taken ++ (s.run.reply? r now).toList
  sent := s.sent ++ run.watch.queue.drop s.run.watch.queue.length
  handed := s.handed

/-- The owner asks for the next event.  If there is none now, the owner gives up. -/
def next (s : Story σ) : Story σ :=
  match s.run.take? with
  | some (event, run) => { s with run, handed := s.handed ++ [event] }
  | none => s

/-- The owner asks the task to stop. -/
def stop (s : Story σ) : Story σ := { s with run.watch := s.run.watch.stop }

/-- What the task or its owner does. -/
inductive Step (r : Renewer σ) : Story σ → Story σ → Prop
  /-- The task runs at some moment. -/
  | work {s : Story σ} {run : Run σ} (now : Instant) (h : s.run.poll? r now = some run) :
      Step r s (s.work r now run)
  /-- The owner asks for the next event. -/
  | next (s : Story σ) : Step r s s.next
  /-- The owner asks the task to stop. -/
  | stop (s : Story σ) : Step r s s.stop

/-- One state of a story comes after another. -/
def Later (r : Renewer σ) : Story σ → Story σ → Prop := ReflTransGen (Step r)

/-- How the task has ended: as it said, or without a word. -/
def verdict (s : Story σ) : Except VaultError Unit :=
  match s.sent.getLast? with
  | some (.done result) => result
  | _ => .error .watchLost

/-- All that the owner can be handed, with `n` quiet ends: one event for each renewed lease, and
once the task has ended, one terminal event before the quiet ends. -/
def stream (s : Story σ) (n : ℕ) : List Event :=
  renewals s.taken ++
    if s.run.watch.task.hasEnded then .done s.verdict :: List.replicate n (.done (.ok ())) else []

lemma stream_of_ended {s : Story σ} (ht : s.run.watch.task = .ended) (n : ℕ) :
    s.stream n = renewals s.taken ++ .done s.verdict :: List.replicate n (.done (.ok ())) := by
  simp [stream, ht, Task.hasEnded]

lemma stream_of_ne_ended {s : Story σ} (ht : s.run.watch.task ≠ .ended) (n : ℕ) :
    s.stream n = renewals s.taken := by
  have hfalse : s.run.watch.task.hasEnded = false :=
    Bool.eq_false_iff.2 fun h => ht (Task.hasEnded_iff.mp h)
  simp [stream, hfalse]

lemma stream_succ {s : Story σ} (ht : s.run.watch.task = .ended) (n : ℕ) :
    s.stream (n + 1) = s.stream n ++ [.done (.ok ())] := by
  rw [stream_of_ended ht, stream_of_ended ht, List.replicate_succ', List.append_assoc,
    List.cons_append]

lemma stream_prefix_of_le {s : Story σ} {m n : ℕ} (h : m ≤ n) : s.stream m <+: s.stream n := by
  by_cases ht : s.run.watch.task = .ended
  · induction n, h using Nat.le_induction with
    | base => exact List.prefix_rfl
    | succ n _ ih =>
      rw [stream_succ ht]
      exact ih.trans (List.prefix_append _ _)
  · rw [stream_of_ne_ended ht, stream_of_ne_ended ht]

/-- The events that were sent tell how the task has ended. -/
lemma verdict_of_told {s : Story σ} {result : Except VaultError Unit}
    (h : s.sent = renewals s.taken ++ [.done result]) : s.verdict = result := by
  simp [verdict, h]

lemma verdict_of_lost {s : Story σ} (h : s.sent = renewals s.taken) :
    s.verdict = .error .watchLost := by
  unfold verdict
  rw [h]
  split
  · rename_i result hlast
    exact absurd (List.mem_of_getLast? hlast) (done_not_mem_renewals _ _)
  · rfl

/-! ### What holds all along -/

/-- The task has sent what the replies ask for.  The owner was handed all that is no longer in the
queue or, once it has taken a terminal event, all of the stream. -/
structure Kept (s : Story σ) : Prop where
  output : Output s.taken s.run.watch.task s.sent
  going : s.run.watch.finished = false →
    s.sent = s.handed ++ s.run.watch.queue ∧ ∀ e ∈ s.handed, e.isDone = false
  finished : s.run.watch.finished = true →
    s.run.watch.task = .ended ∧ s.run.watch.queue = [] ∧ ∃ n, s.handed = s.stream n

/-- A terminal event is the last that was sent. -/
lemma Kept.of_done {s : Story σ} (hs : Kept s) {before after : List Event}
    {result : Except VaultError Unit} (h : s.sent = before ++ .done result :: after) :
    s.run.watch.task = .ended ∧ after = [] ∧ before ++ [.done result] = s.stream 0 := by
  have hmem : Event.done result ∈ s.sent := by
    rw [h]
    exact List.mem_append_right _ List.mem_cons_self
  rcases hs.output.sent_eq with hsent | ⟨ht, told, hsent⟩
  · rw [hsent] at hmem
    exact absurd hmem (done_not_mem_renewals _ _)
  · have hsplit : before ++ .done result :: after = renewals s.taken ++ [.done told] := by
      rw [← h, hsent]
    -- The terminal event stands at the end on the right, so nothing follows it on the left.
    rcases List.eq_nil_or_concat' after with rfl | ⟨init, last, rfl⟩
    · refine ⟨ht, rfl, ?_⟩
      rw [hsplit, stream_of_ended ht, verdict_of_told hsent]
      rfl
    · exfalso
      rw [← List.cons_append, ← List.append_assoc] at hsplit
      have hinit := (List.append_inj' hsplit rfl).1
      refine done_not_mem_renewals s.taken result ?_
      rw [← hinit]
      exact List.mem_append_right _ List.mem_cons_self

/-- An owner that has emptied the queue and seen no terminal event was handed all renewals. -/
lemma Kept.drained {s : Story σ} (hs : Kept s) (hf : s.run.watch.finished = false)
    (hq : s.run.watch.queue = []) : s.sent = renewals s.taken ∧ s.handed = renewals s.taken := by
  obtain ⟨hsplit, hquiet⟩ := hs.going hf
  rw [hq, List.append_nil] at hsplit
  rcases hs.output.sent_eq with hsent | ⟨-, told, hsent⟩
  · exact ⟨hsent, by rw [← hsplit, hsent]⟩
  · have hdone := hquiet (.done told) (by rw [← hsplit, hsent]; simp)
    simp [Event.isDone] at hdone

lemma kept_start (lease : Lease) (config : Config) (others : σ) :
    Kept (start lease config others) where
  output := .going (by simp [start]) (by simp [start, Watch.start])
  going _ := ⟨rfl, by simp [start]⟩
  finished h := by simp [start, Watch.start] at h

lemma Kept.stop {s : Story σ} (hs : Kept s) : Kept s.stop := ⟨hs.output, hs.going, hs.finished⟩

/-- What the task adds to the queue is sent. -/
lemma sent_work {s : Story σ} {now : Instant} {run : Run σ} {new : List Event}
    (h : run.watch.queue = s.run.watch.queue ++ new) :
    (s.work r now run).sent = s.sent ++ new := by
  simp only [Story.work, h, List.drop_left]

lemma Kept.work {s : Story σ} (hs : Kept s) {now : Instant} {run : Run σ}
    (h : s.run.poll? r now = some run) : Kept (s.work r now run) := by
  have hpoll := Run.poll_of_poll? h
  -- A task that runs has not ended, so its owner has not seen a terminal event.
  have hne : s.run.watch.task ≠ .ended := by
    intro he
    simp [Run.poll?, he] at h
  have hopen : s.run.watch.finished = false :=
    Bool.eq_false_iff.2 fun hf => hne (hs.finished hf).1
  obtain ⟨new, hqueue, hout⟩ := hpoll.output
  have hsent : (s.work r now run).sent = s.sent ++ new := sent_work hqueue
  refine ⟨?_, fun _ => ?_, fun hf => ?_⟩
  · rw [hsent]
    exact hs.output.append hne hout
  · obtain ⟨hsplit, hquiet⟩ := hs.going hopen
    refine ⟨?_, hquiet⟩
    rw [hsent, hsplit, List.append_assoc, ← hqueue]
    rfl
  · have hf' : run.watch.finished = true := hf
    rw [hpoll.sameTerms.finished, hopen] at hf'
    cases hf'

lemma next_of_take {s : Story σ} {event : Event} {watch : Watch}
    (h : s.run.watch.take? = some (event, watch)) :
    s.next = { s with run := { s.run with watch := watch }, handed := s.handed ++ [event] } := by
  simp [next, Run.take?, h]

lemma next_of_none {s : Story σ} (h : s.run.watch.take? = none) : s.next = s := by
  simp [next, Run.take?, h]

lemma Kept.next {s : Story σ} (hs : Kept s) : Kept s.next := by
  cases h : s.run.watch.take? with
  | none =>
    rw [next_of_none h]
    exact hs
  | some taken =>
    obtain ⟨event, watch⟩ := taken
    rw [next_of_take h]
    cases take_of_take? h with
    | quiet hf =>
      obtain ⟨ht, hq, n, hn⟩ := hs.finished hf
      refine ⟨hs.output, fun hopen => ?_, fun _ => ⟨ht, hq, n + 1, ?_⟩⟩
      · rw [hf] at hopen
        cases hopen
      · change s.handed ++ [.done (.ok ())] = s.stream (n + 1)
        rw [stream_succ ht, hn]
    | @queued _ rest hf hq =>
      obtain ⟨hsplit, hquiet⟩ := hs.going hf
      rw [hq] at hsplit
      cases event with
      | renewed lease =>
        refine ⟨hs.output, fun _ => ⟨?_, ?_⟩, (nomatch ·)⟩
        · change s.sent = s.handed ++ [.renewed lease] ++ rest
          rw [hsplit, List.append_assoc]
          rfl
        · intro e he
          rcases List.mem_append.mp he with he | he
          · exact hquiet e he
          · rw [List.mem_singleton.mp he]
            rfl
      | done result =>
        -- No event is left behind when the owner stops listening to the queue.
        obtain ⟨ht, hrest, hstream⟩ := hs.of_done hsplit
        refine ⟨hs.output, (nomatch ·), fun _ => ⟨ht, hrest, 0, hstream⟩⟩
    | lost hf hq ht =>
      obtain ⟨hsent, hhanded⟩ := hs.drained hf hq
      refine ⟨hs.output, (nomatch ·), fun _ => ⟨ht, hq, 0, ?_⟩⟩
      change s.handed ++ [.done (.error .watchLost)] = s.stream 0
      rw [stream_of_ended ht, verdict_of_lost hsent, hhanded]
      rfl

lemma Kept.step {s s' : Story σ} (hs : Kept s) (h : Step r s s') : Kept s' := by
  cases h with
  | work now hpoll => exact hs.work hpoll
  | next => exact hs.next
  | stop => exact hs.stop

lemma kept_of_later {lease : Lease} {config : Config} {others : σ} {s : Story σ}
    (h : Later r (start lease config others) s) : Kept s := by
  induction h with
  | refl => exact kept_start lease config others
  | tail _ hstep ih => exact ih.step hstep

/-! ### Asking often enough -/

/-- What the owner does leaves the replies, the task and what was sent as they are. -/
lemma next_frame (s : Story σ) :
    s.next.taken = s.taken ∧ s.next.sent = s.sent ∧ s.next.run.watch.task = s.run.watch.task ∧
      s.next.run.trace = s.run.trace := by
  cases h : s.run.watch.take? with
  | none =>
    rw [next_of_none h]
    exact ⟨rfl, rfl, rfl, rfl⟩
  | some taken =>
    obtain ⟨event, watch⟩ := taken
    rw [next_of_take h]
    cases take_of_take? h <;> exact ⟨rfl, rfl, rfl, rfl⟩

/-- The owner takes events, and nothing else of the watch changes. -/
lemma exists_next_run (s : Story σ) :
    ∃ queue finished,
      s.next.run = { s.run with watch := { s.run.watch with queue := queue, finished := finished } }
      := by
  cases h : s.run.watch.take? with
  | none =>
    rw [next_of_none h]
    exact ⟨_, _, rfl⟩
  | some taken =>
    obtain ⟨event, watch⟩ := taken
    rw [next_of_take h]
    cases take_of_take? h <;> exact ⟨_, _, rfl⟩

lemma next_stream (s : Story σ) (n : ℕ) : s.next.stream n = s.stream n := by
  obtain ⟨htaken, hsent, htask, -⟩ := next_frame s
  simp only [stream, verdict, htaken, hsent, htask]

lemma iterate_next_stream (s : Story σ) (m n : ℕ) : (Story.next^[m] s).stream n = s.stream n := by
  induction m generalizing s with
  | zero => rfl
  | succ m ih => rw [Function.iterate_succ_apply, ih, next_stream]

lemma Kept.iterate_next {s : Story σ} (hs : Kept s) (m : ℕ) : Kept (Story.next^[m] s) := by
  induction m generalizing s with
  | zero => exact hs
  | succ m ih => exact ih hs.next

/-- The owner can empty the queue. -/
lemma exists_iterate_queue_eq_nil {s : Story σ} (hs : Kept s) :
    ∃ m, (Story.next^[m] s).run.watch.queue = [] := by
  generalize hn : s.run.watch.queue.length = n
  induction n generalizing s with
  | zero => exact ⟨0, List.eq_nil_of_length_eq_zero hn⟩
  | succ n ih =>
    cases hq : s.run.watch.queue with
    | nil => simp [hq] at hn
    | cons event rest =>
      have hopen : s.run.watch.finished = false := by
        rw [Bool.eq_false_iff]
        intro hf
        rw [(hs.finished hf).2.1] at hq
        cases hq
      have htake : s.run.watch.take? = some (event,
          { s.run.watch with queue := rest, finished := event.isDone }) := by
        simp [take?, hopen, hq]
      obtain ⟨m, hm⟩ := ih hs.next (by rw [next_of_take htake]; simpa [hq] using hn)
      exact ⟨m + 1, hm⟩

/-- After the terminal event the owner is handed one quiet end each time. -/
lemma handed_iterate_next {s : Story σ} (hf : s.run.watch.finished = true)
    (ht : s.run.watch.task = .ended) {j : ℕ} (hj : s.handed = s.stream j) (n : ℕ) :
    (Story.next^[n] s).handed = s.stream (j + n) := by
  induction n generalizing s j with
  | zero => exact hj
  | succ n ih =>
    have hnext : s.next = { s with handed := s.handed ++ [.done (.ok ())] } :=
      next_of_take (take?_of_finished hf)
    have hmore : s.next.handed = s.next.stream (j + 1) := by
      rw [next_stream, stream_succ ht, ← hj, hnext]
    rw [Function.iterate_succ_apply, ih (by rw [hnext]; exact hf) (by rw [hnext]; exact ht) hmore,
      next_stream]
    congr 1
    omega

lemma Kept.exists_handed_of_finished {s : Story σ} (hs : Kept s)
    (hf : s.run.watch.finished = true) (n : ℕ) :
    ∃ m, s.stream n <+: (Story.next^[m] s).handed := by
  obtain ⟨ht, -, j, hj⟩ := hs.finished hf
  refine ⟨n, ?_⟩
  rw [handed_iterate_next hf ht hj]
  exact stream_prefix_of_le (Nat.le_add_left n j)

/-- Everything that the task has sent, and any number of quiet ends after its end, is handed out if
the owner asks often enough. -/
lemma Kept.exists_handed {s : Story σ} (hs : Kept s) (n : ℕ) :
    ∃ m, s.stream n <+: (Story.next^[m] s).handed := by
  obtain ⟨m, hq⟩ := exists_iterate_queue_eq_nil hs
  have ht := hs.iterate_next m
  rw [← iterate_next_stream s m n]
  suffices h : ∃ k, (Story.next^[m] s).stream n <+: (Story.next^[k] (Story.next^[m] s)).handed by
    obtain ⟨k, hk⟩ := h
    exact ⟨k + m, by rwa [Function.iterate_add_apply]⟩
  generalize Story.next^[m] s = t at hq ht
  by_cases hf : t.run.watch.finished = true
  · exact ht.exists_handed_of_finished hf n
  · rw [Bool.not_eq_true] at hf
    by_cases hend : t.run.watch.task = .ended
    · -- The queue is empty, so the next event is the loss of the watch.
      have htake : t.run.watch.take? =
          some (.done (.error .watchLost), { t.run.watch with finished := true }) := by
        simp [take?, hf, hq, hend, Task.hasEnded]
      obtain ⟨k, hk⟩ := ht.next.exists_handed_of_finished (by rw [next_of_take htake]) n
      rw [next_stream] at hk
      exact ⟨k + 1, hk⟩
    · refine ⟨0, ?_⟩
      rw [stream_of_ne_ended hend, ← (ht.drained hf hq).2]
      exact List.prefix_rfl

/-! ### After the end -/

/-- Once the task has ended, nothing is left to do but to hand out what it has sent. -/
lemma Later.of_ended {s s' : Story σ} (h : Later r s s') (ht : s.run.watch.task = .ended) :
    s'.run.watch.task = .ended ∧ s'.run.trace = s.run.trace ∧ s'.taken = s.taken ∧
      s'.sent = s.sent := by
  induction h with
  | refl => exact ⟨ht, rfl, rfl, rfl⟩
  | @tail t _ _ hstep ih =>
    obtain ⟨hend, htrace, htaken, hsent⟩ := ih
    cases hstep with
    | work now hpoll => simp [Run.poll?, hend] at hpoll
    | next =>
      obtain ⟨htaken', hsent', htask', htrace'⟩ := next_frame t
      rw [htaken', hsent', htask', htrace']
      exact ⟨hend, htrace, htaken, hsent⟩
    | stop => exact ⟨hend, htrace, htaken, hsent⟩

lemma Later.taken_grows {s s' : Story σ} (h : Later r s s') : s.taken <+: s'.taken := by
  induction h with
  | refl => exact List.prefix_rfl
  | @tail t _ _ hstep ih =>
    cases hstep with
    | work => exact ih.trans (List.prefix_append _ _)
    | next => rw [(next_frame t).1]; exact ih
    | stop => exact ih

/-- The stream only grows. -/
lemma Later.stream_grows {s s' : Story σ} (h : Later r s s') (n : ℕ) :
    s.stream n <+: s'.stream n := by
  by_cases ht : s.run.watch.task = .ended
  · obtain ⟨hend, -, htaken, hsent⟩ := h.of_ended ht
    rw [stream_of_ended ht, stream_of_ended hend, htaken, verdict, verdict, hsent]
  · rw [stream_of_ne_ended ht]
    exact (h.taken_grows.filterMap _).trans (List.prefix_append _ _)

lemma Kept.handed_within_stream {s : Story σ} (hs : Kept s) : ∃ n, s.handed <+: s.stream n := by
  by_cases hf : s.run.watch.finished = true
  · obtain ⟨-, -, n, hn⟩ := hs.finished hf
    exact ⟨n, by rw [hn]⟩
  · rw [Bool.not_eq_true] at hf
    obtain ⟨hsplit, -⟩ := hs.going hf
    have hsent : s.handed <+: s.sent := ⟨s.run.watch.queue, hsplit.symm⟩
    rcases hs.output.sent_eq with h | ⟨ht, result, h⟩
    · rw [h] at hsent
      exact ⟨0, hsent.trans (List.prefix_append _ _)⟩
    · refine ⟨0, ?_⟩
      rw [stream_of_ended ht, verdict_of_told h]
      rwa [h] at hsent

/-- A task that has ended has said how, or has crashed and sent no terminal event. -/
lemma Kept.verdict_spec {s : Story σ} (hs : Kept s) (ht : s.run.watch.task = .ended) :
    (s.verdict = .error .watchLost ↔ ∀ e ∈ s.sent, e.isDone = false) ∧
      (s.verdict = .error .watchLost ↔ ∃ a ∈ s.taken, a.value = .crashed) ∧
      ∀ error, s.verdict = .error error → error ≠ .watchLost →
        ∃ cause, error = .renewalFailed cause := by
  rcases hs.output.told_or_lost ht with ⟨result, hv, hc, hsent⟩ | ⟨hc, hsent⟩
  · rw [verdict_of_told hsent, hsent]
    refine ⟨iff_of_false hv.ne_watchLost fun hnone => ?_,
      iff_of_false hv.ne_watchLost fun ⟨a, ha, hcrash⟩ => hc a ha hcrash, ?_⟩
    · have hdone := hnone (.done result) (List.mem_append_right _ (List.mem_singleton_self _))
      simp [Event.isDone] at hdone
    · rintro error rfl -
      rcases hv with hok | ⟨cause, hcause⟩
      · cases hok
      · exact ⟨cause, Except.error.inj hcause⟩
  · rw [verdict_of_lost hsent, hsent]
    refine ⟨iff_of_true rfl fun e he => isDone_renewals he, iff_of_true rfl hc, ?_⟩
    intro error herror hne
    exact absurd (Except.error.inj herror).symm hne

/-- The protocol of the stream.  What the owner was handed is at every moment the beginning of the
stream, and stays so; if the owner asks often enough it is handed any part of the stream.  Once
the task has ended, no call begins any more and the stream is what it is.  Its terminal event tells
of a lost watch exactly when the task sent no terminal event, which is when a reply crashed it, and
else of a failed renewal if it tells of an error. -/
theorem stream_protocol {lease : Lease} {config : Config} {others : σ} {s : Story σ}
    (h : Later r (start lease config others) s) :
    (∀ s', Later r s s' → ∃ n, s.handed <+: s'.stream n) ∧
      (∀ n, ∃ m, s.stream n <+: (Story.next^[m] s).handed) ∧
      (s.run.watch.task = .ended →
        (s.verdict = .error .watchLost ↔ ∀ e ∈ s.sent, e.isDone = false) ∧
        (s.verdict = .error .watchLost ↔ ∃ a ∈ s.taken, a.value = .crashed) ∧
        (∀ error, s.verdict = .error error → error ≠ .watchLost →
          ∃ cause, error = .renewalFailed cause) ∧
        ∀ s', Later r s s' →
          s'.run.trace = s.run.trace ∧ ∀ n, s'.stream n = s.stream n) := by
  have hs := kept_of_later h
  refine ⟨fun s' hlater => ?_, hs.exists_handed, fun ht => ?_⟩
  · obtain ⟨n, hn⟩ := hs.handed_within_stream
    exact ⟨n, hn.trans (hlater.stream_grows n)⟩
  · obtain ⟨hsilent, hcrashed, hfailed⟩ := hs.verdict_spec ht
    refine ⟨hsilent, hcrashed, hfailed, fun s' hlater => ?_⟩
    obtain ⟨hend, htrace, htaken, hsent⟩ := hlater.of_ended ht
    refine ⟨htrace, fun n => ?_⟩
    rw [stream_of_ended ht, stream_of_ended hend, htaken, verdict, verdict, hsent]

/-- Renewals that crash the task that calls. -/
def crashing : Renewer Unit where
  renew _ now _ _ := (.answered now .crashed, ())
  draw _ := (0, ())

/-- When the first renewal crashes the task, the owner is handed the loss of the watch. -/
theorem stream_protocol_crashing :
    ∃ s, Later crashing (start ⟨⟨"token", none, [], .ofSeconds 60, true⟩, 0⟩
        ⟨none, some (.ofSeconds 9)⟩ ()) s ∧
      s.run.watch.task = .ended ∧ s.handed = [.done (.error .watchLost)] ∧
      (∃ n, s.handed <+: s.stream n) ∧ (s.verdict = .error .watchLost ↔ ∃ a ∈ s.taken,
        a.value = .crashed) := by
  have h := (ReflTransGen.single (Step.work (r := crashing)
    (s := start ⟨⟨"token", none, [], .ofSeconds 60, true⟩, 0⟩ ⟨none, some (.ofSeconds 9)⟩ ())
    0 rfl)).tail (.next _)
  have hprotocol := stream_protocol h
  exact ⟨_, h, rfl, rfl, hprotocol.1 _ .refl, (hprotocol.2.2 rfl).2.1⟩

end Story
end Watch
end LeaseKeeper
