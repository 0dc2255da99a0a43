/-
# Asking the task to stop

A course of a watch is a list of choices: the task runs, the clock goes on, the owner asks for an
event or asks the task to stop.  If the task has not ended when it is asked to stop, nothing follows
but its quiet end, and that at the same moment: no call begins, and no reply is taken any more.  If
it has ended, the course is the one without the request.  A second request makes no difference.
-/
import LeaseKeeper.Proofs.Watch.Calls

namespace LeaseKeeper
namespace Watch

open Relation

/-- What happens next on a timeline. -/
inductive Choice
  /-- The task runs, if it can. -/
  | work
  /-- The clock goes on to a moment, unless the task can run before. -/
  | wait (later : Instant)
  | next
  | stop
deriving DecidableEq

namespace Timeline

variable {σ : Type} {r : Renewer σ}

/-- The task has to wait up to a moment. -/
def MayWait (r : Renewer σ) (t : Timeline σ) (later : Instant) : Prop :=
  (t.state.run.poll? r t.now).isNone = true ∧ t.now ≤ later ∧
    ∀ wake ∈ t.watch.task.wake?, t.now < wake → later ≤ wake

instance (t : Timeline σ) (later : Instant) : Decidable (t.MayWait r later) :=
  inferInstanceAs (Decidable (_ ∧ _ ∧ _))

/-- What was chosen happens, if it can. -/
def act (r : Renewer σ) (t : Timeline σ) : Choice → Timeline σ
  | .work =>
    match t.state.run.poll? r t.now with
    | some run => ⟨t.now, t.state.work r t.now run⟩
    | none => t
  | .wait later => if t.MayWait r later then ⟨later, t.state⟩ else t
  | .next => ⟨t.now, t.state.next⟩
  | .stop => ⟨t.now, t.state.stop⟩

/-- A course of choices. -/
def play (r : Renewer σ) (t : Timeline σ) (choices : List Choice) : Timeline σ :=
  choices.foldl (act r) t

lemma play_cons (t : Timeline σ) (choice : Choice) (choices : List Choice) :
    t.play r (choice :: choices) = (t.act r choice).play r choices := rfl

lemma play_append (t : Timeline σ) (before after : List Choice) :
    t.play r (before ++ after) = (t.play r before).play r after := List.foldl_append

lemma act_wait {t : Timeline σ} {later : Instant} (h : t.MayWait r later) :
    t.act r (.wait later) = ⟨later, t.state⟩ := if_pos h

lemma act_wait_of_not {t : Timeline σ} {later : Instant} (h : ¬ t.MayWait r later) :
    t.act r (.wait later) = t := if_neg h

/-! ### Courses are what can happen -/

/-- A choice is a step of the timeline, or nothing. -/
lemma later_act (t : Timeline σ) (choice : Choice) : Later r t (t.act r choice) := by
  cases choice with
  | work =>
    unfold act
    dsimp only
    split
    · rename_i run h
      exact .single (.work h)
    · exact .refl
  | wait later =>
    by_cases h : t.MayWait r later
    · have hnone : t.state.run.poll? r t.now = none := Option.isNone_iff_eq_none.mp h.1
      rw [act_wait h]
      exact .single (.wait hnone h.2.1 h.2.2)
    · rw [act_wait_of_not h]
      exact .refl
  | next => exact .single (.next _ _)
  | stop => exact .single (.stop _ _)

lemma later_play (t : Timeline σ) (choices : List Choice) : Later r t (t.play r choices) := by
  induction choices generalizing t with
  | nil => exact .refl
  | cons choice choices ih => exact (later_act t choice).trans (ih _)

/-- A step of the timeline can be chosen. -/
lemma Step.exists_act {t t' : Timeline σ} (h : Step r t t') : ∃ choice, t.act r choice = t' := by
  cases h with
  | work h => exact ⟨.work, by simp only [act, h]⟩
  | @wait now later s h hle hwake =>
    have hmay : MayWait r ⟨now, s⟩ later := ⟨Option.isNone_iff_eq_none.mpr h, hle, hwake⟩
    exact ⟨.wait later, act_wait hmay⟩
  | next now s => exact ⟨.next, rfl⟩
  | stop now s => exact ⟨.stop, rfl⟩

/-- All that can happen is a course of choices. -/
lemma Later.exists_play {t t' : Timeline σ} (h : Later r t t') :
    ∃ choices, t.play r choices = t' := by
  induction h with
  | refl => exact ⟨[], rfl⟩
  | tail _ hstep ih =>
    obtain ⟨choices, rfl⟩ := ih
    obtain ⟨choice, rfl⟩ := hstep.exists_act
    exact ⟨choices ++ [choice], play_append _ _ _⟩

/-! ### A request after the end -/

/-- A task that has ended does not run. -/
lemma poll?_of_ended {s : Story σ} (ht : s.run.watch.task = .ended) (now : Instant) :
    s.run.poll? r now = none := by
  simp [Run.poll?, ht]

/-- A request to stop does not change which event can be taken. -/
lemma take?_stop (w : Watch) :
    w.stop.take? = w.take?.map fun taken => (taken.1, taken.2.stop) := by
  obtain ⟨lease, config, grace, prior, lastGood, task, stopAsked, queue, finished⟩ := w
  cases finished with
  | true => rfl
  | false =>
    cases queue with
    | nil => cases task <;> rfl
    | cons event rest => rfl

/-- To take an event and to ask the task to stop can be done in either order. -/
lemma next_stop (s : Story σ) : s.stop.next = s.next.stop := by
  have htake : s.stop.run.watch.take? =
      s.run.watch.take?.map fun taken => (taken.1, taken.2.stop) := take?_stop s.run.watch
  cases h : s.run.watch.take? with
  | none =>
    rw [Story.next_of_none h, Story.next_of_none (by rw [htake, h]; rfl)]
  | some taken =>
    obtain ⟨event, watch⟩ := taken
    rw [h] at htake
    rw [Story.next_of_take h, Story.next_of_take htake]
    rfl

/-- Once the task has ended, a request to stop can as well come after the next choice. -/
lemma act_stop_of_ended {t : Timeline σ} (ht : t.watch.task = .ended) (choice : Choice) :
    (t.act r .stop).act r choice = (t.act r choice).act r .stop := by
  have hpoll : t.state.run.poll? r t.now = none := poll?_of_ended ht t.now
  have hpoll' : t.state.stop.run.poll? r t.now = none := poll?_of_ended (s := t.state.stop) ht t.now
  cases choice with
  | work => simp only [act, hpoll, hpoll']
  | wait later =>
    have hmay : (t.act r .stop).MayWait r later ↔ t.MayWait r later := by
      have hsame : (t.state.stop.run.poll? r t.now).isNone =
          (t.state.run.poll? r t.now).isNone := by
        rw [hpoll, hpoll']
      simp only [MayWait, act, hsame]
      exact Iff.rfl
    by_cases h : t.MayWait r later
    · rw [act_wait h, act_wait (hmay.mpr h)]
      rfl
    · rw [act_wait_of_not h, act_wait_of_not fun h' => h (hmay.mp h')]
  | next => simp only [act, next_stop]
  | stop => rfl

lemma ended_play {t : Timeline σ} (ht : t.watch.task = .ended) (choices : List Choice) :
    (t.play r choices).watch.task = .ended :=
  ((later_play t choices).story.of_ended ht).1

/-- Once the task has ended, a request to stop can as well come at the end of the course. -/
lemma play_stop_of_ended {t : Timeline σ} (ht : t.watch.task = .ended) (choices : List Choice) :
    (t.act r .stop).play r choices = (t.play r choices).act r .stop := by
  induction choices generalizing t with
  | nil => rfl
  | cons choice choices ih =>
    have hend : (t.act r choice).watch.task = .ended := ended_play (r := r) ht [choice]
    rw [play_cons, play_cons, act_stop_of_ended ht, ih hend]

/-! ### A second request -/

/-- A request to stop is never taken back. -/
lemma Step.stopAsked {t t' : Timeline σ} (h : Step r t t') (hs : t.watch.stopAsked = true) :
    t'.watch.stopAsked = true := by
  cases h with
  | work h => exact (Run.poll_of_poll? h).sameTerms.stopAsked.trans hs
  | wait => exact hs
  | next now s =>
    obtain ⟨queue, finished, hrun⟩ := Story.exists_next_run s
    simpa only [watch, hrun] using hs
  | stop => rfl

lemma Later.stopAsked {t t' : Timeline σ} (h : Later r t t') (hs : t.watch.stopAsked = true) :
    t'.watch.stopAsked = true :=
  h.induction hs fun _ _ hs hstep => hstep.stopAsked hs

lemma stopAsked_play (t : Timeline σ) {choices : List Choice} (h : .stop ∈ choices) :
    (t.play r choices).watch.stopAsked = true := by
  obtain ⟨before, after, rfl⟩ := List.append_of_mem h
  rw [play_append, play_cons]
  exact (later_play _ after).stopAsked rfl

/-- A second request changes nothing. -/
lemma act_stop_of_stopAsked {t : Timeline σ} (hs : t.watch.stopAsked = true) :
    t.act r .stop = t := by
  obtain ⟨now, ⟨⟨watch, others, trace⟩, taken, sent, handed⟩⟩ := t
  have hwatch : watch.stop = watch := by
    unfold Watch.stop
    rw [← show watch.stopAsked = true from hs]
  simp only [act, Story.stop, hwatch]

/-! ### A request before the end -/

/-- The events of a watch that is asked to stop: the renewals up to then, the quiet end, and `n`
times the quiet end once more. -/
def stoppedStream (s : Story σ) (n : ℕ) : List Event :=
  renewals s.taken ++ .done (.ok ()) :: List.replicate n (.done (.ok ()))

/-- What becomes of a watch whose task is asked to stop: the task has not run since, and no time has
passed, or it has ended quietly.  In between nothing has happened. -/
structure Quits (t t' : Timeline σ) : Prop where
  trace : t'.state.run.trace = t.state.run.trace
  taken : t'.state.taken = t.state.taken
  asked : t'.watch.stopAsked = true
  pending : t'.watch.task ≠ .ended → t'.now = t.now ∧ t'.state.sent = t.state.sent
  ended : t'.watch.task = .ended → t'.state.sent = t.state.sent ++ [.done (.ok ())]

/-- A task that was asked to stop ends as soon as it runs. -/
lemma poll?_of_stopAsked {s : Story σ} (ht : s.run.watch.task ≠ .ended)
    (hs : s.run.watch.stopAsked = true) (now : Instant) :
    s.run.poll? r now = some { s.run with watch := s.run.watch.finish (.ok ()) } := by
  unfold Run.poll?
  split
  · rename_i hend
    exact absurd hend ht
  · rw [if_pos hs]

/-- The task runs and obeys. -/
lemma act_work_of_stopAsked {t : Timeline σ} (ht : t.watch.task ≠ .ended)
    (hs : t.watch.stopAsked = true) :
    (t.act r .work).watch.task = .ended ∧ (t.act r .work).state.run.trace = t.state.run.trace ∧
      (t.act r .work).state.taken = t.state.taken ∧
      (t.act r .work).state.sent = t.state.sent ++ [.done (.ok ())] := by
  have hpoll := poll?_of_stopAsked (r := r) ht hs t.now
  have hreply : t.state.run.reply? r t.now = none := by
    have hasked : t.state.run.watch.stopAsked = true := hs
    simp [Run.reply?, hasked]
  simp only [act, hpoll]
  refine ⟨rfl, rfl, ?_, Story.sent_work rfl⟩
  simp [Story.work, hreply]

lemma quits_stop {t : Timeline σ} (ht : t.watch.task ≠ .ended) : Quits t (t.act r .stop) where
  trace := rfl
  taken := rfl
  asked := rfl
  pending _ := ⟨rfl, rfl⟩
  ended h := absurd h ht

/-- Each step keeps to that. -/
lemma Quits.step {t u u' : Timeline σ} (h : Quits t u) (hstep : Step r u u') : Quits t u' := by
  have hasked : u'.watch.stopAsked = true := hstep.stopAsked h.asked
  cases hstep with
  | @work now s run hpoll =>
    have hne : s.run.watch.task ≠ .ended := Run.ne_ended_of_poll? hpoll
    have hwork : act r ⟨now, s⟩ .work = ⟨now, s.work r now run⟩ := by simp only [act, hpoll]
    obtain ⟨hend, htrace, htaken, hsent⟩ :=
      act_work_of_stopAsked (r := r) (t := ⟨now, s⟩) hne h.asked
    rw [hwork] at hend htrace htaken hsent
    refine ⟨htrace.trans h.trace, htaken.trans h.taken, hasked, fun hne' => absurd hend hne', ?_⟩
    intro _
    rw [hsent, (h.pending hne).2]
  | @wait now later s hpoll =>
    -- A task that was asked to stop and has not ended need not wait.
    have hend : s.run.watch.task = .ended := by
      by_contra hne
      rw [poll?_of_stopAsked hne h.asked] at hpoll
      cases hpoll
    exact ⟨h.trace, h.taken, hasked, fun hne => absurd hend hne, h.ended⟩
  | next now s =>
    obtain ⟨htaken, hsent, htask, htrace⟩ := Story.next_frame s
    refine ⟨htrace.trans h.trace, htaken.trans h.taken, hasked, fun hne => ?_, fun hend => ?_⟩
    · have hpending := h.pending fun hend => hne (htask.trans hend)
      exact ⟨hpending.1, hsent.trans hpending.2⟩
    · exact hsent.trans (h.ended (htask.symm.trans hend))
  | stop now s => exact ⟨h.trace, h.taken, hasked, h.pending, h.ended⟩

lemma quits_play {t : Timeline σ} (ht : t.watch.task ≠ .ended) (choices : List Choice) :
    Quits t (t.play r (.stop :: choices)) :=
  (later_play (t.act r .stop) choices).induction (quits_stop ht) fun _ _ h hstep => h.step hstep

/-- Once the task has run it has ended. -/
lemma ended_of_work {t : Timeline σ} (hs : t.watch.stopAsked = true) {choices : List Choice}
    (h : .work ∈ choices) : (t.play r choices).watch.task = .ended := by
  obtain ⟨before, after, rfl⟩ := List.append_of_mem h
  rw [play_append, play_cons]
  refine ended_play ?_ after
  have hasked : (t.play r before).watch.stopAsked = true := (later_play t before).stopAsked hs
  by_cases hend : (t.play r before).watch.task = .ended
  · exact ended_play (r := r) hend [.work]
  · exact (act_work_of_stopAsked hend hasked).1

/-- The stream of a task that was asked to stop and has ended. -/
lemma Quits.stream_eq {t t' : Timeline σ} (h : Quits t t') (hend : t'.watch.task = .ended) (n : ℕ) :
    t'.state.stream n = stoppedStream t.state n := by
  have hverdict : t'.state.verdict = .ok () := by
    simp [Story.verdict, h.ended hend]
  rw [Story.stream_of_ended hend, hverdict, h.taken, stoppedStream]

/-- What the owner is handed belongs to this stream. -/
lemma Quits.exists_handed_prefix {t t' : Timeline σ} (h : Quits t t') (hkept : t'.state.Kept) :
    ∃ n, t'.state.handed <+: stoppedStream t.state n := by
  obtain ⟨n, hn⟩ := hkept.handed_within_stream
  refine ⟨n, ?_⟩
  by_cases hend : t'.watch.task = .ended
  · rwa [h.stream_eq hend] at hn
  · rw [Story.stream_of_ne_ended hend, h.taken] at hn
    exact hn.trans (List.prefix_append _ _)

/-- To ask for events is a course of choices. -/
lemma play_replicate_next (t : Timeline σ) (m : ℕ) :
    t.play r (List.replicate m .next) = ⟨t.now, Story.next^[m] t.state⟩ := by
  induction m generalizing t with
  | zero => rfl
  | succ m ih => rw [List.replicate_succ, play_cons, ih, Function.iterate_succ_apply]; rfl

/-- All of this stream is handed out. -/
lemma Quits.exists_handed {t t' : Timeline σ} (h : Quits t t') (hkept : t'.state.Kept)
    (hend : t'.watch.task = .ended) (n : ℕ) :
    ∃ m, stoppedStream t.state n <+: (t'.play r (List.replicate m .next)).state.handed := by
  obtain ⟨m, hm⟩ := hkept.exists_handed n
  rw [h.stream_eq hend] at hm
  exact ⟨m, by rwa [play_replicate_next]⟩

/-- Until its task runs for the first time, nothing happens to a watch. -/
lemma nothing_of_fresh {begun : Instant} {lease : Lease} {config : Config} {others : σ}
    {t : Timeline σ} (h : Later r (start begun lease config others) t)
    (ht : t.watch.task = .fresh) : t.state.run.trace = [] ∧ t.state.taken = [] := by
  refine h.induction (P := fun u => u.watch.task = .fresh →
    u.state.run.trace = [] ∧ u.state.taken = []) (fun _ => ⟨rfl, rfl⟩) ?_ ht
  intro u u' hu hstep hfresh
  cases hstep with
  | work hpoll => exact absurd hfresh (Run.poll_of_poll? hpoll).ne_fresh
  | wait => exact hu hfresh
  | next now s =>
    obtain ⟨htaken, -, htask, htrace⟩ := Story.next_frame s
    rw [htaken, htrace]
    exact hu (htask.symm.trans hfresh)
  | stop => exact hu hfresh

/-- A request to stop.  If the task has not ended when the request comes, nothing happens any more
and no reply is taken: the owner is handed nothing but the renewals up to then and the quiet ends
after them, the task ends as soon as it runs, which takes no time, and then all of these events can
be had.  If the task has never run, this is the quiet end alone, and no call was made.  If the task
has ended, the course that follows is the one without the request, but for the request itself, and
so are its events.  If there was a request before, the course is exactly the same. -/
theorem stop_final {begun : Instant} {lease : Lease} {config : Config} {others : σ}
    {before after : List Choice} {t asked plain : Timeline σ}
    (ht : t = (start begun lease config others).play r before)
    (hasked : asked = t.play r (.stop :: after)) (hplain : plain = t.play r after) :
    (t.watch.task ≠ .ended →
      asked.state.run.trace = t.state.run.trace ∧ asked.state.taken = t.state.taken ∧
      (∃ n, asked.state.handed <+: stoppedStream t.state n) ∧
      (asked.watch.task ≠ .ended → asked.now = t.now ∧ asked.state.sent = t.state.sent) ∧
      (.work ∈ after → asked.watch.task = .ended) ∧
      (asked.watch.task = .ended →
        asked.state.sent = t.state.sent ++ [.done (.ok ())] ∧
        ∀ n, ∃ m, stoppedStream t.state n <+:
          (asked.play r (List.replicate m .next)).state.handed) ∧
      (t.watch.task = .fresh → asked.state.run.trace = [] ∧ t.state.taken = [])) ∧
    (t.watch.task = .ended →
      asked = plain.act r .stop ∧ asked.state.handed = plain.state.handed ∧
      asked.state.run.trace = plain.state.run.trace ∧
      ∀ n, asked.state.stream n = plain.state.stream n) ∧
    (.stop ∈ before → asked = plain) := by
  have hlater : Later r (start begun lease config others) t := by
    rw [ht]
    exact later_play _ _
  refine ⟨fun hne => ?_, fun hend => ?_, fun hstop => ?_⟩
  · have hquits : Quits t asked := by
      rw [hasked]
      exact quits_play hne after
    have hkept : asked.state.Kept := by
      have hmore : Later r (start begun lease config others) (t.play r (.stop :: after)) :=
        hlater.trans (later_play t _)
      rw [hasked]
      exact Story.kept_of_later hmore.story
    refine ⟨hquits.trace, hquits.taken, hquits.exists_handed_prefix hkept, hquits.pending,
      ?_, ?_, ?_⟩
    · intro hwork
      rw [hasked]
      exact ended_of_work (t := t.act r .stop) rfl hwork
    · exact fun hend => ⟨hquits.ended hend, hquits.exists_handed hkept hend⟩
    · intro hfresh
      obtain ⟨htrace, htaken⟩ := nothing_of_fresh hlater hfresh
      exact ⟨hquits.trace.trans htrace, htaken⟩
  · have hsame : asked = plain.act r .stop := by
      rw [hasked, hplain, play_cons]
      exact play_stop_of_ended hend after
    rw [hsame]
    exact ⟨rfl, rfl, rfl, fun _ => rfl⟩
  · have hs : t.watch.stopAsked = true := by
      rw [ht]
      exact stopAsked_play _ hstop
    rw [hasked, hplain, play_cons, act_stop_of_stopAsked hs]

/-- Renewals that are never answered. -/
def silent : Renewer Unit where
  renew _ _ _ _ := (.unanswered, ())
  draw _ := (0, ())

/-- A request while a call is open ends the task, and the owner is handed the quiet end. -/
theorem stop_final_unanswered :
    ∃ t asked, t = (start 0 ⟨⟨"token", none, [], .ofSeconds 60, true⟩, 0⟩
        ⟨none, some (.ofSeconds 9)⟩ ()).play silent [.work] ∧
      asked = t.play silent [.stop, .stop, .next, .work, .next] ∧
      t.watch.task = .renewing none ∧ asked.watch.task = .ended ∧
      asked.state.run.trace = t.state.run.trace ∧ asked.state.handed = [.done (.ok ())] := by
  obtain ⟨t, ht⟩ : ∃ t, t = (start 0 ⟨⟨"token", none, [], .ofSeconds 60, true⟩, 0⟩
      ⟨none, some (.ofSeconds 9)⟩ ()).play silent [.work] := ⟨_, rfl⟩
  obtain ⟨asked, hasked⟩ : ∃ asked, asked = t.play silent [.stop, .stop, .next, .work, .next] :=
    ⟨_, rfl⟩
  have hopen : t.watch.task = .renewing none := by
    rw [ht]
    rfl
  obtain ⟨hbefore, -, -⟩ := stop_final ht hasked rfl
  obtain ⟨htrace, -, -, -, hended, -, -⟩ := hbefore (by simp [hopen])
  refine ⟨t, asked, ht, hasked, hopen, hended (by simp), htrace, ?_⟩
  rw [hasked, ht]
  rfl

end Timeline
end Watch
end LeaseKeeper
