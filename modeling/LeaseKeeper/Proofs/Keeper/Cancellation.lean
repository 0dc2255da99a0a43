/-
# Cancellation is immediate and silent

Once the trigger has fired or is gone, a keeper that has not returned has one move left, which is
to stop.  Until it makes that move no time passes and only the task of its watch may still run; with
it the keeper returns and aborts this task, and after it nothing happens any more.
-/
import LeaseKeeper.Proofs.Keeper.Scene

namespace LeaseKeeper
namespace Keeper

open Relation

variable {σ : Type} {c : Collaborators σ} {plan : Plan}

@[simp] lemma isCancelled_apply (channel : Shutdown.Channel) (x : Control) :
    (x.apply channel).isCancelled = true := by
  cases x with
  | cancel => exact Shutdown.Channel.isCancelled_cancel channel
  | drop => exact Shutdown.Channel.isCancelled_dropTrigger channel

/-- What the task of a watch may add to the trace while its keeper does not move: calls to renew
and notes while a lease is watched, and else nothing. -/
def IsBackground (k : Keeper σ) (now : Instant) (work : Trace) : Prop :=
  match k.phase with
  | .watching watch => watch.IsWork now work
  | _ => work = []

/-- A keeper that has not moved, although the task of its watch may have run and added some work
to the trace. -/
inductive Still (k : Keeper σ) (now : Instant) : Keeper σ → Trace → Prop
  /-- Nothing has happened. -/
  | same : Still k now k []
  /-- The task of the watch has run. -/
  | worked {watch watch' : Watch} {others : σ} {work : Trace} (hp : k.phase = .watching watch)
      (hw : watch.SameTerms watch') (hwork : watch.IsWork now work) :
      Still k now { k with phase := .watching watch', others, trace := k.trace ++ work } work

lemma Still.trace_eq {k k' : Keeper σ} {now : Instant} {work : Trace} (h : Still k now k' work) :
    k'.trace = k.trace ++ work := by
  cases h with
  | same => exact (List.append_nil _).symm
  | worked => rfl

lemma Still.isBackground {k k' : Keeper σ} {now : Instant} {work : Trace}
    (h : Still k now k' work) : k.IsBackground now work := by
  unfold IsBackground
  cases h with
  | same =>
    split
    · simp [Watch.IsWork]
    · rfl
  | worked hp hw hwork => simpa only [hp] using hwork

lemma Still.ne_stopped {k k' : Keeper σ} {now : Instant} {work : Trace}
    (h : Still k now k' work) (hp : k.phase ≠ .stopped) : k'.phase ≠ .stopped := by
  cases h with
  | same => exact hp
  | worked => simp

/-- The task of the watch runs once more. -/
lemma Still.work {k k' : Keeper σ} {now : Instant} {work : Trace} (h : Still k now k' work)
    {watch : Watch} (hp : k'.phase = .watching watch) {run : Watch.Run σ}
    (hpoll : (k'.runOf watch).poll? c.toRenewer now = some run) :
    ∃ work', Still k now (k'.ofRun run) work' := by
  have hrun := Watch.Run.poll_of_poll? hpoll
  have hterms : watch.SameTerms run.watch := hrun.sameTerms
  obtain ⟨more, htrace, hmore⟩ := hrun.exists_trace
  have hk : k'.ofRun run = { k' with
      phase := .watching run.watch, others := run.others, trace := k'.trace ++ more } := by
    rw [ofRun, htrace]
    rfl
  rw [hk]
  cases h with
  | same => exact ⟨more, .worked hp hterms hmore⟩
  | @worked first watch' others work hfirst hsame hwork =>
    cases hp
    refine ⟨work ++ more, ?_⟩
    rw [List.append_assoc]
    exact .worked hfirst (hsame.trans hterms) (hwork.append (hsame.isWork hmore))

/-- In one go the keeper lets no watch go, or one whose task is aborted. -/
lemma Turn.left_cases {cancelled : Bool} {now : Instant} {k k' : Keeper σ}
    {outcome : Option Outcome} (h : Turn c plan cancelled now k outcome k') :
    k'.left = k.left ∨ ∃ watch : Watch, k'.left = some watch.abort := by
  cases h with
  | stop =>
    show (k.phase.watch?.map Watch.abort).or k.left = _ ∨ ∃ watch : Watch,
      (k.phase.watch?.map Watch.abort).or k.left = _
    cases k.phase with
    | watching watch => exact Or.inr ⟨watch, rfl⟩
    | _ => exact Or.inl rfl
  | @receiveLogin answer =>
    cases hv : answer.value with
    | ok grant => exact Or.inl (by rw [receiveLogin_ok c plan now k hv]; rfl)
    | error error => exact Or.inl (by rw [receiveLogin_error c plan now k hv]; rfl)
  | @receivePersist lease answer =>
    cases hv : answer.value with
    | ok => exact Or.inl (by rw [receivePersist_ok plan now k hv]; rfl)
    | error error => exact Or.inl (by rw [receivePersist_error plan now k hv]; rfl)
  | @take watch watch' event =>
    cases event with
    | renewed lease => exact Or.inl rfl
    | done result => cases result <;> exact Or.inr ⟨watch', rfl⟩
  | login => exact Or.inl rfl
  | work => exact Or.inl rfl
  | wake => exact Or.inl rfl

namespace Scene

/-- The task of a watch that a keeper has let go of has ended, for whatever reason it was. -/
theorem Reachable.left_ended {s : Scene σ} (h : Reachable c plan s) :
    ∀ watch ∈ s.keeper.left, watch.task = .ended := by
  refine h.induction (P := fun s => ∀ watch ∈ s.keeper.left, watch.task = .ended)
    (fun _ _ _ hwatch => by cases hwatch) fun s s' hs hstep => ?_
  rcases hstep.cases with ⟨outcome, next, hturn, rfl⟩ | ⟨later, -, -, -, rfl⟩ | ⟨x, rfl⟩
  · intro watch hwatch
    rcases hturn.left_cases with hleft | ⟨dropped, hleft⟩
    · exact hs watch (hleft ▸ hwatch)
    · obtain rfl := Option.some.inj (hleft.symm.trans hwatch)
      rfl
  · exact hs
  · exact hs

/-- A scene after the signal has fired in another one: the keeper has not moved and no time has
passed, or the keeper has stopped at that moment. -/
def Silenced (s s' : Scene σ) : Prop :=
  s'.channel.isCancelled = true ∧ ∃ keeper work, Still s.keeper s.now keeper work ∧
    (s'.keeper = keeper ∧ s'.now = s.now ∨ s'.keeper = keeper.stop s.now)

lemma Silenced.step {s s₁ s₂ : Scene σ} (hs : s.keeper.phase ≠ .stopped) (h : Silenced s s₁)
    (hstep : Step c plan s₁ s₂) : Silenced s s₂ := by
  obtain ⟨hc, keeper, work, hstill, hcase⟩ := h
  rcases hstep.cases with ⟨outcome, next, hturn, rfl⟩ | ⟨later, hnone, -, -, rfl⟩ | ⟨x, rfl⟩
  · rw [hc] at hturn
    rcases hcase with ⟨hkeeper, hnow⟩ | hkeeper
    · rw [hkeeper, hnow] at hturn
      cases hturn with
      | stop => exact ⟨hc, keeper, work, hstill, Or.inr rfl⟩
      | work hp hpoll =>
        obtain ⟨work', hstill'⟩ := hstill.work hp hpoll
        exact ⟨hc, _, work', hstill', Or.inl ⟨rfl, hnow⟩⟩
      | login hf => cases hf
      | receiveLogin hf => cases hf
      | receivePersist hf => cases hf
      | take hf => cases hf
      | wake hf => cases hf
    · rw [hkeeper] at hturn
      cases hturn with
      | stop _ hp => exact absurd rfl hp
      | work hp => cases hp
      | login hf => cases hf
      | receiveLogin hf => cases hf
      | receivePersist hf => cases hf
      | take hf => cases hf
      | wake hf => cases hf
  · rcases hcase with ⟨hkeeper, hnow⟩ | hkeeper
    · -- The keeper could still move, so no time passes.
      rw [hc, hkeeper, move?_cancelled (hstill.ne_stopped hs)] at hnone
      cases hnone
    · exact ⟨hc, keeper, work, hstill, Or.inr hkeeper⟩
  · exact ⟨isCancelled_apply _ x, keeper, work, hstill, hcase⟩

lemma silenced_of_later {s s' : Scene σ} (hs : s.keeper.phase ≠ .stopped) {x : Control}
    (h : Later c plan (s.control x) s') : Silenced s s' := by
  induction h with
  | refl => exact ⟨isCancelled_apply _ x, s.keeper, [], .same, Or.inl ⟨rfl, rfl⟩⟩
  | tail _ hstep ih => exact ih.step hs hstep

/-- The keeper of a scene has returned at the moment of the scene, with some more work of its watch
in the trace: this adds no more than the end.  If it was watching over a lease, the watch is let go
of, and the task of this watch runs no more, whatever happens. -/
structure Returned (c : Collaborators σ) (s : Scene σ) (work : Trace) (k : Keeper σ) : Prop where
  phase : k.phase = .stopped
  trace : k.trace = s.keeper.trace ++ work ++ [(s.now, .note .loopStopped), (s.now, .stopped)]
  released : ∀ watch, s.keeper.phase = .watching watch →
    ∃ left, k.left = some left ∧ watch.SameTerms left ∧ left.task = .ended ∧
      ∀ others trace now, (⟨left, others, trace⟩ : Watch.Run σ).poll? c.toRenewer now = none

/-- A keeper that stops returns. -/
lemma returned_stop (c : Collaborators σ) {s : Scene σ} {keeper : Keeper σ} {work : Trace}
    (h : Still s.keeper s.now keeper work) : s.Returned c work (keeper.stop s.now) where
  phase := rfl
  trace := by
    rw [← h.trace_eq]
    rfl
  released watch hp := by
    have habort : ∀ w : Watch, w.SameTerms w.abort := fun _ => ⟨rfl, rfl, rfl, rfl⟩
    cases h with
    | same => exact ⟨watch.abort, left_stop s.now _ hp, habort watch, rfl, fun _ _ _ => rfl⟩
    | @worked first watch' others work hfirst hsame hwork =>
      obtain rfl : first = watch := Phase.watching.inj (hfirst.symm.trans hp)
      have hleft := left_stop s.now
        { s.keeper with phase := .watching watch', others, trace := s.keeper.trace ++ work } rfl
      exact ⟨watch'.abort, hleft, hsame.trans (habort watch'), rfl, fun _ _ _ => rfl⟩

/-- After the signal only the task of the watch has run, and the keeper returns next, or has
returned. -/
lemma Silenced.exists_work (c : Collaborators σ) (plan : Plan) {s s' : Scene σ}
    (hs : s.keeper.phase ≠ .stopped) (h : Silenced s s') :
    ∃ work, s.keeper.IsBackground s.now work ∧
      (s'.keeper.phase ≠ .stopped ∧ s'.now = s.now ∧ s'.keeper.trace = s.keeper.trace ++ work ∧
          (∃ keeper, s'.keeper.move? c plan s'.channel.isCancelled s'.now = some keeper ∧
            s.Returned c work keeper) ∨
        s.Returned c work s'.keeper) := by
  obtain ⟨hc, keeper, work, hstill, hcase⟩ := h
  have hreturned := returned_stop c hstill
  refine ⟨work, hstill.isBackground, ?_⟩
  rcases hcase with ⟨hkeeper, hnow⟩ | hkeeper
  · have hp := hstill.ne_stopped hs
    rw [hkeeper, hnow, hc]
    exact Or.inl ⟨hp, rfl, hstill.trace_eq, _, move?_cancelled hp s.now, hreturned⟩
  · rw [hkeeper]
    exact Or.inr hreturned

/-- On the clock a keeper that has stopped stays as it is. -/
lemma state_runTo_of_stopped (channel : Shutdown.Channel) (deadline : Instant) (fuel : ℕ)
    {t : Timed (Keeper σ)} (h : t.state.phase = .stopped) :
    ((clocked c plan channel).runTo deadline fuel t).state = t.state := by
  cases fuel with
  | zero => rfl
  | succ fuel =>
    have hstep : (clocked c plan channel).step? deadline t = none := by
      simp [Clocked.step?, clocked, Keeper.move?, h, Phase.wake?]
    simp [Clocked.runTo, Clocked.runUntil, hstep]

/-- On the clock a keeper stops first of all once the signal has fired. -/
lemma state_runTo_of_cancelled {channel : Shutdown.Channel} (hc : channel.isCancelled = true)
    (deadline : Instant) (fuel : ℕ) {t : Timed (Keeper σ)} (h : t.state.phase ≠ .stopped) :
    ((clocked c plan channel).runTo deadline (fuel + 1) t).state = t.state.stop t.now := by
  have hmove : t.state.move? c plan channel.isCancelled t.now = some (t.state.stop t.now) := by
    rw [hc]
    exact move?_cancelled h t.now
  have hstep : (clocked c plan channel).step? deadline t =
      some ⟨t.now, t.state.stop t.now⟩ := by
    simp only [Clocked.step?, clocked, hmove]
  have hrun : (clocked c plan channel).runTo deadline (fuel + 1) t =
      (clocked c plan channel).runTo deadline fuel ⟨t.now, t.state.stop t.now⟩ := by
    simp only [Clocked.runTo, Clocked.runUntil, hstep, Bool.false_eq_true, if_false]
  rw [hrun]
  exact state_runTo_of_stopped channel deadline fuel rfl

/-- A keeper that has stopped stays as it is, and hears nothing. -/
lemma Later.of_stopped {s s' : Scene σ} (hs : s.keeper.phase = .stopped) (h : Later c plan s s') :
    s'.keeper = s.keeper ∧ s'.heard = s.heard := by
  induction h with
  | refl => exact ⟨rfl, rfl⟩
  | tail _ hstep ih =>
    obtain ⟨hkeeper, hheard⟩ := ih
    rcases hstep.cases with ⟨outcome, next, hturn, rfl⟩ | ⟨later, -, -, -, rfl⟩ | ⟨x, rfl⟩
    · rw [hkeeper] at hturn
      cases hturn with
      | stop _ hp => exact absurd hs hp
      | _ => simp_all
    · exact ⟨hkeeper, hheard⟩
    · exact ⟨hkeeper, hheard⟩

/-- When the trigger is fired or dropped before the keeper has returned, the next move of the keeper
is to return, and no time passes before.  Up to that move only the task of its watch may run, and
nothing is reported; with it the task is released; after it the keeper, its collaborators and the
trace stay as they are, and nothing is heard.  On the clock the keeper returns first of all.  A
keeper that has not begun adds no more to the trace than its end. -/
theorem cancellation {s : Scene σ} (hs : s.keeper.phase ≠ .stopped) (x : Control) :
    (∀ s', Later c plan (s.control x) s' → ∃ work, s.keeper.IsBackground s.now work ∧
        (s'.keeper.phase ≠ .stopped ∧ s'.now = s.now ∧
            s'.keeper.trace = s.keeper.trace ++ work ∧
            (∃ keeper, s'.keeper.move? c plan s'.channel.isCancelled s'.now = some keeper ∧
              s.Returned c work keeper) ∨
          s.Returned c work s'.keeper)) ∧
      (∀ s' s'', Later c plan (s.control x) s' → s'.keeper.phase = .stopped →
        Later c plan s' s'' → s''.keeper = s'.keeper ∧ s''.heard = s'.heard) ∧
      (∀ deadline fuel, s.Returned c []
        ((clocked c plan (s.control x).channel).runTo deadline (fuel + 1)
          ⟨s.now, s.keeper⟩).state) ∧
      (∀ others, s.keeper = .start others → ∀ s', Later c plan (s.control x) s' →
        s'.keeper.trace = [] ∨
          s'.keeper.trace = [(s.now, .note .loopStopped), (s.now, .stopped)]) := by
  refine ⟨fun s' hlater => (silenced_of_later hs hlater).exists_work c plan hs,
    fun s' s'' _ hp hlater => hlater.of_stopped hp, fun deadline fuel => ?_,
    fun others hstart s' hlater => ?_⟩
  · have hc : (s.control x).channel.isCancelled = true := isCancelled_apply _ x
    rw [state_runTo_of_cancelled hc deadline fuel hs]
    exact returned_stop c .same
  · obtain ⟨work, hwork, hcase⟩ := (silenced_of_later hs hlater).exists_work c plan hs
    rw [hstart] at hwork
    -- Where nothing is watched, nothing runs in the background.
    have hnil : work = [] := hwork
    subst hnil
    rcases hcase with ⟨-, -, htrace, -⟩ | hreturned
    · rw [htrace, hstart]
      exact Or.inl rfl
    · rw [hreturned.trace, hstart]
      exact Or.inr rfl

/-- Collaborators that never answer. -/
def silent : Collaborators Unit where
  renew _ _ _ _ := (.unanswered, ())
  draw _ := (0, ())
  login _ _ := (.unanswered, ())
  persist _ _ _ := (.unanswered, ())

/-- What is granted by a login and by a renewal. -/
def granted : Grant := ⟨"token", none, [], .ofSeconds 60, true⟩

/-- A keeper whose login has just been answered. -/
def answered : Scene Unit where
  now := 5
  channel := .fresh
  keeper := ⟨.loggingIn (some ⟨5, .ok granted, []⟩), (), [(0, .login)], none⟩
  heard := []

/-- A watch whose renewal is answered at the moment 5. -/
def renewing : Watch :=
  { Watch.start (granted.startingAt 0) ⟨none, none⟩ with
    task := .renewing (some ⟨5, .granted granted, []⟩) }

/-- A keeper whose watch has just got the answer to a renewal. -/
def watching : Scene Unit := { answered with keeper := ⟨.watching renewing, (), [], none⟩ }

/-- When the trigger is dropped or fired at the moment at which a login or a renewal is answered,
the keeper returns, the answer is lost, and the task of the watch has ended. -/
theorem cancellation_answered :
    let plan : Plan := ⟨.ofSeconds 5, ⟨none, none⟩⟩
    let ended : Trace := [(5, .note .loopStopped), (5, .stopped)]
    answered.keeper.phase ≠ .stopped ∧ watching.keeper.phase ≠ .stopped ∧
      (∃ s', Step silent plan (answered.control .drop) s' ∧ s'.keeper.phase = .stopped ∧
        s'.keeper.trace = (0, .login) :: ended) ∧
      (∃ s' left, Step silent plan (watching.control .cancel) s' ∧ s'.keeper.phase = .stopped ∧
        s'.keeper.left = some left ∧ left.lease = renewing.lease ∧ left.task = .ended) ∧
      ((clocked silent plan (watching.control .cancel).channel).runTo 9 1
        ⟨5, watching.keeper⟩).state.trace = ended := by
  intro plan ended
  have hanswered : answered.keeper.phase ≠ .stopped := by simp [answered]
  have hwatching : watching.keeper.phase ≠ .stopped := by simp [watching]
  refine ⟨hanswered, hwatching, ?_, ?_, ?_⟩
  · have hstep : Step silent plan (answered.control .drop)
        ((answered.control .drop).after none (answered.keeper.stop 5)) := .move rfl
    obtain ⟨work, hwork, hcase⟩ := (cancellation hanswered .drop).1 _ (.single hstep)
    obtain rfl : work = [] := hwork
    rcases hcase with ⟨hne, -⟩ | hreturned
    · exact absurd rfl hne
    · exact ⟨_, hstep, hreturned.phase, hreturned.trace⟩
  · have hstep : Step silent plan (watching.control .cancel)
        ((watching.control .cancel).after none (watching.keeper.stop 5)) := .move rfl
    obtain ⟨work, -, hcase⟩ := (cancellation hwatching .cancel).1 _ (.single hstep)
    rcases hcase with ⟨hne, -⟩ | hreturned
    · exact absurd rfl hne
    · obtain ⟨left, hleft, hterms, hended, -⟩ := hreturned.released renewing rfl
      exact ⟨_, left, hstep, hreturned.phase, hleft, hterms.lease, hended⟩
  · exact ((cancellation hwatching .cancel).2.2.1 9 0).trace

end Scene
end Keeper
end LeaseKeeper
