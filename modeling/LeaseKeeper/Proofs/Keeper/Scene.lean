/-
# A keeper at large

A keeper moves when it can, the clock goes on when the keeper cannot move, and the holder of the
trigger fires or drops it at any moment.  The task of a watch and the keeper run on their own, so
the task may run although the signal has fired, and the keeper may take an event although the task
could run.  What a keeper hears from its collaborators is written down on the way.
-/
import LeaseKeeper.Keeper.Timeline
import LeaseKeeper.Proofs.Watch.Reaction
import Mathlib.Logic.Relation

namespace LeaseKeeper
namespace Keeper

open Relation

/-- What a keeper, or the task of its watch, hears from a collaborator. -/
inductive Outcome
  /-- The answer to a login. -/
  | login (answer : Answer (Except VaultError Grant))
  /-- The answer to a call to store the token of a lease. -/
  | persist (lease : Lease) (answer : Answer (Except KeeperError Unit))
  /-- The answer to a renewal of a token. -/
  | renewal (token : String) (answer : Answer Renewal)

variable {σ : Type}

/-- The watch of a keeper, as its task sees it. -/
def runOf (k : Keeper σ) (watch : Watch) : Watch.Run σ := ⟨watch, k.others, k.trace⟩

/-- The keeper after the task of its watch has run. -/
def ofRun (k : Keeper σ) (run : Watch.Run σ) : Keeper σ :=
  { k with phase := .watching run.watch, others := run.others, trace := run.trace }

/-- What the task of a watch hears when it runs. -/
def heardBy (c : Collaborators σ) (now : Instant) (k : Keeper σ) (watch : Watch) :
    Option Outcome :=
  ((k.runOf watch).reply? c.toRenewer now).map (.renewal watch.lease.token)

/-- What the keeper, or the task of its watch, hears in its next move. -/
def outcome? (c : Collaborators σ) (now : Instant) (k : Keeper σ) : Option Outcome :=
  match k.phase with
  | .loggingIn answer => (Answer.come? now answer).map .login
  | .persisting lease answer => (Answer.come? now answer).map (.persist lease)
  | .watching watch => k.heardBy c now watch
  | _ => none

section

variable (c : Collaborators σ) (plan : Plan) (now : Instant) (k : Keeper σ)

@[simp] lemma phase_record (events : Trace) : (k.record events).phase = k.phase := rfl

@[simp] lemma others_record (events : Trace) : (k.record events).others = k.others := rfl

@[simp] lemma phase_stop : (k.stop now).phase = .stopped := rfl

/-- A keeper that stops lets its watch go. -/
lemma left_stop {watch : Watch} (hp : k.phase = .watching watch) :
    (k.stop now).left = some watch.abort := by
  show (k.phase.watch?.map Watch.abort).or k.left = _
  rw [hp]
  rfl

@[simp] lemma phase_fail (report : Report) :
    (k.fail plan now report).phase =
      .pausing (Instant.roundUp (now + plan.backoff.nanos)) := rfl

@[simp] lemma others_fail (report : Report) : (k.fail plan now report).others = k.others := rfl

@[simp] lemma phase_beginLogin :
    (k.beginLogin c now).phase = .loggingIn (c.login k.others now).1.answer := rfl

@[simp] lemma others_beginLogin : (k.beginLogin c now).others = (c.login k.others now).2 := rfl

@[simp] lemma phase_beginPersist (lease : Lease) :
    (k.beginPersist c now lease).phase =
      .persisting lease (c.persist k.others now lease).1.answer := rfl

@[simp] lemma others_beginPersist (lease : Lease) :
    (k.beginPersist c now lease).others = (c.persist k.others now lease).2 := rfl

@[simp] lemma others_receiveEvent (watch : Watch) (event : Watch.Event) :
    (k.receiveEvent plan now watch event).others = k.others := by
  cases event with
  | renewed lease => rfl
  | done result => cases result <;> rfl

/-- After an event the keeper goes on watching, begins a new round, or pauses. -/
lemma phase_receiveEvent (watch : Watch) (event : Watch.Event) :
    ((∃ lease, event = .renewed lease) ∧
        (k.receiveEvent plan now watch event).phase = .watching watch) ∨
      (event = .done (.ok ()) ∧ (k.receiveEvent plan now watch event).phase = .starting) ∨
      (∃ error, event = .done (.error error)) ∧
        (k.receiveEvent plan now watch event).phase =
          .pausing (Instant.roundUp (now + plan.backoff.nanos)) := by
  cases event with
  | renewed lease => exact Or.inl ⟨⟨lease, rfl⟩, rfl⟩
  | done result =>
    cases result with
    | ok => exact Or.inr (Or.inl ⟨rfl, rfl⟩)
    | error error => exact Or.inr (Or.inr ⟨⟨error, rfl⟩, rfl⟩)

/-- A successful login is followed by the call to store its token. -/
lemma receiveLogin_ok {answer : Answer (Except VaultError Grant)} {grant : Grant}
    (h : answer.value = .ok grant) :
    k.receiveLogin c plan now answer =
      (k.record (Trace.ofNotes now answer.notes)).beginPersist c now
        (grant.startingAt answer.ready) := by
  simp only [receiveLogin, h]

lemma receiveLogin_error {answer : Answer (Except VaultError Grant)} {error : VaultError}
    (h : answer.value = .error error) :
    k.receiveLogin c plan now answer =
      (k.record (Trace.ofNotes now answer.notes)).fail plan now (.loginFailed error) := by
  simp only [receiveLogin, h]

/-- When the token is stored, the watch over its lease begins. -/
lemma receivePersist_ok {lease : Lease} {answer : Answer (Except KeeperError Unit)}
    (h : answer.value = .ok ()) :
    k.receivePersist plan now lease answer =
      { k.record (Trace.ofNotes now answer.notes) with
          phase := .watching (.start lease plan.watch) }.record
        [(now, .report (.tokenPersisted lease))] := by
  simp only [receivePersist, h]

lemma receivePersist_error {lease : Lease} {answer : Answer (Except KeeperError Unit)}
    {error : KeeperError} (h : answer.value = .error error) :
    k.receivePersist plan now lease answer =
      (k.record (Trace.ofNotes now answer.notes)).fail plan now (.persistFailed error) := by
  simp only [receivePersist, h]

end

/-- What a keeper does in one go, and what it hears. -/
inductive Turn (c : Collaborators σ) (plan : Plan) (cancelled : Bool) (now : Instant)
    (k : Keeper σ) : Option Outcome → Keeper σ → Prop
  /-- The signal has fired. -/
  | stop (hc : cancelled = true) (hp : k.phase ≠ .stopped) :
      Turn c plan cancelled now k none (k.stop now)
  /-- A round begins. -/
  | login (hc : cancelled = false) (hp : k.phase = .starting) :
      Turn c plan cancelled now k none (k.beginLogin c now)
  /-- The answer to the login has come. -/
  | receiveLogin {answer : Answer (Except VaultError Grant)} (hc : cancelled = false)
      (hp : k.phase = .loggingIn (some answer)) (hle : answer.ready ≤ now) :
      Turn c plan cancelled now k (some (.login answer)) (k.receiveLogin c plan now answer)
  /-- The answer to the call to store the token has come. -/
  | receivePersist {lease : Lease} {answer : Answer (Except KeeperError Unit)}
      (hc : cancelled = false) (hp : k.phase = .persisting lease (some answer))
      (hle : answer.ready ≤ now) :
      Turn c plan cancelled now k (some (.persist lease answer))
        (k.receivePersist plan now lease answer)
  /-- The task of the watch runs. -/
  | work {watch : Watch} {run : Watch.Run σ} (hp : k.phase = .watching watch)
      (h : (k.runOf watch).poll? c.toRenewer now = some run) :
      Turn c plan cancelled now k (k.heardBy c now watch) (k.ofRun run)
  /-- The keeper takes an event of its watch. -/
  | take {watch watch' : Watch} {event : Watch.Event} (hc : cancelled = false)
      (hp : k.phase = .watching watch) (h : watch.take? = some (event, watch')) :
      Turn c plan cancelled now k none (k.receiveEvent plan now watch' event)
  /-- The pause is over. -/
  | wake {wakeAt : Instant} (hc : cancelled = false) (hp : k.phase = .pausing wakeAt)
      (hle : wakeAt ≤ now) : Turn c plan cancelled now k none { k with phase := .starting }

/-- The only move of a keeper whose signal has fired is to stop. -/
lemma move?_cancelled {c : Collaborators σ} {plan : Plan} {k : Keeper σ}
    (hp : k.phase ≠ .stopped) (now : Instant) :
    k.move? c plan true now = some (k.stop now) := by
  unfold move?
  split
  · rename_i h
    exact absurd h hp
  · rfl

/-- Whatever a keeper does is one of these, and it hears nothing when it stops. -/
lemma turn_of_move? {c : Collaborators σ} {plan : Plan} {cancelled : Bool} {now : Instant}
    {k k' : Keeper σ} (h : k.move? c plan cancelled now = some k') :
    Turn c plan cancelled now k (if cancelled then none else k.outcome? c now) k' := by
  have hstop : k.phase ≠ .stopped := by
    intro hp
    simp [move?, hp] at h
  cases cancelled with
  | true =>
    rw [move?_cancelled hstop] at h
    cases h
    exact .stop rfl hstop
  | false =>
    simp only [move?, Bool.false_eq_true, if_false] at h
    simp only [outcome?, Bool.false_eq_true, if_false]
    cases hp : k.phase with
    | stopped => exact absurd hp hstop
    | starting =>
      simp only [hp, Option.some.injEq] at h
      rw [← h]
      exact .login rfl hp
    | loggingIn answer =>
      cases answer with
      | none => simp [hp] at h
      | some answer =>
        simp only [hp] at h
        split at h
        · rename_i hle
          cases h
          simp only [Answer.come?_of_le hle, Option.map_some]
          exact .receiveLogin rfl hp hle
        · cases h
    | persisting lease answer =>
      cases answer with
      | none => simp [hp] at h
      | some answer =>
        simp only [hp] at h
        split at h
        · rename_i hle
          cases h
          simp only [Answer.come?_of_le hle, Option.map_some]
          exact .receivePersist rfl hp hle
        · cases h
    | watching watch =>
      simp only [hp] at h
      unfold moveWatch? at h
      split at h
      · rename_i run hpoll
        cases h
        exact .work hp hpoll
      · rename_i hpoll
        simp only [Option.map_eq_some_iff, Prod.exists] at h
        obtain ⟨event, watch', htake, rfl⟩ := h
        -- An event is taken only when the task cannot run, so that no reply is heard.
        have hsilent : k.heardBy c now watch = none := by
          simp only [heardBy, runOf, Watch.Run.reply?_eq_none hpoll, Option.map_none]
        simp only [hsilent]
        exact .take rfl hp htake
    | pausing wakeAt =>
      simp only [hp] at h
      split at h
      · rename_i hle
        cases h
        exact .wake rfl hp hle
      · cases h

/-- A keeper that watches and cannot move can neither let the task run nor take an event. -/
lemma moveWatch?_eq_none {c : Collaborators σ} {plan : Plan} {now : Instant} {k : Keeper σ}
    {watch : Watch} (h : k.moveWatch? c plan now watch = none) :
    (k.runOf watch).poll? c.toRenewer now = none ∧ watch.take? = none := by
  unfold moveWatch? at h
  split at h
  · cases h
  · rename_i hpoll
    exact ⟨hpoll, Option.map_eq_none_iff.mp h⟩

/-- A keeper with the moment, the channel of its shutdown signal, and what was heard so far. -/
structure Scene (σ : Type) where
  /-- The moment. -/
  now : Instant
  /-- The channel of the shutdown signal. -/
  channel : Shutdown.Channel
  /-- The keeper. -/
  keeper : Keeper σ
  /-- What the keeper and the tasks of its watches have heard, in order. -/
  heard : List Outcome

namespace Scene

/-- A keeper that has not begun, with a trigger that has not fired. -/
def start (now : Instant) (others : σ) : Scene σ := ⟨now, .fresh, .start others, []⟩

/-- The keeper has done something, and may have heard something. -/
def after (s : Scene σ) (outcome : Option Outcome) (keeper : Keeper σ) : Scene σ :=
  { s with keeper, heard := s.heard ++ outcome.toList }

/-- The holder of the trigger has done something. -/
def control (x : Control) (s : Scene σ) : Scene σ := { s with channel := x.apply s.channel }

/-- What happens next. -/
inductive Step (c : Collaborators σ) (plan : Plan) : Scene σ → Scene σ → Prop
  /-- The keeper moves. -/
  | move {s : Scene σ} {keeper : Keeper σ}
      (h : s.keeper.move? c plan s.channel.isCancelled s.now = some keeper) :
      Step c plan s (s.after
        (if s.channel.isCancelled then none else s.keeper.outcome? c s.now) keeper)
  /-- The task of the watch runs, even if the signal has fired. -/
  | work {s : Scene σ} {watch : Watch} {run : Watch.Run σ} (hp : s.keeper.phase = .watching watch)
      (h : (s.keeper.runOf watch).poll? c.toRenewer s.now = some run) :
      Step c plan s (s.after (s.keeper.heardBy c s.now watch) (s.keeper.ofRun run))
  /-- The keeper takes an event of its watch, even if the task could run. -/
  | take {s : Scene σ} {watch watch' : Watch} {event : Watch.Event}
      (hc : s.channel.isCancelled = false) (hp : s.keeper.phase = .watching watch)
      (h : watch.take? = some (event, watch')) :
      Step c plan s (s.after none (s.keeper.receiveEvent plan s.now watch' event))
  /-- The keeper cannot move, and the clock goes on, at most to the next wake-up. -/
  | wait {s : Scene σ} {later : Instant}
      (h : s.keeper.move? c plan s.channel.isCancelled s.now = none) (hle : s.now ≤ later)
      (hwake : ∀ t, s.keeper.phase.wake? = some t → s.now < t → later ≤ t) :
      Step c plan s { s with now := later }
  /-- The trigger is fired or dropped. -/
  | control (s : Scene σ) (x : Control) : Step c plan s (s.control x)

/-- One scene comes after another. -/
def Later (c : Collaborators σ) (plan : Plan) : Scene σ → Scene σ → Prop :=
  ReflTransGen (Step c plan)

/-- The scenes that come after a start at some moment. -/
def Reachable (c : Collaborators σ) (plan : Plan) (s : Scene σ) : Prop :=
  ∃ now others, Later c plan (start now others) s

variable {c : Collaborators σ} {plan : Plan}

/-- In each step the keeper takes a turn, or the clock goes on, or the trigger is touched. -/
lemma Step.cases {s s' : Scene σ} (h : Step c plan s s') :
    (∃ outcome keeper, Turn c plan s.channel.isCancelled s.now s.keeper outcome keeper ∧
        s' = s.after outcome keeper) ∨
      (∃ later, s.keeper.move? c plan s.channel.isCancelled s.now = none ∧ s.now ≤ later ∧
        (∀ t, s.keeper.phase.wake? = some t → s.now < t → later ≤ t) ∧
        s' = { s with now := later }) ∨
      ∃ x, s' = s.control x := by
  cases h with
  | move h => exact Or.inl ⟨_, _, turn_of_move? h, rfl⟩
  | work hp h => exact Or.inl ⟨_, _, .work hp h, rfl⟩
  | take hc hp h => exact Or.inl ⟨_, _, .take hc hp h, rfl⟩
  | wait h hle hwake => exact Or.inr (Or.inl ⟨_, h, hle, hwake, rfl⟩)
  | control x => exact Or.inr (Or.inr ⟨x, rfl⟩)

/-- What holds at the start and is kept by each step holds of all reachable scenes. -/
lemma Reachable.induction {P : Scene σ → Prop} (hstart : ∀ now others, P (start now others))
    (hstep : ∀ s s', P s → Step c plan s s' → P s') {s : Scene σ} (h : Reachable c plan s) :
    P s := by
  obtain ⟨now, others, hlater⟩ := h
  induction hlater with
  | refl => exact hstart now others
  | tail _ hlast ih => exact hstep _ _ ih hlast

/-! ### The keeper on the clock -/

/-- The scene is at a state of the keeper on the clock. -/
def IsAt (s : Scene σ) (t : Timed (Keeper σ)) : Prop := s.now = t.now ∧ s.keeper = t.state

lemma exists_later_of_step {t t' : Timed (Keeper σ)} {s : Scene σ}
    (h : (clocked c plan s.channel).Step t t') (hs : s.IsAt t) :
    ∃ s', Later c plan s s' ∧ s'.channel = s.channel ∧ s'.IsAt t' := by
  obtain ⟨now, channel, keeper, heard⟩ := s
  obtain ⟨hnow, hkeeper⟩ := hs
  dsimp only at h hnow hkeeper
  subst hnow hkeeper
  cases h with
  | move hmove => exact ⟨_, .single (.move hmove), rfl, rfl, rfl⟩
  | wait hnone hle hwake => exact ⟨_, .single (.wait hnone hle hwake), rfl, rfl, rfl⟩

lemma exists_later_runTo (c : Collaborators σ) (plan : Plan) (deadline : Instant) (fuel : ℕ)
    {t : Timed (Keeper σ)} {s : Scene σ} (hs : s.IsAt t) :
    ∃ s', Later c plan s s' ∧ s'.channel = s.channel ∧
      s'.IsAt ((clocked c plan s.channel).runTo deadline fuel t) := by
  induction fuel generalizing t s with
  | zero => exact ⟨s, .refl, rfl, hs⟩
  | succ fuel ih =>
    cases h : (clocked c plan s.channel).step? deadline t with
    | none =>
      simp only [Clocked.runTo, Clocked.runUntil, h]
      exact exists_later_of_step (Clocked.Step.of_step?_eq_none h) hs
    | some t' =>
      obtain ⟨s₁, hlater, hchannel, hs₁⟩ := exists_later_of_step (Clocked.Step.of_step? h) hs
      obtain ⟨s₂, hlater', hchannel', hs₂⟩ := ih hs₁
      refine ⟨s₂, hlater.trans hlater', hchannel'.trans hchannel, ?_⟩
      simp only [Clocked.runTo, Clocked.runUntil, h]
      rw [hchannel] at hs₂
      exact hs₂

lemma exists_later_runControls (c : Collaborators σ) (plan : Plan) (fuel : ℕ) (deadline : Instant)
    (controls : List (Instant × Control)) {t : Timed (Keeper σ)} {s : Scene σ} (hs : s.IsAt t) :
    ∃ s', Later c plan s s' ∧
      s'.IsAt (runControls c plan fuel deadline controls s.channel t) := by
  induction controls generalizing t s with
  | nil =>
    obtain ⟨s', hlater, -, hs'⟩ := exists_later_runTo c plan deadline fuel hs
    exact ⟨s', hlater, hs'⟩
  | cons entry rest ih =>
    obtain ⟨moment, x⟩ := entry
    unfold runControls
    split
    · obtain ⟨s', hlater, -, hs'⟩ := exists_later_runTo c plan deadline fuel hs
      exact ⟨s', hlater, hs'⟩
    · -- The run goes on from the scene in which the trigger has been touched.
      obtain ⟨s₁, hlater, hchannel, hs₁⟩ := exists_later_runTo c plan moment fuel hs
      obtain ⟨s₂, hlater', hs₂⟩ := ih (s := s₁.control x) hs₁
      have hafter : (s₁.control x).channel = x.apply s.channel :=
        congrArg (fun channel => Control.apply channel x) hchannel
      rw [hafter] at hs₂
      exact ⟨s₂, (hlater.tail (.control s₁ x)).trans hlater', hs₂⟩

lemma exists_later_controls (c : Collaborators σ) (plan : Plan) (controls : List Control)
    (s : Scene σ) :
    ∃ s', Later c plan s s' ∧ s'.channel = controls.foldl Control.apply s.channel ∧
      s'.now = s.now ∧ s'.keeper = s.keeper := by
  induction controls generalizing s with
  | nil => exact ⟨s, .refl, rfl, rfl, rfl⟩
  | cons x rest ih =>
    obtain ⟨s', hlater, hchannel, hnow, hkeeper⟩ := ih (s.control x)
    exact ⟨s', .head (.control s x) hlater, hchannel, hnow, hkeeper⟩

/-- Every run on the clock, under controls before and after its start, leads to a reachable
scene. -/
theorem exists_reachable_runUnder (c : Collaborators σ) (plan : Plan) (fuel : ℕ)
    (before : List Control) (controls : List (Instant × Control)) (deadline : Instant)
    (others : σ) :
    ∃ s, Reachable c plan s ∧
      s.keeper = runUnder c plan fuel before controls deadline (.start others) := by
  obtain ⟨s₀, hlater, hchannel, hnow, hkeeper⟩ :=
    exists_later_controls c plan before (start 0 others)
  obtain ⟨s, hlater', hs⟩ := exists_later_runControls c plan fuel deadline controls
    (t := ⟨0, .start others⟩) ⟨hnow, hkeeper⟩
  rw [hchannel] at hs
  exact ⟨s, ⟨0, others, hlater.trans hlater'⟩, hs.2⟩

end Scene
end Keeper
end LeaseKeeper
