/-
# An owner with a clock tells a story

An owner who waits for events with a deadline gives up when the deadline comes, and the task runs
on meanwhile.  Whatever such an owner does, short of dropping the watch, goes on along a timeline,
and the events that it gets are those that the story hands out.  So they follow the protocol of the
stream.
-/
import LeaseKeeper.Proofs.Watch.Timeline

namespace LeaseKeeper
namespace Watch

open Relation

/-- The events that a result holds, in order. -/
def Result.handed : Result → List Event
  | .event e => e.toList
  | .events es => es.filterMap fun e => e.2
  | _ => []

variable {σ : Type} {r : Renewer σ}

namespace Timeline

/-- A timeline is at a state of the watch on the clock. -/
def IsAt (t : Timeline σ) (timed : Timed (Run σ)) : Prop :=
  t.now = timed.now ∧ t.state.run = timed.state

/-- The timeline goes on to a state of the watch on the clock, and the owner is handed some events
on the way. -/
def LeadsTo (r : Renewer σ) (t : Timeline σ) (timed : Timed (Run σ)) (events : List Event) : Prop :=
  ∃ t', Later r t t' ∧ t'.IsAt timed ∧ t'.state.handed = t.state.handed ++ events

lemma IsAt.leadsTo (r : Renewer σ) {t : Timeline σ} {timed : Timed (Run σ)} (h : t.IsAt timed) :
    LeadsTo r t timed [] :=
  ⟨t, .refl, h, (List.append_nil _).symm⟩

lemma LeadsTo.trans {t : Timeline σ} {timed timed' : Timed (Run σ)} {events events' : List Event}
    (h : LeadsTo r t timed events)
    (h' : ∀ u : Timeline σ, u.IsAt timed → LeadsTo r u timed' events') :
    LeadsTo r t timed' (events ++ events') := by
  obtain ⟨t₁, hlater, hat, hhanded⟩ := h
  obtain ⟨t₂, hlater', hat', hhanded'⟩ := h' t₁ hat
  refine ⟨t₂, hlater.trans hlater', hat', ?_⟩
  rw [hhanded', hhanded, List.append_assoc]

/-- A step of the clock is a run of the task, or lets time pass. -/
lemma leadsTo_step {timed timed' : Timed (Run σ)} (h : (Run.clocked r).Step timed timed')
    {t : Timeline σ} (ht : t.IsAt timed) : LeadsTo r t timed' [] := by
  obtain ⟨now, s⟩ := t
  obtain ⟨moment, run⟩ := timed
  obtain ⟨hnow, hrun⟩ := ht
  dsimp only at hnow hrun
  subst hnow hrun
  cases h with
  | move h => exact ⟨_, .single (.work h), ⟨rfl, rfl⟩, (List.append_nil _).symm⟩
  | wait h hle hwake => exact ⟨_, .single (.wait h hle hwake), ⟨rfl, rfl⟩, (List.append_nil _).symm⟩

lemma leadsTo_runTo (deadline : Instant) (fuel : ℕ) (timed : Timed (Run σ)) {t : Timeline σ}
    (ht : t.IsAt timed) : LeadsTo r t ((Run.clocked r).runTo deadline fuel timed) [] := by
  induction fuel generalizing timed t with
  | zero => exact ht.leadsTo r
  | succ fuel ih =>
    cases h : (Run.clocked r).step? deadline timed with
    | none =>
      simp only [Clocked.runTo, Clocked.runUntil, h]
      exact leadsTo_step (.of_step?_eq_none h) ht
    | some timed' =>
      simp only [Clocked.runTo, Clocked.runUntil, h]
      exact (leadsTo_step (.of_step? h) ht).trans fun u hu => ih timed' hu

lemma leadsTo_takeBy (deadline : Instant) (fuel : ℕ) (timed : Timed (Run σ)) {t : Timeline σ}
    (ht : t.IsAt timed) :
    LeadsTo r t ((Run.clocked r).takeBy Run.take? deadline fuel timed).2
      ((Run.clocked r).takeBy Run.take? deadline fuel timed).1.toList := by
  induction fuel generalizing timed t with
  | zero => exact ht.leadsTo r
  | succ fuel ih =>
    cases htake : timed.state.take? with
    | some taken =>
      obtain ⟨event, run⟩ := taken
      simp only [Clocked.takeBy, htake]
      rw [← ht.2] at htake
      refine ⟨⟨t.now, t.state.next⟩, .single (.next _ _), ⟨ht.1, ?_⟩, ?_⟩ <;>
        simp [Story.next, htake]
    | none =>
      simp only [Clocked.takeBy, htake]
      split
      · exact ht.leadsTo r
      · cases h : (Run.clocked r).step? deadline timed with
        | none => exact leadsTo_step (.of_step?_eq_none h) ht
        | some timed' => exact (leadsTo_step (.of_step? h) ht).trans fun u hu => ih timed' hu

end Timeline

namespace Session

open Timeline

lemma leadsTo_next (fuel ms : ℕ) (session : Session σ) {t : Timeline σ}
    (ht : t.IsAt session.timed) :
    LeadsTo r t (session.next r fuel ms).2.timed (session.next r fuel ms).1.toList :=
  leadsTo_takeBy _ _ _ ht

lemma leadsTo_drain (fuel ms n : ℕ) (session : Session σ) {t : Timeline σ}
    (ht : t.IsAt session.timed) :
    LeadsTo r t (session.drain r fuel ms n).2.timed
      ((session.drain r fuel ms n).1.filterMap fun e => e.2) := by
  induction n generalizing session t with
  | zero => exact ht.leadsTo r
  | succ n ih =>
    have hnext := leadsTo_next (r := r) fuel ms session ht
    cases hout : session.next r fuel ms with
    | mk event session' =>
      rw [hout] at hnext
      -- The owner asks again only after a renewal.
      match event with
      | none =>
        simp only [drain, hout]
        exact hnext
      | some (.done result) =>
        simp only [drain, hout]
        exact hnext
      | some (.renewed lease) =>
        simp only [drain, hout]
        exact hnext.trans fun u hu => ih session' hu

lemma leadsTo_pass (fuel ms : ℕ) (session : Session σ) {t : Timeline σ}
    (ht : t.IsAt session.timed) : LeadsTo r t (session.pass r fuel ms).timed [] := by
  unfold pass
  split
  · exact ht.leadsTo r
  · exact leadsTo_runTo _ _ _ ht

/-- Whatever the owner does, short of dropping the watch, goes on along the timeline. -/
theorem leadsTo_act (fuel : ℕ) {act : Act} (hact : act ≠ .drop) (session : Session σ)
    {t : Timeline σ} (ht : t.IsAt session.timed) :
    LeadsTo r t (session.act r fuel act).2.timed (session.act r fuel act).1.handed := by
  have hidle : LeadsTo r t session.timed [] := ht.leadsTo r
  cases act with
  | drop => exact absurd rfl hact
  | wait ms => exact leadsTo_pass fuel ms session ht
  | next ms =>
    by_cases hd : session.isDropped = true
    · simp only [Session.act, if_pos hd]
      exact hidle
    · simp only [Session.act, if_neg hd]
      exact leadsTo_next fuel ms session ht
  | drain ms =>
    by_cases hd : session.isDropped = true
    · simp only [Session.act, if_pos hd]
      exact hidle
    · simp only [Session.act, if_neg hd]
      exact leadsTo_drain fuel ms fuel session ht
  | stop =>
    by_cases hd : session.isDropped = true
    · simp only [Session.act, if_pos hd]
      exact hidle
    · simp only [Session.act, if_neg hd]
      refine ⟨⟨t.now, t.state.stop⟩, .single (.stop _ _), ⟨ht.1, ?_⟩, (List.append_nil _).symm⟩
      simp only [Story.stop, change, ht.2]

/-- The events that an owner gets from a list of acts. -/
def handed (r : Renewer σ) (fuel : ℕ) : List Act → Session σ → List Event
  | [], _ => []
  | act :: acts, session =>
    (session.act r fuel act).1.handed ++ handed r fuel acts (session.act r fuel act).2

/-- The session after a list of acts. -/
def play (r : Renewer σ) (fuel : ℕ) : List Act → Session σ → Session σ
  | [], session => session
  | act :: acts, session => play r fuel acts (session.act r fuel act).2

/-- A session stays on the timeline, and its owner gets what is handed out there. -/
theorem leadsTo_play (fuel : ℕ) {acts : List Act} (hacts : .drop ∉ acts) (session : Session σ)
    {t : Timeline σ} (ht : t.IsAt session.timed) :
    LeadsTo r t (session.play r fuel acts).timed (session.handed r fuel acts) := by
  induction acts generalizing session t with
  | nil => exact ht.leadsTo r
  | cons act acts ih =>
    rw [List.mem_cons, not_or] at hacts
    exact (leadsTo_act fuel (Ne.symm hacts.1) session ht).trans fun u hu => ih hacts.2 _ hu

/-- All that an owner gets from a new watch is the beginning of the stream of some story. -/
theorem exists_handed_prefix_stream (r : Renewer σ) (fuel : ℕ) {acts : List Act}
    (hacts : .drop ∉ acts) (lease : Lease) (config : Config) (others : σ) :
    ∃ s n, Story.Later r (Story.start lease config others) s ∧
      (start lease config others).handed r fuel acts <+: s.stream n := by
  obtain ⟨t, hlater, -, hhanded⟩ := leadsTo_play (r := r) fuel hacts
    (start lease config others) (t := .start 0 lease config others) ⟨rfl, rfl⟩
  obtain ⟨n, hn⟩ := (Story.kept_of_later hlater.story).handed_within_stream
  refine ⟨t.state, n, hlater.story, ?_⟩
  rwa [hhanded] at hn

end Session
end Watch
end LeaseKeeper
