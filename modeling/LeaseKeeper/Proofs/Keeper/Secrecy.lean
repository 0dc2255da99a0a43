/-
# Tokens do not show

Two keepers whose collaborators answer alike, but for the tokens that they grant, move together:
both are shown by one keeper under the veil.  So they make their calls at the same moments, write
the same journal, and end in the same way, however the clock, the trigger and the tasks of their
watches come in between.
-/
import LeaseKeeper.Journal
import LeaseKeeper.Proofs.Keeper.Veil
import LeaseKeeper.Script

namespace LeaseKeeper

open Relation

/-! ### What shows under the veil -/

/-- No event of the journal holds a token. -/
lemma Trace.journal_veiled (stamp : Instant → String) (t : Trace) :
    t.veiled.journal stamp = t.journal stamp := by
  induction t with
  | nil => rfl
  | cons e rest ih =>
    obtain ⟨moment, happening⟩ := e
    have hevent : happening.veiled.event? (stamp moment) = happening.event? (stamp moment) := by
      cases happening with
      | report r => cases r <;> rfl
      | _ => rfl
    have hrest : List.filterMap (fun e => Happening.event? (stamp e.1) e.2) (Trace.veiled rest) =
        List.filterMap (fun e => Happening.event? (stamp e.1) e.2) rest := ih
    simp only [Trace.veiled_cons, Trace.journal, List.filterMap_cons, hevent, hrest]

/-- The debug texts of a lease do not hold its token. -/
lemma Lease.debug_veiled (l : Lease) : l.veiled.debug = l.debug ∧ l.veiled.pretty = l.pretty :=
  ⟨rfl, rfl⟩

/-! ### Systems that move together -/

lemma rel_of_rel_of_rel {α β γ : Type} {P : α → β → Prop} {Q : α → γ → Prop} {a : Option α}
    {b : Option β} {c : Option γ} (hb : Option.Rel P a b) (hc : Option.Rel Q a c) :
    Option.Rel (fun b c => ∃ a, P a b ∧ Q a c) b c := by
  cases hb with
  | none =>
    cases hc with
    | none => exact .none
  | some hb =>
    cases hc with
    | some hc => exact .some ⟨_, hb, hc⟩

namespace Clocked

variable {α β : Type} {A : Clocked α} {B : Clocked β} {P : α → β → Prop}

/-- Two systems move together: in states that go together both move or neither does, and both want
to be woken at the same moment. -/
structure Together (P : α → β → Prop) (A : Clocked α) (B : Clocked β) : Prop where
  move : ∀ now {a b}, P a b → Option.Rel P (A.move? now a) (B.move? now b)
  wake : ∀ {a b}, P a b → A.wake? a = B.wake? b

/-- Two systems in states that go together, at one moment. -/
def AtOnce (P : α → β → Prop) (s : Timed α) (t : Timed β) : Prop :=
  s.now = t.now ∧ P s.state t.state

lemma Together.step? (h : Together P A B) (deadline : Instant) {s : Timed α} {t : Timed β}
    (hst : AtOnce P s t) : Option.Rel (AtOnce P) (A.step? deadline s) (B.step? deadline t) := by
  obtain ⟨now, a⟩ := s
  obtain ⟨_, b⟩ := t
  obtain ⟨rfl, hab⟩ := hst
  have hmove := h.move now hab
  have hwake : A.wake? a = B.wake? b := h.wake hab
  unfold Clocked.step?
  rw [hwake]
  generalize A.move? now a = moved at hmove ⊢
  generalize B.move? now b = moved' at hmove ⊢
  cases hmove with
  | some hnext => exact .some ⟨rfl, hnext⟩
  | none =>
    cases B.wake? b with
    | none => exact .none
    | some wakeAt =>
      dsimp only
      split
      · exact .some ⟨rfl, hab⟩
      · exact .none

lemma Together.runTo (h : Together P A B) (deadline : Instant) (fuel : ℕ) {s : Timed α}
    {t : Timed β} (hst : AtOnce P s t) :
    AtOnce P (A.runTo deadline fuel s) (B.runTo deadline fuel t) := by
  induction fuel generalizing s t with
  | zero => exact hst
  | succ fuel ih =>
    have hstep := h.step? deadline hst
    simp only [Clocked.runTo, Clocked.runUntil, Bool.false_eq_true, if_false]
    generalize A.step? deadline s = stepped at hstep ⊢
    generalize B.step? deadline t = stepped' at hstep ⊢
    cases hstep with
    | some hnext => exact ih hnext
    | none => exact ⟨congrArg (max · deadline) hst.1, hst.2⟩

end Clocked

namespace Keeper

variable {σ σ' τ : Type}

/-- Two keepers look alike: one keeper under the veil shows both. -/
def Alike (R : τ → σ → Prop) (R' : τ → σ' → Prop) (k : Keeper σ) (k' : Keeper σ') : Prop :=
  ∃ K : Keeper τ, K.IsVeil R k ∧ K.IsVeil R' k'

section

variable {R : τ → σ → Prop} {R' : τ → σ' → Prop} {d : Collaborators τ} {c : Collaborators σ}
  {c' : Collaborators σ'} {k : Keeper σ} {k' : Keeper σ'}

lemma Alike.phase (h : Alike R R' k k') : k.phase.veiled = k'.phase.veiled := by
  obtain ⟨K, hk, hk'⟩ := h
  exact hk.phase.symm.trans hk'.phase

lemma Alike.trace (h : Alike R R' k k') : k.trace.veiled = k'.trace.veiled := by
  obtain ⟨K, hk, hk'⟩ := h
  exact hk.trace.symm.trans hk'.trace

lemma Alike.wake? (h : Alike R R' k k') : k.phase.wake? = k'.phase.wake? := by
  rw [← Phase.wake?_veiled k.phase, h.phase, Phase.wake?_veiled]

/-- Keepers that look alike move together. -/
lemma together (hd : d.IsVeil R c) (hd' : d.IsVeil R' c') (plan : Plan)
    (channel : Shutdown.Channel) :
    Clocked.Together (Alike R R') (clocked c plan channel) (clocked c' plan channel) where
  move now k k' := by
    rintro ⟨K, hk, hk'⟩
    exact rel_of_rel_of_rel (hk.move? hd plan channel.isCancelled now)
      (hk'.move? hd' plan channel.isCancelled now)
  wake h := h.wake?

lemma alike_runControls (hd : d.IsVeil R c) (hd' : d.IsVeil R' c') (plan : Plan) (fuel : ℕ)
    (deadline : Instant) (controls : List (Instant × Control)) (channel : Shutdown.Channel)
    {s : Timed (Keeper σ)} {t : Timed (Keeper σ')} (hst : Clocked.AtOnce (Alike R R') s t) :
    Clocked.AtOnce (Alike R R') (runControls c plan fuel deadline controls channel s)
      (runControls c' plan fuel deadline controls channel t) := by
  induction controls generalizing channel s t with
  | nil => exact (together hd hd' plan channel).runTo deadline fuel hst
  | cons entry rest ih =>
    obtain ⟨moment, control⟩ := entry
    unfold runControls
    split
    · exact (together hd hd' plan channel).runTo deadline fuel hst
    · exact ih _ ((together hd hd' plan channel).runTo moment fuel hst)

/-! ### Scenes that look alike -/

/-- Two scenes look alike, whatever was heard: the moment and the channel are the same, and the
keepers look alike. -/
structure Scene.Alike (R : τ → σ → Prop) (R' : τ → σ' → Prop) (s : Scene σ) (s' : Scene σ') :
    Prop where
  now : s'.now = s.now
  channel : s'.channel = s.channel
  keeper : s.keeper.Alike R R' s'.keeper

lemma exists_of_rel_some {α β : Type} {P : α → β → Prop} {a : α} {b : Option β}
    (h : Option.Rel P (some a) b) : ∃ b', b = some b' ∧ P a b' := by
  cases h with
  | some h => exact ⟨_, rfl, h⟩

lemma eq_none_of_rel_none {α β : Type} {P : α → β → Prop} {b : Option β}
    (h : Option.Rel P none b) : b = none := by
  cases h with
  | none => rfl

/-- Of two keepers that look alike both watch, or neither does. -/
lemma Alike.exists_watching (h : Alike R R' k k') {watch : Watch}
    (hp : k.phase = .watching watch) :
    ∃ watch', k'.phase = .watching watch' ∧ watch'.veiled = watch.veiled := by
  have hphase : k'.phase.veiled = .watching watch.veiled := by
    rw [← h.phase, hp]
    rfl
  cases hp' : k'.phase with
  | watching watch' =>
    rw [hp'] at hphase
    exact ⟨watch', rfl, Phase.watching.inj hphase⟩
  | _ =>
    rw [hp'] at hphase
    cases hphase

/-- Whatever comes next in a scene, the like comes next in a scene that looks alike. -/
lemma Scene.Alike.step (hd : d.IsVeil R c) (hd' : d.IsVeil R' c') {plan : Plan} {s s₁ : Scene σ}
    {s' : Scene σ'} (h : Scene.Alike R R' s s') (hstep : Scene.Step c plan s s₁) :
    ∃ s₁', Scene.Step c' plan s' s₁' ∧ Scene.Alike R R' s₁ s₁' := by
  obtain ⟨now, channel, k', heard'⟩ := s'
  obtain ⟨rfl, rfl, hk⟩ := h
  have hmove := (together hd hd' plan s.channel).move s.now hk
  cases hstep with
  | move hmoved =>
    have hmoved' : (clocked c plan s.channel).move? s.now s.keeper = some _ := hmoved
    rw [hmoved'] at hmove
    obtain ⟨after, hafter, halike⟩ := exists_of_rel_some hmove
    exact ⟨_, .move hafter, rfl, rfl, halike⟩
  | @work watch run hp hpoll =>
    obtain ⟨watch', hp', hwatch⟩ := hk.exists_watching hp
    obtain ⟨K, hK, hK'⟩ := hk
    have hveil := hK.poll? hd s.now watch
    have hveil' := hK'.poll? hd' s.now watch'
    rw [hwatch] at hveil'
    have hboth := rel_of_rel_of_rel hveil hveil'
    rw [hpoll] at hboth
    obtain ⟨run', hpoll', shown, hshown, hshown'⟩ := exists_of_rel_some hboth
    exact ⟨_, .work hp' hpoll', rfl, rfl, K.ofRun shown, hK.ofRun hshown, hK'.ofRun hshown'⟩
  | @take watch watch₁ event hc hp htake =>
    obtain ⟨watch', hp', hwatch⟩ := hk.exists_watching hp
    obtain ⟨K, hK, hK'⟩ := hk
    have hboth : (watch'.take?).map (fun taken => (taken.1.veiled, taken.2.veiled)) =
        some (event.veiled, watch₁.veiled) := by
      rw [← Watch.veiled_take?, hwatch, Watch.veiled_take?, htake]
      rfl
    obtain ⟨⟨event', watch₁'⟩, htake', hsame⟩ := Option.map_eq_some_iff.mp hboth
    obtain ⟨hevent, hrest⟩ := Prod.mk.inj hsame
    have hshown' := hK'.receiveEvent plan s.now watch₁' event'
    rw [hevent, hrest] at hshown'
    exact ⟨_, .take hc hp' htake', rfl, rfl, _, hK.receiveEvent plan s.now watch₁ event, hshown'⟩
  | @wait later hnone hle hwake =>
    have hnone' : (clocked c plan s.channel).move? s.now s.keeper = none := hnone
    rw [hnone'] at hmove
    rw [hk.wake?] at hwake
    exact ⟨_, .wait (eq_none_of_rel_none hmove) hle hwake, rfl, rfl, hk⟩
  | control x => exact ⟨_, .control _ x, rfl, rfl, hk⟩

/-- What can be reached from one of two scenes that look alike can be reached, alike, from the
other. -/
lemma Scene.Alike.later (hd : d.IsVeil R c) (hd' : d.IsVeil R' c') {plan : Plan} {s s₁ : Scene σ}
    {s' : Scene σ'} (h : Scene.Alike R R' s s') (hlater : Scene.Later c plan s s₁) :
    ∃ s₁', Scene.Later c' plan s' s₁' ∧ Scene.Alike R R' s₁ s₁' := by
  induction hlater with
  | refl => exact ⟨s', .refl, h⟩
  | tail _ hlast ih =>
    obtain ⟨s₁', hlater', hs₁⟩ := ih
    obtain ⟨s₂', hstep, hs₂⟩ := hs₁.step hd hd' hlast
    exact ⟨s₂', hlater'.tail hstep, hs₂⟩

end

end Keeper

/-! ### Collaborators that answer alike -/

/-- Two sets of collaborators answer alike, as long as their states go together by `R`: logins and
renewals agree but for the tokens that they grant, whatever token is renewed, and the storing of
tokens and the draws agree as they are. -/
structure Collaborators.Alike {σ σ' : Type} (R : σ → σ' → Prop) (c : Collaborators σ)
    (c' : Collaborators σ') : Prop where
  login : ∀ {o o'}, R o o' → ∀ now,
    (c.login o now).1.map Grant.veiledIn = (c'.login o' now).1.map Grant.veiledIn ∧
      R (c.login o now).2 (c'.login o' now).2
  persist : ∀ {o o'}, R o o' → ∀ now (lease lease' : Lease), lease.veiled = lease'.veiled →
    (c.persist o now lease).1 = (c'.persist o' now lease').1 ∧
      R (c.persist o now lease).2 (c'.persist o' now lease').2
  renew : ∀ {o o'}, R o o' → ∀ now token token' increment,
    (c.renew o now token increment).1.map Renewal.veiled =
        (c'.renew o' now token' increment).1.map Renewal.veiled ∧
      R (c.renew o now token increment).2 (c'.renew o' now token' increment).2
  draw : ∀ {o o'}, R o o' → (c.draw o).1 = (c'.draw o').1 ∧ R (c.draw o).2 (c'.draw o').2

namespace Collaborators.Alike

variable {σ σ' : Type} {R : σ → σ' → Prop} {c : Collaborators σ} {c' : Collaborators σ'}

/-- The two sets side by side, with the answers of the first under the veil. -/
def both (h : c.Alike R c') : Collaborators { o : σ × σ' // R o.1 o.2 } where
  login o now := ((c.login o.1.1 now).1.map Grant.veiledIn,
    ⟨((c.login o.1.1 now).2, (c'.login o.1.2 now).2), (h.login o.2 now).2⟩)
  persist o now lease := ((c.persist o.1.1 now lease).1,
    ⟨((c.persist o.1.1 now lease).2, (c'.persist o.1.2 now lease).2),
      (h.persist o.2 now lease lease rfl).2⟩)
  renew o now token increment := ((c.renew o.1.1 now token increment).1.map Renewal.veiled,
    ⟨((c.renew o.1.1 now token increment).2, (c'.renew o.1.2 now token increment).2),
      (h.renew o.2 now token token increment).2⟩)
  draw o := ((c.draw o.1.1).1, ⟨((c.draw o.1.1).2, (c'.draw o.1.2).2), (h.draw o.2).2⟩)

/-- Side by side the two are shown under the veil as the first is. -/
lemma isVeil_left (h : c.Alike R c') :
    h.both.IsVeil (fun o s => R s o.1.2) c where
  -- The first set has renewed other tokens in `s` than side by side, so the two states of its own
  -- need not be equal: they go together through the second set, and so do the answers.
  login := by
    intro o s ho now
    have hown := h.login o.2 now
    have hother := h.login ho now
    exact ⟨hown.1.trans hother.1.symm, hother.2⟩
  persist := by
    intro o s ho now lease
    have hown := h.persist o.2 now lease.veiled lease.veiled rfl
    have hother := h.persist ho now lease lease.veiled rfl
    exact ⟨hown.1.trans hother.1.symm, hother.2⟩
  renew := by
    intro o s ho now token increment
    have hown := h.renew o.2 now Lease.redacted Lease.redacted increment
    have hother := h.renew ho now token Lease.redacted increment
    exact ⟨hown.1.trans hother.1.symm, hother.2⟩
  draw := by
    intro o s ho
    have hown := h.draw o.2
    have hother := h.draw ho
    exact ⟨hown.1.trans hother.1.symm, hother.2⟩

/-- Side by side the two are shown under the veil as the second is. -/
lemma isVeil_right (h : c.Alike R c') :
    h.both.IsVeil (fun o s => R o.1.1 s) c' where
  login ho now := h.login ho now
  persist ho now lease := h.persist ho now lease.veiled lease rfl
  renew ho now token increment := h.renew ho now Lease.redacted token increment
  draw ho := h.draw ho

end Collaborators.Alike

/-! ### Scripts that agree but for their tokens -/

namespace Script

/-- Two scripts agree but for the tokens that they grant: the same answers after the same delays,
the same numbers to be drawn, and renewals that do not look at the token. -/
structure Alike (s s' : Script) : Prop where
  logins : List.Forall₂ (fun l l' => l.delay = l'.delay ∧
    Grant.veiledIn l.value = Grant.veiledIn l'.value) s.logins s'.logins
  persists : s.persists = s'.persists
  renewals : List.Forall₂ (fun l l' => l.delay = l'.delay ∧
    ∀ token token', (l.value token).veiled = (l'.value token').veiled) s.renewals s'.renewals
  draws : s.draws = s'.draws

lemma map_call {α β : Type} {f : α → β} (l l' : Line α) (hdelay : l.delay = l'.delay)
    (hvalue : f l.value = f l'.value) (now : Instant) :
    (l.call now).map f = (l'.call now).map f := by
  simp [Line.call, Call.answered, Call.map, Answer.map, hdelay, hvalue]

/-- Scripts that agree but for their tokens answer alike. -/
lemma alike_collaborators : collaborators.Alike Alike collaborators where
  login := by
    rintro ⟨logins, persists, renewals, draws⟩ ⟨logins', _, renewals', _⟩
      ⟨hlogins, rfl, hrenewals, rfl⟩ now
    cases hlogins with
    | nil => exact ⟨rfl, .nil, rfl, hrenewals, rfl⟩
    | cons hline hrest =>
      exact ⟨map_call _ _ hline.1 hline.2 now, hrest, rfl, hrenewals, rfl⟩
  persist := by
    rintro ⟨logins, persists, renewals, draws⟩ ⟨logins', _, renewals', _⟩
      ⟨hlogins, rfl, hrenewals, rfl⟩ now lease lease' -
    cases persists with
    | nil => exact ⟨rfl, hlogins, rfl, hrenewals, rfl⟩
    | cons line rest => exact ⟨rfl, hlogins, rfl, hrenewals, rfl⟩
  renew := by
    rintro ⟨logins, persists, renewals, draws⟩ ⟨logins', _, renewals', _⟩
      ⟨hlogins, rfl, hrenewals, rfl⟩ now token token' increment
    cases hrenewals with
    | nil => exact ⟨rfl, hlogins, rfl, .nil, rfl⟩
    | @cons l l' _ _ hline hrest =>
      have hcall := map_call ⟨l.delay, l.value token⟩ ⟨l'.delay, l'.value token'⟩ hline.1
        (hline.2 token token') now
      exact ⟨hcall, hlogins, rfl, hrest, rfl⟩
  draw := by
    rintro ⟨logins, persists, renewals, draws⟩ ⟨logins', _, renewals', _⟩
      ⟨hlogins, rfl, hrenewals, rfl⟩
    exact ⟨rfl, hlogins, rfl, hrenewals, rfl⟩

end Script

namespace Keeper

/-- What shows of two keepers is the same: the journal, whatever words stand for moments, the
moments and kinds of all that happened, with increments and all terms of leases but the tokens, and
what the keepers are doing. -/
structure ShowsSame {σ σ' : Type} (k : Keeper σ) (k' : Keeper σ') : Prop where
  journal : ∀ stamp, k.trace.journal stamp = k'.trace.journal stamp
  trace : k.trace.veiled = k'.trace.veiled
  phase : k.phase.veiled = k'.phase.veiled

lemma Alike.showsSame {σ σ' τ : Type} {R : τ → σ → Prop} {R' : τ → σ' → Prop} {k : Keeper σ}
    {k' : Keeper σ'} (h : Alike R R' k k') : ShowsSame k k' where
  journal stamp := by
    rw [← Trace.journal_veiled, h.trace, Trace.journal_veiled]
  trace := h.trace
  phase := h.phase

variable {σ σ' : Type} {R : σ → σ' → Prop} {c : Collaborators σ} {c' : Collaborators σ'}

/-- Tokens do not show.  Two keepers with one plan, whose collaborators answer alike but for the
tokens, show the same: on the clock at any deadline, under the same controls; and at large, where
whatever one of them can come to, the other can come to at the same moment under the same signal.
Leases that agree but for their tokens have the same debug texts. -/
theorem tokens_do_not_show (h : c.Alike R c') {o : σ} {o' : σ'} (ho : R o o') (plan : Plan) :
    (∀ fuel before controls deadline,
      ShowsSame (runUnder c plan fuel before controls deadline (.start o))
        (runUnder c' plan fuel before controls deadline (.start o'))) ∧
    (∀ now s, Scene.Later c plan (.start now o) s →
      ∃ s', Scene.Later c' plan (.start now o') s' ∧ s'.now = s.now ∧ s'.channel = s.channel ∧
        ShowsSame s.keeper s'.keeper) ∧
    ∀ l l' : Lease, l.veiled = l'.veiled → l.debug = l'.debug ∧ l.pretty = l'.pretty := by
  have hstart : Alike (fun (b : { o : σ × σ' // R o.1 o.2 }) s => R s b.1.2)
      (fun b s' => R b.1.1 s') (start o) (start o') :=
    ⟨start ⟨(o, o'), ho⟩, ⟨rfl, ho, rfl, rfl⟩, ⟨rfl, ho, rfl, rfl⟩⟩
  refine ⟨?_, ?_, ?_⟩
  · intro fuel before controls deadline
    have hrun := alike_runControls h.isVeil_left h.isVeil_right plan fuel deadline controls
      (before.foldl Control.apply .fresh) (s := ⟨0, start o⟩) (t := ⟨0, start o'⟩) ⟨rfl, hstart⟩
    exact hrun.2.showsSame
  · intro now s hlater
    have hscene : Scene.Alike (fun (b : { o : σ × σ' // R o.1 o.2 }) s => R s b.1.2)
        (fun b s' => R b.1.1 s') (.start now o) (.start now o') := ⟨rfl, rfl, hstart⟩
    obtain ⟨s', hlater', hs⟩ := hscene.later h.isVeil_left h.isVeil_right hlater
    exact ⟨s', hlater', hs.now, hs.channel, hs.keeper.showsSame⟩
  · intro l l' hl
    obtain ⟨hdebug, hpretty⟩ := l.debug_veiled
    rw [← hdebug, ← hpretty, hl]
    exact l'.debug_veiled

/-- A login, a renewal that fails and one that succeeds, and a second login that is refused show the
same with other tokens. -/
theorem tokens_do_not_show_scripted :
    let script : String → String → Script := fun first second =>
      { logins := [⟨5, .ok ⟨first, none, ["app"], .ofSeconds 60, true⟩⟩,
          ⟨5, .error (.rejected 403 ["permission denied"])⟩]
        persists := [⟨3, some (.ok ())⟩]
        renewals := [⟨7, fun _ => .failed (.transport .bodyCutShort)⟩,
          ⟨7, fun _ => .granted ⟨second, none, ["app"], .ofSeconds 60, true⟩⟩]
        draws := [4, 9] }
    let plan : Plan := ⟨.ofSeconds 30, ⟨none, none⟩⟩
    let controls : List (Instant × Control) := [(90000000000, .cancel)]
    (script "s.one" "s.two").Alike (script "s.three" "s.four") ∧
      ShowsSame (runUnder Script.collaborators plan 100 [] controls 95000000000
          (.start (script "s.one" "s.two")))
        (runUnder Script.collaborators plan 100 [] controls 95000000000
          (.start (script "s.three" "s.four"))) := by
  intro script plan controls
  have halike : (script "s.one" "s.two").Alike (script "s.three" "s.four") := by
    refine ⟨?_, rfl, ?_, rfl⟩
    · exact .cons ⟨rfl, rfl⟩ (.cons ⟨rfl, rfl⟩ .nil)
    · exact .cons ⟨rfl, fun _ _ => rfl⟩ (.cons ⟨rfl, fun _ _ => rfl⟩ .nil)
  exact ⟨halike, (tokens_do_not_show Script.alike_collaborators halike plan).1 100 [] controls
    95000000000⟩

end Keeper
end LeaseKeeper
