/-
# Keepers with their tokens veiled

The work of a keeper does not depend on the tokens that it handles.  A keeper whose collaborators
answer under the veil moves when the keeper behind the veil moves, waits when that one waits, and
stays its image: `IsVeil.move?` says so for one move, from one lemma for each thing a keeper does.
-/
import LeaseKeeper.Proofs.Keeper.Scene
import LeaseKeeper.Proofs.Watch.Veil

namespace LeaseKeeper

/-! ### The veil over a keeper -/

/-- What a login grants, with its token veiled. -/
def Grant.veiledIn : Except VaultError Grant → Except VaultError Grant := Except.map Grant.veiled

/-- A phase with its tokens veiled. -/
def Keeper.Phase.veiled : Keeper.Phase → Keeper.Phase
  | loggingIn answer => .loggingIn (answer.map (Answer.map Grant.veiledIn))
  | persisting lease answer => .persisting lease.veiled answer
  | watching watch => .watching watch.veiled
  | phase => phase

@[simp] lemma Keeper.Phase.wake?_veiled (phase : Keeper.Phase) :
    phase.veiled.wake? = phase.wake? := by
  cases phase with
  | loggingIn answer => cases answer <;> rfl
  | persisting lease answer => cases answer <;> rfl
  | watching watch => exact Watch.wake?_veiled watch.task
  | _ => rfl

/-- The collaborators `d` answer as `c` under the veil, whatever the tokens are, as long as their
states go together by `R`. -/
structure Collaborators.IsVeil {σ τ : Type} (R : τ → σ → Prop) (d : Collaborators τ)
    (c : Collaborators σ) : Prop extends d.toRenewer.IsVeil R c.toRenewer where
  login : ∀ {t o}, R t o → ∀ now,
    (d.login t now).1 = (c.login o now).1.map Grant.veiledIn ∧
      R (d.login t now).2 (c.login o now).2
  persist : ∀ {t o}, R t o → ∀ now (lease : Lease),
    (d.persist t now lease.veiled).1 = (c.persist o now lease).1 ∧
      R (d.persist t now lease.veiled).2 (c.persist o now lease).2

namespace Keeper

variable {σ τ : Type}

/-- A keeper under the veil. -/
structure IsVeil (R : τ → σ → Prop) (K : Keeper τ) (k : Keeper σ) : Prop where
  phase : K.phase = k.phase.veiled
  others : R K.others k.others
  trace : K.trace = k.trace.veiled
  left : K.left = k.left.map Watch.veiled

section

variable {R : τ → σ → Prop} {d : Collaborators τ} {c : Collaborators σ} {K : Keeper τ}
  {k : Keeper σ}

lemma isVeil_iff :
    IsVeil R K k ↔
      ∃ t, R t k.others ∧ K = ⟨k.phase.veiled, t, k.trace.veiled, k.left.map Watch.veiled⟩ := by
  obtain ⟨phase, t, trace, left⟩ := K
  constructor
  · rintro ⟨rfl, hothers, rfl, rfl⟩
    exact ⟨t, hothers, rfl⟩
  · rintro ⟨t', hothers, hK⟩
    cases hK
    exact ⟨rfl, hothers, rfl, rfl⟩

lemma IsVeil.record (h : IsVeil R K k) (events : Trace) :
    IsVeil R (K.record events.veiled) (k.record events) where
  phase := h.phase
  others := h.others
  trace := by
    show K.trace ++ _ = Trace.veiled (k.trace ++ _)
    rw [h.trace, Trace.veiled_append]
  left := h.left

lemma IsVeil.recordNotes (h : IsVeil R K k) (now : Instant) (notes : List Note) :
    IsVeil R (K.record (Trace.ofNotes now notes)) (k.record (Trace.ofNotes now notes)) := by
  have hrecord := h.record (Trace.ofNotes now notes)
  rwa [Trace.veiled_ofNotes] at hrecord

lemma IsVeil.setPhase (h : IsVeil R K k) (phase : Phase) :
    IsVeil R { K with phase := phase.veiled } { k with phase } :=
  ⟨rfl, h.others, h.trace, h.left⟩

lemma IsVeil.letGo (h : IsVeil R K k) (watch : Watch) :
    IsVeil R (K.letGo watch.veiled) (k.letGo watch) :=
  ⟨h.phase, h.others, h.trace, rfl⟩

lemma IsVeil.stop (h : IsVeil R K k) (now : Instant) :
    IsVeil R (K.stop now) (k.stop now) := by
  have hleft : (K.phase.watch?.map Watch.abort).or K.left =
      ((k.phase.watch?.map Watch.abort).or k.left).map Watch.veiled := by
    rw [h.phase, h.left]
    cases k.phase <;> rfl
  have hstopped : IsVeil R
      { K with phase := .stopped, left := (K.phase.watch?.map Watch.abort).or K.left }
      { k with phase := .stopped, left := (k.phase.watch?.map Watch.abort).or k.left } :=
    ⟨rfl, h.others, h.trace, hleft⟩
  exact hstopped.record [(now, .note .loopStopped), (now, .stopped)]

lemma IsVeil.fail (h : IsVeil R K k) (plan : Plan) (now : Instant) {report : Report}
    (hreport : report.veiled = report) :
    IsVeil R (K.fail plan now report) (k.fail plan now report) := by
  have hrecord := (h.setPhase (.pausing (Instant.roundUp (now + plan.backoff.nanos)))).record
    [(now, .report report), (now, .report (.retryScheduled plan.backoff))]
  simp only [Trace.veiled_cons, Happening.veiled, hreport] at hrecord
  exact hrecord

lemma IsVeil.beginLogin (hd : d.IsVeil R c) (h : IsVeil R K k) (now : Instant) :
    IsVeil R (K.beginLogin d now) (k.beginLogin c now) := by
  obtain ⟨t, hothers, rfl⟩ := isVeil_iff.mp h
  obtain ⟨hcall, hafter⟩ := hd.login hothers now
  refine ⟨?_, hafter, ?_, rfl⟩
  · show Phase.loggingIn (d.login t now).1.answer = _
    rw [hcall]
    rfl
  · show k.trace.veiled ++ (now, .login) :: Trace.ofNotes now (d.login t now).1.notes =
      Trace.veiled (k.trace ++ (now, .login) :: Trace.ofNotes now (c.login k.others now).1.notes)
    rw [hcall]
    simp [Call.map, Happening.veiled]

lemma IsVeil.beginPersist (hd : d.IsVeil R c) (h : IsVeil R K k) (now : Instant)
    (lease : Lease) :
    IsVeil R (K.beginPersist d now lease.veiled) (k.beginPersist c now lease) := by
  obtain ⟨t, hothers, rfl⟩ := isVeil_iff.mp h
  obtain ⟨hcall, hafter⟩ := hd.persist hothers now lease
  refine ⟨?_, hafter, ?_, rfl⟩
  · show Phase.persisting lease.veiled (d.persist t now lease.veiled).1.answer = _
    rw [hcall]
    rfl
  · show k.trace.veiled ++ (now, .persist Lease.redacted) ::
        Trace.ofNotes now (d.persist t now lease.veiled).1.notes =
      Trace.veiled (k.trace ++ (now, .persist lease.token) ::
        Trace.ofNotes now (c.persist k.others now lease).1.notes)
    rw [hcall]
    simp [Happening.veiled]

lemma IsVeil.receiveLogin (hd : d.IsVeil R c) (h : IsVeil R K k) (plan : Plan)
    (now : Instant) (answer : Answer (Except VaultError Grant)) :
    IsVeil R (K.receiveLogin d plan now (answer.map Grant.veiledIn))
      (k.receiveLogin c plan now answer) := by
  have hnoted := h.recordNotes now answer.notes
  obtain ⟨ready, value, notes⟩ := answer
  cases value with
  | ok grant => exact hnoted.beginPersist hd now (grant.startingAt ready)
  | error error => exact hnoted.fail plan now rfl

lemma IsVeil.receivePersist (h : IsVeil R K k) (plan : Plan) (now : Instant) (lease : Lease)
    (answer : Answer (Except KeeperError Unit)) :
    IsVeil R (K.receivePersist plan now lease.veiled answer)
      (k.receivePersist plan now lease answer) := by
  have hnoted := h.recordNotes now answer.notes
  obtain ⟨ready, value, notes⟩ := answer
  cases value with
  | ok =>
    have hwatching := hnoted.setPhase (.watching (.start lease plan.watch))
    exact hwatching.record [(now, .report (.tokenPersisted lease))]
  | error error => exact hnoted.fail plan now rfl

lemma IsVeil.receiveEvent (h : IsVeil R K k) (plan : Plan) (now : Instant) (watch : Watch)
    (event : Watch.Event) :
    IsVeil R (K.receiveEvent plan now watch.veiled event.veiled)
      (k.receiveEvent plan now watch event) := by
  cases event with
  | renewed lease =>
    exact (h.setPhase (.watching watch)).record [(now, .report (.tokenRenewed lease))]
  | done result =>
    cases result with
    | ok => exact (h.letGo watch).setPhase .starting
    | error error => exact (h.letGo watch).fail plan now rfl

/-- The task of the watch runs under the veil exactly when it runs. -/
lemma IsVeil.poll? (hd : d.IsVeil R c) (h : IsVeil R K k) (now : Instant) (watch : Watch) :
    Option.Rel (Watch.Run.IsVeil R) ((K.runOf watch.veiled).poll? d.toRenewer now)
      ((k.runOf watch).poll? c.toRenewer now) :=
  Watch.Run.IsVeil.poll? hd.toIsVeil ⟨rfl, h.others, h.trace⟩ now

lemma IsVeil.ofRun (h : IsVeil R K k) {run' : Watch.Run τ} {run : Watch.Run σ}
    (hrun : run'.IsVeil R run) : IsVeil R (K.ofRun run') (k.ofRun run) :=
  ⟨congrArg Phase.watching hrun.watch, hrun.others, hrun.trace, h.left⟩

lemma IsVeil.moveWatch? (hd : d.IsVeil R c) (h : IsVeil R K k) (plan : Plan) (now : Instant)
    (watch : Watch) :
    Option.Rel (IsVeil R) (K.moveWatch? d plan now watch.veiled)
      (k.moveWatch? c plan now watch) := by
  have hpoll := h.poll? hd now watch
  unfold Keeper.moveWatch?
  unfold runOf at hpoll
  generalize (⟨watch.veiled, K.others, K.trace⟩ : Watch.Run τ).poll? d.toRenewer now = polled
    at hpoll ⊢
  generalize (⟨watch, k.others, k.trace⟩ : Watch.Run σ).poll? c.toRenewer now = polled' at hpoll ⊢
  cases hpoll with
  | some hveil => exact .some (h.ofRun hveil)
  | none =>
    rw [Watch.veiled_take?]
    cases watch.take? with
    | none => exact .none
    | some taken => exact .some (h.receiveEvent plan now taken.2 taken.1)

/-- The keeper moves under the veil exactly when it moves, and stays under the veil. -/
lemma IsVeil.move? (hd : d.IsVeil R c) (h : IsVeil R K k) (plan : Plan) (cancelled : Bool)
    (now : Instant) :
    Option.Rel (IsVeil R) (K.move? d plan cancelled now) (k.move? c plan cancelled now) := by
  have hstop : Option.Rel (IsVeil R) (some (K.stop now)) (some (k.stop now)) :=
    .some (h.stop now)
  have hphase : K.phase = k.phase.veiled := h.phase
  unfold Keeper.move?
  rw [hphase]
  cases hk : k.phase with
  | stopped => exact .none
  | starting =>
    dsimp only [Phase.veiled]
    split
    · exact hstop
    · exact .some (h.beginLogin hd now)
  | loggingIn answer =>
    cases answer with
    | none =>
      dsimp only [Phase.veiled, Option.map_none]
      split
      · exact hstop
      · exact .none
    | some answer =>
      dsimp only [Phase.veiled, Option.map_some]
      split
      · exact hstop
      · show Option.Rel (IsVeil R) (if answer.ready ≤ now then _ else none) _
        split
        · exact .some (h.receiveLogin hd plan now answer)
        · exact .none
  | persisting lease answer =>
    cases answer with
    | none =>
      dsimp only [Phase.veiled]
      split
      · exact hstop
      · exact .none
    | some answer =>
      dsimp only [Phase.veiled]
      split
      · exact hstop
      · split
        · exact .some (h.receivePersist plan now lease answer)
        · exact .none
  | watching watch =>
    dsimp only [Phase.veiled]
    split
    · exact hstop
    · exact h.moveWatch? hd plan now watch
  | pausing wakeAt =>
    dsimp only [Phase.veiled]
    split
    · exact hstop
    · split
      · exact .some (h.setPhase .starting)
      · exact .none

end

end Keeper
end LeaseKeeper
