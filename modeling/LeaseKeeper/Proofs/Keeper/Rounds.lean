/-
# The life of a keeper is a sequence of rounds

A round is a login that fails, or a login whose token cannot be stored, or a login whose token is
stored and then watched until the task of the watch ends.  After a setback the keeper reports it,
announces its pause, and begins the next round when the pause is over; after a quiet end the next
round begins at once.  The chronicle of a keeper is at every moment the beginning of such a
sequence, with all its moments.
-/
import LeaseKeeper.Proofs.Keeper.Attendance

namespace LeaseKeeper
namespace Keeper

/-! ### The words of a round -/

/-- The moment at which the pause after a setback is over. -/
def Plan.wakeAfter (plan : Plan) (t : Instant) : Instant := Instant.roundUp (t + plan.backoff.nanos)

/-- The report of a setback, and that of the pause. -/
def setback (plan : Plan) (t : Instant) (report : Report) : List Entry :=
  [(t, .shown (.report report)), (t, .shown (.report (.retryScheduled plan.backoff)))]

/-- The beginning of a round whose login grants a lease, up to the call to store its token. -/
inductive LoggedIn (t : Instant) (lease : Lease) (u : Instant) : List Entry → Prop
  | intro {answer : Answer (Except VaultError Grant)} {grant : Grant} (hle : t ≤ u)
      (hv : answer.value = .ok grant) (hlease : lease = grant.startingAt answer.ready) :
      LoggedIn t lease u [(t, .shown .login), (u, .heard (.login answer)),
        (u, .shown (.persist lease.token))]

/-- The beginning of a round whose token is stored. -/
inductive Stored (t : Instant) (lease : Lease) (v : Instant) : List Entry → Prop
  | intro {u : Instant} {l : List Entry} {answer : Answer (Except KeeperError Unit)}
      (hl : LoggedIn t lease u l) (hle : u ≤ v) (hv : answer.value = .ok ()) :
      Stored t lease v (l ++ [(v, .heard (.persist lease answer)),
        (v, .shown (.report (.tokenPersisted lease)))])

/-- What happens in a round that begins at `t`, and when the next round begins.  The login fails, or
the token cannot be stored, or the task of the watch ends quietly or with an error. -/
inductive Round (plan : Plan) (t : Instant) : List Entry → Instant → Prop
  | refused {u : Instant} {answer : Answer (Except VaultError Grant)} {error : VaultError}
      (hle : t ≤ u) (hv : answer.value = .error error) :
      Round plan t ((t, .shown .login) :: (u, .heard (.login answer)) ::
        setback plan u (.loginFailed error)) (plan.wakeAfter u)
  | unsaved {lease : Lease} {u v : Instant} {l : List Entry}
      {answer : Answer (Except KeeperError Unit)} {error : KeeperError}
      (hl : LoggedIn t lease u l) (hle : u ≤ v) (hv : answer.value = .error error) :
      Round plan t (l ++ (v, .heard (.persist lease answer)) ::
        setback plan v (.persistFailed error)) (plan.wakeAfter v)
  | quiet {lease : Lease} {v w : Instant} {l tended : List Entry} {owed : List Lease}
      (hl : Stored t lease v l) (hle : v ≤ w) (htended : Tending plan lease false owed tended) :
      Round plan t (l ++ (tended ++ (w, .ended (.ok ())) :: reports w owed)) w
  | lost {lease : Lease} {v w : Instant} {l tended : List Entry} {owed : List Lease}
      {error : VaultError} (hl : Stored t lease v l) (hle : v ≤ w)
      (htended : Tending plan lease false owed tended) :
      Round plan t (l ++ (tended ++ (w, .ended (.error error)) :: reports w owed) ++
        setback plan w (.renewalFailed error)) (plan.wakeAfter w)

/-- One round after the other, and when the next one begins. -/
inductive Rounds (plan : Plan) (begun : Instant) : List Entry → Instant → Prop
  | none : Rounds plan begun [] begun
  | snoc {l word : List Entry} {t u : Instant} (h : Rounds plan begun l t)
      (hround : Round plan t word u) : Rounds plan begun (l ++ word) u

/-! ### What has happened of a round -/

/-- What has happened of a round that began at `t`, or that will begin then, by what the keeper is
doing.  A keeper that has returned is in no round. -/
def Fits (plan : Plan) (now t : Instant) (l : List Entry) : Phase → Prop
  | .starting => l = [] ∧ t = now
  | .loggingIn _ => l = [(t, .shown .login)] ∧ t ≤ now
  | .persisting lease _ => ∃ u, LoggedIn t lease u l ∧ u ≤ now
  | .watching watch => watch.config = plan.watch ∧ watch.stopAsked = false ∧
      watch.finished = false ∧ ∃ v first attended, l = first ++ attended ∧
        Stored t watch.lease v first ∧ v ≤ now ∧ Attends plan now watch attended
  | .pausing wakeAt => l = [] ∧ t = wakeAt ∧ now ≤ wakeAt
  | .stopped => False

variable {σ : Type} {c : Collaborators σ} {plan : Plan} {begun now t : Instant}
  {k k' : Keeper σ} {l : List Entry}

lemma le_wakeAfter (plan : Plan) (t : Instant) : t ≤ plan.wakeAfter t :=
  Nat.le_trans (Nat.le_add_right _ _) (Instant.le_roundUp _)

/-- The round goes on with some news, or it is over with them and the next one has not begun. -/
def GoesOn (plan : Plan) (now t : Instant) (l new : List Entry) (phase : Phase) : Prop :=
  Fits plan now t (l ++ new) phase ∨
    ∃ u, Round plan t (l ++ new) u ∧ Fits plan now u [] phase

/-- A setback ends the round, and the pause begins. -/
lemma goesOn_pausing {new : List Entry} (hround : Round plan t (l ++ new) (plan.wakeAfter now)) :
    GoesOn plan now t l new (.pausing (plan.wakeAfter now)) :=
  Or.inr ⟨plan.wakeAfter now, hround, rfl, rfl, le_wakeAfter plan now⟩

lemma news_fail {heard : List Outcome} {notes : List Note} {report : Report}
    (hp : ∀ watch, k.phase ≠ .watching watch) :
    news now k heard ((k.record (Trace.ofNotes now notes)).fail plan now report) =
      heard.map (fun outcome => (now, .heard outcome)) ++ setback plan now report := by
  have htrace : ((k.record (Trace.ofNotes now notes)).fail plan now report).trace =
      k.trace ++ (Trace.ofNotes now notes ++
        [(now, .report report), (now, .report (.retryScheduled plan.backoff))]) :=
    List.append_assoc _ _ _
  rw [news_of_ne_watching hp htrace, shownOf_append, shownOf_ofNotes]
  rfl

lemma news_stop (now : Instant) (k : Keeper σ) : news now k [] (k.stop now) = [] := by
  have htrace : (k.stop now).trace =
      k.trace ++ [(now, .note .loopStopped), (now, .stopped)] := rfl
  by_cases hp : ∃ watch, k.phase = .watching watch
  · obtain ⟨watch, hp⟩ := hp
    rw [news_of_watching hp htrace]
    rfl
  · rw [news_of_ne_watching (fun watch hw => hp ⟨watch, hw⟩) htrace]
    rfl

lemma goesOn_receiveLogin {answer : Answer (Except VaultError Grant)}
    (hp : k.phase = .loggingIn (some answer)) (hl : Fits plan now t l k.phase) :
    GoesOn plan now t l (news now k [.login answer] (k.receiveLogin c plan now answer))
      (k.receiveLogin c plan now answer).phase := by
  rw [hp] at hl
  obtain ⟨rfl, hle⟩ := hl
  cases hv : answer.value with
  | ok grant =>
    rw [receiveLogin_ok c plan now k hv]
    have htrace : ((k.record (Trace.ofNotes now answer.notes)).beginPersist c now
        (grant.startingAt answer.ready)).trace = k.trace ++ (Trace.ofNotes now answer.notes ++
          (now, .persist grant.token) :: Trace.ofNotes now (c.persist k.others now
            (grant.startingAt answer.ready)).1.notes) := List.append_assoc _ _ _
    rw [news_of_ne_watching (by simp [hp]) htrace, shownOf_append, shownOf_ofNotes,
      shownOf_cons, shownOf_ofNotes]
    exact Or.inl ⟨now, .intro hle hv rfl, Nat.le_refl _⟩
  | error error =>
    rw [receiveLogin_error c plan now k hv, news_fail (by simp [hp])]
    exact goesOn_pausing (.refused hle hv)

lemma goesOn_receivePersist {lease : Lease} {answer : Answer (Except KeeperError Unit)}
    (hp : k.phase = .persisting lease (some answer)) (hl : Fits plan now t l k.phase) :
    GoesOn plan now t l (news now k [.persist lease answer] (k.receivePersist plan now lease answer))
      (k.receivePersist plan now lease answer).phase := by
  rw [hp] at hl
  obtain ⟨u, hlogged, hle⟩ := hl
  cases hv : answer.value with
  | ok =>
    rw [receivePersist_ok plan now k hv]
    have htrace : ({ k.record (Trace.ofNotes now answer.notes) with
        phase := .watching (.start lease plan.watch) }.record
          [(now, .report (.tokenPersisted lease))]).trace =
        k.trace ++ (Trace.ofNotes now answer.notes ++
          [(now, .report (.tokenPersisted lease))]) := List.append_assoc _ _ _
    rw [news_of_ne_watching (by simp [hp]) htrace, shownOf_append, shownOf_ofNotes]
    exact Or.inl ⟨rfl, rfl, rfl, now, _, [], (List.append_nil _).symm, .intro hlogged hle hv,
      Nat.le_refl _, .going .nothing rfl (by simp [Watch.start])⟩
  | error error =>
    rw [receivePersist_error plan now k hv, news_fail (by simp [hp])]
    exact goesOn_pausing (.unsaved hlogged hle hv)

lemma goesOn_work {watch : Watch} {run : Watch.Run σ} (hp : k.phase = .watching watch)
    (hpoll : (k.runOf watch).poll? c.toRenewer now = some run) (hl : Fits plan now t l k.phase) :
    GoesOn plan now t l (news now k (k.heardBy c now watch).toList (k.ofRun run))
      (k.ofRun run).phase := by
  rw [hp] at hl
  obtain ⟨hconfig, hstop, hfinished, v, first, attended, rfl, hstored, hle, hattends⟩ := hl
  have hrun := Watch.Run.poll_of_poll? hpoll
  have hterms := hrun.sameTerms
  obtain ⟨work, htrace, hwork⟩ := hrun.exists_shown
  have htrace' : (k.ofRun run).trace = k.trace ++ work := htrace
  have hgoes := Attends.work hrun hattends hconfig hstop
  rw [news_of_watching hp htrace', hwork]
  refine Or.inl ⟨hterms.config.trans hconfig, hterms.stopAsked.trans hstop,
    hterms.finished.trans hfinished, v, first, _, List.append_assoc _ _ _, ?_, hle, ?_⟩
  · rw [hterms.lease]
    exact hstored
  · rw [heardBy, Option.toList_map, List.map_map]
    exact hgoes

lemma goesOn_take {watch watch' : Watch} {event : Watch.Event} (hp : k.phase = .watching watch)
    (htake : watch.take? = some (event, watch')) (hl : Fits plan now t l k.phase) :
    GoesOn plan now t l (news now k [] (k.receiveEvent plan now watch' event))
      (k.receiveEvent plan now watch' event).phase := by
  rw [hp] at hl
  obtain ⟨hconfig, hstop, hfinished, v, first, attended, rfl, hstored, hle, hattends⟩ := hl
  have hsame : watch'.config = watch.config ∧ watch'.lease = watch.lease ∧
      watch'.stopAsked = watch.stopAsked ∧ watch'.task = watch.task := by
    cases Watch.take_of_take? htake <;> exact ⟨rfl, rfl, rfl, rfl⟩
  obtain ⟨hconfig', hlease', hstop', htask'⟩ := hsame
  rcases hattends.take htake hfinished with
    ⟨lease, rfl, hfinished', hattends'⟩ | ⟨verdict, told, tended, rfl, htending, rfl⟩
  · have htrace : (k.receiveEvent plan now watch' (.renewed lease)).trace =
        k.trace ++ [(now, .report (.tokenRenewed lease))] := rfl
    have hnone : taskEnd? (.watching watch)
        (k.receiveEvent plan now watch' (.renewed lease)).phase = none := by
      change taskEnd? (.watching watch) (.watching watch') = none
      simp only [taskEnd?, htask', if_true]
    rw [news_of_watching hp htrace, hnone]
    exact Or.inl ⟨hconfig'.trans hconfig, hstop'.trans hstop, hfinished', v, first,
      attended ++ reports now [lease], List.append_assoc _ _ _, by rw [hlease']; exact hstored,
      hle, hattends'⟩
  · cases verdict with
    | ok =>
      have htrace : (k.receiveEvent plan now watch' (.done (.ok ()))).trace = k.trace ++ [] :=
        (List.append_nil _).symm
      have hnil : news now k [] (k.receiveEvent plan now watch' (.done (.ok ()))) = [] := by
        rw [news_of_watching hp htrace]
        rfl
      -- A quiet end is not reported, and the next round begins at this moment.
      rw [hnil]
      refine Or.inr ⟨now, ?_, rfl, rfl⟩
      rw [List.append_nil]
      exact .quiet hstored hle htending
    | error error =>
      have htrace : (k.receiveEvent plan now watch' (.done (.error error))).trace = k.trace ++
          [(now, .report (.renewalFailed error)),
            (now, .report (.retryScheduled plan.backoff))] := rfl
      rw [news_of_watching hp htrace]
      exact goesOn_pausing (.lost hstored hle htending)

/-- With each turn the round goes on or is over, unless the keeper returns. -/
lemma Turn.goesOn {cancelled : Bool} {outcome : Option Outcome}
    (h : Turn c plan cancelled now k outcome k') (hl : Fits plan now t l k.phase) :
    (k'.phase = .stopped ∧ news now k outcome.toList k' = []) ∨
      GoesOn plan now t l (news now k outcome.toList k') k'.phase := by
  -- A keeper that returns leaves its round as it is; each other turn goes on with the round.
  cases h with
  | stop => exact Or.inl ⟨rfl, news_stop now k⟩
  | login _ hp =>
    rw [hp] at hl
    obtain ⟨rfl, rfl⟩ := hl
    have htrace : (k.beginLogin c t).trace =
        k.trace ++ (t, .login) :: Trace.ofNotes t (c.login k.others t).1.notes := rfl
    rw [news_of_ne_watching (by simp [hp]) htrace, shownOf_cons, shownOf_ofNotes]
    exact Or.inr (Or.inl ⟨rfl, Nat.le_refl _⟩)
  | receiveLogin _ hp => exact Or.inr (goesOn_receiveLogin hp hl)
  | receivePersist _ hp => exact Or.inr (goesOn_receivePersist hp hl)
  | work hp hpoll => exact Or.inr (goesOn_work hp hpoll hl)
  | take _ hp htake => exact Or.inr (goesOn_take hp htake hl)
  | @wake wakeAt _ hp hle =>
    rw [hp] at hl
    obtain ⟨rfl, rfl, hnow⟩ := hl
    have htrace : ({ k with phase := .starting } : Keeper σ).trace = k.trace ++ [] :=
      (List.append_nil _).symm
    rw [news_of_ne_watching (by simp [hp]) htrace]
    exact Or.inr (Or.inl ⟨rfl, Nat.le_antisymm hle hnow⟩)

/-- When the clock goes on, it does not pass the end of a pause. -/
lemma Fits.wait {cancelled : Bool} {later : Instant} (hl : Fits plan now t l k.phase)
    (hmove : k.move? c plan cancelled now = none) (hle : now ≤ later)
    (hwake : ∀ t, k.phase.wake? = some t → now < t → later ≤ t) :
    Fits plan later t l k.phase := by
  have hstopped : k.phase ≠ .stopped := by
    intro hp
    rw [hp] at hl
    exact hl
  cases cancelled with
  | true =>
    rw [move?_cancelled hstopped] at hmove
    cases hmove
  | false =>
    simp only [move?, Bool.false_eq_true, if_false] at hmove
    cases hp : k.phase with
    | stopped => exact absurd hp hstopped
    | starting => simp [hp] at hmove
    | loggingIn answer =>
      rw [hp] at hl
      exact ⟨hl.1, Nat.le_trans hl.2 hle⟩
    | persisting lease answer =>
      rw [hp] at hl
      obtain ⟨u, hlogged, hu⟩ := hl
      exact ⟨u, hlogged, Nat.le_trans hu hle⟩
    | watching watch =>
      rw [hp] at hl
      simp only [hp] at hmove
      obtain ⟨hconfig, hstop, hfinished, v, first, attended, hsplit, hstored, hv, hattends⟩ := hl
      exact ⟨hconfig, hstop, hfinished, v, first, attended, hsplit, hstored,
        Nat.le_trans hv hle, hattends.wait hfinished (moveWatch?_eq_none hmove).2⟩
    | pausing wakeAt =>
      rw [hp] at hl hwake
      simp only [hp] at hmove
      split at hmove
      · cases hmove
      · rename_i hnot
        exact ⟨hl.1, hl.2.1, hwake wakeAt rfl (Nat.lt_of_not_le hnot)⟩

/-- A chronicle is a sequence of rounds and what has happened of the next one.  A keeper that has
returned was doing something when it did. -/
lemma Chronicle.exists_rounds {s : Scene σ} (h : Chronicle c plan begun s l) :
    ∃ past t current now phase, l = past ++ current ∧ Rounds plan begun past t ∧
      Fits plan now t current phase ∧ (s.keeper.phase ≠ .stopped →
        now = s.now ∧ phase = s.keeper.phase) := by
  refine h.turn_induction (P := fun l now k => ∃ past t current now' phase, l = past ++ current ∧
    Rounds plan begun past t ∧ Fits plan now' t current phase ∧
      (k.phase ≠ .stopped → now' = now ∧ phase = k.phase)) ?_ ?_ ?_
  · intro others
    exact ⟨[], begun, [], begun, .starting, rfl, .none, ⟨rfl, rfl⟩, fun _ => ⟨rfl, rfl⟩⟩
  · intro cancelled now l k k' outcome hturn hl
    obtain ⟨past, t, current, now', phase, rfl, hpast, hfits, hsame⟩ := hl
    -- A keeper that has returned takes no turn.
    have hne : k.phase ≠ .stopped := by
      intro hp
      cases hturn <;> simp_all
    obtain ⟨rfl, rfl⟩ := hsame hne
    rcases hturn.goesOn hfits with ⟨hp, hnews⟩ | hgoes | ⟨u, hround, hnext⟩
    · exact ⟨past, t, current, now', k.phase, by rw [hnews, List.append_nil], hpast, hfits,
        fun hne' => absurd hp hne'⟩
    · exact ⟨past, t, _, now', _, List.append_assoc _ _ _, hpast, hgoes, fun _ => ⟨rfl, rfl⟩⟩
    · refine ⟨_, u, [], now', _, ?_, hpast.snoc hround, hnext, fun _ => ⟨rfl, rfl⟩⟩
      rw [List.append_nil, List.append_assoc]
  · intro cancelled now later l k hmove hle hwake hl
    obtain ⟨past, t, current, now', phase, rfl, hpast, hfits, hsame⟩ := hl
    by_cases hp : k.phase = .stopped
    · exact ⟨past, t, current, now', phase, rfl, hpast, hfits, fun hne => absurd hp hne⟩
    · obtain ⟨rfl, rfl⟩ := hsame hp
      exact ⟨past, t, current, later, _, rfl, hpast, hfits.wait hmove hle hwake,
        fun _ => ⟨rfl, rfl⟩⟩

end Keeper
end LeaseKeeper
