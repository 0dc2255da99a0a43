/-
# The store holds a living token

When logins, stores and renewals are answered at once, every token outlives the pause after a
failed round, and the grace window is longer than that pause, the token that the store holds has
time left at every moment until the keeper stops.  Each phase of the keeper leaves its own amount:
a watch gives up while its lease still outlasts the pause, and a pause ends before the lease does.
-/
import LeaseKeeper.Proofs.Keeper.Ledger
import LeaseKeeper.Proofs.Watch.Punctual

namespace LeaseKeeper
namespace Keeper

open Relation

variable {σ : Type}

/-- The time that a token must outlive: the pause after a failed round, and the millisecond that a
timer may be late. -/
def Plan.least (plan : Plan) : ℕ := plan.backoff.nanos + Instant.milli

/-- Collaborators that answer at once: every login succeeds, every token is stored, and whatever is
granted, by a login or a renewal, lives for more than `least` nanoseconds.  Renewals may fail and
crash. -/
structure Prompt (c : Collaborators σ) (least : ℕ) : Prop where
  login : ∀ s now, ∃ answer grant, (c.login s now).1.answer = some answer ∧
    answer.ready = now ∧ answer.value = .ok grant ∧ least < grant.ttl.nanos
  persist : ∀ s now lease, ∃ answer, (c.persist s now lease).1.answer = some answer ∧
    answer.ready = now ∧ answer.value = .ok ()
  renew : Watch.Swift c.toRenewer least

/-- The good lease of a ledger, if there is one, has more than `d` nanoseconds left. -/
def Ledger.Outlasts (l : Ledger) (d : ℕ) (t : Instant) : Prop :=
  ∀ lease, l.good = some lease → lease.Outlasts d t

lemma Ledger.Outlasts.congr {l l' : Ledger} {d : ℕ} {t : Instant} (h : l.Outlasts d t)
    (hgood : l'.good = l.good) : l'.Outlasts d t := by
  intro lease hlease
  rw [hgood] at hlease
  exact h lease hlease

/-- How a ledger and the moment go with what a keeper is doing, so that the good lease never runs
out. -/
def IsAlive (least : ℕ) (grace : Duration) (now : Instant) (l : Ledger) : Phase → Prop
  | .starting => l.Outlasts 0 now
  | .loggingIn answer => l.Outlasts 0 now ∧ ∃ a grant, answer = some a ∧ a.ready = now ∧
      a.value = .ok grant ∧ least < grant.ttl.nanos
  | .persisting lease answer => l.Outlasts 0 now ∧ lease.Outlasts least now ∧
      ∃ a, answer = some a ∧ a.ready = now ∧ a.value = .ok ()
  | .watching watch => l.good = some watch.lastGood ∧ watch.stopAsked = false ∧
      watch.finished = false ∧ watch.IsPunctual grace least now
  | .pausing t => now ≤ t ∧ l.Outlasts 0 t
  | .stopped => True

/-- A renewal of the token that the store holds moves the good lease, if it is granted. -/
lemma Ledger.good_hear?_renewal {l : Ledger} {token : String} {lease : Lease}
    (hstore : l.store = some token) (hgood : l.good = some lease)
    (reply : Option (Answer Renewal)) :
    (l.hear? (reply.map (.renewal token))).good = some (lease.afterReply reply) := by
  cases reply with
  | none => exact hgood
  | some answer =>
    obtain ⟨ready, value, notes⟩ := answer
    cases value with
    | granted grant =>
      simp only [Option.map_some, hear?_some, hear, if_pos hstore, Lease.afterReply]
    | _ => exact hgood

variable {c : Collaborators σ} {plan : Plan} {grace : Duration} {now : Instant} {l : Ledger}

/-- Unless the keeper has stopped, the good lease has time left. -/
lemma IsAlive.outlasts {phase : Phase} (h : IsAlive plan.least grace now l phase)
    (hp : phase ≠ .stopped) : l.Outlasts 0 now := by
  cases phase with
  | starting => exact h
  | loggingIn answer => exact h.1
  | persisting lease answer => exact h.1
  | watching watch =>
    intro lease hlease
    rw [h.1] at hlease
    cases hlease
    exact h.2.2.2.outlasts.anti (Nat.zero_le _)
  | pausing t =>
    intro lease hlease
    exact (h.2 lease hlease).of_le h.1
  | stopped => exact absurd rfl hp

/-- A pause after a watch ends before its last good lease does. -/
lemma outlasts_pause {lease : Lease} (h : lease.Outlasts plan.least now) :
    lease.Outlasts 0 (Instant.roundUp (now + plan.backoff.nanos)) := by
  have hround := Instant.roundUp_lt (now + plan.backoff.nanos)
  refine h.of_add_le ?_
  unfold Plan.least
  omega

lemma Turn.isAlive (hc : Prompt c plan.least) (hgrace : plan.watch.grace = some grace)
    (hlong : plan.backoff.nanos + 2 * Instant.milli ≤ grace.nanos) {cancelled : Bool}
    {k k' : Keeper σ} {outcome : Option Outcome} (h : Turn c plan cancelled now k outcome k')
    (hb : Balanced plan l k) (hl : IsAlive plan.least grace now l k.phase) :
    IsAlive plan.least grace now (l.hear? outcome) k'.phase := by
  cases h with
  | stop => trivial
  | login _ hp =>
    rw [hp] at hl
    exact ⟨hl, hc.login k.others now⟩
  | @receiveLogin answer _ hp =>
    rw [hp] at hl
    obtain ⟨hgood, a, grant, ha, hready, hv, hlong⟩ := hl
    cases ha
    rw [receiveLogin_ok c plan now k hv, phase_beginPersist]
    simp only [Ledger.hear?_some, Ledger.hear, hv]
    rw [hready]
    exact ⟨hgood.congr rfl, Grant.outlasts_startingAt hlong, hc.persist _ _ _⟩
  | @receivePersist lease answer _ hp =>
    rw [hp] at hl
    obtain ⟨hgood, hlease, a, ha, hready, hv⟩ := hl
    cases ha
    -- The call was answered at once, so the lease outlasts the pause as it did after the login.
    rw [receivePersist_ok plan now k hv, phase_record]
    simp only [Ledger.hear?_some, Ledger.hear, hv]
    exact ⟨rfl, rfl, rfl, hlease⟩
  | @work watch run hp hpoll =>
    rw [hp] at hl
    obtain ⟨hgood, hstop, hfinished, hpunctual⟩ := hl
    obtain ⟨hconfig, -, -, hstore⟩ := hb.watching hp
    have hrun := Watch.Run.poll_of_poll? hpoll
    refine ⟨?_, hrun.sameTerms.stopAsked.trans hstop, hrun.sameTerms.finished.trans hfinished, ?_⟩
    · rw [heardBy, l.good_hear?_renewal hstore hgood, hrun.lastGood_eq]
      rfl
    · refine hrun.isPunctual hc.renew ?_ (by rw [← hgrace, ← hconfig]; rfl) hstop hpunctual
      unfold Plan.least
      omega
  | @take watch watch' event _ hp htake =>
    have hgood := hl.outlasts (by simp [hp])
    rw [hp] at hl
    obtain ⟨hlast, hstop, hfinished, hpunctual⟩ := hl
    rcases k.phase_receiveEvent plan now watch' event with
      ⟨⟨lease, rfl⟩, hp'⟩ | ⟨-, hp'⟩ | ⟨-, hp'⟩
    · rw [hp']
      cases Watch.take_of_take? htake with
      | queued => exact ⟨hlast, hstop, rfl, hpunctual⟩
    · rw [hp']
      exact hgood
    · -- The watch gave up while its lease still outlasted the pause.
      rw [hp']
      refine ⟨Nat.le_trans (Nat.le_add_right _ _) (Instant.le_roundUp _), fun lease hlease => ?_⟩
      rw [Ledger.hear?_none, hlast] at hlease
      cases hlease
      exact outlasts_pause hpunctual.outlasts
  | @wake t _ hp hle =>
    rw [hp] at hl
    intro lease hlease
    exact (hl.2 lease hlease).of_le hl.1

/-- When the clock goes on, the keeper is resting or pausing, or has stopped. -/
lemma IsAlive.wait {cancelled : Bool} {k : Keeper σ} {later : Instant}
    (h : IsAlive plan.least grace now l k.phase) (hmove : k.move? c plan cancelled now = none)
    (hwake : ∀ t, k.phase.wake? = some t → now < t → later ≤ t) :
    IsAlive plan.least grace later l k.phase := by
  by_cases hstopped : k.phase = .stopped
  · rw [hstopped]
    trivial
  cases cancelled with
  | true =>
    rw [move?_cancelled hstopped] at hmove
    cases hmove
  | false =>
    simp only [move?, Bool.false_eq_true, if_false] at hmove
    -- A login and a call to store a token are answered at once, so only two phases let time pass.
    cases hp : k.phase with
    | stopped => exact absurd hp hstopped
    | starting => simp [hp] at hmove
    | loggingIn answer =>
      rw [hp] at h
      obtain ⟨-, a, grant, rfl, hready, -⟩ := h
      simp [hp, hready] at hmove
    | persisting lease answer =>
      rw [hp] at h
      obtain ⟨-, -, a, rfl, hready, -⟩ := h
      simp [hp, hready] at hmove
    | watching watch =>
      rw [hp] at h hwake
      obtain ⟨hgood, hstop, hfinished, hpunctual⟩ := h
      simp only [hp] at hmove
      obtain ⟨hpoll, htake⟩ := moveWatch?_eq_none hmove
      obtain ⟨t, ht, hlt⟩ :=
        Watch.Run.exists_resting (s := k.runOf watch) hpunctual hstop hfinished hpoll htake
      have ht' : watch.task = .resting t := ht
      have hlater : later ≤ t := hwake t (by simp [Phase.wake?, Watch.Task.wake?, ht']) hlt
      exact ⟨hgood, hstop, hfinished, hpunctual.of_le ht hlater⟩
    | pausing t =>
      rw [hp] at h hwake
      simp only [hp] at hmove
      split at hmove
      · cases hmove
      · rename_i hnot
        exact ⟨hwake t rfl (Nat.lt_of_not_le hnot), h.2⟩

namespace Scene

lemma isAlive_of_reachable (hc : Prompt c plan.least) (hgrace : plan.watch.grace = some grace)
    (hlong : plan.backoff.nanos + 2 * Instant.milli ≤ grace.nanos) {s : Scene σ}
    (h : Reachable c plan s) : IsAlive plan.least grace s.now s.ledger s.keeper.phase := by
  refine h.ledger_induction (P := fun now l k => IsAlive plan.least grace now l k.phase) ?_ ?_ ?_
  · exact fun _ _ => nofun
  · exact fun hturn hb hl => hturn.isAlive hc hgrace hlong hb hl
  · exact fun hmove _ hwake hl => hl.wait hmove hwake

/-- From the first token that is stored until the keeper stops, the token that the store holds has
time left: its good lease, which is that of the login or of the latest renewal, has not run out.
In particular a login begins before that, since the keeper has not stopped then. -/
theorem remaining_pos (hc : Prompt c plan.least) (hgrace : plan.watch.grace = some grace)
    (hlong : plan.backoff.nanos + 2 * Instant.milli ≤ grace.nanos) {s : Scene σ}
    (h : Reachable c plan s) (hp : s.keeper.phase ≠ .stopped) {token : String}
    (hstore : s.ledger.store = some token) :
    ∃ lease, s.ledger.good = some lease ∧ 0 < (lease.remaining s.now).nanos := by
  obtain ⟨lease, hgood⟩ := Ledger.exists_good hstore
  exact ⟨lease, hgood, (isAlive_of_reachable hc hgrace hlong h).outlasts hp lease hgood⟩

/-- Collaborators that answer at once, and whose renewals crash. -/
def brittle : Collaborators Unit where
  renew _ now _ _ := (.answered now .crashed, ())
  draw _ := (0, ())
  login _ now := (.answered now (.ok ⟨"token", none, [], .ofSeconds 60, true⟩), ())
  persist _ now _ := (.answered now (.ok ()), ())

lemma prompt_brittle : Prompt brittle (Plan.least ⟨.ofSeconds 5, ⟨none, some (.ofSeconds 9)⟩⟩) where
  login _ _ := ⟨_, _, rfl, rfl, rfl, by decide +kernel⟩
  persist _ _ _ := ⟨_, rfl, rfl, rfl⟩
  renew _ _ _ _ := ⟨_, rfl, rfl, nofun⟩

/-- The keeper with the brittle collaborators when its first pause is over. -/
def paused : Scene Unit where
  now := 5000000000
  channel := .fresh
  keeper :=
    { phase := .pausing 5000000000
      others := ()
      trace := [(0, .login), (0, .persist "token"),
        (0, .report (.tokenPersisted ⟨⟨"token", none, [], .ofSeconds 60, true⟩, 0⟩)),
        (0, .renew "token" (.ofSeconds 60)), (0, .report (.renewalFailed .watchLost)),
        (0, .report (.retryScheduled (.ofSeconds 5)))]
      left := some
        { Watch.start ⟨⟨"token", none, [], .ofSeconds 60, true⟩, 0⟩ ⟨none, some (.ofSeconds 9)⟩ with
          grace := .ofSeconds 9
          task := .ended
          finished := true } }
  heard := [.login ⟨0, .ok ⟨"token", none, [], .ofSeconds 60, true⟩, []⟩,
    .persist ⟨⟨"token", none, [], .ofSeconds 60, true⟩, 0⟩ ⟨0, .ok (), []⟩,
    .renewal "token" ⟨0, .crashed, []⟩]

lemma reachable_paused : Reachable brittle ⟨.ofSeconds 5, ⟨none, some (.ofSeconds 9)⟩⟩ paused := by
  have h := (((((ReflTransGen.refl
    (r := Step brittle ⟨.ofSeconds 5, ⟨none, some (.ofSeconds 9)⟩⟩)
    (a := start 0 ())).tail (.move rfl)).tail (.move rfl)).tail (.move rfl)).tail
    (.work rfl rfl)).tail (.move rfl)
  have hwait : Step brittle ⟨.ofSeconds 5, ⟨none, some (.ofSeconds 9)⟩⟩ { paused with now := 0 }
      paused := by
    refine .wait rfl (Nat.zero_le _) fun t ht _ => ?_
    cases ht
    exact Nat.le_refl _
  exact ⟨0, (), h.tail hwait⟩

/-- At the end of a pause after a crash the token still has time left. -/
theorem remaining_pos_paused :
    paused.ledger.store = some "token" ∧
      ∃ lease, paused.ledger.good = some lease ∧ 0 < (lease.remaining paused.now).nanos :=
  ⟨rfl, remaining_pos prompt_brittle rfl (by decide) reachable_paused nofun rfl⟩

end Scene
end Keeper
end LeaseKeeper
