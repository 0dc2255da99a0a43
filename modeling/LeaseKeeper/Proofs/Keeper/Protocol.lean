/-
# The protocol of rounds

What happens to a keeper is at every moment the beginning of a sequence of rounds.  So at most one
login, one call to store a token and one task of a watch is in progress, no two of them at a time,
and none during a pause; and a token is renewed only while it is watched, after it was stored.
-/
import LeaseKeeper.Proofs.Keeper.Rounds
import LeaseKeeper.Proofs.Keeper.Validity
import Mathlib.Algebra.BigOperators.Group.List.Basic
import Mathlib.Algebra.Group.Int.Defs

namespace LeaseKeeper
namespace Keeper

open Relation

/-! ### What is in progress -/

/-- What a keeper has in progress: a login, a call to store a token, or the task of a watch. -/
inductive Activity
  | login
  | store
  | watch
deriving DecidableEq

/-- Whether a deed begins an activity, or ends it. -/
def Deed.weight : Activity → Deed → ℤ
  | .login, .shown .login => 1
  | .login, .heard (.login _) => -1
  | .store, .shown (.persist _) => 1
  | .store, .heard (.persist _ _) => -1
  | .watch, .shown (.report (.tokenPersisted _)) => 1
  | .watch, .ended _ => -1
  | _, _ => 0

/-- How often an activity was begun and not ended. -/
def inProgress (a : Activity) (l : List Entry) : ℤ := (l.map fun e => e.2.weight a).sum

@[simp] lemma inProgress_nil (a : Activity) : inProgress a [] = 0 := rfl

@[simp] lemma inProgress_append (a : Activity) (l l' : List Entry) :
    inProgress a (l ++ l') = inProgress a l + inProgress a l' := by
  simp [inProgress]

@[simp] lemma inProgress_cons (a : Activity) (e : Entry) (l : List Entry) :
    inProgress a (e :: l) = e.2.weight a + inProgress a l := by
  simp [inProgress]

lemma inProgress_reports (a : Activity) (now : Instant) (leases : List Lease) :
    inProgress a (reports now leases) = 0 := by
  induction leases with
  | nil => rfl
  | cons lease rest ih =>
    have hhead : Deed.weight a (.shown (.report (.tokenRenewed lease))) = 0 := by
      cases a <;> rfl
    change inProgress a (_ :: reports now rest) = 0
    rw [inProgress_cons, hhead, ih, add_zero]

variable {plan : Plan} {lease : Lease} {t u v : Instant} {l : List Entry}

lemma Tending.inProgress_eq {isOpen : Bool} {owed : List Lease}
    (h : Tending plan lease isOpen owed l) (a : Activity) : inProgress a l = 0 := by
  induction h with
  | nothing => rfl
  | call t _ ih =>
    rw [inProgress_append, ih]
    cases a <;> rfl
  | reply t answer _ ih =>
    rw [inProgress_append, ih]
    cases a <;> rfl
  | report t _ ih => rw [inProgress_append, ih, inProgress_reports, add_zero]

def only (a₀ a : Activity) : ℤ := if a = a₀ then 1 else 0

lemma LoggedIn.inProgress_eq (h : LoggedIn t lease u l) (a : Activity) :
    inProgress a l = only .store a := by
  cases h
  cases a <;> rfl

lemma Stored.inProgress_eq (h : Stored t lease v l) (a : Activity) :
    inProgress a l = only .watch a := by
  cases h with
  | intro hl =>
    rw [inProgress_append, hl.inProgress_eq]
    cases a <;> rfl

/-- When a round is over, all that was begun in it has ended. -/
lemma Round.inProgress_eq (h : Round plan t l u) (a : Activity) : inProgress a l = 0 := by
  cases h with
  | refused => cases a <;> rfl
  | unsaved hl =>
    rw [inProgress_append, hl.inProgress_eq]
    cases a <;> rfl
  | quiet hl _ htended =>
    rw [inProgress_append, inProgress_append, inProgress_cons, inProgress_reports,
      hl.inProgress_eq, htended.inProgress_eq]
    cases a <;> rfl
  | lost hl _ htended =>
    rw [inProgress_append, inProgress_append, inProgress_append, inProgress_cons,
      inProgress_reports, hl.inProgress_eq, htended.inProgress_eq]
    cases a <;> rfl

lemma Rounds.inProgress_eq {begun : Instant} (h : Rounds plan begun l t) (a : Activity) :
    inProgress a l = 0 := by
  induction h with
  | none => rfl
  | snoc _ hround ih => rw [inProgress_append, ih, hround.inProgress_eq, add_zero]

/-- In a round at most one activity is in progress, and none before a round. -/
lemma Fits.inProgress_eq {now : Instant} {phase : Phase} (h : Fits plan now t l phase) :
    (∀ a, inProgress a l = 0) ∨
      (∀ wakeAt, phase ≠ .pausing wakeAt) ∧ ∃ a₀, ∀ a, inProgress a l = only a₀ a := by
  cases phase with
  | starting =>
    obtain ⟨rfl, -⟩ := h
    exact Or.inl fun a => rfl
  | loggingIn answer =>
    obtain ⟨rfl, -⟩ := h
    refine Or.inr ⟨by simp, .login, fun a => ?_⟩
    cases a <;> rfl
  | persisting lease answer =>
    obtain ⟨u, hlogged, -⟩ := h
    exact Or.inr ⟨by simp, .store, hlogged.inProgress_eq⟩
  | watching watch =>
    obtain ⟨-, -, -, v, first, attended, rfl, hstored, -, hattends⟩ := h
    cases hattends with
    | going hl =>
      refine Or.inr ⟨by simp, .watch, fun a => ?_⟩
      rw [inProgress_append, hstored.inProgress_eq, hl.inProgress_eq, add_zero]
    | ended hl =>
      -- Renewals may still be owed a report, but the task is no longer in progress.
      refine Or.inl fun a => ?_
      rw [inProgress_append, inProgress_append, inProgress_cons, inProgress_reports,
        hstored.inProgress_eq, hl.inProgress_eq]
      cases a <;> rfl
  | pausing wakeAt =>
    obtain ⟨rfl, -⟩ := h
    exact Or.inl fun a => rfl
  | stopped => exact h.elim

/-! ### Renewals within a watch -/

/-- Whether a deed is a call to renew a lease, the reply to one, or the report of a renewal. -/
def Deed.IsTending (plan : Plan) (lease : Lease) : Deed → Prop
  | .shown (.renew token increment) => token = lease.token ∧ increment = plan.increment lease
  | .heard (.renewal token _) => token = lease.token
  | .shown (.report (.tokenRenewed _)) => True
  | _ => False

/-- Before every call to renew a token, the latest thing other than such calls, their replies and
the reports of renewals is the report that the token was stored. -/
def RenewsWatched (plan : Plan) (l : List Entry) : Prop :=
  ∀ before after t token increment,
    l = before ++ (t, .shown (.renew token increment)) :: after →
    ∃ earlier v lease between,
      before = earlier ++ (v, .shown (.report (.tokenPersisted lease))) :: between ∧
      token = lease.token ∧ increment = plan.increment lease ∧
      ∀ e ∈ between, e.2.IsTending plan lease

def Deed.isRenewal : Deed → Bool
  | .shown (.renew _ _) => true
  | _ => false

lemma renewsWatched_of_forall (h : ∀ e ∈ l, e.2.isRenewal = false) : RenewsWatched plan l := by
  intro before after t token increment hl
  have hrenew := h (t, .shown (.renew token increment)) (by simp [hl])
  simp [Deed.isRenewal] at hrenew

/-- An element of a joined list lies in the second part, or in the first. -/
lemma append_eq_append_cons {l l' before after : List Entry} {e : Entry}
    (h : l ++ l' = before ++ e :: after) :
    (∃ gap, before = l ++ gap ∧ l' = gap ++ e :: after) ∨ ∃ gap, l = before ++ e :: gap := by
  rcases List.append_eq_append_iff.mp h with ⟨gap, hbefore, hl'⟩ | ⟨gap, hl, hgap⟩
  · exact Or.inl ⟨gap, hbefore, hl'⟩
  · cases gap with
    | nil => exact Or.inl ⟨[], by rw [hl, List.append_nil, List.append_nil], hgap.symm⟩
    | cons e' gap =>
      obtain ⟨rfl, -⟩ := List.cons.inj hgap
      exact Or.inr ⟨gap, hl⟩

lemma RenewsWatched.append {l' : List Entry} (h : RenewsWatched plan l)
    (h' : RenewsWatched plan l') : RenewsWatched plan (l ++ l') := by
  intro before after t token increment hl
  rcases append_eq_append_cons hl with ⟨gap, hbefore, hl'⟩ | ⟨gap, hl₁⟩
  · obtain ⟨earlier, v, lease, between, hgap, hrest⟩ := h' gap after t token increment hl'
    exact ⟨l ++ earlier, v, lease, between, by rw [hbefore, hgap, List.append_assoc], hrest⟩
  · exact h before gap t token increment hl₁

lemma Tending.forall_isTending {isOpen : Bool} {owed : List Lease}
    (h : Tending plan lease isOpen owed l) : ∀ e ∈ l, e.2.IsTending plan lease := by
  induction h with
  | nothing => simp
  | call t _ ih =>
    intro e he
    rcases List.mem_append.mp he with he | he
    · exact ih e he
    · rw [List.mem_singleton.mp he]
      exact ⟨rfl, rfl⟩
  | reply t answer _ ih =>
    intro e he
    rcases List.mem_append.mp he with he | he
    · exact ih e he
    · rw [List.mem_singleton.mp he]
      rfl
  | report t _ ih =>
    intro e he
    rcases List.mem_append.mp he with he | he
    · exact ih e he
    · rw [List.mem_singleton.mp he]
      trivial

lemma LoggedIn.not_isRenewal (h : LoggedIn t lease u l) : ∀ e ∈ l, e.2.isRenewal = false := by
  cases h
  simp [Deed.isRenewal]

lemma isRenewal_reports (now : Instant) (leases : List Lease) :
    ∀ e ∈ reports now leases, e.2.isRenewal = false := by
  simp [reports, Deed.isRenewal]

/-- The calls to renew a lease come after the report that its token was stored. -/
lemma Stored.renewsWatched {isOpen : Bool} {owed : List Lease} {tended : List Entry}
    (h : Stored t lease v l) (htended : Tending plan lease isOpen owed tended) :
    RenewsWatched plan (l ++ tended) := by
  obtain @⟨u, first, answer, hl, -, -⟩ := h
  have hquiet : ∀ e ∈ first ++ [(v, Deed.heard (.persist lease answer)),
      (v, .shown (.report (.tokenPersisted lease)))], e.2.isRenewal = false := by
    intro e he
    rcases List.mem_append.mp he with he | he
    · exact hl.not_isRenewal e he
    · simp only [List.mem_cons, List.not_mem_nil, or_false] at he
      rcases he with rfl | rfl <;> rfl
  intro before after s token increment hsplit
  rcases append_eq_append_cons hsplit with ⟨gap, rfl, htail⟩ | ⟨gap, hfirst⟩
  · -- The call is one of those made while the lease is watched.
    obtain ⟨htoken, hinc⟩ := htended.forall_isTending (s, .shown (.renew token increment))
      (by simp [htail])
    refine ⟨first ++ [(v, .heard (.persist lease answer))], v, lease, gap, by simp, htoken, hinc,
      fun e he => htended.forall_isTending e ?_⟩
    rw [htail]
    exact List.mem_append_left _ he
  · have hrenew := hquiet (s, .shown (.renew token increment)) (by rw [hfirst]; simp)
    simp [Deed.isRenewal] at hrenew

lemma Round.renewsWatched (h : Round plan t l u) : RenewsWatched plan l := by
  have hreports : ∀ w verdict owed,
      RenewsWatched plan ((w, .ended verdict) :: reports w owed) := by
    intro w verdict owed
    refine renewsWatched_of_forall fun e he => ?_
    rcases List.mem_cons.mp he with rfl | he
    · rfl
    · exact isRenewal_reports w owed e he
  cases h with
  | refused => exact renewsWatched_of_forall (by simp [setback, Deed.isRenewal])
  | unsaved hl =>
    exact (renewsWatched_of_forall hl.not_isRenewal).append
      (renewsWatched_of_forall (by simp [setback, Deed.isRenewal]))
  | quiet hl _ htended =>
    rw [← List.append_assoc]
    exact (hl.renewsWatched htended).append (hreports _ _ _)
  | lost hl _ htended =>
    rw [← List.append_assoc]
    exact ((hl.renewsWatched htended).append (hreports _ _ _)).append
      (renewsWatched_of_forall (by simp [setback, Deed.isRenewal]))

lemma Rounds.renewsWatched {begun : Instant} (h : Rounds plan begun l t) :
    RenewsWatched plan l := by
  induction h with
  | none => exact renewsWatched_of_forall (by simp)
  | snoc _ hround ih => exact ih.append hround.renewsWatched

/-! ### The beginning of a round -/

lemma Tending.exists_closed {isOpen : Bool} {owed : List Lease}
    (h : Tending plan lease isOpen owed l) :
    ∃ more, Tending plan lease false owed (l ++ more) := by
  cases isOpen with
  | false => exact ⟨[], by rwa [List.append_nil]⟩
  | true =>
    have hclosed := h.reply 0 ⟨0, .crashed, []⟩
    rw [show granted ⟨0, .crashed, []⟩ = [] from rfl, List.append_nil] at hclosed
    exact ⟨_, hclosed⟩

/-- What has happened of a round is the beginning of some round. -/
lemma Fits.exists_round {now : Instant} {phase : Phase} (h : Fits plan now t l phase) :
    ∃ rest u, Round plan t (l ++ rest) u := by
  -- The calls that have begun fail at once, and the task of the watch ends.
  have hlogin : (⟨t, .error .addressMissing, []⟩ : Answer (Except VaultError Grant)).value =
      .error .addressMissing := rfl
  have hnone : ∃ rest u, Round plan t ([] ++ rest) u :=
    ⟨_, _, .refused (Nat.le_refl t) hlogin⟩
  cases phase with
  | starting =>
    obtain ⟨rfl, -⟩ := h
    exact hnone
  | loggingIn answer =>
    obtain ⟨rfl, -⟩ := h
    exact ⟨_, _, .refused (Nat.le_refl t) hlogin⟩
  | persisting lease answer =>
    obtain ⟨u, hlogged, -⟩ := h
    have hstore : (⟨u, .error .homeUnknown, []⟩ : Answer (Except KeeperError Unit)).value =
        .error .homeUnknown := rfl
    exact ⟨_, _, .unsaved hlogged (Nat.le_refl u) hstore⟩
  | watching watch =>
    obtain ⟨-, -, -, v, first, attended, rfl, hstored, hv, hattends⟩ := h
    cases hattends with
    | @going owed _ hl =>
      obtain ⟨more, hclosed⟩ := hl.exists_closed
      refine ⟨more ++ (now, .ended (.ok ())) :: reports now owed, now, ?_⟩
      have hround := Round.quiet hstored hv hclosed
      simpa using hround
    | @ended told owed verdict tended hl =>
      cases verdict with
      | ok =>
        refine ⟨reports now owed, now, ?_⟩
        have hround := Round.quiet hstored hv hl
        simpa [reports_append] using hround
      | error error =>
        refine ⟨reports now owed ++ setback plan now (.renewalFailed error),
          plan.wakeAfter now, ?_⟩
        have hround : Round plan t (first ++ (tended ++ (now, .ended (.error error)) ::
            reports now (told ++ owed)) ++ setback plan now (.renewalFailed error))
            (plan.wakeAfter now) := .lost hstored hv hl
        simpa [reports_append] using hround
  | pausing wakeAt =>
    obtain ⟨rfl, -⟩ := h
    exact hnone
  | stopped => exact h.elim

lemma Fits.renewsWatched {now : Instant} {phase : Phase} (h : Fits plan now t l phase) :
    RenewsWatched plan l := by
  obtain ⟨rest, u, hround⟩ := h.exists_round
  intro before after s token increment hl
  exact hround.renewsWatched before (after ++ rest) s token increment (by simp [hl])

variable {σ : Type} {c : Collaborators σ} {begun : Instant}

/-- The protocol of rounds.  The chronicle of a keeper, which holds the calls and reports of its
trace and all that was heard, is at every moment the beginning of a sequence of rounds.  At most
one login, one call to store a token or one task of a watch is in progress, and none during a
pause.  Every call to renew a token is made while that token is watched, since it was stored. -/
theorem round_protocol {s : Scene σ} {l : List Entry} (h : Chronicle c plan begun s l) :
    (shownIn l = s.keeper.trace.filter (fun e => e.2.isShown) ∧ heardIn l = s.heard) ∧
      (∃ word u, Rounds plan begun word u ∧ l <+: word) ∧
      ((∀ a, inProgress a l = 0) ∨ (∀ wakeAt, s.keeper.phase ≠ .pausing wakeAt) ∧
        ∃ a₀, ∀ a, inProgress a l = only a₀ a) ∧
      RenewsWatched plan l := by
  obtain ⟨past, t, current, now, phase, rfl, hpast, hfits, hsame⟩ := h.exists_rounds
  refine ⟨h.shown_eq, ?_, ?_, hpast.renewsWatched.append hfits.renewsWatched⟩
  · obtain ⟨rest, u, hround⟩ := hfits.exists_round
    refine ⟨_, u, hpast.snoc hround, ?_⟩
    rw [← List.append_assoc]
    exact List.prefix_append _ _
  · have hsum : ∀ a, inProgress a (past ++ current) = inProgress a current := by
      intro a
      rw [inProgress_append, hpast.inProgress_eq, zero_add]
    simp only [hsum]
    rcases hfits.inProgress_eq with hnone | ⟨hphase, hone⟩
    · exact Or.inl hnone
    · refine Or.inr ⟨fun wakeAt hp => ?_, hone⟩
      obtain ⟨-, rfl⟩ := hsame (by rw [hp]; simp)
      exact hphase wakeAt hp

/-- How the keeper with the brittle collaborators goes about things. -/
def brittlePlan : Plan := ⟨.ofSeconds 5, ⟨none, some (.ofSeconds 9)⟩⟩

/-- What the brittle collaborators grant. -/
def brittleLease : Lease := ⟨⟨"token", none, [], .ofSeconds 60, true⟩, 0⟩

/-- The first round of the keeper with the brittle collaborators. -/
def brittleRound : List Entry :=
  [(0, .shown .login), (0, .heard (.login ⟨0, .ok brittleLease.toGrant, []⟩)),
    (0, .shown (.persist "token")), (0, .heard (.persist brittleLease ⟨0, .ok (), []⟩)),
    (0, .shown (.report (.tokenPersisted brittleLease))),
    (0, .shown (.renew "token" (.ofSeconds 60))),
    (0, .heard (.renewal "token" ⟨0, .crashed, []⟩)), (0, .ended (.error .watchLost)),
    (0, .shown (.report (.renewalFailed .watchLost))),
    (0, .shown (.report (.retryScheduled (.ofSeconds 5))))]

lemma chronicle_paused : Chronicle Scene.brittle brittlePlan 0 Scene.paused brittleRound := by
  have h₀ : Chronicle Scene.brittle brittlePlan 0 (.start 0 ()) [] := .start ()
  have h₁ := h₀.step (.move rfl)
  have h₂ := h₁.step (.move rfl)
  have h₃ := h₂.step (.move rfl)
  have h₄ := h₃.step (.work rfl rfl)
  have h₅ := h₄.step (.move rfl)
  have hwait : Scene.Step Scene.brittle brittlePlan { Scene.paused with now := 0 } Scene.paused := by
    refine .wait rfl (Nat.zero_le _) fun t ht _ => ?_
    cases ht
    exact Nat.le_refl _
  exact h₅.step hwait

/-- A round in which the task of the watch crashes. -/
theorem round_protocol_paused :
    Chronicle Scene.brittle brittlePlan 0 Scene.paused brittleRound ∧
      (∃ word u, Rounds brittlePlan 0 word u ∧ brittleRound <+: word) ∧
      RenewsWatched brittlePlan brittleRound := by
  obtain ⟨-, hword, -, hrenews⟩ := round_protocol chronicle_paused
  exact ⟨chronicle_paused, hword, hrenews⟩

end Keeper
end LeaseKeeper
