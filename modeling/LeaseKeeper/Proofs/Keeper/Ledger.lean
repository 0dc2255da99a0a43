/-
# The latest credential wins

A token goes two ways: to the store, and into the watch that renews it.  A ledger over what was
heard says which token the store holds and what has become of the latest login.  In every scene
the two agree, a token is sent to the store only by the login that granted it, and a renewal is
sent only for the token that the store holds.
-/
import LeaseKeeper.Proofs.Keeper.Scene
import Mathlib.Data.List.Induction

namespace LeaseKeeper
namespace Keeper

open Relation

/-! ### The ledger -/

/-- What follows from all that was heard. -/
structure Ledger where
  /-- The lease of the latest successful login. -/
  login : Option Lease
  /-- How the call to store its token ended, if it has. -/
  fate : Option (Except KeeperError Unit)
  /-- The token of the latest successful call to store one. -/
  store : Option String
  /-- The latest lease of that token: the one that was stored, or that of a later renewal. -/
  good : Option Lease

namespace Ledger

/-- Nothing was heard. -/
def empty : Ledger := ⟨none, none, none, none⟩

/-- One more answer was heard. -/
def hear (l : Ledger) : Outcome → Ledger
  | .login answer =>
    match answer.value with
    | .ok grant => { l with login := some (grant.startingAt answer.ready), fate := none }
    | .error _ => l
  | .persist lease answer =>
    match answer.value with
    | .ok () => { l with fate := some (.ok ()), store := some lease.token, good := some lease }
    | .error error => { l with fate := some (.error error) }
  | .renewal token answer =>
    match answer.value with
    | .granted grant =>
      if l.store = some token then { l with good := some (grant.startingAt answer.ready) } else l
    | _ => l

/-- Something was heard, or nothing. -/
def hear? (l : Ledger) (outcome : Option Outcome) : Ledger := outcome.elim l l.hear

@[simp] lemma hear?_none (l : Ledger) : l.hear? none = l := rfl

@[simp] lemma hear?_some (l : Ledger) (outcome : Outcome) :
    l.hear? (some outcome) = l.hear outcome := rfl

/-- The ledger after all that was heard. -/
def of (heard : List Outcome) : Ledger := heard.foldl hear empty

lemma of_append (heard : List Outcome) (outcome : Option Outcome) :
    of (heard ++ outcome.toList) = (of heard).hear? outcome := by
  cases outcome with
  | none => simp
  | some outcome => simp [of]

/-- A renewal says nothing about logins and the store. -/
lemma hear_renewal (l : Ledger) (token : String) (answer : Answer Renewal) :
    (l.hear (.renewal token answer)).login = l.login ∧
      (l.hear (.renewal token answer)).fate = l.fate ∧
      (l.hear (.renewal token answer)).store = l.store := by
  cases hv : answer.value with
  | granted grant =>
    by_cases h : l.store = some token
    · simp only [hear, hv, if_pos h, and_self]
    · simp only [hear, hv, if_neg h, and_self]
  | _ => simp only [hear, hv, and_self]

/-- Where a token is stored, there is a good lease of it. -/
lemma exists_good {heard : List Outcome} {token : String} (h : (of heard).store = some token) :
    ∃ lease, (of heard).good = some lease := by
  induction heard using List.reverseRecOn generalizing token with
  | nil => cases h
  | append_singleton heard outcome ih =>
    have hof : of (heard ++ [outcome]) = (of heard).hear outcome := of_append heard (some outcome)
    rw [hof] at h ⊢
    cases outcome with
    | login answer =>
      cases hv : answer.value with
      | ok grant =>
        simp only [hear, hv] at h ⊢
        exact ih h
      | error error =>
        simp only [hear, hv] at h ⊢
        exact ih h
    | persist lease answer =>
      cases hv : answer.value with
      | ok => exact ⟨lease, by simp only [hear, hv]⟩
      | error error =>
        simp only [hear, hv] at h ⊢
        exact ih h
    | renewal renewed answer =>
      rw [(hear_renewal _ _ _).2.2] at h
      obtain ⟨lease, hgood⟩ := ih h
      cases hv : answer.value with
      | granted grant =>
        by_cases hstore : (of heard).store = some renewed
        · exact ⟨grant.startingAt answer.ready, by simp only [hear, hv, if_pos hstore]⟩
        · exact ⟨lease, by simp only [hear, hv, if_neg hstore, hgood]⟩
      | _ => exact ⟨lease, by simp only [hear, hv, hgood]⟩

end Ledger

variable {σ : Type} {c : Collaborators σ} {plan : Plan}

/-- The ledger of a scene. -/
def Scene.ledger (s : Scene σ) : Ledger := .of s.heard

lemma Scene.ledger_after (s : Scene σ) (outcome : Option Outcome) (k : Keeper σ) :
    (s.after outcome k).ledger = s.ledger.hear? outcome := Ledger.of_append s.heard outcome

/-- What the task of a watch hears says nothing about logins and the store. -/
lemma hear?_heardBy (l : Ledger) (now : Instant) (k : Keeper σ) (watch : Watch) :
    (l.hear? (k.heardBy c now watch)).login = l.login ∧
      (l.hear? (k.heardBy c now watch)).fate = l.fate ∧
      (l.hear? (k.heardBy c now watch)).store = l.store := by
  unfold heardBy
  cases (k.runOf watch).reply? c.toRenewer now with
  | none => exact ⟨rfl, rfl, rfl⟩
  | some answer => exact l.hear_renewal _ _

/-! ### What a turn adds to the trace -/

/-- What entitles a keeper to a call: to store a token it must just have heard the login that
granted the token, and to renew one it must watch over it. -/
def Warrants (k : Keeper σ) (outcome : Option Outcome) : Happening → Prop
  | .persist token => ∃ answer grant, outcome = some (.login answer) ∧
      answer.value = .ok grant ∧ token = grant.token
  | .renew token increment => ∃ watch, k.phase = .watching watch ∧
      token = watch.lease.token ∧ increment = watch.increment
  | _ => True

/-- A keeper goes on from another one, and all that it adds to the trace is warranted. -/
def Adds (k₀ : Keeper σ) (outcome : Option Outcome) (k k' : Keeper σ) : Prop :=
  ∃ new, k'.trace = k.trace ++ new ∧ ∀ e ∈ new, k₀.Warrants outcome e.2

section

variable {k₀ k k₁ k₂ : Keeper σ} {outcome : Option Outcome} {now : Instant}

lemma Adds.refl (h : k₁.trace = k.trace) : Adds k₀ outcome k k₁ :=
  ⟨[], by rw [h, List.append_nil], by simp⟩

lemma Adds.trans (h : Adds k₀ outcome k k₁) (h' : Adds k₀ outcome k₁ k₂) :
    Adds k₀ outcome k k₂ := by
  obtain ⟨new, htrace, hnew⟩ := h
  obtain ⟨more, htrace', hmore⟩ := h'
  refine ⟨new ++ more, by rw [htrace', htrace, List.append_assoc], fun e he => ?_⟩
  rcases List.mem_append.mp he with he | he
  · exact hnew e he
  · exact hmore e he

lemma warrants_ofNotes (notes : List Note) :
    ∀ e ∈ Trace.ofNotes now notes, k₀.Warrants outcome e.2 := by
  intro e he
  simp only [Trace.ofNotes, List.mem_map] at he
  obtain ⟨note, -, rfl⟩ := he
  trivial

lemma adds_notes (now : Instant) (k : Keeper σ) (notes : List Note) :
    Adds k₀ outcome k (k.record (Trace.ofNotes now notes)) :=
  ⟨_, rfl, warrants_ofNotes notes⟩

/-- A call with the notes that it makes. -/
lemma adds_call (now : Instant) (event : Happening) {notes : List Note}
    (h : k₀.Warrants outcome event)
    (htrace : k₁.trace = k.trace ++ (now, event) :: Trace.ofNotes now notes) :
    Adds k₀ outcome k k₁ := by
  refine ⟨_, htrace, fun e he => ?_⟩
  rcases List.mem_cons.mp he with rfl | he
  · exact h
  · exact warrants_ofNotes notes e he

lemma adds_fail (k : Keeper σ) (report : Report) : Adds k₀ outcome k (k.fail plan now report) :=
  ⟨_, rfl, by simp [Warrants]⟩

lemma adds_receiveLogin {answer : Answer (Except VaultError Grant)} :
    Adds k₀ (some (.login answer)) k (k.receiveLogin c plan now answer) := by
  refine (adds_notes now k answer.notes).trans ?_
  cases hv : answer.value with
  | ok grant =>
    rw [receiveLogin_ok c plan now k hv]
    exact adds_call now (.persist grant.token) ⟨answer, grant, rfl, hv, rfl⟩ rfl
  | error error =>
    rw [receiveLogin_error c plan now k hv]
    exact adds_fail _ _

lemma adds_receivePersist {lease : Lease} {answer : Answer (Except KeeperError Unit)} :
    Adds k₀ outcome k (k.receivePersist plan now lease answer) := by
  refine (adds_notes now k answer.notes).trans ?_
  cases hv : answer.value with
  | ok =>
    rw [receivePersist_ok plan now k hv]
    exact ⟨_, rfl, by simp [Warrants]⟩
  | error error =>
    rw [receivePersist_error plan now k hv]
    exact adds_fail _ _

lemma adds_receiveEvent (watch : Watch) (event : Watch.Event) :
    Adds k₀ outcome k (k.receiveEvent plan now watch event) := by
  cases event with
  | renewed lease => exact ⟨_, rfl, by simp [Warrants]⟩
  | done result =>
    cases result with
    | ok => exact .refl rfl
    | error error => exact adds_fail _ _

end

/-- All that a turn adds to the trace is warranted. -/
lemma Turn.adds {cancelled : Bool} {now : Instant} {k k' : Keeper σ} {outcome : Option Outcome}
    (h : Turn c plan cancelled now k outcome k') : Adds k outcome k k' := by
  cases h with
  | stop => exact ⟨_, rfl, by simp [Warrants]⟩
  | login => exact adds_call now .login trivial rfl
  | receiveLogin => exact adds_receiveLogin
  | receivePersist => exact adds_receivePersist
  | @work watch run hp hpoll =>
    obtain ⟨new, htrace, hnew⟩ := (Watch.Run.poll_of_poll? hpoll).exists_trace
    refine ⟨new, htrace, fun e he => ?_⟩
    rcases (hnew e he).2 with hrenew | ⟨note, hnote⟩
    · rw [hrenew]
      exact ⟨watch, hp, rfl, rfl⟩
    · rw [hnote]
      trivial
  | take => exact adds_receiveEvent _ _
  | wake => exact .refl rfl

/-! ### The ledger and the keeper -/

/-- What a ledger says while a keeper is in some phase. -/
def Ledger.Fits (plan : Plan) (l : Ledger) : Phase → Prop
  | .persisting lease _ => l.login = some lease ∧ l.fate = none
  | .watching watch =>
    watch.config = plan.watch ∧ l.login = some watch.lease ∧ l.fate = some (.ok ())
  | .stopped => True
  | _ => l.login ≠ none → l.fate ≠ none

/-- The ledger fits what the keeper is doing, and a login whose token was stored is the one whose
token the store holds. -/
structure Balanced (plan : Plan) (l : Ledger) (k : Keeper σ) : Prop where
  fits : l.Fits plan k.phase
  stored : l.fate = some (.ok ()) → ∃ lease, l.login = some lease ∧ l.store = some lease.token

lemma balanced_start (plan : Plan) (others : σ) : Balanced plan .empty (start others) :=
  ⟨fun h => absurd rfl h, nofun⟩

/-- The latest login is done with unless its token is being stored or the keeper has stopped. -/
lemma Balanced.settled {l : Ledger} {k : Keeper σ} (h : Balanced plan l k)
    (hp : ∀ lease answer, k.phase ≠ .persisting lease answer) (hs : k.phase ≠ .stopped) :
    l.login ≠ none → l.fate ≠ none := by
  have hfits := h.fits
  cases hphase : k.phase with
  | persisting lease answer => exact absurd hphase (hp lease answer)
  | stopped => exact absurd hphase hs
  | watching watch =>
    rw [hphase] at hfits
    rw [hfits.2.2]
    exact fun _ => Option.some_ne_none _
  | _ => rwa [hphase] at hfits

lemma Turn.balanced {cancelled : Bool} {now : Instant} {k k' : Keeper σ}
    {outcome : Option Outcome} (h : Turn c plan cancelled now k outcome k') {l : Ledger}
    (hl : Balanced plan l k) : Balanced plan (l.hear? outcome) k' := by
  cases h with
  | stop => exact ⟨trivial, hl.stored⟩
  | login _ hp => exact ⟨hl.settled (by simp [hp]) (by simp [hp]), hl.stored⟩
  | @receiveLogin answer _ hp =>
    have hsettled := hl.settled (by simp [hp]) (by simp [hp])
    cases hv : answer.value with
    | ok grant =>
      rw [receiveLogin_ok c plan now k hv]
      simp only [Ledger.hear?_some, Ledger.hear, hv]
      exact ⟨⟨rfl, rfl⟩, nofun⟩
    | error error =>
      rw [receiveLogin_error c plan now k hv]
      simp only [Ledger.hear?_some, Ledger.hear, hv]
      exact ⟨hsettled, hl.stored⟩
  | @receivePersist lease answer _ hp =>
    have hfits := hl.fits
    rw [hp] at hfits
    cases hv : answer.value with
    | ok =>
      rw [receivePersist_ok plan now k hv]
      simp only [Ledger.hear?_some, Ledger.hear, hv]
      exact ⟨⟨rfl, hfits.1, rfl⟩, fun _ => ⟨lease, hfits.1, rfl⟩⟩
    | error error =>
      rw [receivePersist_error plan now k hv]
      simp only [Ledger.hear?_some, Ledger.hear, hv]
      exact ⟨fun _ => Option.some_ne_none _, nofun⟩
  | @work watch run hp hpoll =>
    have hterms := (Watch.Run.poll_of_poll? hpoll).sameTerms
    have hfits := hl.fits
    rw [hp] at hfits
    obtain ⟨hconfig, hlogin, hfate⟩ := hfits
    obtain ⟨hlogin', hfate', hstore'⟩ := hear?_heardBy (c := c) l now k watch
    refine ⟨⟨hterms.config.trans hconfig, ?_, hfate'.trans hfate⟩, ?_⟩
    · rw [hlogin', hlogin, hterms.lease]
      rfl
    · rw [hlogin', hfate', hstore']
      exact hl.stored
  | @take watch watch' event _ hp htake =>
    have hfits := hl.fits
    have hsettled := hl.settled (by simp [hp]) (by simp [hp])
    rw [hp] at hfits
    -- Whatever the event, nothing was heard: the round goes on with its watch, or is over.
    have hsame : watch'.config = watch.config ∧ watch'.lease = watch.lease := by
      cases Watch.take_of_take? htake <;> exact ⟨rfl, rfl⟩
    cases event with
    | renewed lease =>
      refine ⟨⟨hsame.1.trans hfits.1, ?_, hfits.2.2⟩, hl.stored⟩
      rw [hsame.2]
      exact hfits.2.1
    | done result =>
      cases result with
      | ok => exact ⟨hsettled, hl.stored⟩
      | error error => exact ⟨hsettled, hl.stored⟩
  | wake _ hp => exact ⟨hl.settled (by simp [hp]) (by simp [hp]), hl.stored⟩

lemma Scene.Reachable.balanced {s : Scene σ} (h : Reachable c plan s) :
    Balanced plan s.ledger s.keeper := by
  refine h.induction (P := fun s => Balanced plan s.ledger s.keeper)
    (fun _ others => balanced_start plan others) fun s s' hs hstep => ?_
  rcases hstep.cases with ⟨outcome, k, hturn, rfl⟩ | ⟨later, -, -, -, rfl⟩ | ⟨x, rfl⟩
  · rw [Scene.ledger_after]
    exact hturn.balanced hs
  · exact hs
  · exact hs

/-- What holds of a keeper that has not begun, and is kept by each turn of a keeper with its ledger
and by the clock, holds in all reachable scenes. -/
lemma Scene.Reachable.ledger_induction {P : Instant → Ledger → Keeper σ → Prop}
    (hstart : ∀ now others, P now .empty (Keeper.start others))
    (hturn : ∀ {cancelled now l k k' outcome}, Turn c plan cancelled now k outcome k' →
      Balanced plan l k → P now l k → P now (l.hear? outcome) k')
    (hwait : ∀ {cancelled now later l k}, k.move? c plan cancelled now = none → now ≤ later →
      (∀ t, k.phase.wake? = some t → now < t → later ≤ t) → P now l k → P later l k)
    {s : Scene σ} (h : Reachable c plan s) : P s.now s.ledger s.keeper := by
  have hboth : Balanced plan s.ledger s.keeper ∧ P s.now s.ledger s.keeper := by
    refine h.induction (P := fun s => Balanced plan s.ledger s.keeper ∧
      P s.now s.ledger s.keeper)
      (fun now others => ⟨balanced_start plan others, hstart now others⟩) fun s s' hs hstep => ?_
    rcases hstep.cases with
      ⟨outcome, k, hk, rfl⟩ | ⟨later, hmove, hle, hwake, rfl⟩ | ⟨x, rfl⟩
    · rw [Scene.ledger_after]
      exact ⟨hk.balanced hs.1, hturn hk hs.1 hs.2⟩
    · exact ⟨hs.1, hwait hmove hle hwake hs.2⟩
    · exact hs
  exact hboth.2

/-- The token of a lease that is watched is the one that the store holds. -/
lemma Balanced.watching {l : Ledger} {k : Keeper σ} (h : Balanced plan l k) {watch : Watch}
    (hp : k.phase = .watching watch) :
    watch.config = plan.watch ∧ l.login = some watch.lease ∧ l.fate = some (.ok ()) ∧
      l.store = some watch.lease.token := by
  have hfits := h.fits
  rw [hp] at hfits
  obtain ⟨hconfig, hlogin, hfate⟩ := hfits
  obtain ⟨lease, hlogin', hstore⟩ := h.stored hfate
  rw [hlogin] at hlogin'
  cases hlogin'
  exact ⟨hconfig, hlogin, hfate, hstore⟩

/-- The token of the latest login is the one that the store holds, unless the call to store it
failed, or is open, or was cut short. -/
lemma Balanced.of_login {l : Ledger} {k : Keeper σ} (h : Balanced plan l k) {lease : Lease}
    (hlogin : l.login = some lease) :
    l.fate = some (.ok ()) ∧ l.store = some lease.token ∨
      (∃ error, l.fate = some (.error error)) ∨
      l.fate = none ∧ ((∃ answer, k.phase = .persisting lease answer) ∨ k.phase = .stopped) := by
  cases hfate : l.fate with
  | some result =>
    cases result with
    | ok =>
      obtain ⟨lease', hlogin', hstore⟩ := h.stored hfate
      rw [hlogin] at hlogin'
      cases hlogin'
      exact Or.inl ⟨rfl, hstore⟩
    | error error => exact Or.inr (Or.inl ⟨error, rfl⟩)
  | none =>
    refine Or.inr (Or.inr ⟨rfl, ?_⟩)
    have hne : l.login ≠ none := by simp [hlogin]
    cases hp : k.phase with
    | persisting lease' answer =>
      have hfits := h.fits
      rw [hp] at hfits
      have hsame := hfits.1
      rw [hlogin] at hsame
      cases hsame
      exact Or.inl ⟨answer, rfl⟩
    | stopped => exact Or.inr rfl
    | _ => exact absurd hfate (h.settled (by simp [hp]) (by simp [hp]) hne)

end Keeper
end LeaseKeeper
