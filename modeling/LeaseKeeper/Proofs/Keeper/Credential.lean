/-
# The store holds the credential that is renewed

The collaborators of a keeper include a store, which a look at their state shows.  The store
changes only when a call to store a token ends well.  So it shows the token of the ledger, but for
a call that is still open or was cut short, and this is the token that every renewal carries.
-/
import LeaseKeeper.Proofs.Keeper.Ledger

namespace LeaseKeeper
namespace Keeper

open Relation

/-- Whether a call to store a token ends well. -/
def succeeds : Option (Answer (Except KeeperError Unit)) → Bool
  | some ⟨_, .ok (), _⟩ => true
  | _ => false

lemma succeeds_ok {answer : Answer (Except KeeperError Unit)} (h : answer.value = .ok ()) :
    succeeds (some answer) = true := by
  obtain ⟨ready, value, notes⟩ := answer
  cases h
  rfl

lemma succeeds_error {answer : Answer (Except KeeperError Unit)} {error : KeeperError}
    (h : answer.value = .error error) : succeeds (some answer) = false := by
  obtain ⟨ready, value, notes⟩ := answer
  cases h
  rfl

variable {σ : Type}

/-- A look at the collaborators that shows which token is stored: a call to store a token that ends
well puts it there, and no other call changes it. -/
structure IsStore (c : Collaborators σ) (held : σ → Option String) : Prop where
  login : ∀ s now, held (c.login s now).2 = held s
  renew : ∀ s now token increment, held (c.renew s now token increment).2 = held s
  draw : ∀ s, held (c.draw s).2 = held s
  persist : ∀ s now lease, held (c.persist s now lease).2 =
    if succeeds (c.persist s now lease).1.answer then some lease.token else held s

variable {c : Collaborators σ} {plan : Plan} {held : σ → Option String}

/-- The task of a watch leaves the store alone. -/
lemma IsStore.poll (hc : IsStore c held) {now : Instant} {s s' : Watch.Run σ}
    {reply : Option (Answer Renewal)} (h : Watch.Run.Poll c.toRenewer now s reply s') :
    held s'.others = held s.others := by
  have hcall : ∀ t : Watch.Run σ, held (t.call c.toRenewer now).others = held t.others :=
    fun t => hc.renew _ _ _ _
  have hopened : held (s.opened c.toRenewer now).others = held s.others := by
    unfold Watch.Run.opened
    split
    · obtain ⟨grace, hgrace⟩ := Watch.exists_graceFor? s.watch.config s.watch.lease.ttl
        (c.draw s.others).1
      simp only [Watch.Run.begin, hgrace, hcall]
      exact hc.draw _
    · exact hcall s
    · rfl
  cases h with
  | stop => rfl
  | refuse => rfl
  | wait => exact hopened
  | @take answer =>
    rw [← hopened]
    unfold Watch.Run.receive
    cases answer.value with
    | granted grant => exact hc.draw _
    | _ => rfl

/-- The store shows the token of the ledger, if there is one. -/
def Agrees (held : σ → Option String) (l : Ledger) (others : σ) : Prop :=
  ∀ token, l.store = some token → held others = some token

lemma Agrees.congr {l l' : Ledger} {others others' : σ} (h : Agrees held l others)
    (hstore : l'.store = l.store) (hheld : held others' = held others) :
    Agrees held l' others' := by
  intro token htoken
  rw [hheld]
  rw [hstore] at htoken
  exact h token htoken

/-- The store shows the token of the ledger, or already that of the latest login, if the call to
store that has not been heard of. -/
structure Shows (held : σ → Option String) (l : Ledger) (k : Keeper σ) : Prop where
  view : Agrees held l k.others ∨
    l.fate = none ∧ ∃ lease, l.login = some lease ∧ held k.others = some lease.token
  pending : ∀ lease answer, k.phase = .persisting lease answer →
    if succeeds answer then held k.others = some lease.token else Agrees held l k.others

lemma Shows.agrees {l : Ledger} {k : Keeper σ} (h : Shows held l k)
    (hsettled : l.login ≠ none → l.fate ≠ none) : Agrees held l k.others := by
  rcases h.view with ha | ⟨hfate, lease, hlogin, -⟩
  · exact ha
  · exact absurd hfate (hsettled (by simp [hlogin]))

lemma Shows.of_agrees {l : Ledger} {k : Keeper σ} (h : Agrees held l k.others)
    (hp : ∀ lease answer, k.phase ≠ .persisting lease answer) : Shows held l k :=
  ⟨Or.inl h, fun lease answer hphase => absurd hphase (hp lease answer)⟩

lemma Turn.shows (hc : IsStore c held) {cancelled : Bool} {now : Instant} {k k' : Keeper σ}
    {outcome : Option Outcome} (h : Turn c plan cancelled now k outcome k') {l : Ledger}
    (hl : Balanced plan l k) (hs : Shows held l k) : Shows held (l.hear? outcome) k' := by
  cases h with
  | stop => exact ⟨hs.view, by simp⟩
  | login _ hp =>
    have ha := hs.agrees (hl.settled (by simp [hp]) (by simp [hp]))
    exact .of_agrees (ha.congr rfl (hc.login _ _)) (by simp)
  | @receiveLogin answer _ hp =>
    have ha := hs.agrees (hl.settled (by simp [hp]) (by simp [hp]))
    cases hv : answer.value with
    | ok grant =>
      rw [receiveLogin_ok c plan now k hv]
      simp only [Ledger.hear?_some, Ledger.hear, hv]
      -- How the call will end is settled as it begins, and so is what the store shows.
      have hheld := hc.persist k.others now (grant.startingAt answer.ready)
      cases hsucceeds : succeeds
          (c.persist k.others now (grant.startingAt answer.ready)).1.answer with
      | true =>
        rw [hsucceeds, if_pos rfl] at hheld
        refine ⟨Or.inr ⟨rfl, _, rfl, hheld⟩, fun lease pending hphase => ?_⟩
        rw [phase_beginPersist, others_record] at hphase
        obtain ⟨rfl, rfl⟩ := Phase.persisting.inj hphase
        rw [hsucceeds, if_pos rfl]
        exact hheld
      | false =>
        rw [hsucceeds, if_neg Bool.false_ne_true] at hheld
        refine ⟨Or.inl (ha.congr rfl hheld), fun lease pending hphase => ?_⟩
        rw [phase_beginPersist, others_record] at hphase
        obtain ⟨rfl, rfl⟩ := Phase.persisting.inj hphase
        rw [hsucceeds, if_neg Bool.false_ne_true]
        exact ha.congr rfl hheld
    | error error =>
      rw [receiveLogin_error c plan now k hv]
      simp only [Ledger.hear?_some, Ledger.hear, hv]
      exact .of_agrees ha (by simp)
  | @receivePersist lease answer _ hp =>
    -- Only now does the ledger catch up with the store.
    have hpending := hs.pending _ _ hp
    cases hv : answer.value with
    | ok =>
      rw [succeeds_ok hv, if_pos rfl] at hpending
      rw [receivePersist_ok plan now k hv]
      simp only [Ledger.hear?_some, Ledger.hear, hv]
      refine .of_agrees (fun token htoken => ?_) (by simp)
      rw [← htoken]
      exact hpending
    | error error =>
      rw [succeeds_error hv, if_neg Bool.false_ne_true] at hpending
      rw [receivePersist_error plan now k hv]
      simp only [Ledger.hear?_some, Ledger.hear, hv]
      exact .of_agrees (hpending.congr rfl rfl) (by simp)
  | @work watch run hp hpoll =>
    have ha := hs.agrees (hl.settled (by simp [hp]) (by simp [hp]))
    have hheld := hc.poll (Watch.Run.poll_of_poll? hpoll)
    exact .of_agrees (ha.congr (hear?_heardBy l now k watch).2.2 hheld) (by simp [ofRun])
  | @take watch watch' event _ hp =>
    have ha := hs.agrees (hl.settled (by simp [hp]) (by simp [hp]))
    refine .of_agrees (ha.congr rfl (by simp)) ?_
    rcases k.phase_receiveEvent plan now watch' event with ⟨-, hp'⟩ | ⟨-, hp'⟩ | ⟨-, hp'⟩ <;>
      simp [hp']
  | wake _ hp =>
    exact .of_agrees (hs.agrees (hl.settled (by simp [hp]) (by simp [hp]))) (by simp)

/-- The store changes only when a token that a login has just granted is sent to it. -/
lemma Turn.held_eq (hc : IsStore c held) {cancelled : Bool} {now : Instant} {k k' : Keeper σ}
    {outcome : Option Outcome} (h : Turn c plan cancelled now k outcome k') :
    held k'.others = held k.others ∨ ∃ answer grant, outcome = some (.login answer) ∧
      answer.value = .ok grant ∧ held k'.others = some grant.token := by
  cases h with
  | stop => exact Or.inl rfl
  | login => exact Or.inl (hc.login _ _)
  | @receiveLogin answer =>
    cases hv : answer.value with
    | ok grant =>
      rw [receiveLogin_ok c plan now k hv, others_beginPersist, hc.persist]
      split
      · exact Or.inr ⟨answer, grant, rfl, hv, rfl⟩
      · exact Or.inl rfl
    | error error =>
      rw [receiveLogin_error c plan now k hv]
      exact Or.inl rfl
  | @receivePersist lease answer =>
    cases hv : answer.value with
    | ok =>
      rw [receivePersist_ok plan now k hv]
      exact Or.inl rfl
    | error error =>
      rw [receivePersist_error plan now k hv]
      exact Or.inl rfl
  | work hp hpoll => exact Or.inl (hc.poll (Watch.Run.poll_of_poll? hpoll))
  | take => exact Or.inl (by rw [others_receiveEvent])
  | wake => exact Or.inl rfl

namespace Scene

lemma shows_of_reachable (hc : IsStore c held) {s : Scene σ} (h : Reachable c plan s) :
    Shows held s.ledger s.keeper := by
  refine h.ledger_induction (P := fun _ l k => Shows held l k) ?_ ?_ ?_
  · exact fun _ _ => .of_agrees nofun (by simp [Keeper.start])
  · exact fun hturn hl hs => hturn.shows hc hl hs
  · exact fun _ _ _ hs => hs

lemma Step.exists_login_of_held_ne (hc : IsStore c held) {s s' : Scene σ} (h : Step c plan s s')
    (hne : held s'.keeper.others ≠ held s.keeper.others) :
    ∃ answer grant, s'.heard = s.heard ++ [.login answer] ∧ answer.value = .ok grant ∧
      held s'.keeper.others = some grant.token := by
  rcases h.cases with ⟨outcome, k, hturn, rfl⟩ | ⟨later, -, -, -, rfl⟩ | ⟨x, rfl⟩
  · rcases hturn.held_eq hc with hsame | ⟨answer, grant, rfl, hv, hheld⟩
    · exact absurd hsame hne
    · exact ⟨answer, grant, rfl, hv, hheld⟩
  · exact absurd rfl hne
  · exact absurd rfl hne

/-- A step begins a call to store a token only if it hears the login that granted the token, and a
renewal only of the lease that is watched. -/
lemma Step.exists_warrants {s s' : Scene σ} (h : Step c plan s s') :
    ∃ new, s'.keeper.trace = s.keeper.trace ++ new ∧ ∀ e ∈ new,
      (∀ token, e.2 = .persist token → ∃ answer grant,
        s'.heard = s.heard ++ [.login answer] ∧ answer.value = .ok grant ∧ token = grant.token) ∧
      ∀ token increment, e.2 = .renew token increment → ∃ watch,
        s.keeper.phase = .watching watch ∧ token = watch.lease.token ∧
          increment = watch.increment := by
  rcases h.cases with ⟨outcome, k, hturn, rfl⟩ | ⟨later, -, -, -, rfl⟩ | ⟨x, rfl⟩
  · obtain ⟨new, htrace, hnew⟩ := hturn.adds
    refine ⟨new, htrace, fun e he => ⟨fun token hpersist => ?_, fun token increment hrenew => ?_⟩⟩
    · have hwarrant := hnew e he
      rw [hpersist] at hwarrant
      obtain ⟨answer, grant, rfl, hv, htoken⟩ := hwarrant
      exact ⟨answer, grant, rfl, hv, htoken⟩
    · have hwarrant := hnew e he
      rw [hrenew] at hwarrant
      exact hwarrant
  · exact ⟨[], (List.append_nil _).symm, by simp⟩
  · exact ⟨[], (List.append_nil _).symm, by simp⟩

/-- The store holds the token of the latest login whose call to store it ended well; a later login
is an exception only while the call for its token is open, or after it failed or was cut short.
The store changes, and a call to store a token begins, only when a login that granted the token is
heard, so neither a failed login nor a renewal changes it.  A renewal carries the token that the
store holds, and the increment of the plan or else the time to live of that login. -/
theorem latest_credential {s : Scene σ} (h : Reachable c plan s) :
    (∀ held, IsStore c held → ∀ token, s.ledger.store = some token →
      held s.keeper.others = some token ∨
        s.ledger.fate = none ∧ ∃ lease, s.ledger.login = some lease ∧
          held s.keeper.others = some lease.token) ∧
      (∀ lease, s.ledger.login = some lease →
        s.ledger.fate = some (.ok ()) ∧ s.ledger.store = some lease.token ∨
          (∃ error, s.ledger.fate = some (.error error)) ∨
          s.ledger.fate = none ∧ ((∃ answer, s.keeper.phase = .persisting lease answer) ∨
            s.keeper.phase = .stopped)) ∧
      ∀ s', Step c plan s s' →
        (∀ held, IsStore c held → held s'.keeper.others ≠ held s.keeper.others →
          ∃ answer grant, s'.heard = s.heard ++ [.login answer] ∧ answer.value = .ok grant ∧
            held s'.keeper.others = some grant.token) ∧
        ∃ new, s'.keeper.trace = s.keeper.trace ++ new ∧ ∀ e ∈ new,
          (∀ token, e.2 = .persist token → ∃ answer grant,
            s'.heard = s.heard ++ [.login answer] ∧ answer.value = .ok grant ∧
              token = grant.token) ∧
          ∀ token increment, e.2 = .renew token increment → ∃ lease,
            s.ledger.login = some lease ∧ s.ledger.store = some token ∧ token = lease.token ∧
              increment = plan.watch.increment.getD lease.ttl ∧
              ∀ held, IsStore c held → held s.keeper.others = some token := by
  have hb := h.balanced
  refine ⟨fun held hc token htoken => ?_, fun lease hlogin => hb.of_login hlogin,
    fun s' hstep => ⟨fun held hc hne => hstep.exists_login_of_held_ne hc hne, ?_⟩⟩
  · rcases (shows_of_reachable hc h).view with ha | hopen
    · exact Or.inl (ha token htoken)
    · exact Or.inr hopen
  · obtain ⟨new, htrace, hnew⟩ := hstep.exists_warrants
    refine ⟨new, htrace, fun e he => ⟨(hnew e he).1, fun token increment hrenew => ?_⟩⟩
    obtain ⟨watch, hp, rfl, rfl⟩ := (hnew e he).2 token increment hrenew
    obtain ⟨hconfig, hlogin, -, hstore⟩ := hb.watching hp
    refine ⟨watch.lease, hlogin, hstore, rfl, by rw [Watch.increment, hconfig], ?_⟩
    intro held hc
    refine (shows_of_reachable hc h).agrees ?_ _ hstore
    exact hb.settled (by simp [hp]) (by simp [hp])

/-- A login and its renewal grant different tokens, at once, and the store is all there is. -/
def shelf : Collaborators (Option String) where
  renew held now _ _ :=
    (.answered now (.granted ⟨"other", none, [], .ofSeconds 60, false⟩), held)
  draw held := (0, held)
  login held now := (.answered now (.ok ⟨"token", none, [], .ofSeconds 60, true⟩), held)
  persist _ now lease := (.answered now (.ok ()), some lease.token)

lemma isStore_shelf : IsStore shelf id where
  login _ _ := rfl
  renew _ _ _ _ := rfl
  draw _ := rfl
  persist _ _ _ := rfl

/-- The keeper with the shelf when it has stored its first token. -/
def shelved : Scene (Option String) where
  now := 0
  channel := .fresh
  keeper :=
    { phase := .watching
        (.start ⟨⟨"token", none, [], .ofSeconds 60, true⟩, 0⟩ ⟨none, some (.ofSeconds 9)⟩)
      others := some "token"
      trace := [(0, .login), (0, .persist "token"),
        (0, .report (.tokenPersisted ⟨⟨"token", none, [], .ofSeconds 60, true⟩, 0⟩))]
      left := none }
  heard := [.login ⟨0, .ok ⟨"token", none, [], .ofSeconds 60, true⟩, []⟩,
    .persist ⟨⟨"token", none, [], .ofSeconds 60, true⟩, 0⟩ ⟨0, .ok (), []⟩]

lemma reachable_shelved :
    Reachable shelf ⟨.ofSeconds 5, ⟨none, some (.ofSeconds 9)⟩⟩ shelved := by
  have h := (((ReflTransGen.refl
    (r := Step shelf ⟨.ofSeconds 5, ⟨none, some (.ofSeconds 9)⟩⟩)
    (a := start 0 none)).tail (.move rfl)).tail (.move rfl)).tail (.move rfl)
  exact ⟨0, none, h⟩

/-- The first renewal carries the token that is stored, whatever it grants. -/
theorem latest_credential_shelved :
    ∃ s, Step shelf ⟨.ofSeconds 5, ⟨none, some (.ofSeconds 9)⟩⟩ shelved s ∧
      ∃ new, s.keeper.trace = shelved.keeper.trace ++ new ∧
        (0, .renew "token" (.ofSeconds 60)) ∈ new ∧
        shelved.ledger.store = some "token" ∧ shelved.keeper.others = some "token" := by
  have hstep : Step shelf ⟨.ofSeconds 5, ⟨none, some (.ofSeconds 9)⟩⟩ shelved _ :=
    .work rfl rfl
  obtain ⟨new, htrace, hnew⟩ := ((latest_credential reachable_shelved).2.2 _ hstep).2
  have hmem : (0, .renew "token" (.ofSeconds 60)) ∈ new := by
    have heq : shelved.keeper.trace ++ [(0, .renew "token" (.ofSeconds 60)),
        (0, .note (.leaseRenewed (.ofSeconds 60)))] = shelved.keeper.trace ++ new := htrace
    rw [← List.append_cancel_left heq]
    exact List.mem_cons_self
  obtain ⟨lease, -, hstore, -, -, hheld⟩ := (hnew _ hmem).2 _ _ rfl
  exact ⟨_, hstep, new, htrace, hmem, hstore, hheld id isStore_shelf⟩

end Scene
end Keeper
end LeaseKeeper
