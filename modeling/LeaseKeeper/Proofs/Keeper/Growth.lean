/-
# A round without a pause behind it

After a quiet end of its watch a keeper begins the next round at once.  With drawn windows and times
to live in whole seconds, this happens only when the latest renewal of the round gave less time than
the one before, or none at all.  So a keeper does not log in again and again without a pause as long
as the first renewal of a round gives some time.
-/
import LeaseKeeper.Proofs.Keeper.Scene
import LeaseKeeper.Proofs.Watch.Growth

namespace LeaseKeeper
namespace Keeper

open Relation
open Watch (lives EndsShort Growing)

/-- The replies to the renewals of a round, after an outcome or without one: a login and a token that
is stored begin anew. -/
def repliesAfter (replies : List (Answer Renewal)) : Option Outcome → List (Answer Renewal)
  | some (.renewal _ answer) => replies ++ [answer]
  | some _ => []
  | none => replies

/-- The replies to the renewals of the round. -/
def Scene.replies {σ : Type} (s : Scene σ) : List (Answer Renewal) :=
  s.heard.foldl (fun replies outcome => repliesAfter replies (some outcome)) []

variable {σ : Type} {c : Collaborators σ} {plan : Plan}

@[simp] lemma Scene.replies_after (s : Scene σ) (outcome : Option Outcome) (keeper : Keeper σ) :
    (s.after outcome keeper).replies = repliesAfter s.replies outcome := by
  cases outcome <;> simp [Scene.replies, Scene.after, repliesAfter]

lemma repliesAfter_heardBy (replies : List (Answer Renewal)) (now : Instant) (k : Keeper σ)
    (watch : Watch) :
    repliesAfter replies (k.heardBy c now watch) =
      replies ++ ((k.runOf watch).reply? c.toRenewer now).toList := by
  unfold heardBy
  cases (k.runOf watch).reply? c.toRenewer now <;> simp [repliesAfter]

/-- The watch of a keeper grows, if its renewals give whole seconds. -/
def IsGrowing (replies : List (Answer Renewal)) (k : Keeper σ) : Prop :=
  ∀ watch, k.phase = .watching watch → (∀ ttl ∈ lives replies, ttl.IsWhole) →
    watch.finished = false ∧ Growing replies watch.queue watch

lemma isGrowing_of_ne_watching {replies : List (Answer Renewal)} {k : Keeper σ}
    (h : ∀ watch, k.phase ≠ .watching watch) : IsGrowing replies k :=
  fun watch hp => absurd hp (h watch)

variable {cancelled : Bool} {now : Instant} {k k' : Keeper σ} {outcome : Option Outcome}
  {replies : List (Answer Renewal)}

/-- Whatever a keeper does, its watch grows. -/
lemma Turn.isGrowing (hc : plan.watch.grace = none) (h : Turn c plan cancelled now k outcome k')
    (hk : IsGrowing replies k) : IsGrowing (repliesAfter replies outcome) k' := by
  cases h with
  | stop => exact isGrowing_of_ne_watching (by simp)
  | login => exact isGrowing_of_ne_watching (by simp)
  | @receiveLogin answer =>
    cases hv : answer.value with
    | ok grant =>
      rw [receiveLogin_ok c plan now k hv]
      exact isGrowing_of_ne_watching (by simp)
    | error error =>
      rw [receiveLogin_error c plan now k hv]
      exact isGrowing_of_ne_watching (by simp)
  | @receivePersist lease answer =>
    cases hv : answer.value with
    | ok =>
      intro watch hp _
      rw [receivePersist_ok plan now k hv] at hp
      cases hp
      exact ⟨rfl, Watch.growing_start lease hc⟩
    | error error =>
      rw [receivePersist_error plan now k hv]
      exact isGrowing_of_ne_watching (by simp)
  | @work watch run hp hpoll =>
    intro watch' hp' hwhole
    cases hp'
    have hpoll' := Watch.Run.poll_of_poll? hpoll
    rw [repliesAfter_heardBy, Watch.lives_append] at hwhole
    rw [repliesAfter_heardBy]
    obtain ⟨hfinished, hgrow⟩ := hk watch hp fun ttl hmem => hwhole ttl (List.mem_append_left _ hmem)
    obtain ⟨new, hqueue, hnext⟩ :=
      hgrow.poll hpoll' fun ttl hmem => hwhole ttl (List.mem_append_right _ hmem)
    rw [hqueue]
    exact ⟨hpoll'.sameTerms.finished.trans hfinished, hnext⟩
  | @take watch watch' event _ hp htake =>
    intro watch'' hp' hwhole
    obtain ⟨hfinished, hgrow⟩ := hk watch hp hwhole
    rcases phase_receiveEvent plan now k watch' event with ⟨⟨lease, rfl⟩, hphase⟩ | h | h
    · rw [hphase] at hp'
      cases hp'
      cases Watch.take_of_take? htake with
      | @queued _ rest _ hq =>
        rw [hq] at hgrow
        exact ⟨rfl, hgrow.of_take (List.subset_cons_self _ _) rest false⟩
    · rw [h.2] at hp'
      cases hp'
    · rw [h.2] at hp'
      cases hp'
  | wake => exact isGrowing_of_ne_watching (by simp)

/-- A keeper that goes on without a pause has taken a quiet end from the queue of its watch. -/
lemma Turn.exists_quiet (h : Turn c plan cancelled now k outcome k') {watch : Watch}
    (hp : k.phase = .watching watch) (hfinished : watch.finished = false)
    (hp' : k'.phase = .starting) : .done (.ok ()) ∈ watch.queue := by
  cases h with
  | stop => cases hp'
  | login _ hstart => rw [hp] at hstart; cases hstart
  | receiveLogin _ hlogin => rw [hp] at hlogin; cases hlogin
  | receivePersist _ hpersist => rw [hp] at hpersist; cases hpersist
  | work => cases hp'
  | @take _ watch' event _ hwatching htake =>
    rw [hp] at hwatching
    cases hwatching
    rcases phase_receiveEvent plan now k watch' event with h | ⟨rfl, -⟩ | h
    · rw [h.2] at hp'
      cases hp'
    · cases Watch.take_of_take? htake with
      | quiet hf =>
        rw [hfinished] at hf
        cases hf
      | queued _ hq =>
        rw [hq]
        exact List.mem_cons_self
    · rw [h.2] at hp'
      cases hp'
  | wake _ hpause => rw [hp] at hpause; cases hpause

namespace Scene

lemma isGrowing_of_reachable (hc : plan.watch.grace = none) {s : Scene σ}
    (h : Reachable c plan s) : IsGrowing s.replies s.keeper := by
  refine h.induction (P := fun s => IsGrowing s.replies s.keeper)
    (fun _ _ => isGrowing_of_ne_watching (by simp [start, Keeper.start])) fun s s' hs hstep => ?_
  rcases hstep.cases with ⟨outcome, keeper, hturn, rfl⟩ | ⟨later, -, -, -, rfl⟩ | ⟨x, rfl⟩
  · rw [replies_after]
    exact hturn.isGrowing hc hs
  · exact hs
  · exact hs

/-- A keeper goes on without a pause only after a renewal that ends the round short. -/
lemma endsShort_of_step (hc : plan.watch.grace = none) {s s' : Scene σ}
    (h : Reachable c plan s) (hwhole : ∀ ttl ∈ lives s.replies, ttl.IsWhole)
    (hstep : Step c plan s s') {watch : Watch} (hp : s.keeper.phase = .watching watch)
    (hp' : s'.keeper.phase = .starting) : EndsShort s.replies := by
  obtain ⟨hfinished, hgrow⟩ := isGrowing_of_reachable hc h watch hp hwhole
  rcases hstep.cases with ⟨outcome, keeper, hturn, rfl⟩ | ⟨later, -, -, -, rfl⟩ | ⟨x, rfl⟩
  · exact (hgrow.quiet (hturn.exists_quiet hp hfinished hp')).2
  · exact absurd (hp.symm.trans hp') nofun
  · exact absurd (hp.symm.trans hp') nofun

end Scene

/-- A quiet end means that the lease has stopped growing.  With drawn windows and times to live in
whole seconds, a task that was not asked to stop ends quietly only after a renewal that gave no time,
or less time than the renewal before; so it does not while its renewals give some time, and ever
more.  A keeper begins a round without a pause only after such a renewal; if this was the first of
the round, it gave no time. -/
theorem quiet_only_if_shorter :
    (∀ (σ : Type) (r : Renewer σ) lease (config : Watch.Config) others (s : Watch.Story σ),
      config.grace = none → Watch.Story.Later r (.start lease config others) s →
      s.run.watch.stopAsked = false → (∀ ttl ∈ lives s.taken, ttl.IsWhole) →
      (s.verdict = .ok () → s.run.watch.task = .ended ∧ EndsShort s.taken) ∧
      ((∀ ttl ∈ lives s.taken, ttl ≠ .zero) → (lives s.taken).Pairwise (· ≤ ·) →
        s.verdict ≠ .ok ())) ∧
    ∀ (σ : Type) (c : Collaborators σ) (plan : Plan) (s s' : Scene σ) watch,
      plan.watch.grace = none → Scene.Reachable c plan s →
      (∀ ttl ∈ lives s.replies, ttl.IsWhole) → Scene.Step c plan s s' →
      s.keeper.phase = .watching watch → s'.keeper.phase = .starting →
      EndsShort s.replies ∧ ∀ ttl, lives s.replies = [ttl] → ttl = .zero := by
  refine ⟨fun σ r lease config others s hc h hs hwhole => ?_,
    fun σ c plan s s' watch hc h hwhole hstep hp hp' => ?_⟩
  · have hgrow := Watch.Story.growing_of_later hc h hs hwhole
    have hquiet : s.verdict = .ok () → s.run.watch.task = .ended ∧ EndsShort s.taken :=
      fun hv => hgrow.quiet (Watch.Story.done_mem_of_verdict hv)
    exact ⟨hquiet, fun hpos hgrowing hv => (hquiet hv).2.not_of_growing hpos hgrowing⟩
  · have hshort := Scene.endsShort_of_step hc h hwhole hstep hp hp'
    exact ⟨hshort, fun ttl honly => hshort.eq_zero honly⟩

/-- Collaborators that answer at once, and whose renewals give no time. -/
def spent : Collaborators Unit where
  renew _ now _ _ := (.answered now (.granted ⟨"token", none, [], .ofSeconds 0, true⟩), ())
  draw _ := (0, ())
  login _ now := (.answered now (.ok ⟨"token", none, [], .ofSeconds 60, true⟩), ())
  persist _ now _ := (.answered now (.ok ()), ())

/-- The first renewal ends the watch quietly, and the keeper begins the next round at once. -/
theorem quiet_only_if_shorter_spent :
    (∃ s, Watch.Story.Later spent.toRenewer
        (.start ⟨⟨"token", none, [], .ofSeconds 60, true⟩, 0⟩ ⟨none, none⟩ ()) s ∧
      s.verdict = .ok () ∧ EndsShort s.taken) ∧
    ∃ s s', Scene.Reachable spent ⟨.ofSeconds 5, ⟨none, none⟩⟩ s ∧
      Scene.Step spent ⟨.ofSeconds 5, ⟨none, none⟩⟩ s s' ∧ s'.keeper.phase = .starting ∧
      lives s.replies = [.ofSeconds 0] ∧ EndsShort s.replies := by
  have hwhole : ∀ ttl ∈ [Duration.ofSeconds 0], ttl.IsWhole := by simp [Duration.IsWhole]
  obtain ⟨hstory, hkeeper⟩ := quiet_only_if_shorter
  constructor
  · have h := ReflTransGen.single (Watch.Story.Step.work (r := spent.toRenewer)
      (s := .start ⟨⟨"token", none, [], .ofSeconds 60, true⟩, 0⟩ ⟨none, none⟩ ()) 0 rfl)
    exact ⟨_, h, rfl, ((hstory _ _ _ _ _ _ rfl h rfl hwhole).1 rfl).2⟩
  · have h := (((((ReflTransGen.refl (r := Scene.Step spent ⟨.ofSeconds 5, ⟨none, none⟩⟩)
      (a := .start 0 ())).tail (.move rfl)).tail (.move rfl)).tail (.move rfl)).tail
      (.move rfl)).tail (.move rfl)
    exact ⟨_, _, ⟨0, (), h⟩, .move rfl, rfl, rfl,
      (hkeeper _ _ _ _ _ _ rfl ⟨0, (), h⟩ hwhole (.move rfl) rfl rfl).1⟩

end Keeper
end LeaseKeeper
