/-
# A quiet end means that the lease has stopped growing

With drawn windows and times to live in whole seconds, a renewed lease is in its final window only
if it lives for less time than the one before, or for no time at all.  A window that is drawn for a
lease leaves that lease some room: the rest that follows, two thirds of the lease and a third of the
window, ends before the window begins.  The window is drawn anew for each lease that lives longer
than the one before, and a lease that lives as long as the one before keeps its window and room.
-/
import LeaseKeeper.Proofs.Watch.Stream

namespace LeaseKeeper

/-- A duration is a whole number of seconds. -/
def Duration.IsWhole (d : Duration) : Prop := ∃ s : UInt64, d = .ofSeconds s

namespace Watch

/-- The times to live that the renewals among some replies gave. -/
def lives (replies : List (Answer Renewal)) : List Duration :=
  replies.filterMap fun reply => match reply.value with
    | .granted grant => some grant.ttl
    | _ => none

lemma lives_append (replies more : List (Answer Renewal)) :
    lives (replies ++ more) = lives replies ++ lives more :=
  List.filterMap_append

lemma lives_of_granted {a : Answer Renewal} {grant : Grant} (h : a.value = .granted grant) :
    lives [a] = [grant.ttl] := by
  simp [lives, h]

lemma lives_of_not_granted {a : Answer Renewal} (h : ∀ grant, a.value ≠ .granted grant) :
    lives [a] = [] := by
  unfold lives
  cases hv : a.value with
  | granted grant => exact absurd hv (h grant)
  | _ => simp [hv]

/-- The last reply renews the lease for no time, or for less time than the renewal before. -/
def EndsShort (replies : List (Answer Renewal)) : Prop :=
  ∃ before last grant, replies = before ++ [last] ∧ last.value = .granted grant ∧
    (grant.ttl = .zero ∨ ∃ prior, (lives before).getLast? = some prior ∧ grant.ttl < prior)

/-- Replies that give ever more time do not end short. -/
lemma EndsShort.not_of_growing {replies : List (Answer Renewal)} (h : EndsShort replies)
    (hpos : ∀ ttl ∈ lives replies, ttl ≠ .zero) (hgrow : (lives replies).Pairwise (· ≤ ·)) :
    False := by
  obtain ⟨before, last, grant, rfl, hv, hshort⟩ := h
  rw [lives_append, lives_of_granted hv] at hpos hgrow
  rcases hshort with hzero | ⟨prior, hprior, hlt⟩
  · exact hpos grant.ttl (by simp) hzero
  · have hle : prior ≤ grant.ttl :=
      (List.pairwise_append.1 hgrow).2.2 prior (List.mem_of_getLast? hprior) _ (by simp)
    exact Nat.not_le_of_lt hlt hle

/-- If the only renewal ends short, it gives no time. -/
lemma EndsShort.eq_zero {replies : List (Answer Renewal)} (h : EndsShort replies) {ttl : Duration}
    (honly : lives replies = [ttl]) : ttl = .zero := by
  obtain ⟨before, last, grant, rfl, hv, hshort⟩ := h
  rw [lives_append, lives_of_granted hv] at honly
  rcases List.append_eq_singleton_iff.1 honly with ⟨hnone, hlast⟩ | ⟨-, hlast⟩
  · cases hlast
    rcases hshort with hzero | ⟨prior, hprior, -⟩
    · exact hzero
    · simp [hnone] at hprior
  · cases hlast

/-! ### Room beside a window -/

/-- A lease has room beside a window: it is not in its final window, now or after its rest. -/
def HasRoom (grace ttl : Duration) : Prop :=
  ∃ rest, nextRenewal? ttl grace = some rest ∧ grace.nanos < ttl.nanos - rest.nanos

/-- A lease of whole seconds has room beside a window that is drawn for it. -/
lemma hasRoom_drawn {config : Config} {ttl grace : Duration} {draw : ℕ} (hc : config.grace = none)
    (hwhole : ttl.IsWhole) (hpos : 0 < ttl.nanos) (h : config.graceFor? ttl draw = some grace) :
    HasRoom grace ttl := by
  obtain ⟨s, rfl⟩ := hwhole
  obtain ⟨tenth, hscale, hwindow⟩ := graceFor?_drawn hc h
  have htenth := (near_tenth hscale).1
  obtain ⟨rest, hn⟩ := exists_nextRenewal? (.ofSeconds s) grace
  obtain ⟨most, hmost, hrest⟩ := nextRenewal?_eq_some hn
  have hthirds := (near_twoThirds hmost).1
  refine ⟨rest, hn, ?_⟩
  -- The window and the rest take at most 28 thirtieths of the lease and a nanosecond.
  rw [Duration.nanos_ofSeconds] at *
  omega

variable {σ : Type} {r : Renewer σ} {now : Instant}

/-! ### What a watch with drawn windows keeps -/

/-- A watch with drawn windows that was not asked to stop, by the replies that its task has taken
and the events that it has sent.  The latest time to live is the one to compare with, and has room
beside the window unless it is nothing.  If the task has ended quietly, the replies end short. -/
structure Growing (replies : List (Answer Renewal)) (sent : List Event) (w : Watch) : Prop where
  drawn : w.config.grace = none
  unasked : w.stopAsked = false
  fresh : w.task = .fresh → w.prior = .zero
  prior : w.task ≠ .ended → (lives replies).getLast?.getD .zero = w.prior
  room : w.task ≠ .ended → w.prior = .zero ∨ HasRoom w.grace w.prior
  quiet : .done (.ok ()) ∈ sent → w.task = .ended ∧ EndsShort replies

lemma growing_start (lease : Lease) {config : Config} (hc : config.grace = none) :
    Growing [] [] (start lease config) where
  drawn := hc
  unasked := rfl
  fresh _ := rfl
  prior _ := rfl
  room _ := Or.inl rfl
  quiet := nofun

variable {replies : List (Answer Renewal)} {sent : List Event}

lemma growing_of_ended {w : Watch} (hdrawn : w.config.grace = none)
    (hunasked : w.stopAsked = false) (ht : w.task = .ended)
    (hquiet : .done (.ok ()) ∈ sent → EndsShort replies) : Growing replies sent w where
  drawn := hdrawn
  unasked := hunasked
  fresh hfresh := by simp [ht] at hfresh
  prior hne := absurd ht hne
  room hne := absurd ht hne
  quiet hmem := ⟨ht, hquiet hmem⟩

/-- The time to live to compare with, unless it is nothing, is that of the latest renewal. -/
lemma Growing.getLast?_lives {w : Watch} (hw : Growing replies sent w) (ht : w.task ≠ .ended)
    (hpos : 0 < w.prior.nanos) : (lives replies).getLast? = some w.prior := by
  have hprior := hw.prior ht
  cases hlast : (lives replies).getLast? with
  | none =>
    rw [hlast] at hprior
    rw [← hprior] at hpos
    exact absurd hpos (Nat.lt_irrefl 0)
  | some prior =>
    rw [hlast] at hprior
    exact congrArg some hprior

/-- A renewed lease that is in its final window ends the replies short. -/
lemma Growing.endsShort {w : Watch} (hw : Growing replies sent w) (ht : w.task ≠ .ended)
    {answer : Answer Renewal} {grant : Grant} {grace rest : Duration} {draw : ℕ}
    (hv : answer.value = .granted grant) (hwhole : grant.ttl.IsWhole)
    (hg : w.graceAfter? (grant.startingAt answer.ready) draw = some grace)
    (hn : nextRenewal? grant.ttl grace = some rest)
    (hf : grant.ttl.nanos - rest.nanos ≤ grace.nanos) : EndsShort (replies ++ [answer]) := by
  have hnoroom : ¬ HasRoom grace grant.ttl := by
    rintro ⟨rest', hn', hroom⟩
    rw [hn] at hn'
    cases hn'
    exact Nat.not_lt_of_le hf hroom
  refine ⟨replies, answer, grant, rfl, hv, ?_⟩
  unfold graceAfter? at hg
  split at hg
  · -- The window is drawn for this lease, so the lease would have room.
    rename_i hgrown
    have hpos : 0 < grant.ttl.nanos := Nat.lt_of_le_of_lt (Nat.zero_le _) hgrown
    exact absurd (hasRoom_drawn hw.drawn hwhole hpos hg) hnoroom
  · rename_i hle
    cases hg
    have hle' : grant.ttl.nanos ≤ w.prior.nanos := Nat.le_of_not_lt hle
    rcases hw.room ht with hzero | hroom
    · rw [hzero] at hle'
      exact Or.inl (Duration.ext (Nat.le_zero.1 hle'))
    · rcases Nat.lt_or_eq_of_le hle' with hlt | heq
      · exact Or.inr ⟨w.prior, hw.getLast?_lives ht (Nat.zero_lt_of_lt hlt), hlt⟩
      · -- The window is kept for a lease that lives as long as the one before.
        rw [Duration.ext heq] at hnoroom
        exact absurd hroom hnoroom

/-- The task takes a reply. -/
lemma Growing.react {w w' : Watch} (hw : Growing replies sent w) {answer : Answer Renewal}
    (ht : w.task = .renewing (some answer)) {draw : ℕ} (h : Reaction now draw w answer w')
    (hwhole : ∀ ttl ∈ lives [answer], ttl.IsWhole) :
    ∃ new, w'.queue = w.queue ++ new ∧ Growing (replies ++ [answer]) (sent ++ new) w' := by
  have hne : w.task ≠ .ended := by simp [ht]
  have hquiet : .done (.ok ()) ∉ sent := fun hmem => hne (hw.quiet hmem).1
  cases h with
  | crash hv =>
    refine ⟨[], (List.append_nil _).symm, growing_of_ended hw.drawn hw.unasked rfl fun hmem => ?_⟩
    rw [List.append_nil] at hmem
    exact absurd hmem hquiet
  | spent hv =>
    refine ⟨_, List.append_assoc _ _ _, growing_of_ended hw.drawn hw.unasked rfl fun hmem => ?_⟩
    simp [cannotRenew, hquiet] at hmem
  | @final grant grace rest hv _ hg hn hf =>
    have hshort := hw.endsShort hne hv (hwhole _ (by simp [lives_of_granted hv])) hg hn hf
    exact ⟨_, List.append_assoc _ _ _, growing_of_ended hw.drawn hw.unasked rfl fun _ => hshort⟩
  | @rest grant grace rest hv _ hg hn hf =>
    refine ⟨_, rfl, hw.drawn, hw.unasked, nofun, fun _ => ?_, fun _ => Or.inr ⟨rest, hn, hf⟩,
      fun hmem => ?_⟩
    · rw [lives_append, lives_of_granted hv, List.getLast?_concat]
      rfl
    · simp [hquiet] at hmem
  | @giveUp error hv =>
    refine ⟨_, rfl, growing_of_ended hw.drawn hw.unasked rfl fun hmem => ?_⟩
    simp [hquiet] at hmem
  | @retry error rest hv =>
    refine ⟨[], (List.append_nil _).symm, hw.drawn, hw.unasked, nofun, fun _ => ?_,
      fun _ => hw.room hne, fun hmem => ?_⟩
    · rw [lives_append, lives_of_not_granted (by simp [hv]), List.append_nil]
      exact hw.prior hne
    · rw [List.append_nil] at hmem
      exact absurd hmem hquiet

/-- The owner takes events. -/
lemma Growing.of_take {w : Watch} (hw : Growing replies sent w) {left : List Event}
    (hleft : left ⊆ sent) (queue : List Event) (finished : Bool) :
    Growing replies left { w with queue := queue, finished := finished } :=
  ⟨hw.drawn, hw.unasked, hw.fresh, hw.prior, hw.room, fun hmem => hw.quiet (hleft hmem)⟩

/-- The task opens the call that is due. -/
lemma Growing.opened {s : Run σ} (hw : Growing replies sent s.watch) (hd : s.isDue now = true) :
    Growing replies sent (s.opened r now).watch := by
  have hne : s.watch.task ≠ .ended := by
    intro he
    simp [Run.isDue, he] at hd
  obtain ⟨answer, htask⟩ := Run.exists_opened_task (r := r) hd
  have hgrace := Run.grace_opened r now (s := s)
  obtain ⟨grace, task, hopen, -⟩ := Run.exists_opened_watch r now s
  rw [hopen] at htask hgrace ⊢
  obtain rfl : task = .renewing answer := htask
  refine ⟨hw.drawn, hw.unasked, by simp, fun _ => hw.prior hne, fun _ => ?_,
    fun hmem => absurd (hw.quiet hmem).1 hne⟩
  by_cases hfresh : s.watch.task = .fresh
  · exact Or.inl (hw.fresh hfresh)
  · obtain rfl : grace = s.watch.grace := hgrace hfresh
    exact hw.room hne

/-- The task runs. -/
lemma Growing.poll {s s' : Run σ} {reply : Option (Answer Renewal)}
    (hw : Growing replies sent s.watch) (h : Run.Poll r now s reply s')
    (hwhole : ∀ ttl ∈ lives reply.toList, ttl.IsWhole) :
    ∃ new, s'.watch.queue = s.watch.queue ++ new ∧
      Growing (replies ++ reply.toList) (sent ++ new) s'.watch := by
  have hqueue := Run.queue_opened r now s
  cases h with
  | stop hs =>
    rw [hw.unasked] at hs
    cases hs
  | refuse _ ht =>
    have hquiet : .done (.ok ()) ∉ sent := by
      intro hmem
      have hend := (hw.quiet hmem).1
      rw [ht] at hend
      cases hend
    refine ⟨_, rfl, growing_of_ended hw.drawn hw.unasked rfl fun hmem => ?_⟩
    simp [cannotRenew, hquiet] at hmem
  | wait _ hd =>
    refine ⟨[], by rw [hqueue, List.append_nil], ?_⟩
    simp only [Option.toList_none, List.append_nil]
    exact hw.opened hd
  | @take answer _ hd hc =>
    obtain ⟨new, hnew, hgrow⟩ :=
      (hw.opened hd).react (Run.come?_eq_some.1 hc).1 (Run.reaction_receive r now answer _) hwhole
    exact ⟨new, by rw [hnew, hqueue], hgrow⟩

namespace Story

lemma growing_of_later {lease : Lease} {config : Config} (hc : config.grace = none) {others : σ}
    {s : Story σ} (h : Later r (start lease config others) s) (hs : s.run.watch.stopAsked = false)
    (hwhole : ∀ ttl ∈ lives s.taken, ttl.IsWhole) : Growing s.taken s.sent s.run.watch := by
  induction h with
  | refl => exact growing_start lease hc
  | @tail s _ _ hstep ih =>
    cases hstep with
    | @work run now hpoll =>
      have hp := Run.poll_of_poll? hpoll
      have htaken : (s.work r now run).taken = s.taken ++ (s.run.reply? r now).toList := rfl
      rw [htaken, lives_append] at hwhole
      have hgrow := ih (hp.sameTerms.stopAsked.symm.trans hs)
        fun ttl hmem => hwhole ttl (List.mem_append_left _ hmem)
      obtain ⟨new, hqueue, hnext⟩ :=
        hgrow.poll hp fun ttl hmem => hwhole ttl (List.mem_append_right _ hmem)
      rw [sent_work hqueue]
      exact hnext
    | next =>
      obtain ⟨htaken, hsent, -, -⟩ := next_frame s
      obtain ⟨queue, finished, hrun⟩ := s.exists_next_run
      rw [hrun] at hs
      rw [htaken] at hwhole
      rw [htaken, hsent, hrun]
      exact (ih hs hwhole).of_take (List.Subset.refl _) queue finished
    | stop => cases hs

/-- A task that says that it ends quietly has sent a quiet end. -/
lemma done_mem_of_verdict {s : Story σ} (h : s.verdict = .ok ()) : .done (.ok ()) ∈ s.sent := by
  unfold verdict at h
  split at h
  · rename_i result hlast
    rw [← h]
    exact List.mem_of_getLast? hlast
  · cases h

end Story
end Watch
end LeaseKeeper
