/-
# No length of time is out of range

Whatever a lease's time to live, whatever is left of it and whatever window is configured or drawn,
the task of a watch finds its window, its rest and the end of its rest in range.  So only a renewal
that crashes can end the task without a word.
-/
import LeaseKeeper.Proofs.Watch.Stream

namespace LeaseKeeper
namespace Watch

variable {σ : Type} {r : Renewer σ} {now : Instant}

/-! ### What the task decides -/

lemma afterSuccess_ne_overflow (renewed : Lease) (grace : Duration) :
    afterSuccess renewed grace ≠ .overflow := by
  obtain ⟨rest, hn⟩ := exists_nextRenewal? renewed.ttl grace
  simp only [afterSuccess, hn]
  split <;> simp

lemma afterFailure_ne_overflow (error : VaultError) (left grace : Duration) :
    afterFailure error left grace ≠ .overflow := by
  obtain ⟨rest, hn⟩ := exists_nextRenewal? left grace
  simp only [afterFailure, hn]
  split
  · simp
  · split <;> simp

/-! ### How the task ends -/

/-- A task that ends without a crash says how. -/
lemma exists_done_of_ended {s s' : Run σ} (h : s.poll? r now = some s')
    (hend : s'.watch.task = .ended)
    (hcrash : ∀ a, s.reply? r now = some a → a.value ≠ .crashed) :
    ∃ before result, IsVerdict result ∧ s'.watch.queue = before ++ [.done result] := by
  obtain ⟨new, hqueue, hout⟩ := (Run.poll_of_poll? h).output
  rcases hout.told_or_lost hend with ⟨result, hv, -, hnew⟩ | ⟨⟨a, ha, hlost⟩, -⟩
  · exact ⟨_, result, hv, by rw [hqueue, hnew, List.append_assoc]⟩
  · exact absurd hlost (hcrash a (by simpa using ha))

/-- The owner learns of a lost watch only if a renewal has crashed. -/
lemma Story.exists_crashed {lease : Lease} {config : Config} {others : σ} {s : Story σ}
    (h : Later r (start lease config others) s)
    (hlost : .done (.error .watchLost) ∈ s.handed) : ∃ a ∈ s.taken, a.value = .crashed := by
  have hs := kept_of_later h
  obtain ⟨n, hn⟩ := hs.handed_within_stream
  have hmem := hn.subset hlost
  by_cases ht : s.run.watch.task = .ended
  · rw [stream_of_ended ht] at hmem
    have hverdict : s.verdict = .error .watchLost := by
      rcases List.mem_append.1 hmem with hmem | hmem
      · exact absurd hmem (done_not_mem_renewals _ _)
      · rcases List.mem_cons.1 hmem with heq | hmem
        · exact (Event.done.inj heq).symm
        · cases List.eq_of_mem_replicate hmem
    exact (hs.verdict_spec ht).2.1.1 hverdict
  · rw [stream_of_ne_ended ht] at hmem
    exact absurd hmem (done_not_mem_renewals _ _)

/-- No length of time is out of range.  A window is the configured one; or else it is one tenth of
the time to live, right to half a nanosecond and a part of `2 ^ (-50)`, and less than as much again,
unless that tenth is nothing.  A rest is two thirds of what is left and a third of the window.  So
neither a success nor a failure makes the task crash, and a task that ends without a word, or whose
owner learns that it is lost, has met a renewal that crashes. -/
theorem stays_in_range :
    (∀ (c : Config) (ttl : Duration) (draw : ℕ), ∃ grace, c.graceFor? ttl draw = some grace ∧
      (∀ fixed, c.grace = some fixed → grace = fixed) ∧
      (c.grace = none → ∃ tenth, ttl.scale? oneTenth = some tenth ∧
        10 * tenth.nanos ≤ ttl.nanos + 5 + ttl.nanos / 2 ^ 50 ∧
        ttl.nanos ≤ 10 * tenth.nanos + 5 + ttl.nanos / 2 ^ 50 ∧
        (tenth.nanos = 0 ∧ grace.nanos = 0 ∨ draw % tenth.nanos < tenth.nanos ∧
          grace.nanos = tenth.nanos + draw % tenth.nanos))) ∧
    (∀ left grace : Duration, ∃ most rest, left.scale? twoThirds = some most ∧
      most.add? grace.third = some rest ∧ nextRenewal? left grace = some rest) ∧
    (∀ (w : Watch) (renewed : Lease) (draw : ℕ), ∃ grace, w.graceAfter? renewed draw = some grace ∧
      afterSuccess renewed grace ≠ .overflow) ∧
    (∀ (error : VaultError) (left grace : Duration), afterFailure error left grace ≠ .overflow) ∧
    ∀ (σ : Type) (r : Renewer σ),
      (∀ (now : Instant) (s s' : Run σ), s.poll? r now = some s' → s'.watch.task = .ended →
        (∀ a, s.reply? r now = some a → a.value ≠ .crashed) →
        ∃ before result, IsVerdict result ∧ s'.watch.queue = before ++ [.done result]) ∧
      ∀ lease config others (s : Story σ), Story.Later r (.start lease config others) s →
        .done (.error .watchLost) ∈ s.handed → ∃ a ∈ s.taken, a.value = .crashed := by
  refine ⟨fun c ttl draw => ?_, fun left grace => ?_, fun w renewed draw => ?_,
    afterFailure_ne_overflow, fun σ r => ⟨fun now s s' => exists_done_of_ended,
      fun lease config others s => Story.exists_crashed⟩⟩
  · obtain ⟨grace, hg⟩ := exists_graceFor? c ttl draw
    refine ⟨grace, hg, fun fixed hfixed => ?_, fun hnone => ?_⟩
    · rw [graceFor?_fixed hfixed] at hg
      exact (Option.some.inj hg).symm
    · obtain ⟨tenth, hscale, hwindow⟩ := graceFor?_drawn hnone hg
      obtain ⟨hlow, hhigh⟩ := near_tenth hscale
      exact ⟨tenth, hscale, hlow, hhigh, hwindow⟩
  · obtain ⟨rest, hn⟩ := exists_nextRenewal? left grace
    obtain ⟨most, hscale, hrest⟩ := nextRenewal?_eq_some hn
    exact ⟨most, rest, hscale, Duration.add?_eq_some.2 hrest, hn⟩
  · obtain ⟨grace, hg⟩ := exists_graceAfter? w renewed draw
    exact ⟨grace, hg, afterSuccess_ne_overflow renewed grace⟩

/-- The longest duration of all. -/
def longest : Duration := ⟨UInt64.size * 1000000000 - 1, by decide⟩

/-- With the longest of windows and of lives, a rest is less than twelve minutes short of the end of
the range; and an owner that learns of a lost watch has met a crash. -/
theorem stays_in_range_longest :
    (∃ rest, nextRenewal? longest longest = some rest ∧
      longest.nanos < rest.nanos + 12 * 60 * 1000000000) ∧
    ∃ s, Story.Later Story.crashing (.start ⟨⟨"token", none, [], longest, true⟩, 0⟩
        ⟨none, some longest⟩ ()) s ∧
      .done (.error .watchLost) ∈ s.handed ∧ ∃ a ∈ s.taken, a.value = .crashed := by
  obtain ⟨-, hrest, -, -, hrun⟩ := stays_in_range
  constructor
  · obtain ⟨most, rest, -, -, hn⟩ := hrest longest longest
    have hlength : (nextRenewal? longest longest).map Duration.nanos =
        some 18446744073709550933333333333 := by decide +kernel
    rw [hn] at hlength
    refine ⟨rest, hn, ?_⟩
    rw [Option.some.inj hlength]
    decide
  · have h := (Relation.ReflTransGen.single (Story.Step.work (r := Story.crashing)
      (s := .start ⟨⟨"token", none, [], longest, true⟩, 0⟩ ⟨none, some longest⟩ ()) 0 rfl)).tail
      (.next _)
    have hlost := List.mem_singleton_self (Event.done (.error .watchLost))
    exact ⟨_, h, hlost, (hrun Unit Story.crashing).2 _ _ _ _ h hlost⟩

end Watch
end LeaseKeeper
