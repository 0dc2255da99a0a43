/-
# Watches with their tokens veiled

Whoever sees all of a watch but the tokens still sees all that its task goes by.  The veil puts the
same text in the place of every token; the functions of a watch commute with it, and so a task that
renews under the veil does at each moment what the task does, if its renewals look alike.
-/
import LeaseKeeper.Proofs.Watch.Reaction

namespace LeaseKeeper

/-! ### The veil -/

/-- A grant with its token veiled. -/
def Grant.veiled (g : Grant) : Grant := { g with token := Lease.redacted }

/-- A lease with its token veiled. -/
def Lease.veiled (l : Lease) : Lease := { l with token := Lease.redacted }

/-- The answer with another value. -/
def Answer.map {α β : Type} (f : α → β) (a : Answer α) : Answer β := ⟨a.ready, f a.value, a.notes⟩

/-- The call with another value in its answer. -/
def Call.map {α β : Type} (f : α → β) (c : Call α) : Call β :=
  ⟨c.notes, c.answer.map (Answer.map f)⟩

/-- A renewal with the token of its grant veiled. -/
def Renewal.veiled : Renewal → Renewal
  | granted grant => .granted grant.veiled
  | failed error => .failed error
  | crashed => .crashed

/-- A report with its token veiled. -/
def Report.veiled : Report → Report
  | tokenPersisted lease => .tokenPersisted lease.veiled
  | tokenRenewed lease => .tokenRenewed lease.veiled
  | report => report

/-- What happens, with its token veiled. -/
def Happening.veiled : Happening → Happening
  | persist _ => .persist Lease.redacted
  | renew _ increment => .renew Lease.redacted increment
  | report r => .report r.veiled
  | h => h

namespace Trace

/-- A trace with its tokens veiled: moments, calls and notes are as they are. -/
def veiled (t : Trace) : Trace := t.map fun e => (e.1, e.2.veiled)

@[simp] lemma veiled_nil : veiled [] = [] := rfl

@[simp] lemma veiled_cons (e : Instant × Happening) (t : Trace) :
    veiled (e :: t) = (e.1, e.2.veiled) :: veiled t := rfl

@[simp] lemma veiled_append (t u : Trace) : veiled (t ++ u) = veiled t ++ veiled u :=
  List.map_append

@[simp] lemma veiled_ofNotes (now : Instant) (notes : List Note) :
    veiled (ofNotes now notes) = ofNotes now notes := by
  simp [veiled, ofNotes, Happening.veiled]

end Trace

namespace Watch

/-- An event with its token veiled. -/
def Event.veiled : Event → Event
  | renewed lease => .renewed lease.veiled
  | done result => .done result

/-- A task with the token of its reply veiled. -/
def Task.veiled : Task → Task
  | renewing answer => .renewing (answer.map (Answer.map Renewal.veiled))
  | task => task

/-- A watch with its tokens veiled. -/
def veiled (w : Watch) : Watch :=
  { w with
    lease := w.lease.veiled
    lastGood := w.lastGood.veiled
    task := w.task.veiled
    queue := w.queue.map Event.veiled }

/-! ### Functions of a watch under the veil -/

lemma veiled_finish (w : Watch) (result : Except VaultError Unit) :
    (w.finish result).veiled = w.veiled.finish result := by
  simp [veiled, finish, Task.veiled, Event.veiled]

lemma veiled_follow (w : Watch) (now : Instant) (verdict : Verdict) :
    (w.follow now verdict).veiled = w.veiled.follow now verdict := by
  cases verdict with
  | rest pause => rfl
  | finish result => exact veiled_finish w result
  | overflow => rfl

@[simp] lemma wake?_veiled (task : Task) : task.veiled.wake? = task.wake? := by
  cases task with
  | renewing answer => cases answer <;> rfl
  | _ => rfl

@[simp] lemma hasEnded_veiled (task : Task) : task.veiled.hasEnded = task.hasEnded := by
  cases task <;> rfl

@[simp] lemma isDone_veiled (event : Event) : event.veiled.isDone = event.isDone := by
  cases event <;> rfl

/-- A failed renewal is taken in the same way under the veil. -/
lemma veiled_reject (w : Watch) (now : Instant) (error : VaultError) :
    w.veiled.reject now error = ((w.reject now error).1.veiled, (w.reject now error).2) := by
  have hleft : w.veiled.lastGood.remaining now = w.lastGood.remaining now := rfl
  have hgrace : w.veiled.grace = w.grace := rfl
  simp only [reject, hleft, hgrace]
  cases afterFailure error (w.lastGood.remaining now) w.grace with
  | rest pause => rfl
  | finish result => exact Prod.ext (veiled_follow w now (.finish result)).symm rfl
  | overflow => rfl

lemma veiled_told (w : Watch) (renewed : Lease) :
    (w.told renewed).veiled = w.veiled.told renewed.veiled := by
  simp [veiled, told, Event.veiled]

/-- A renewed lease is taken in the same way under the veil. -/
lemma veiled_accept (w : Watch) (now : Instant) (renewed : Lease) (draw : ℕ) :
    w.veiled.accept now renewed.veiled draw =
      ((w.accept now renewed draw).1.veiled, (w.accept now renewed draw).2) := by
  have htold : (w.told renewed).veiled = w.veiled.told renewed.veiled := veiled_told w renewed
  have hrenewable : renewed.veiled.renewable = renewed.renewable := rfl
  have hgrace : w.veiled.graceAfter? renewed.veiled draw = w.graceAfter? renewed draw := rfl
  have hnext : ∀ grace, afterSuccess renewed.veiled grace = afterSuccess renewed grace :=
    fun _ => rfl
  unfold accept
  rw [hrenewable, hgrace]
  split
  · cases w.graceAfter? renewed draw with
    | none => exact Prod.ext (congrArg crash htold).symm rfl
    | some grace =>
      have hmoved : ((w.told renewed).moved grace renewed.ttl).veiled =
          (w.veiled.told renewed.veiled).moved grace renewed.ttl :=
        congrArg (fun told => told.moved grace renewed.ttl) htold
      dsimp only
      rw [hnext]
      cases afterSuccess renewed grace with
      | rest pause => exact Prod.ext (congrArg (follow · now (.rest pause)) hmoved).symm rfl
      | finish result =>
        have hfinish := veiled_finish ((w.told renewed).moved grace renewed.ttl) result
        exact Prod.ext (hfinish.trans (congrArg (finish · result) hmoved)).symm rfl
      | overflow => exact Prod.ext (congrArg crash hmoved).symm rfl
  · have hfinish := veiled_finish (w.told renewed) cannotRenew
    exact Prod.ext (hfinish.trans (congrArg (finish · cannotRenew) htold)).symm rfl

/-- The owner takes the same event under the veil. -/
lemma veiled_take? (w : Watch) :
    w.veiled.take? = w.take?.map fun taken => (taken.1.veiled, taken.2.veiled) := by
  have hfinished : w.veiled.finished = w.finished := rfl
  unfold take?
  rw [hfinished]
  split
  · rfl
  · cases hq : w.queue with
    | nil =>
      have hqueue : w.veiled.queue = [] := by simp [veiled, hq]
      have hended : w.veiled.task.hasEnded = w.task.hasEnded := hasEnded_veiled w.task
      simp only [hqueue, hended]
      split
      · rfl
      · rfl
    | cons event rest =>
      have hqueue : w.veiled.queue = event.veiled :: rest.map Event.veiled := by simp [veiled, hq]
      simp only [hqueue, isDone_veiled, Option.map_some]
      rfl

end Watch

/-! ### Tasks under the veil -/

variable {σ τ : Type}

/-- The renewals of `d` are those of `r` under the veil, whatever token is renewed, and its draws
are the same, as long as the states of the two go together by `R`. -/
structure Renewer.IsVeil (R : τ → σ → Prop) (d : Renewer τ) (r : Renewer σ) : Prop where
  renew : ∀ {t o}, R t o → ∀ now token increment,
    (d.renew t now Lease.redacted increment).1 =
        (r.renew o now token increment).1.map Renewal.veiled ∧
      R (d.renew t now Lease.redacted increment).2 (r.renew o now token increment).2
  draw : ∀ {t o}, R t o → (d.draw t).1 = (r.draw o).1 ∧ R (d.draw t).2 (r.draw o).2

namespace Watch
namespace Run

/-- A run under the veil. -/
structure IsVeil (R : τ → σ → Prop) (S : Run τ) (s : Run σ) : Prop where
  watch : S.watch = s.watch.veiled
  others : R S.others s.others
  trace : S.trace = s.trace.veiled

variable {R : τ → σ → Prop} {d : Renewer τ} {r : Renewer σ} {S : Run τ} {s : Run σ}

lemma isVeil_iff :
    IsVeil R S s ↔ ∃ t, R t s.others ∧ S = ⟨s.watch.veiled, t, s.trace.veiled⟩ := by
  obtain ⟨W, t, trace⟩ := S
  constructor
  · rintro ⟨rfl, hothers, rfl⟩
    exact ⟨t, hothers, rfl⟩
  · rintro ⟨t', hothers, hS⟩
    cases hS
    exact ⟨rfl, hothers, rfl⟩

lemma IsVeil.record (h : IsVeil R S s) (now : Instant) (notes : List Note) :
    IsVeil R (S.record (Trace.ofNotes now notes)) (s.record (Trace.ofNotes now notes)) where
  watch := h.watch
  others := h.others
  trace := by
    show S.trace ++ _ = Trace.veiled (s.trace ++ _)
    rw [h.trace, Trace.veiled_append, Trace.veiled_ofNotes]

/-- The watch of a run has changed. -/
lemma IsVeil.setWatch (h : IsVeil R S s) (w : Watch) :
    IsVeil R { S with watch := w.veiled } { s with watch := w } :=
  ⟨rfl, h.others, h.trace⟩

lemma IsVeil.call (hd : d.IsVeil R r) (h : IsVeil R S s) (now : Instant) :
    IsVeil R (S.call d now) (s.call r now) := by
  obtain ⟨t, hothers, rfl⟩ := isVeil_iff.mp h
  obtain ⟨hcall, hafter⟩ := hd.renew hothers now s.watch.lease.token s.watch.increment
  have hincrement : s.watch.veiled.increment = s.watch.increment := rfl
  refine ⟨?_, hafter, ?_⟩
  · show { s.watch.veiled with
        task := .renewing (d.renew t now Lease.redacted s.watch.increment).1.answer } = _
    rw [hcall]
    rfl
  · show s.trace.veiled ++ (now, .renew Lease.redacted s.watch.increment) ::
        Trace.ofNotes now (d.renew t now Lease.redacted s.watch.increment).1.notes =
      Trace.veiled (s.trace ++ (now, .renew s.watch.lease.token s.watch.increment) ::
        Trace.ofNotes now (r.renew s.others now s.watch.lease.token s.watch.increment).1.notes)
    rw [hcall]
    simp [Call.map, Happening.veiled]

/-- The task takes the veiled answer as it takes the answer. -/
lemma IsVeil.receive (hd : d.IsVeil R r) (h : IsVeil R S s) (now : Instant)
    (answer : Answer Renewal) :
    IsVeil R (S.receive d now (answer.map Renewal.veiled)) (s.receive r now answer) := by
  obtain ⟨t, hothers, rfl⟩ := isVeil_iff.mp h
  have hnoted := h.record now answer.notes
  obtain ⟨ready, value, notes⟩ := answer
  cases value with
  | crashed => exact hnoted.setWatch s.watch.crash
  | failed error =>
    have hset := (hnoted.setWatch (s.watch.reject now error).1).record now
      (s.watch.reject now error).2
    show IsVeil R
      ({ Run.record ⟨s.watch.veiled, t, s.trace.veiled⟩ (Trace.ofNotes now notes) with
        watch := (s.watch.veiled.reject now error).1 }.record
          (Trace.ofNotes now (s.watch.veiled.reject now error).2)) _
    rw [veiled_reject]
    exact hset
  | granted grant =>
    obtain ⟨hdraw, hafter⟩ := hd.draw hothers
    have hset := (hnoted.setWatch
      (s.watch.accept now (grant.startingAt ready) (r.draw s.others).1).1).record now
        (s.watch.accept now (grant.startingAt ready) (r.draw s.others).1).2
    show IsVeil R
      ({ Run.record ⟨s.watch.veiled, t, s.trace.veiled⟩ (Trace.ofNotes now notes) with
        watch := (s.watch.veiled.accept now (grant.startingAt ready).veiled (d.draw t).1).1
        others := (d.draw t).2 }.record (Trace.ofNotes now
          (s.watch.veiled.accept now (grant.startingAt ready).veiled (d.draw t).1).2)) _
    rw [hdraw, veiled_accept]
    exact ⟨hset.watch, hafter, hset.trace⟩

/-- Both tasks wait, or both take the answer that has come. -/
lemma IsVeil.settle (hd : d.IsVeil R r) (h : IsVeil R S s) (now : Instant) :
    IsVeil R (S.settle d now) (s.settle r now) := by
  have htask : S.watch.task = s.watch.task.veiled := congrArg Watch.task h.watch
  unfold Run.settle
  rw [htask]
  cases s.watch.task with
  | renewing answer =>
    cases answer with
    | none => exact h
    | some answer =>
      show IsVeil R (if answer.ready ≤ now then _ else _) (if answer.ready ≤ now then _ else _)
      split
      · exact h.receive hd now answer
      · exact h
  | fresh => exact h
  | resting wakeAt => exact h
  | ended => exact h

lemma IsVeil.begin (hd : d.IsVeil R r) (h : IsVeil R S s) (now : Instant) :
    IsVeil R (S.begin d now) (s.begin r now) := by
  obtain ⟨t, hothers, rfl⟩ := isVeil_iff.mp h
  obtain ⟨hdraw, hafter⟩ := hd.draw hothers
  have hgrace : s.watch.veiled.config.graceFor? s.watch.veiled.lease.ttl (d.draw t).1 =
      s.watch.config.graceFor? s.watch.lease.ttl (r.draw s.others).1 := by
    rw [hdraw]
    rfl
  unfold Run.begin
  simp only [hgrace]
  cases s.watch.config.graceFor? s.watch.lease.ttl (r.draw s.others).1 with
  | none => exact ⟨rfl, hafter, rfl⟩
  | some grace => exact IsVeil.call hd ⟨rfl, hafter, rfl⟩ now

/-- The task goes on under the veil exactly when it goes on, and stays under the veil. -/
lemma IsVeil.poll? (hd : d.IsVeil R r) (h : IsVeil R S s) (now : Instant) :
    Option.Rel (IsVeil R) (S.poll? d now) (s.poll? r now) := by
  have htask : S.watch.task = s.watch.task.veiled := congrArg Watch.task h.watch
  have hstop : S.watch.stopAsked = s.watch.stopAsked := by
    rw [h.watch]
    rfl
  have hrenewable : S.watch.lease.renewable = s.watch.lease.renewable :=
    congrArg (fun w => w.lease.renewable) h.watch
  have hfinish : ∀ result, IsVeil R { S with watch := S.watch.finish result }
      { s with watch := s.watch.finish result } := by
    intro result
    rw [h.watch, ← veiled_finish]
    exact h.setWatch _
  unfold Run.poll?
  rw [htask, hstop, hrenewable]
  cases s.watch.task with
  | ended => exact .none
  | fresh =>
    dsimp only [Task.veiled]
    split
    · exact .some (hfinish _)
    · split
      · exact .some ((h.begin hd now).settle hd now)
      · exact .some (hfinish _)
  | resting wakeAt =>
    dsimp only [Task.veiled]
    split
    · exact .some (hfinish _)
    · split
      · exact .some ((h.call hd now).settle hd now)
      · exact .none
  | renewing answer =>
    cases answer with
    | none =>
      dsimp only [Task.veiled, Option.map_none]
      split
      · exact .some (hfinish _)
      · exact .none
    | some answer =>
      show Option.Rel (IsVeil R) (if s.watch.stopAsked = true then _ else
          if answer.ready ≤ now then some (S.receive d now (answer.map Renewal.veiled)) else none)
        (if s.watch.stopAsked = true then _ else
          if answer.ready ≤ now then some (s.receive r now answer) else none)
      split
      · exact .some (hfinish _)
      · split
        · exact .some (h.receive hd now answer)
        · exact .none

end Run
end Watch
end LeaseKeeper
