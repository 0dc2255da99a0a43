/-
# The chronicle of a keeper

A chronicle lists what happens to a keeper, each entry with its moment: the calls that begin and
what the observer is told, the answers that are heard, and how the tasks of the watches end.  The
notes of the journal are left out.  Every reachable scene has a chronicle, and the trace and what
was heard can be read off it.
-/
import LeaseKeeper.Proofs.Keeper.Ledger

namespace LeaseKeeper

/-- Whether something that happens is a call or a report. -/
def Happening.isShown : Happening → Bool
  | .note _ => false
  | .stopped => false
  | _ => true

/-- How the task of a watch has ended: as its last event says, or without a word. -/
def Watch.lastWord (w : Watch) : Except VaultError Unit :=
  match w.queue.getLast? with
  | some (.done result) => result
  | _ => .error .watchLost

namespace Keeper

open Relation

/-- What a chronicle records: a call begins or the observer is told, the answer to a call is heard,
or the task of a watch ends. -/
inductive Deed
  | shown (what : Happening)
  | heard (outcome : Outcome)
  | ended (verdict : Except VaultError Unit)

abbrev Entry := Instant × Deed

/-- The entries of the calls and reports of a trace. -/
def shownOf (t : Trace) : List Entry :=
  (t.filter fun e => e.2.isShown).map fun e => (e.1, .shown e.2)

@[simp] lemma shownOf_nil : shownOf [] = [] := rfl

@[simp] lemma shownOf_append (t u : Trace) : shownOf (t ++ u) = shownOf t ++ shownOf u := by
  simp [shownOf]

lemma shownOf_cons (e : Instant × Happening) (t : Trace) :
    shownOf (e :: t) = (if e.2.isShown then [(e.1, .shown e.2)] else []) ++ shownOf t := by
  by_cases h : e.2.isShown = true <;> simp [shownOf, h]

@[simp] lemma shownOf_ofNotes (now : Instant) (notes : List Note) :
    shownOf (Trace.ofNotes now notes) = [] := by
  simp [shownOf, Trace.ofNotes, Happening.isShown]

/-- The end of the task of a watch, if it lies between two phases. -/
def taskEnd? : Phase → Phase → Option Deed
  | .watching w, .watching w' =>
    if w.task.hasEnded = w'.task.hasEnded then none else some (.ended w'.lastWord)
  | _, _ => none

variable {σ : Type}

/-- The entries for one step of a keeper.  Of a call that is answered at once the task of a watch
hears after it has begun the call, and what a keeper hears comes before what it does about it. -/
def news (now : Instant) (k : Keeper σ) (heard : List Outcome) (k' : Keeper σ) : List Entry :=
  let shown := shownOf (k'.trace.drop k.trace.length)
  let answers := heard.map fun outcome => (now, Deed.heard outcome)
  match k.phase with
  | .watching _ => shown ++ answers ++ (taskEnd? k.phase k'.phase).toList.map fun deed => (now, deed)
  | _ => answers ++ shown

/-- What has happened since the beginning of a run, up to a scene. -/
inductive Chronicle (c : Collaborators σ) (plan : Plan) (begun : Instant) :
    Scene σ → List Entry → Prop
  | start (others : σ) : Chronicle c plan begun (.start begun others) []
  | step {s s' : Scene σ} {l : List Entry} (h : Chronicle c plan begun s l)
      (hs : Scene.Step c plan s s') :
      Chronicle c plan begun s'
        (l ++ news s.now s.keeper (s'.heard.drop s.heard.length) s'.keeper)

variable {c : Collaborators σ} {plan : Plan} {begun now : Instant} {k k' : Keeper σ}

lemma news_idle (now : Instant) (k : Keeper σ) : news now k [] k = [] := by
  unfold news
  cases hp : k.phase <;> simp [taskEnd?]

lemma news_of_ne_watching {heard : List Outcome} {work : Trace}
    (hp : ∀ watch, k.phase ≠ .watching watch) (htrace : k'.trace = k.trace ++ work) :
    news now k heard k' = heard.map (fun outcome => (now, .heard outcome)) ++ shownOf work := by
  unfold news
  rw [htrace, List.drop_left]
  cases hphase : k.phase with
  | watching watch => exact absurd hphase (hp watch)
  | _ => rfl

lemma news_of_watching {heard : List Outcome} {work : Trace} {watch : Watch}
    (hp : k.phase = .watching watch) (htrace : k'.trace = k.trace ++ work) :
    news now k heard k' = shownOf work ++ heard.map (fun outcome => (now, .heard outcome)) ++
      (taskEnd? (.watching watch) k'.phase).toList.map fun deed => (now, deed) := by
  unfold news
  rw [htrace, List.drop_left, hp]

/-! ### Chronicles and reachable scenes -/

lemma Chronicle.reachable {s : Scene σ} {l : List Entry} (h : Chronicle c plan begun s l) :
    Scene.Reachable c plan s := by
  induction h with
  | start others => exact ⟨begun, others, .refl⟩
  | step _ hs ih =>
    obtain ⟨now, others, hlater⟩ := ih
    exact ⟨now, others, hlater.tail hs⟩

lemma exists_chronicle {s : Scene σ} (h : Scene.Reachable c plan s) :
    ∃ begun l, Chronicle c plan begun s l := by
  obtain ⟨begun, others, hlater⟩ := h
  refine ⟨begun, ?_⟩
  induction hlater with
  | refl => exact ⟨[], .start others⟩
  | tail _ hs ih =>
    obtain ⟨l, hl⟩ := ih
    exact ⟨_, hl.step hs⟩

/-- What holds of a keeper that has not begun, and is kept by each turn and by the clock, holds of
all chronicles. -/
lemma Chronicle.turn_induction {P : List Entry → Instant → Keeper σ → Prop}
    (hstart : ∀ others, P [] begun (Keeper.start others))
    (hturn : ∀ {cancelled now l k k' outcome}, Turn c plan cancelled now k outcome k' →
      P l now k → P (l ++ news now k outcome.toList k') now k')
    (hwait : ∀ {cancelled now later l k}, k.move? c plan cancelled now = none → now ≤ later →
      (∀ t, k.phase.wake? = some t → now < t → later ≤ t) → P l now k → P l later k)
    {s : Scene σ} {l : List Entry} (h : Chronicle c plan begun s l) : P l s.now s.keeper := by
  induction h with
  | start others => exact hstart others
  | @step s s' l _ hs ih =>
    rcases hs.cases with ⟨outcome, k, hk, rfl⟩ | ⟨later, hmove, hle, hwake, rfl⟩ | ⟨x, rfl⟩
    · simp only [Scene.after, List.drop_left]
      exact hturn hk ih
    · simp only [List.drop_length, news_idle, List.append_nil]
      exact hwait hmove hle hwake ih
    · simp only [Scene.control, List.drop_length, news_idle, List.append_nil]
      exact ih

/-! ### What a chronicle shows -/

def shownIn (l : List Entry) : Trace :=
  l.filterMap fun e => match e.2 with
    | .shown what => some (e.1, what)
    | _ => none

def heardIn (l : List Entry) : List Outcome :=
  l.filterMap fun e => match e.2 with
    | .heard outcome => some outcome
    | _ => none

@[simp] lemma shownIn_append (l l' : List Entry) : shownIn (l ++ l') = shownIn l ++ shownIn l' := by
  simp [shownIn]

@[simp] lemma heardIn_append (l l' : List Entry) : heardIn (l ++ l') = heardIn l ++ heardIn l' := by
  simp [heardIn]

@[simp] lemma shownIn_shownOf (t : Trace) :
    shownIn (shownOf t) = t.filter fun e => e.2.isShown := by
  simp [shownIn, shownOf, List.filterMap_map]

@[simp] lemma heardIn_shownOf (t : Trace) : heardIn (shownOf t) = [] := by
  simp [heardIn, shownOf, List.filterMap_map]

@[simp] lemma shownIn_heard (now : Instant) (heard : List Outcome) :
    shownIn (heard.map fun outcome => (now, .heard outcome)) = [] := by
  simp [shownIn, List.filterMap_map]

@[simp] lemma heardIn_heard (now : Instant) (heard : List Outcome) :
    heardIn (heard.map fun outcome => (now, .heard outcome)) = heard := by
  simp [heardIn, List.filterMap_map]

lemma shownIn_taskEnd? (now : Instant) (p p' : Phase) :
    shownIn ((taskEnd? p p').toList.map fun deed => (now, deed)) = [] ∧
      heardIn ((taskEnd? p p').toList.map fun deed => (now, deed)) = [] := by
  unfold taskEnd?
  split
  · split <;> simp [shownIn, heardIn]
  · simp [shownIn, heardIn]

lemma shownIn_news {work : Trace} (now : Instant) (heard : List Outcome)
    (h : k'.trace = k.trace ++ work) :
    shownIn (news now k heard k') = work.filter (fun e => e.2.isShown) ∧
      heardIn (news now k heard k') = heard := by
  by_cases hp : ∃ watch, k.phase = .watching watch
  · obtain ⟨watch, hp⟩ := hp
    rw [news_of_watching hp h]
    simp [shownIn_taskEnd?]
  · rw [news_of_ne_watching (fun watch hw => hp ⟨watch, hw⟩) h]
    simp

/-- The trace of a keeper holds the calls and reports of its chronicle in the same order, and what
was heard are the answers of the chronicle. -/
theorem Chronicle.shown_eq {s : Scene σ} {l : List Entry} (h : Chronicle c plan begun s l) :
    shownIn l = s.keeper.trace.filter (fun e => e.2.isShown) ∧ heardIn l = s.heard := by
  -- A turn adds its own entries; the clock and the control of the keeper add none.
  induction h with
  | start others => exact ⟨rfl, rfl⟩
  | @step s s' l _ hs ih =>
    obtain ⟨hshown, hheard⟩ := ih
    rcases hs.cases with ⟨outcome, k, hk, rfl⟩ | ⟨later, -, -, -, rfl⟩ | ⟨x, rfl⟩
    · obtain ⟨work, htrace, -⟩ := hk.adds
      simp only [Scene.after, List.drop_left]
      obtain ⟨hnew, hnew'⟩ := shownIn_news s.now outcome.toList htrace
      rw [shownIn_append, heardIn_append, hnew, hnew', hshown, hheard, htrace, List.filter_append]
      exact ⟨rfl, rfl⟩
    · simp only [List.drop_length, news_idle, List.append_nil]
      exact ⟨hshown, hheard⟩
    · simp only [Scene.control, List.drop_length, news_idle, List.append_nil]
      exact ⟨hshown, hheard⟩

end Keeper
end LeaseKeeper
