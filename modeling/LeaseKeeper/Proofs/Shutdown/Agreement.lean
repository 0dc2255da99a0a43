/-
# Asking and waiting agree

Whatever is done with a trigger and its handles, each handle that exists says that the signal has
fired exactly when the trigger was fired or dropped before, however old the handle and the one that
it is a copy of.  A wait, on whatever handle and whenever it was started, is over from then on as
soon as it runs, and not before.

A handle looks at the flag and at the trigger of the moment.  A wait may rely on what it saw when it
went to sleep, so the invariant is about waits: one that sleeps has missed no write that fired.
-/
import LeaseKeeper.Shutdown
import Mathlib.Data.List.Basic

namespace LeaseKeeper
namespace Shutdown

/-- An operation that fires the signal. -/
def Op.fires : Op → Bool
  | cancel => true
  | dropTrigger => true
  | _ => false

lemma any_fires_iff {ops : List Op} :
    ops.any Op.fires = true ↔ .cancel ∈ ops ∨ .dropTrigger ∈ ops := by
  rw [List.any_eq_true]
  constructor
  · rintro ⟨op, hop, hfires⟩
    cases op with
    | cancel => exact Or.inl hop
    | dropTrigger => exact Or.inr hop
    | _ => cases hfires
  · rintro (hop | hop)
    · exact ⟨_, hop, rfl⟩
    · exact ⟨_, hop, rfl⟩

/-! ### Handles -/

/-- What a handle says does not depend on what it has seen. -/
@[simp] lemma Handle.isCancelled_eq (h : Handle) (c : Channel) :
    h.isCancelled c = c.isCancelled := by
  cases hheld : c.triggerHeld <;>
    simp [isCancelled, hasChanged?, Channel.isCancelled, hheld]

/-! ### Waits -/

namespace Wait

variable {c : Channel} {w : Wait}

/-- A wait fits its channel: if it sleeps, it has seen the flag down after a write that was made,
and if it is over, the signal has fired. -/
def Fits (c : Channel) : Wait → Prop
  | fresh => True
  | asleep seen => seen ≤ c.writes ∧ (seen = c.writes → c.flag = false)
  | resolved => c.isCancelled = true

lemma isResolved_look (c : Channel) : (look c).isResolved = c.isCancelled := by
  cases hflag : c.flag <;> cases hheld : c.triggerHeld <;>
    simp [look, isResolved, Channel.isCancelled, hflag, hheld]

lemma fits_look (c : Channel) : (look c).Fits c := by
  cases hflag : c.flag <;> cases hheld : c.triggerHeld <;>
    simp [look, Fits, Channel.isCancelled, hflag, hheld]

/-- A wait that is over has seen the signal. -/
lemma Fits.isCancelled (h : w.Fits c) (hresolved : w.isResolved = true) :
    c.isCancelled = true := by
  cases w with
  | resolved => exact h
  | fresh => cases hresolved
  | asleep seen => cases hresolved

/-- A wait that runs is over exactly if the signal has fired. -/
lemma Fits.isResolved_poll (h : w.Fits c) : (w.poll c).isResolved = c.isCancelled := by
  cases w with
  | fresh => exact isResolved_look c
  | resolved => exact h.symm
  | asleep seen =>
    by_cases hseen : c.writes = seen
    · have hflag : c.flag = false := h.2 hseen.symm
      cases hheld : c.triggerHeld <;>
        simp [poll, isResolved, Channel.isCancelled, hseen, hflag, hheld]
    · rw [poll, if_pos hseen, isResolved_look]

lemma Fits.poll (h : w.Fits c) : (w.poll c).Fits c := by
  cases w with
  | fresh => exact fits_look c
  | resolved => exact h
  | asleep seen =>
    by_cases hseen : c.writes = seen
    · cases hheld : c.triggerHeld with
      | true => simpa [Wait.poll, hseen, hheld] using h
      | false => simp [Wait.poll, Fits, Channel.isCancelled, hseen, hheld]
    · rw [Wait.poll, if_pos hseen]
      exact fits_look c

/-- One more write is one that no wait has seen. -/
lemma Fits.cancel (h : w.Fits c) : w.Fits c.cancel := by
  cases w with
  | fresh => trivial
  | resolved => exact Channel.isCancelled_cancel c
  | asleep seen =>
    obtain ⟨hle, hflag⟩ := h
    cases hheld : c.triggerHeld with
    | true =>
      simp only [Channel.cancel, hheld, if_true, Fits]
      omega
    | false => simpa [Channel.cancel, hheld, Fits] using ⟨hle, hflag⟩

lemma Fits.dropTrigger (h : w.Fits c) : w.Fits c.dropTrigger := by
  cases w with
  | fresh => trivial
  | resolved => exact Channel.isCancelled_dropTrigger c
  | asleep seen => exact h

end Wait

/-! ### One operation -/

namespace Group

variable {g : Group}

/-- All waits fit the channel. -/
def AllFit (g : Group) : Prop := ∀ w ∈ g.waits, w.2.Fits g.channel

/-- With a handle the channel is not changed, and no wait but a new one. -/
lemma onHandle_of {P : Group → Prop} {i : Nat} {act : Handle → Group × Answer} (h : P g)
    (hact : ∀ handle, P (act handle).1) : P (g.onHandle i act).1 := by
  unfold onHandle
  split
  · exact h
  · exact hact _

lemma AllFit.start (h : g.AllFit) (name : String) : (g.start name).AllFit := by
  intro w hw
  rcases List.mem_append.mp hw with hw | hw
  · exact h w (List.mem_of_mem_filter hw)
  · obtain rfl := List.mem_singleton.mp hw
    trivial

lemma AllFit.runWaits (h : g.AllFit) : (g.step .runWaits).1.AllFit := by
  intro w hw
  obtain ⟨w', hw', rfl⟩ := List.mem_map.mp hw
  exact (h w' hw').poll

lemma AllFit.step (h : g.AllFit) (op : Op) : (g.step op).1.AllFit := by
  cases op with
  | cancel => exact fun w hw => (h w hw).cancel
  | dropTrigger => exact fun w hw => (h w hw).dropTrigger
  | clone i => exact onHandle_of h fun _ => h
  | drop i => exact onHandle_of h fun _ => h
  | ask i => exact onHandle_of h fun _ => h
  | tryWait i => exact onHandle_of h fun _ => h
  | startWait i name => exact onHandle_of h fun _ => h.start name
  | runWaits => exact h.runWaits

/-- Nothing but firing changes the channel. -/
lemma channel_step (g : Group) {op : Op} (h : op.fires = false) :
    (g.step op).1.channel = g.channel := by
  have hkept : ∀ {i : ℕ} {act : Handle → Group × Answer},
      (∀ handle, (act handle).1.channel = g.channel) → (g.onHandle i act).1.channel = g.channel :=
    onHandle_of (P := fun g' => g'.channel = g.channel) rfl
  cases op with
  | cancel => cases h
  | dropTrigger => cases h
  | runWaits => rfl
  | clone i => exact hkept fun _ => rfl
  | drop i => exact hkept fun _ => rfl
  | ask i => exact hkept fun _ => rfl
  | tryWait i => exact hkept fun _ => rfl
  | startWait i name => exact hkept fun _ => rfl

lemma isCancelled_step (g : Group) (op : Op) :
    (g.step op).1.channel.isCancelled = (g.channel.isCancelled || op.fires) := by
  cases hfires : op.fires with
  | false => rw [channel_step g hfires, Bool.or_false]
  | true =>
    rw [Bool.or_true]
    cases op with
    | cancel => exact Channel.isCancelled_cancel _
    | dropTrigger => exact Channel.isCancelled_dropTrigger _
    | _ => cases hfires

/-! ### Any number of them -/

lemma run_append (g : Group) (ops more : List Op) :
    (g.run (ops ++ more)).1 = ((g.run ops).1.run more).1 := by
  induction ops generalizing g with
  | nil => rfl
  | cons op rest ih => exact ih (g.step op).1

lemma AllFit.run (h : g.AllFit) (ops : List Op) : (g.run ops).1.AllFit := by
  induction ops generalizing g with
  | nil => exact h
  | cons op rest ih => exact ih (h.step op)

lemma isCancelled_run (g : Group) (ops : List Op) :
    (g.run ops).1.channel.isCancelled = (g.channel.isCancelled || ops.any Op.fires) := by
  induction ops generalizing g with
  | nil => simp [run]
  | cons op rest ih =>
    have hrest := ih (g.step op).1
    rw [isCancelled_step, Bool.or_assoc] at hrest
    exact hrest

/-! ### From a new channel -/

/-- Whether the trigger was fired or dropped by some of these operations. -/
lemma isCancelled_run_fresh (ops : List Op) :
    (fresh.run ops).1.channel.isCancelled = decide (.cancel ∈ ops ∨ .dropTrigger ∈ ops) := by
  rw [isCancelled_run]
  change ops.any Op.fires = _
  rw [Bool.eq_iff_iff, any_fires_iff, decide_eq_true_iff]

lemma allFit_fresh : fresh.AllFit := fun _ h => absurd h List.not_mem_nil

/-- A handle that exists answers, and a wait on it is over at once, if the signal has fired. -/
lemma ask_of_handle {i : ℕ} (h : g.handle? i ≠ none) :
    (g.step (.ask i)).2 = .fired g.channel.isCancelled ∧
      (g.step (.tryWait i)).2 = .fired g.channel.isCancelled := by
  obtain ⟨handle, hhandle⟩ := Option.ne_none_iff_exists'.mp h
  constructor
  · simp [step, onHandle, hhandle]
  · have hwait : (Wait.fresh.poll g.channel).isResolved = g.channel.isCancelled :=
      Wait.isResolved_look g.channel
    simp [step, onHandle, hhandle, hwait]

/-- All waits have run: each is over exactly if the signal has fired. -/
lemma AllFit.exists_report (h : g.AllFit) :
    ∃ answer : List (String × Bool), (g.step .runWaits).2 = .waits answer ∧
      (answer.map Prod.fst).Perm (g.waits.map Prod.fst) ∧
      ∀ w ∈ answer, w.2 = g.channel.isCancelled := by
  refine ⟨_, rfl, ?_, fun w hw => ?_⟩
  · refine ((List.mergeSort_perm _ _).map Prod.fst).trans ?_
    simp [Function.comp_def]
  · obtain ⟨w', hw', rfl⟩ := List.mem_map.mp (List.mem_mergeSort.mp hw)
    obtain ⟨w'', hw'', rfl⟩ := List.mem_map.mp hw'
    exact (h w'' hw'').isResolved_poll

/-- After any operations on a new channel, all handles that exist say whether the trigger was fired
or dropped by one of them, and a wait that is started then agrees.  Of the waits that were started
before, none is over unless it was, and each is over as soon as it runs if it was.  No further
operations change what the handles say once the signal has fired. -/
theorem asking_agrees_with_waiting (ops : List Op) :
    let g := (fresh.run ops).1
    let fired := decide (.cancel ∈ ops ∨ .dropTrigger ∈ ops)
    (∀ i, g.handle? i ≠ none →
      (g.step (.ask i)).2 = .fired fired ∧ (g.step (.tryWait i)).2 = .fired fired) ∧
    (∀ w ∈ g.waits, (w.2.isResolved = true → fired = true) ∧
      (w.2.poll g.channel).isResolved = fired) ∧
    (∃ answer : List (String × Bool), (g.step .runWaits).2 = .waits answer ∧
      (answer.map Prod.fst).Perm (g.waits.map Prod.fst) ∧ ∀ w ∈ answer, w.2 = fired) ∧
    ∀ more i, fired = true → (fresh.run (ops ++ more)).1.handle? i ≠ none →
      ((fresh.run (ops ++ more)).1.step (.ask i)).2 = .fired true := by
  intro g fired
  have hfired : g.channel.isCancelled = fired := isCancelled_run_fresh ops
  have hfit : g.AllFit := allFit_fresh.run ops
  refine ⟨fun i hi => hfired ▸ ask_of_handle hi, fun w hw => ?_, hfired ▸ hfit.exists_report, ?_⟩
  · rw [← hfired]
    exact ⟨(hfit w hw).isCancelled, (hfit w hw).isResolved_poll⟩
  · intro more i h hi
    rw [(ask_of_handle hi).1, run_append, isCancelled_run, hfired, h, Bool.true_or]

/-- The copy of a copy is asked after the first handle and the trigger are gone, and a wait that
went to sleep before wakes up. -/
theorem asking_agrees_with_waiting_copied :
    let ops : List Op := [.clone 0, .startWait 1 "a", .runWaits, .clone 1, .drop 0, .dropTrigger]
    let g := (fresh.run ops).1
    g.handle? 2 ≠ none ∧ (g.step (.ask 2)).2 = .fired true ∧ (g.step (.tryWait 2)).2 = .fired true ∧
      ∃ w ∈ g.waits, w.2.isResolved = false ∧ (w.2.poll g.channel).isResolved = true := by
  intro ops g
  obtain ⟨hask, hwaits, -⟩ := asking_agrees_with_waiting ops
  have hlive : g.handle? 2 ≠ none := by decide
  have hwait : ("a", Wait.asleep 0) ∈ g.waits := by decide
  exact ⟨hlive, (hask 2 hlive).1, (hask 2 hlive).2, _, hwait, rfl, (hwaits _ hwait).2⟩

end Group
end Shutdown
end LeaseKeeper
