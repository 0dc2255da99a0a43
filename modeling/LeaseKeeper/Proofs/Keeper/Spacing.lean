/-
# The spacing of logins

Between two logins that follow one another lies one round.  If it failed, no matter how, the keeper
announced one pause when it learned of the failure, and the next login begins when this pause is
over; after a quiet end of the watch the next login begins at once.  So failing rounds in a row
begin at least one pause apart.
-/
import LeaseKeeper.Proofs.Keeper.Protocol

namespace LeaseKeeper
namespace Keeper

/-! ### What the entries of a round tell -/

def Deed.isLogin : Deed → Bool
  | .shown .login => true
  | _ => false

/-- The report that is due for a deed, if the deed is a failure: a login or a call to store a token
that is answered with an error, or a task of a watch that ends with one. -/
def Deed.failure? : Deed → Option Report
  | .heard (.login answer) =>
    match answer.value with
    | .ok _ => none
    | .error error => some (.loginFailed error)
  | .heard (.persist _ answer) =>
    match answer.value with
    | .ok _ => none
    | .error error => some (.persistFailed error)
  | .ended (.error error) => some (.renewalFailed error)
  | _ => none

/-- The length of the pause that a deed announces, if it announces one. -/
def Deed.pause? : Deed → Option Duration
  | .shown (.report (.retryScheduled pause)) => some pause
  | _ => none

def Deed.quietEnd? : Deed → Option Unit
  | .ended (.ok ()) => some ()
  | _ => none

/-- What the deeds of some kind tell, with their moments. -/
def noted {α : Type} (f : Deed → Option α) (l : List Entry) : List (Instant × α) :=
  l.filterMap fun e => (f e.2).map fun a => (e.1, a)

variable {α : Type} {f : Deed → Option α}

@[simp] lemma noted_append (f : Deed → Option α) (l l' : List Entry) :
    noted f (l ++ l') = noted f l ++ noted f l' := List.filterMap_append

@[simp] lemma noted_nil (f : Deed → Option α) : noted f [] = [] := rfl

lemma noted_cons (f : Deed → Option α) (e : Entry) (l : List Entry) :
    noted f (e :: l) = ((f e.2).map fun a => (e.1, a)).toList ++ noted f l := by
  cases he : f e.2 <;> simp [noted, he]

lemma noted_eq_nil {l : List Entry} (h : ∀ e ∈ l, f e.2 = none) : noted f l = [] := by
  refine List.filterMap_eq_nil_iff.mpr fun e he => ?_
  rw [h e he, Option.map_none]

/-- When the round with these entries began at `t`, the next login is to begin at `u`. -/
inductive Spaced (plan : Plan) (t : Instant) (l : List Entry) (u : Instant) : Prop
  /-- There was one failure, it was reported and one pause was announced at the same moment, and
  the next login begins with the first whole millisecond at which this pause is over. -/
  | failed {w : Instant} {report : Report} (hle : t ≤ w)
      (hfailure : noted Deed.failure? l = [(w, report)])
      (hreport : (w, .shown (.report report)) ∈ l)
      (hpause : noted Deed.pause? l = [(w, plan.backoff)])
      (hquiet : noted Deed.quietEnd? l = []) (hmilli : Instant.milli ∣ u)
      (hover : w + plan.backoff.nanos ≤ u) (hfirst : u < w + plan.backoff.nanos + Instant.milli)
  /-- There was no failure and no pause, and the next login begins at the moment at which the task
  of the watch ended quietly. -/
  | ended (hle : t ≤ u) (hfailure : noted Deed.failure? l = [])
      (hpause : noted Deed.pause? l = []) (hquiet : noted Deed.quietEnd? l = [(u, ())])

variable {plan : Plan} {lease : Lease} {t u v : Instant} {l : List Entry}

lemma spaced_setback {w : Instant} {report : Report} (hle : t ≤ w)
    (hreport : Deed.pause? (.shown (.report report)) = none)
    (hfailure : noted Deed.failure? l = [(w, report)]) (hpause : noted Deed.pause? l = [])
    (hquiet : noted Deed.quietEnd? l = []) :
    Spaced plan t (l ++ setback plan w report) (plan.wakeAfter w) := by
  have hfailed : noted Deed.failure? (l ++ setback plan w report) = [(w, report)] := by
    rw [noted_append, hfailure]
    rfl
  refine .failed hle hfailed ?_ ?_ ?_ (Nat.dvd_mul_left _ _) (Instant.le_roundUp _)
    (Instant.roundUp_lt _)
  · exact List.mem_append_right _ (List.mem_cons_self ..)
  · rw [noted_append, hpause]
    rw [setback, noted_cons, hreport]
    rfl
  · rw [noted_append, hquiet]
    rfl

lemma LoggedIn.noted_eq (h : LoggedIn t lease u l) :
    noted Deed.failure? l = [] ∧ noted Deed.pause? l = [] ∧ noted Deed.quietEnd? l = [] := by
  obtain ⟨-, hv, -⟩ := h
  simp [noted, Deed.failure?, Deed.pause?, Deed.quietEnd?, hv]

lemma Stored.noted_eq (h : Stored t lease v l) :
    noted Deed.failure? l = [] ∧ noted Deed.pause? l = [] ∧ noted Deed.quietEnd? l = [] := by
  obtain ⟨hl, -, hv⟩ := h
  obtain ⟨hfailure, hpause, hquiet⟩ := hl.noted_eq
  simp only [noted_append, hfailure, hpause, hquiet]
  simp [noted, Deed.failure?, Deed.pause?, Deed.quietEnd?, hv]

lemma Deed.IsTending.eq_none {deed : Deed} (h : deed.IsTending plan lease) :
    deed.failure? = none ∧ deed.pause? = none ∧ deed.quietEnd? = none ∧ deed.isLogin = false := by
  unfold Deed.IsTending at h
  split at h
  · exact ⟨rfl, rfl, rfl, rfl⟩
  · exact ⟨rfl, rfl, rfl, rfl⟩
  · exact ⟨rfl, rfl, rfl, rfl⟩
  · exact h.elim

lemma forall_isTending_reports (plan : Plan) (lease : Lease) (now : Instant)
    (leases : List Lease) : ∀ e ∈ reports now leases, e.2.IsTending plan lease := by
  intro e he
  obtain ⟨renewed, -, rfl⟩ := List.mem_map.mp he
  trivial

/-- Of what happens while a lease is watched, only the end of the task tells anything. -/
lemma noted_watched {w : Instant} {verdict : Except VaultError Unit} {owed : List Lease}
    {tended : List Entry} (hl : noted f l = [])
    (hf : ∀ deed : Deed, deed.IsTending plan lease → f deed = none)
    (htended : ∀ e ∈ tended, e.2.IsTending plan lease) :
    noted f (l ++ (tended ++ (w, .ended verdict) :: reports w owed)) =
      noted f [(w, .ended verdict)] := by
  have htended' : noted f tended = [] := noted_eq_nil fun e he => hf _ (htended e he)
  have hreports : noted f (reports w owed) = [] :=
    noted_eq_nil fun e he => hf _ (forall_isTending_reports plan lease w owed e he)
  rw [noted_append, noted_append, hl, htended', noted_cons, hreports, noted_cons, noted_nil]
  rfl

lemma LoggedIn.le (h : LoggedIn t lease u l) : t ≤ u := by
  cases h
  assumption

lemma Stored.le (h : Stored t lease v l) : t ≤ v := by
  obtain ⟨hl, hle, -⟩ := h
  exact Nat.le_trans hl.le hle

/-- The next round begins when the pause after the failure is over, or at once. -/
lemma Round.spaced (h : Round plan t l u) : Spaced plan t l u := by
  cases h with
  | @refused w answer error hle hv =>
    have hfailure : noted Deed.failure? [(t, .shown .login), (w, .heard (.login answer))] =
        [(w, .loginFailed error)] := by
      simp [noted, Deed.failure?, hv]
    exact spaced_setback hle rfl hfailure rfl rfl
  | @unsaved lease u w l answer error hl hle hv =>
    obtain ⟨hfailure, hpause, hquiet⟩ := hl.noted_eq
    rw [List.append_cons]
    refine spaced_setback (Nat.le_trans hl.le hle) rfl ?_ ?_ ?_
    · rw [noted_append, hfailure]
      simp [noted, Deed.failure?, hv]
    · rw [noted_append, hpause]
      rfl
    · rw [noted_append, hquiet]
      rfl
  | quiet hl hle htended =>
    obtain ⟨hfailure, hpause, hquiet⟩ := hl.noted_eq
    have htending := htended.forall_isTending
    exact .ended (Nat.le_trans hl.le hle)
      (noted_watched hfailure (fun _ h => h.eq_none.1) htending)
      (noted_watched hpause (fun _ h => h.eq_none.2.1) htending)
      (noted_watched hquiet (fun _ h => h.eq_none.2.2.1) htending)
  | lost hl hle htended =>
    obtain ⟨hfailure, hpause, hquiet⟩ := hl.noted_eq
    have htending := htended.forall_isTending
    exact spaced_setback (Nat.le_trans hl.le hle) rfl
      (noted_watched hfailure (fun _ h => h.eq_none.1) htending)
      (noted_watched hpause (fun _ h => h.eq_none.2.1) htending)
      (noted_watched hquiet (fun _ h => h.eq_none.2.2.1) htending)

/-! ### Finding the rounds in a chronicle -/

/-- Entries that begin with a login at `t` and hold no other one. -/
def Opens (t : Instant) (l : List Entry) : Prop :=
  ∃ rest, l = (t, .shown .login) :: rest ∧ ∀ e ∈ rest, e.2.isLogin = false

lemma Opens.append {l' : List Entry} (h : Opens t l) (h' : ∀ e ∈ l', e.2.isLogin = false) :
    Opens t (l ++ l') := by
  obtain ⟨rest, rfl, hrest⟩ := h
  refine ⟨rest ++ l', rfl, fun e he => ?_⟩
  rcases List.mem_append.mp he with he | he
  · exact hrest e he
  · exact h' e he

lemma LoggedIn.opens (h : LoggedIn t lease u l) : Opens t l := by
  cases h
  exact ⟨_, rfl, by simp [Deed.isLogin]⟩

lemma Stored.opens (h : Stored t lease v l) : Opens t l := by
  obtain ⟨hl, -, -⟩ := h
  exact hl.opens.append (by simp [Deed.isLogin])

lemma isLogin_tending {w : Instant} {isOpen : Bool} {owed : List Lease} {tended : List Entry}
    {verdict : Except VaultError Unit} (h : Tending plan lease isOpen owed tended) :
    ∀ e ∈ tended ++ (w, .ended verdict) :: reports w owed, e.2.isLogin = false := by
  intro e he
  rcases List.mem_append.mp he with he | he
  · exact (h.forall_isTending e he).eq_none.2.2.2
  · rcases List.mem_cons.mp he with rfl | he
    · rfl
    · exact (forall_isTending_reports plan lease w owed e he).eq_none.2.2.2

/-- A round begins with its login, which is the only one. -/
lemma Round.opens (h : Round plan t l u) : Opens t l := by
  cases h with
  | refused => exact ⟨_, rfl, by simp [setback, Deed.isLogin]⟩
  | unsaved hl => exact hl.opens.append (by simp [setback, Deed.isLogin])
  | quiet hl _ htended => exact hl.opens.append (isLogin_tending htended)
  | lost hl _ htended =>
    exact (hl.opens.append (isLogin_tending htended)).append (by simp [setback, Deed.isLogin])

lemma Fits.opens {now : Instant} {phase : Phase} (h : Fits plan now t l phase) :
    l = [] ∨ Opens t l := by
  obtain ⟨rest, u, hround⟩ := h.exists_round
  cases l with
  | nil => exact Or.inl rfl
  | cons e tail =>
    obtain ⟨others, hothers, hnone⟩ := hround.opens
    obtain ⟨rfl, rfl⟩ := List.cons.inj hothers
    exact Or.inr ⟨tail, rfl, fun e he => hnone e (List.mem_append_left _ he)⟩

lemma Opens.eq_nil {gap after : List Entry} (h : Opens t (gap ++ (u, .shown .login) :: after)) :
    gap = [] ∧ u = t := by
  obtain ⟨rest, hrest, hnone⟩ := h
  cases gap with
  | nil =>
    obtain ⟨hhead, -⟩ := List.cons.inj hrest
    exact ⟨rfl, congrArg Prod.fst hhead⟩
  | cons e gap =>
    obtain ⟨-, htail⟩ := List.cons.inj hrest
    have hlogin := hnone (u, .shown .login) (by rw [← htail]; simp)
    cases hlogin

/-- There is one way to split a list at its last login. -/
lemma Opens.eq_of_append_eq {before before' rest : List Entry} (h : Opens t l)
    (heq : before ++ l = before' ++ (u, .shown .login) :: rest)
    (hrest : ∀ e ∈ rest, e.2.isLogin = false) : t = u ∧ l = (u, .shown .login) :: rest := by
  rcases append_eq_append_cons heq with ⟨gap, -, rfl⟩ | ⟨gap, rfl⟩
  · obtain ⟨rfl, rfl⟩ := h.eq_nil
    exact ⟨rfl, rfl⟩
  · obtain ⟨others, rfl, -⟩ := h
    rw [List.append_assoc, List.append_cancel_left_eq, List.cons_append] at heq
    obtain ⟨-, htail⟩ := List.cons.inj heq
    have hlogin := hrest (t, .shown .login) (by rw [← htail]; simp)
    cases hlogin

/-- Between a login and the next one lies one round. -/
lemma Rounds.exists_round {begun t₀ : Instant} {past current before between after : List Entry}
    (h : Rounds plan begun past t₀) (hcurrent : current = [] ∨ Opens t₀ current)
    (heq : past ++ current =
      (before ++ (t, .shown .login) :: between) ++ (u, .shown .login) :: after)
    (hbetween : ∀ e ∈ between, e.2.isLogin = false) :
    Round plan t ((t, .shown .login) :: between) u := by
  induction h generalizing current after with
  | none =>
    rcases hcurrent with rfl | hopens
    · simp at heq
    · rw [List.nil_append] at heq
      rw [heq] at hopens
      simpa using hopens.eq_nil.1
  | @snoc past word t' t₀ hpast hround ih =>
    -- The second login begins the round that is going on, or an earlier one.
    rcases append_eq_append_cons heq with ⟨gap, hsplit, rfl⟩ | ⟨gap, hsplit⟩
    · rcases hcurrent with hnil | hopens
      · simp at hnil
      · obtain ⟨rfl, rfl⟩ := hopens.eq_nil
        rw [List.append_nil] at hsplit
        obtain ⟨rfl, rfl⟩ := hround.opens.eq_of_append_eq hsplit.symm hbetween
        exact hround
    · exact ih (Or.inr hround.opens) hsplit

/-! ### The law of spacing -/

variable {σ : Type} {c : Collaborators σ} {begun : Instant}

lemma Chronicle.spaced {s : Scene σ} {before between after : List Entry}
    (h : Chronicle c plan begun s l)
    (hl : l = (before ++ (t, .shown .login) :: between) ++ (u, .shown .login) :: after)
    (hbetween : ∀ e ∈ between, e.2.isLogin = false) :
    Spaced plan t ((t, .shown .login) :: between) u := by
  obtain ⟨past, t₀, current, now, phase, rfl, hpast, hfits, -⟩ := h.exists_rounds
  exact (hpast.exists_round hfits.opens hl hbetween).spaced

/-- The entries of rounds in a row, each with the moment at which its login begins. -/
def inRow (rounds : List (Instant × List Entry)) : List Entry :=
  rounds.flatMap fun r => (r.1, .shown .login) :: r.2

/-- The moment at which the first login of some rounds in a row begins, or else the next one. -/
def firstLogin (rounds : List (Instant × List Entry)) (u : Instant) : Instant :=
  (rounds.head?.map Prod.fst).getD u

/-- Each round in a row that fails takes at least one pause. -/
lemma Chronicle.firstLogin_le {s : Scene σ} {before after : List Entry}
    (h : Chronicle c plan begun s l) {rounds : List (Instant × List Entry)}
    (hl : l = before ++ inRow rounds ++ (u, .shown .login) :: after)
    (hfailed : ∀ r ∈ rounds, (∀ e ∈ r.2, e.2.isLogin = false) ∧ noted Deed.failure? r.2 ≠ []) :
    firstLogin rounds u + rounds.length * plan.backoff.nanos ≤ u := by
  induction rounds generalizing before with
  | nil => simp [firstLogin]
  | cons r rest ih =>
    obtain ⟨t, between⟩ := r
    obtain ⟨hbetween, hfailure⟩ := hfailed (t, between) (List.mem_cons_self ..)
    have hsplit : l = (before ++ (t, .shown .login) :: between) ++ inRow rest ++
        (u, .shown .login) :: after := by
      rw [hl]
      simp [inRow]
    have hrest := ih hsplit fun r hr => hfailed r (List.mem_cons_of_mem _ hr)
    -- The next login is that of the next round in the row, or the one after them.
    have hnext : ∃ more, l = (before ++ (t, .shown .login) :: between) ++
        (firstLogin rest u, .shown .login) :: more := by
      cases rest with
      | nil => exact ⟨after, by rw [hl]; simp [inRow, firstLogin]⟩
      | cons r rest => exact ⟨r.2 ++ inRow rest ++ (u, .shown .login) :: after,
          by rw [hl]; simp [inRow, firstLogin]⟩
    obtain ⟨more, hmore⟩ := hnext
    have hstep : t + plan.backoff.nanos ≤ firstLogin rest u := by
      cases h.spaced hmore hbetween with
      | failed hle _ _ _ _ _ hover => exact Nat.le_trans (Nat.add_le_add_right hle _) hover
      | ended _ hnone => exact absurd hnone hfailure
    calc firstLogin ((t, between) :: rest) u + (rest.length + 1) * plan.backoff.nanos
        = t + plan.backoff.nanos + rest.length * plan.backoff.nanos := by
          rw [Nat.succ_mul, Nat.add_comm (rest.length * _), ← Nat.add_assoc]
          rfl
      _ ≤ firstLogin rest u + rest.length * plan.backoff.nanos := Nat.add_le_add_right hstep _
      _ ≤ u := hrest

/-- The spacing of logins.  If the round between two logins that follow one another failed, the
next login begins with the first whole millisecond at which one pause after the failure is over,
and one pause was announced; if it ended quietly, the next login begins at this moment, and no
pause was announced.  So after some rounds in a row that failed, the next login begins at least as
many pauses after the first of them. -/
theorem login_spacing {s : Scene σ} (h : Chronicle c plan begun s l) :
    (∀ before t between u after,
      l = (before ++ (t, .shown .login) :: between) ++ (u, .shown .login) :: after →
      (∀ e ∈ between, e.2.isLogin = false) →
      Spaced plan t ((t, .shown .login) :: between) u) ∧
    (∀ before rounds u after, l = before ++ inRow rounds ++ (u, .shown .login) :: after →
      (∀ r ∈ rounds, (∀ e ∈ r.2, e.2.isLogin = false) ∧ noted Deed.failure? r.2 ≠ []) →
      firstLogin rounds u + rounds.length * plan.backoff.nanos ≤ u) :=
  ⟨fun _ _ _ _ _ hl hbetween => h.spaced hl hbetween,
    fun _ _ _ _ hl hfailed => h.firstLogin_le hl hfailed⟩

/-- When its first pause is over, the keeper with the brittle collaborators logs in again. -/
lemma exists_chronicle_again : ∃ s, Chronicle Scene.brittle brittlePlan 0 s
    (brittleRound ++ [(5000000000, .shown .login)]) := by
  have hwoken := chronicle_paused.step (.move rfl)
  have hagain := hwoken.step (.move rfl)
  exact ⟨_, hagain⟩

/-- The second login of the keeper with the brittle collaborators comes one pause after the task
of the first watch crashed. -/
theorem login_spacing_again : ∃ s, Chronicle Scene.brittle brittlePlan 0 s
    (brittleRound ++ [(5000000000, .shown .login)]) ∧
      Spaced brittlePlan 0 brittleRound 5000000000 ∧
      firstLogin [(0, brittleRound.tail)] 5000000000 + 1 * brittlePlan.backoff.nanos ≤
        5000000000 := by
  obtain ⟨s, hs⟩ := exists_chronicle_again
  have hnone : ∀ e ∈ brittleRound.tail, e.2.isLogin = false := by
    simp [brittleRound, Deed.isLogin]
  refine ⟨s, hs, (login_spacing hs).1 [] 0 brittleRound.tail 5000000000 [] rfl hnone,
    (login_spacing hs).2 [] [(0, brittleRound.tail)] 5000000000 [] rfl fun r hr => ?_⟩
  rw [List.mem_singleton.mp hr]
  exact ⟨hnone, List.cons_ne_nil _ _⟩

end Keeper
end LeaseKeeper
