/-
# Lengths of time from their variables

Two settings are lengths of time.  A text in the variable of one of them that spells a number of
seconds settles it as the same number of seconds on the builder would, for every number below
`2 ^ 64`; nothing is wrapped or cut.  Any other text is refused, and the report names the variable
unless an earlier check has failed already.
-/
import LeaseKeeper.Proofs.Settings.Resolution

namespace LeaseKeeper
namespace Settings

/-- The settings that are lengths of time. -/
inductive Interval
  | retry
  | timeout

namespace Interval

/-- The variable of a setting. -/
def name : Interval → String
  | retry => retryIntervalVar
  | timeout => clientTimeoutVar

/-- The check of a setting. -/
def check : Interval → Check
  | retry => .retryInterval
  | timeout => .clientTimeout

/-- What a builder holds for a setting. -/
def given (b : Builder) : Interval → Option Duration
  | retry => b.retryInterval
  | timeout => b.clientTimeout

/-- A builder with a length of time for a setting. -/
def give (b : Builder) (d : Duration) : Interval → Builder
  | retry => { b with retryInterval := some d }
  | timeout => { b with clientTimeout := some d }

/-- What a setting has become. -/
def value (s : Settings) : Interval → Duration
  | retry => s.retryInterval
  | timeout => s.clientTimeout

variable {i : Interval} {b : Builder} {env : Environment} {raw : String} {n : UInt64}

/-! ### Reading a variable -/

variable {variableName : String} {usual : Duration}

lemma chooseInterval_eq_ok_iff {d : Duration} (htext : env.text? variableName = some raw) :
    chooseInterval none env variableName usual = .ok d ↔
      ∃ n, Seconds.Spells raw n ∧ d = .ofSeconds n := by
  constructor
  · intro h
    obtain ⟨hchosen, -⟩ := chooseInterval_ok h
    rw [htext] at hchosen
    rcases hchosen with hgiven | ⟨-, hraw, hmeans⟩ | ⟨-, hunset, -⟩
    · cases hgiven
    · obtain rfl := Option.some.inj hraw
      exact hmeans
    · cases hunset
  · rintro ⟨n, hspells, rfl⟩
    simp only [chooseInterval, htext, Seconds.parse?_eq_some.mpr hspells]

lemma chooseInterval_eq_error_iff {fault : ConfigFault}
    (htext : env.text? variableName = some raw) :
    chooseInterval none env variableName usual = .error fault ↔
      (∀ n, ¬ Seconds.Spells raw n) ∧ fault = .notSeconds variableName raw := by
  have hfault : ∀ fault, chooseInterval none env variableName usual = .error fault →
      (∀ n, ¬ Seconds.Spells raw n) ∧ fault = .notSeconds variableName raw := by
    intro fault h
    obtain ⟨⟨raw', htext', hfault⟩, hnot⟩ := chooseInterval_error h
    refine ⟨fun n hspells => hnot (Or.inr (Or.inr ⟨raw, n, htext, hspells⟩)), ?_⟩
    rw [hfault, Option.some.inj (htext'.symm.trans htext)]
  refine ⟨hfault fault, ?_⟩
  rintro ⟨hspells, rfl⟩
  cases h : chooseInterval none env variableName usual with
  | ok d =>
    obtain ⟨n, hn, -⟩ := (chooseInterval_eq_ok_iff htext).mp h
    exact absurd hn (hspells n)
  | error fault => rw [(hfault fault h).2]

/-! ### Resolving all settings -/

lemma passes_check_iff :
    b.Passes env i.check ↔ IsTimed (i.given b) (env.text? i.name) := by
  cases i <;> rfl

lemma reports_check_iff {fault : ConfigFault} :
    i.check.Reports env fault ↔
      ∃ raw, env.text? i.name = some raw ∧ fault = .notSeconds i.name raw := by
  cases i <;> rfl

/-- A text in the variable of a setting that is not on the builder is accepted exactly when it
spells a number. -/
lemma passes_check_of_text (hgiven : i.given b = none) (htext : env.text? i.name = some raw) :
    b.Passes env i.check ↔ ∃ n, Seconds.Spells raw n := by
  rw [passes_check_iff, hgiven, htext]
  constructor
  · rintro (⟨d, hd⟩ | hunset | ⟨raw', n, hraw, hspells⟩)
    · cases hd
    · cases hunset
    · obtain rfl := Option.some.inj hraw
      exact ⟨n, hspells⟩
  · rintro ⟨n, hspells⟩
    exact Or.inr (Or.inr ⟨raw, n, rfl, hspells⟩)

/-- A number that is spelt does what the same number on the builder would do. -/
lemma resolve_eq_give (hgiven : i.given b = none) (htext : env.text? i.name = some raw)
    (hspells : Seconds.Spells raw n) :
    b.resolve env = (i.give b (.ofSeconds n)).resolve env := by
  have hchoose : ∀ usual, chooseInterval (i.given b) env i.name usual = .ok (.ofSeconds n) := by
    intro usual
    rw [hgiven]
    exact (chooseInterval_eq_ok_iff htext).mpr ⟨n, hspells, rfl⟩
  unfold Builder.resolve
  cases i with
  | retry =>
    have hretry : chooseInterval b.retryInterval env retryIntervalVar defaultRetryInterval =
      .ok (.ofSeconds n) := hchoose _
    rw [hretry]
    rfl
  | timeout =>
    have htimeout : chooseInterval b.clientTimeout env clientTimeoutVar defaultClientTimeout =
      .ok (.ofSeconds n) := hchoose _
    rw [htimeout]
    rfl

/-- A length of time on the builder is what the setting becomes. -/
lemma value_of_resolve_give {d : Duration} {s : Settings}
    (h : (i.give b d).resolve env = .ok s) : i.value s = d := by
  have hyields := (Builder.passes_of_resolve h).2
  cases i with
  | retry => exact hyields.retryInterval.eq_of_given
  | timeout => exact hyields.clientTimeout.eq_of_given

/-- A text that spells no number is the fault that is reported, if the checks before are passed. -/
lemma fault_of_text {fault : ConfigFault} (hgiven : i.given b = none)
    (htext : env.text? i.name = some raw) (hspells : ∀ n, ¬ Seconds.Spells raw n)
    (hearlier : ∀ check, check.place < i.check.place → b.Passes env check)
    (h : b.resolve env = .error fault) : fault = .notSeconds i.name raw := by
  have hfails : ¬ b.Passes env i.check := by
    rw [passes_check_of_text hgiven htext]
    exact not_exists.mpr hspells
  obtain ⟨check, hfirst, hreports⟩ := Builder.failsFirst_of_resolve h
  -- The check that is reported is neither before nor after this one.
  have hplace : check.place = i.check.place := by
    rcases lt_trichotomy check.place i.check.place with hlt | heq | hgt
    · exact absurd (hearlier check hlt) hfirst.fails
    · exact heq
    · exact absurd (hfirst.earlier i.check hgt) hfails
  rw [Check.place_injective hplace, reports_check_iff] at hreports
  obtain ⟨raw', htext', hfault⟩ := hreports
  rw [hfault, Option.some.inj (htext'.symm.trans htext)]

/-- The text in the variable of a length of time that is not on the builder.  Read on its own, it is
a number of seconds exactly when it spells this number, and a fault that names the variable exactly
when it spells none.  The spellings of a number are its numeral with any zeros and perhaps a plus
sign in front and any white space around.  If all other settings are in order, settings are resolved
exactly when the text spells a number.  In any case a spelling does what the number on the builder
would do, and the setting becomes exactly this number; and any other text leads to a fault, which is
the one about the variable if the checks before are passed. -/
theorem text_settles (i : Interval) {b : Builder} {env : Environment} {raw : String}
    (hgiven : i.given b = none) (htext : env.text? i.name = some raw) :
    (∀ usual d, chooseInterval (i.given b) env i.name usual = .ok d ↔
      ∃ n, Seconds.Spells raw n ∧ d = .ofSeconds n) ∧
    (∀ usual fault, chooseInterval (i.given b) env i.name usual = .error fault ↔
      (∀ n, ¬ Seconds.Spells raw n) ∧ fault = .notSeconds i.name raw) ∧
    (∀ n, Seconds.Spells raw n ↔ Seconds.IsNumeral raw n) ∧
    ((∀ check, check ≠ i.check → b.Passes env check) →
      ((∃ s, b.resolve env = .ok s) ↔ ∃ n, Seconds.Spells raw n)) ∧
    (∀ n, Seconds.Spells raw n →
      b.resolve env = (i.give b (.ofSeconds n)).resolve env ∧
        ∀ s, b.resolve env = .ok s → i.value s = .ofSeconds n ∧
          (i.value s).nanos = n.toNat * 1000000000) ∧
    ((∀ n, ¬ Seconds.Spells raw n) →
      ∃ fault, b.resolve env = .error fault ∧
        ((∀ check, check.place < i.check.place → b.Passes env check) →
          fault = .notSeconds i.name raw ∧
            (KeeperError.misconfigured fault).message = "Invalid configuration: " ++
              (i.name ++ " must be a number of seconds, got " ++ Text.quoted raw))) := by
  have hpasses := passes_check_of_text hgiven htext
  rw [hgiven]
  refine ⟨fun usual d => chooseInterval_eq_ok_iff htext,
    fun usual fault => chooseInterval_eq_error_iff htext, fun n => Seconds.spells_iff,
    fun hothers => ?_, fun n hspells => ?_, fun hspells => ?_⟩
  · rw [Builder.resolves_iff, ← hpasses]
    refine ⟨fun hall => hall i.check, fun hcheck check => ?_⟩
    by_cases hsame : check = i.check
    · exact hsame ▸ hcheck
    · exact hothers check hsame
  · have hgive := resolve_eq_give hgiven htext hspells
    refine ⟨hgive, fun s hs => ?_⟩
    have hvalue : i.value s = .ofSeconds n := value_of_resolve_give (hgive.symm.trans hs)
    exact ⟨hvalue, congrArg Duration.nanos hvalue⟩
  · cases h : b.resolve env with
    | ok s =>
      have hcheck := (Builder.passes_of_resolve h).1 i.check
      exact absurd (hpasses.mp hcheck) (not_exists.mpr hspells)
    | error fault =>
      refine ⟨fault, rfl, fun hearlier => ?_⟩
      obtain rfl := fault_of_text hgiven htext hspells hearlier h
      exact ⟨rfl, rfl⟩

/-- The largest number is accepted, with zeros, a sign and white space around it; the next one is
not, and its variable is named. -/
theorem text_settles_largest :
    let b : Builder := { address := some "http://vault" }
    let env : Environment := ⟨[(clientTimeoutVar, Text.bytes "\u2003+0018446744073709551615\n")]⟩
    let env' : Environment := ⟨[(retryIntervalVar, Text.bytes "18446744073709551616")]⟩
    (∃ s, b.resolve env = .ok s ∧ s.clientTimeout.nanos = 18446744073709551615 * 1000000000) ∧
      b.resolve env' = .error (.notSeconds retryIntervalVar "18446744073709551616") := by
  intro b env env'
  constructor
  · have htext : env.text? timeout.name = some "\u2003+0018446744073709551615\n" := by
      decide +kernel
    have hspells : Seconds.Spells "\u2003+0018446744073709551615\n" 18446744073709551615 :=
      Seconds.parse?_eq_some.mp (by decide +kernel)
    have hothers : ∀ check, check ≠ timeout.check → b.Passes env check := by
      rintro (- | - | - | - | -) hne
      · exact ⟨_, .given rfl, by decide⟩
      · exact Or.inr (Or.inl (by decide +kernel))
      · exact absurd rfl hne
      · exact ⟨_, .usual rfl (by decide +kernel) rfl, 'k', by decide, by decide⟩
      · exact ⟨_, .usual rfl (by decide +kernel) rfl, by decide⟩
    obtain ⟨-, -, -, haccepted, hexact, -⟩ := text_settles timeout (b := b) rfl htext
    obtain ⟨s, hs⟩ := (haccepted hothers).mpr ⟨_, hspells⟩
    exact ⟨s, hs, ((hexact _ hspells).2 s hs).2⟩
  · have htext : env'.text? retry.name = some "18446744073709551616" := by decide +kernel
    have hspells : ∀ n, ¬ Seconds.Spells "18446744073709551616" n := by
      intro n h
      have hnone : Seconds.parse? "18446744073709551616" = none := by decide +kernel
      rw [Seconds.parse?_eq_some.mpr h] at hnone
      cases hnone
    have hearlier : ∀ check, check.place < retry.check.place → b.Passes env' check := by
      rintro (- | - | - | - | -) hlt
      · exact ⟨_, .given rfl, by decide⟩
      all_goals exact absurd hlt (by decide)
    obtain ⟨-, -, -, -, -, hrefused⟩ := text_settles retry (b := b) rfl htext
    obtain ⟨fault, hfault, hnames⟩ := hrefused hspells
    rwa [(hnames hearlier).1] at hfault

end Interval

end Settings
end LeaseKeeper
