/-
# How settings are resolved

Five checks are made in a fixed order.  Settings are resolved exactly when all of them are passed,
and then each setting is the one on the builder, or else what its variable says, or else its
default.  If a check is not passed, the first such check is the one that is reported.  A variable
whose setting is on the builder has no influence, whatever it holds.
-/
import LeaseKeeper.Proofs.Settings.Seconds
import LeaseKeeper.Settings

namespace LeaseKeeper
namespace Settings

/-! ### Where a setting comes from -/

/-- The value of a setting: the one that is given, or else what the text of its variable means, or
else the usual one, if there is one. -/
inductive Chosen {α : Type} (given : Option α) (text : Option String) (means : String → α → Prop)
    (usual : Option α) (v : α) : Prop
  | given (h : given = some v)
  | read {raw : String} (hgiven : given = none) (htext : text = some raw) (h : means raw v)
  | usual (hgiven : given = none) (htext : text = none) (h : usual = some v)

/-- A text means a length of time: it spells its number of seconds. -/
def IsSeconds (raw : String) (d : Duration) : Prop := ∃ n, Seconds.Spells raw n ∧ d = .ofSeconds n

variable {given text usual : Option String} {v : String}

/-- Of texts the first one counts. -/
lemma chosen_iff : Chosen given text (· = ·) usual v ↔ (given.or text).or usual = some v := by
  constructor
  · rintro (rfl | ⟨rfl, rfl, rfl⟩ | ⟨rfl, rfl, rfl⟩) <;> rfl
  · intro h
    cases hgiven : given with
    | some w =>
      rw [hgiven] at h
      exact .given h
    | none =>
      rw [hgiven, Option.none_or] at h
      cases htext : text with
      | some w =>
        rw [htext] at h
        exact .read rfl rfl (Option.some.inj h)
      | none =>
        rw [htext, Option.none_or] at h
        exact .usual rfl rfl h

lemma Chosen.unique {w : String} (h : Chosen given text (· = ·) usual v)
    (h' : Chosen given text (· = ·) usual w) : v = w :=
  Option.some.inj ((chosen_iff.mp h).symm.trans (chosen_iff.mp h'))

lemma Chosen.eq_of_given {α : Type} {text : Option String} {means : String → α → Prop}
    {usual : Option α} {v w : α} (h : Chosen (some w) text means usual v) : v = w := by
  rcases h with hgiven | ⟨hgiven, -, -⟩ | ⟨hgiven, -, -⟩
  · exact (Option.some.inj hgiven).symm
  · cases hgiven
  · cases hgiven

lemma chosen_getD (given text : Option String) (usual : String) :
    Chosen given text (· = ·) (some usual) ((given.or text).getD usual) :=
  chosen_iff.mpr (by cases given.or text <;> rfl)

lemma chosen_tokenFile (given text : Option String) :
    Chosen (given.map some) text (fun raw v => some raw = v) (some none) (given.or text) := by
  cases given with
  | some path => exact .given rfl
  | none =>
    cases text with
    | some path => exact .read rfl rfl rfl
    | none => exact .usual rfl rfl rfl

namespace Builder

/-- Each setting comes from where it should.  There is no usual address, and the usual token file is
the one in the home directory; the name of the application has no variable. -/
structure Yields (b : Builder) (env : Environment) (s : Settings) : Prop where
  address : Chosen b.address (env.text? addressVar) (· = ·) none s.address
  method : Chosen b.method (env.text? methodVar) (· = ·) (some defaultMethod) s.method
  role : Chosen b.role (env.text? roleVar) (· = ·) (some defaultRole) s.role
  identityPath : Chosen b.identityPath (env.text? identityPathVar) (· = ·)
    (some defaultIdentityPath) s.identityPath
  tokenFile : Chosen (b.tokenFile.map some) (env.text? tokenFileVar) (fun raw v => some raw = v)
    (some none) s.tokenFile
  retryInterval : Chosen b.retryInterval (env.text? retryIntervalVar) IsSeconds
    (some defaultRetryInterval) s.retryInterval
  clientTimeout : Chosen b.clientTimeout (env.text? clientTimeoutVar) IsSeconds
    (some defaultClientTimeout) s.clientTimeout
  application : s.application = b.application

end Builder

/-! ### The checks -/

/-- What is checked. -/
inductive Check
  | address
  | retryInterval
  | clientTimeout
  | method
  | role
deriving DecidableEq

/-- The place of a check in their order. -/
def Check.place : Check → ℕ
  | address => 0
  | retryInterval => 1
  | clientTimeout => 2
  | method => 3
  | role => 4

lemma Check.place_injective : Function.Injective Check.place := by
  intro check other h
  cases check <;> cases other <;> simp_all [place]

/-- What the report of a check is about. -/
def Check.subject : Check → String
  | address => addressVar
  | retryInterval => retryIntervalVar
  | clientTimeout => clientTimeoutVar
  | method => "auth method"
  | role => "role"

/-- The fault that a check reports in an environment. -/
def Check.Reports (env : Environment) : Check → ConfigFault → Prop
  | address, fault => fault = .addressUnset
  | retryInterval, fault =>
    ∃ raw, env.text? retryIntervalVar = some raw ∧ fault = .notSeconds retryIntervalVar raw
  | clientTimeout, fault =>
    ∃ raw, env.text? clientTimeoutVar = some raw ∧ fault = .notSeconds clientTimeoutVar raw
  | method, fault => fault = .emptyMethod
  | role, fault => fault = .emptyRole

/-- A length of time is given, or there is no text, or the text spells a number of seconds. -/
def IsTimed (given : Option Duration) (text : Option String) : Prop :=
  (∃ d, given = some d) ∨ text = none ∨ ∃ raw n, text = some raw ∧ Seconds.Spells raw n

/-- A builder passes a check in an environment. -/
def Builder.Passes (b : Builder) (env : Environment) : Check → Prop
  | .address => ∃ a, Chosen b.address (env.text? addressVar) (· = ·) none a ∧ a ≠ ""
  | .retryInterval => IsTimed b.retryInterval (env.text? retryIntervalVar)
  | .clientTimeout => IsTimed b.clientTimeout (env.text? clientTimeoutVar)
  | .method => ∃ m, Chosen b.method (env.text? methodVar) (· = ·) (some defaultMethod) m ∧
      ∃ c ∈ m.toList, c ≠ '/'
  | .role => ∃ r, Chosen b.role (env.text? roleVar) (· = ·) (some defaultRole) r ∧ r ≠ ""

/-- A check is the first one that a builder does not pass. -/
structure Builder.FailsFirst (b : Builder) (env : Environment) (check : Check) : Prop where
  fails : ¬ b.Passes env check
  earlier : ∀ other, other.place < check.place → b.Passes env other

lemma message_notSeconds (name raw : String) :
    ∃ rest, (ConfigFault.notSeconds name raw).message = name ++ rest :=
  ⟨" must be a number of seconds, got " ++ Text.quoted raw, String.append_assoc ..⟩

/-- The text of a fault begins with what the check is about. -/
lemma Check.Reports.exists_message {env : Environment} {check : Check} {fault : ConfigFault}
    (h : check.Reports env fault) : ∃ rest, fault.message = check.subject ++ rest := by
  cases check with
  | address =>
    obtain rfl := h
    exact ⟨" is not set", by decide⟩
  | retryInterval =>
    obtain ⟨raw, -, rfl⟩ := h
    exact message_notSeconds retryIntervalVar raw
  | clientTimeout =>
    obtain ⟨raw, -, rfl⟩ := h
    exact message_notSeconds clientTimeoutVar raw
  | method =>
    obtain rfl := h
    exact ⟨" must not be empty", by decide⟩
  | role =>
    obtain rfl := h
    exact ⟨" must not be empty", by decide⟩

/-! ### Address and lengths of time -/

variable {env : Environment}

lemma chooseAddress_ok {given : Option String} {address : String}
    (h : chooseAddress given env = .ok address) :
    Chosen given (env.text? addressVar) (· = ·) none address ∧ address ≠ "" := by
  unfold chooseAddress at h
  split at h
  · cases h
  · rename_i a hgiven
    split at h
    · cases h
    · rename_i hne
      cases h
      exact ⟨chosen_iff.mpr (by rw [hgiven, Option.some_or]), hne⟩

lemma chooseAddress_error {given : Option String} {fault : ConfigFault}
    (h : chooseAddress given env = .error fault) :
    fault = .addressUnset ∧
      ∀ a, Chosen given (env.text? addressVar) (· = ·) none a → a = "" := by
  unfold chooseAddress at h
  split at h
  · rename_i hgiven
    cases h
    refine ⟨rfl, fun a ha => ?_⟩
    rw [chosen_iff, hgiven] at ha
    cases ha
  · rename_i a' hgiven
    split at h
    · rename_i hempty
      cases h
      refine ⟨rfl, fun a ha => ?_⟩
      rw [chosen_iff, hgiven, Option.some_or] at ha
      rw [← Option.some.inj ha, hempty]
    · cases h

lemma chooseInterval_ok {given : Option Duration} {name : String} {usual d : Duration}
    (h : chooseInterval given env name usual = .ok d) :
    Chosen given (env.text? name) IsSeconds (some usual) d ∧ IsTimed given (env.text? name) := by
  unfold chooseInterval at h
  split at h
  · cases h
    exact ⟨.given rfl, Or.inl ⟨d, rfl⟩⟩
  · split at h
    · rename_i htext
      cases h
      exact ⟨.usual rfl htext rfl, Or.inr (Or.inl htext)⟩
    · rename_i raw htext
      split at h
      · rename_i n hn
        cases h
        have hspells : Seconds.Spells raw n := Seconds.parse?_eq_some.mp hn
        exact ⟨.read rfl htext ⟨n, hspells, rfl⟩, Or.inr (Or.inr ⟨raw, n, htext, hspells⟩)⟩
      · cases h

lemma chooseInterval_error {given : Option Duration} {name : String} {usual : Duration}
    {fault : ConfigFault} (h : chooseInterval given env name usual = .error fault) :
    (∃ raw, env.text? name = some raw ∧ fault = .notSeconds name raw) ∧
      ¬ IsTimed given (env.text? name) := by
  unfold chooseInterval at h
  split at h
  · cases h
  · split at h
    · cases h
    · rename_i raw htext
      split at h
      · cases h
      · rename_i hnone
        cases h
        refine ⟨⟨raw, htext, rfl⟩, ?_⟩
        rintro (⟨d, hd⟩ | hunset | ⟨raw', n, htext', hspells⟩)
        · cases hd
        · rw [hunset] at htext
          cases htext
        · obtain rfl : raw = raw' := Option.some.inj (htext.symm.trans htext')
          rw [Seconds.parse?_eq_some.mpr hspells] at hnone
          cases hnone

/-! ### All settings -/

lemma bind_eq_ok {ε α β : Type} {x : Except ε α} {f : α → Except ε β} {b : β}
    (h : x >>= f = .ok b) : ∃ a, x = .ok a ∧ f a = .ok b := by
  cases x with
  | error e => cases h
  | ok a => exact ⟨a, rfl, h⟩

lemma bind_eq_error {ε α β : Type} {x : Except ε α} {f : α → Except ε β} {e : ε}
    (h : x >>= f = .error e) : x = .error e ∨ ∃ a, x = .ok a ∧ f a = .error e := by
  cases x with
  | error e' =>
    cases h
    exact Or.inl rfl
  | ok a => exact Or.inr ⟨a, rfl, h⟩

/-- A text is more than slashes exactly when something is left of it without them. -/
lemma trimSlashes_ne_empty {method : String} :
    Text.trimSlashes method ≠ "" ↔ ∃ c ∈ method.toList, c ≠ '/' := by
  rw [ne_eq, ← String.toList_inj, Text.toList_trimSlashes, String.toList_empty,
    Text.trimBoth_eq_nil_iff]
  push Not
  simp

namespace Builder

variable {b : Builder}

lemma passes_method : b.Passes env .method ↔
    Text.trimSlashes ((b.method.or (env.text? methodVar)).getD defaultMethod) ≠ "" := by
  have hchosen := chosen_getD b.method (env.text? methodVar) defaultMethod
  rw [trimSlashes_ne_empty]
  constructor
  · rintro ⟨m, hm, hother⟩
    rwa [← hm.unique hchosen]
  · exact fun hother => ⟨_, hchosen, hother⟩

lemma passes_role : b.Passes env .role ↔
    (b.role.or (env.text? roleVar)).getD defaultRole ≠ "" := by
  have hchosen := chosen_getD b.role (env.text? roleVar) defaultRole
  constructor
  · rintro ⟨r, hr, hne⟩
    rwa [← hr.unique hchosen]
  · exact fun hne => ⟨_, hchosen, hne⟩

/-- Settings that are resolved have passed all checks, and each comes from where it should. -/
lemma passes_of_resolve {s : Settings} (h : b.resolve env = .ok s) :
    (∀ check, b.Passes env check) ∧ b.Yields env s := by
  obtain ⟨address, haddress, h⟩ := bind_eq_ok h
  obtain ⟨retryInterval, hretry, h⟩ := bind_eq_ok h
  obtain ⟨clientTimeout, htimeout, h⟩ := bind_eq_ok h
  obtain ⟨haddress, hne⟩ := chooseAddress_ok haddress
  obtain ⟨hretry, htimed⟩ := chooseInterval_ok hretry
  obtain ⟨htimeout, htimed'⟩ := chooseInterval_ok htimeout
  dsimp only at h
  split at h
  · cases h
  · rename_i hmethod
    split at h
    · cases h
    · rename_i hrole
      cases h
      constructor
      · rintro (- | - | - | - | -)
        · exact ⟨address, haddress, hne⟩
        · exact htimed
        · exact htimed'
        · exact passes_method.mpr hmethod
        · exact passes_role.mpr hrole
      · exact
          { address := haddress
            method := chosen_getD ..
            role := chosen_getD ..
            identityPath := chosen_getD ..
            tokenFile := chosen_tokenFile ..
            retryInterval := hretry
            clientTimeout := htimeout
            application := rfl }

/-- Resolved settings have an address, and an auth method that is more than slashes. -/
lemma resolve_ok {s : Settings} (h : b.resolve env = .ok s) :
    s.address ≠ "" ∧ Text.trimSlashes s.method ≠ "" := by
  obtain ⟨hpasses, hyields⟩ := passes_of_resolve h
  obtain ⟨a, ha, hne⟩ := hpasses .address
  obtain ⟨m, hm, hother⟩ := hpasses .method
  rw [ha.unique hyields.address] at hne
  rw [hm.unique hyields.method] at hother
  exact ⟨hne, trimSlashes_ne_empty.mpr hother⟩

/-- If a check and those before it are passed, those before the next one are. -/
lemma passes_before {check : Check} (next : Check) (hnext : next.place = check.place + 1)
    (hearlier : ∀ other, other.place < check.place → b.Passes env other)
    (h : b.Passes env check) : ∀ other, other.place < next.place → b.Passes env other := by
  intro other hother
  rw [hnext, Nat.lt_succ_iff_lt_or_eq] at hother
  rcases hother with hlt | heq
  · exact hearlier other hlt
  · rwa [Check.place_injective heq]

/-- A fault is reported by the first check that is not passed. -/
lemma failsFirst_of_resolve {fault : ConfigFault} (h : b.resolve env = .error fault) :
    ∃ check, b.FailsFirst env check ∧ check.Reports env fault := by
  have hnone : ∀ other : Check, other.place < Check.address.place → b.Passes env other := nofun
  rcases bind_eq_error h with h | ⟨address, haddress, h⟩
  · obtain ⟨rfl, hempty⟩ := chooseAddress_error h
    exact ⟨.address, ⟨fun ⟨a, ha, hne⟩ => hne (hempty a ha), hnone⟩, rfl⟩
  have haddress := passes_before .retryInterval rfl hnone
    ⟨address, chooseAddress_ok haddress⟩
  rcases bind_eq_error h with h | ⟨retryInterval, hretry, h⟩
  · obtain ⟨hreports, hfails⟩ := chooseInterval_error h
    exact ⟨.retryInterval, ⟨hfails, haddress⟩, hreports⟩
  have hretry := passes_before .clientTimeout rfl haddress (chooseInterval_ok hretry).2
  rcases bind_eq_error h with h | ⟨clientTimeout, htimeout, h⟩
  · obtain ⟨hreports, hfails⟩ := chooseInterval_error h
    exact ⟨.clientTimeout, ⟨hfails, hretry⟩, hreports⟩
  have htimeout := passes_before .method rfl hretry (chooseInterval_ok htimeout).2
  dsimp only at h
  split at h
  · rename_i hmethod
    cases h
    exact ⟨.method, ⟨fun hpasses => passes_method.mp hpasses hmethod, htimeout⟩, rfl⟩
  rename_i hmethod
  have hmethod := passes_before .role rfl htimeout (passes_method.mpr hmethod)
  split at h
  · rename_i hrole
    cases h
    exact ⟨.role, ⟨fun hpasses => passes_role.mp hpasses hrole, hmethod⟩, rfl⟩
  · cases h

lemma resolves_iff : (∃ s, b.resolve env = .ok s) ↔ ∀ check, b.Passes env check := by
  constructor
  · rintro ⟨s, hs⟩
    exact (passes_of_resolve hs).1
  · intro hpasses
    cases h : b.resolve env with
    | ok s => exact ⟨s, rfl⟩
    | error fault =>
      obtain ⟨check, hfirst, -⟩ := failsFirst_of_resolve h
      exact absurd (hpasses check) hfirst.fails

/-! ### Shadowed variables -/

/-- Two environments agree on the variables whose settings are not on a builder. -/
structure Agree (b : Builder) (env env' : Environment) : Prop where
  address : b.address = none → env.text? addressVar = env'.text? addressVar
  method : b.method = none → env.text? methodVar = env'.text? methodVar
  role : b.role = none → env.text? roleVar = env'.text? roleVar
  identityPath : b.identityPath = none → env.text? identityPathVar = env'.text? identityPathVar
  tokenFile : b.tokenFile = none → env.text? tokenFileVar = env'.text? tokenFileVar
  retryInterval : b.retryInterval = none →
    env.text? retryIntervalVar = env'.text? retryIntervalVar
  clientTimeout : b.clientTimeout = none →
    env.text? clientTimeoutVar = env'.text? clientTimeoutVar

lemma or_eq_or {given text text' : Option String} (h : given = none → text = text') :
    given.or text = given.or text' := by
  cases given with
  | some => rfl
  | none => rw [h rfl]

lemma chooseInterval_eq {given : Option Duration} {env env' : Environment} {name : String}
    (usual : Duration) (h : given = none → env.text? name = env'.text? name) :
    chooseInterval given env name usual = chooseInterval given env' name usual := by
  cases given with
  | some => rfl
  | none =>
    unfold chooseInterval
    rw [h rfl]

lemma Agree.resolve_eq {env' : Environment} (h : b.Agree env env') :
    b.resolve env = b.resolve env' := by
  unfold resolve chooseAddress
  rw [or_eq_or h.address, or_eq_or h.method, or_eq_or h.role, or_eq_or h.identityPath,
    or_eq_or h.tokenFile, chooseInterval_eq _ h.retryInterval, chooseInterval_eq _ h.clientTimeout]

/-- Settings are resolved exactly when all checks are passed, and each then comes from where it
should; otherwise the first check that is not passed reports its fault, in a text that says what the
check is about.  Environments that agree on the variables whose settings are not on the builder make
no difference. -/
theorem resolve_settles (b : Builder) (env : Environment) :
    ((∃ s, b.resolve env = .ok s) ↔ ∀ check, b.Passes env check) ∧
      (∀ s, b.resolve env = .ok s → b.Yields env s) ∧
      (∀ fault, b.resolve env = .error fault →
        ∃ check, b.FailsFirst env check ∧ check.Reports env fault ∧
          ∃ rest, (KeeperError.misconfigured fault).message =
            "Invalid configuration: " ++ (check.subject ++ rest)) ∧
      ∀ env', b.Agree env env' → b.resolve env' = b.resolve env := by
  refine ⟨resolves_iff, fun s hs => (passes_of_resolve hs).2, ?_,
    fun env' h => h.resolve_eq.symm⟩
  intro fault h
  obtain ⟨check, hfirst, hreports⟩ := failsFirst_of_resolve h
  obtain ⟨rest, hmessage⟩ := hreports.exists_message
  exact ⟨check, hfirst, hreports, rest, congrArg ("Invalid configuration: " ++ ·) hmessage⟩

/-- Variables that hold no number and no address make no difference to a builder that has these
settings. -/
theorem resolve_settles_shadowed :
    let b : Builder := { address := some "http://vault", retryInterval := some (.ofSeconds 1) }
    let s : Settings := ⟨"http://vault", defaultMethod, defaultRole, defaultIdentityPath, none,
      .ofSeconds 1, defaultClientTimeout, none⟩
    let env : Environment :=
      ⟨[(retryIntervalVar, Text.bytes "30s"), (addressVar, Text.bytes "")]⟩
    b.Agree env .empty ∧ b.resolve env = .ok s ∧ b.resolve .empty = .ok s ∧ b.Yields env s := by
  intro b s env
  have hagree : b.Agree env .empty :=
    { address := nofun
      method := fun _ => by decide +kernel
      role := fun _ => by decide +kernel
      identityPath := fun _ => by decide +kernel
      tokenFile := fun _ => by decide +kernel
      retryInterval := nofun
      clientTimeout := fun _ => by decide +kernel }
  have hs : b.resolve env = .ok s := by decide +kernel
  obtain ⟨-, hyields, -, hshadowed⟩ := resolve_settles b env
  exact ⟨hagree, hs, (hshadowed .empty hagree).trans hs, hyields s hs⟩

/-- An empty address on the builder does not fall back on its variable, and it is reported before
the retry interval. -/
example : Builder.resolve { address := some "" }
    ⟨[(retryIntervalVar, Text.bytes "30s"), (addressVar, Text.bytes "http://vault")]⟩ =
      .error .addressUnset := by
  decide +kernel

end Builder

end Settings
end LeaseKeeper
