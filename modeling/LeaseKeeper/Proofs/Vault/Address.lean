/-
# The client of accepted settings

Settings are accepted with any address that is not empty, and the client leaves out the slashes at
its end.  With an address that has another character than slashes, the client can only be refused
for the name that its requests carry, and its base is the address as the client itself would have
it.  An address of slashes alone is accepted as well, but leaves nothing: the client has the empty
base, from which no client can be built and under which no login is ever sent.
-/
import LeaseKeeper.Agent
import LeaseKeeper.Proofs.Vault.LoginPath
import Mathlib.Data.List.DropRight

namespace LeaseKeeper

namespace Vault

open Http (Url)

/-! ### Bases -/

@[simp] lemma toList_trimBase (address : String) :
    (Client.trimBase address).toList = address.toList.rdropWhile (· == '/') := by
  simp [Client.trimBase, Text.trimEnd, List.rdropWhile]

/-- An address is its base with some slashes after it. -/
lemma exists_slashes (address : String) :
    ∃ n, address = Client.trimBase address ++ String.ofList (List.replicate n '/') := by
  have hsplit := List.rdropWhile_append_rtakeWhile (p := (· == '/')) (l := address.toList)
  have hall : ∀ c ∈ address.toList.rtakeWhile (· == '/'), c = '/' := by
    intro c hc
    simpa using List.mem_rtakeWhile_imp hc
  refine ⟨(address.toList.rtakeWhile (· == '/')).length, ?_⟩
  rw [← List.eq_replicate_of_mem hall, ← String.toList_inj]
  simp [hsplit]

/-- Nothing is left of an address only if it has no character but slashes. -/
lemma trimBase_eq_empty_iff {address : String} :
    Client.trimBase address = "" ↔ ∀ c ∈ address.toList, c = '/' := by
  rw [← String.toList_inj, toList_trimBase, String.toList_empty, List.rdropWhile_eq_nil_iff]
  simp

lemma getLast?_trimBase (address : String) :
    (Client.trimBase address).toList.getLast? ≠ some '/' := by
  rw [toList_trimBase]
  intro hlast
  have hne : address.toList.rdropWhile (· == '/') ≠ [] := by
    intro hnil
    simp [hnil] at hlast
  have hslash : (address.toList.rdropWhile (· == '/')).getLast hne = '/' := by
    rwa [List.getLast?_eq_getLast_of_ne_nil hne, Option.some_inj] at hlast
  exact List.rdropWhile_last_not _ _ hne (by simp [hslash])

lemma trimBase_trimBase (address : String) :
    Client.trimBase (Client.trimBase address) = Client.trimBase address := by
  rw [← String.toList_inj]
  simp [List.rdropWhile_idempotent]

/-! ### Addresses that begin with a slash -/

/-- A member that does not satisfy `p` is not trimmed off. -/
lemma trimBoth_cons {α : Type} {p : α → Bool} {a : α} (h : p a = false) (l : List α) :
    ∃ rest, Text.trimBoth p (a :: l) = a :: rest := by
  have hall : Text.trimBoth p (a :: l) = (a :: l).rdropWhile p := by
    simp [Text.trimBoth, List.rdropWhile, h]
  have hprefix : Text.trimBoth p (a :: l) <+: a :: l := hall ▸ List.rdropWhile_prefix p _
  have hne : Text.trimBoth p (a :: l) ≠ [] := by
    rw [hall]
    intro hnil
    have hp := List.rdropWhile_eq_nil_iff.mp hnil a List.mem_cons_self
    rw [h] at hp
    cases hp
  obtain ⟨first, rest, hrest⟩ := List.exists_cons_of_ne_nil hne
  rw [hrest] at hprefix
  rw [hrest, (List.cons_prefix_cons.mp hprefix).1]
  exact ⟨rest, rfl⟩

lemma scheme?_slash (rest : List Char) : Url.scheme? ('/' :: rest) = none := by
  have htake : ('/' :: rest).takeWhile (fun c => !(c == ':')) =
      '/' :: rest.takeWhile (fun c => !(c == ':')) := rfl
  unfold Url.scheme? Url.cutAt
  rw [htake]
  cases ('/' :: rest).dropWhile (fun c => !(c == ':')) with
  | nil => rfl
  | cons colon after => rfl

/-- A text that begins with a slash is no address: it has no scheme. -/
lemma parse?_slash {text : String} {rest : List Char} (h : text.toList = '/' :: rest) :
    Url.parse? text = none := by
  obtain ⟨kept, hkept⟩ : ∃ kept, Url.trimmed text = '/' :: kept := by
    rw [Url.trimmed, h]
    exact trimBoth_cons (by decide) rest
  rw [Url.parse?, hkept, scheme?_slash]
  rfl

/-! ### The client -/

namespace Client

variable {address : String} {application : Option String}

/-- A client is as good as an address and an auth method allow: its base is the address without
the slashes at its end, another client built from this base is the same, whatever the environment,
and a login goes to the base with a login path below it. -/
structure Serves (c : Client) (address method : String) : Prop where
  base_ne : c.base ≠ ""
  last_ne : c.base.toList.getLast? ≠ some '/'
  slashes : ∃ n, address = c.base ++ String.ofList (List.replicate n '/')
  again : ∀ env, build (some c.base) c.application env = .ok c
  login : ∃ mount, mount ≠ "" ∧ ∀ identity role r,
    c.loginRequest method identity role = .ok r →
      ∃ url, Url.parse? (c.base ++ "/v1/auth/" ++ (mount ++ "/login")) = some url ∧
        r = ⟨.post, url.withoutUser, c.application, none, some (loginDocument identity role)⟩

/-- An address is used as it is given; the environment does not count. -/
lemma build_of_ne (h : address ≠ "") (application : Option String) (env : Environment) :
    build (some address) application env =
      if application.all isHeaderValue then .ok ⟨trimBase address, application⟩
      else .error (.transport (.unbuildable none)) := by
  unfold build
  exact if_neg h

lemma request_ok {c : Client} {endpoint document : String} {r : Http.Request}
    (h : c.request endpoint none document = .ok r) :
    ∃ url, Url.parse? (c.base ++ "/v1/auth/" ++ endpoint) = some url ∧
      r = ⟨.post, url.withoutUser, c.application, none, some document⟩ := by
  unfold request at h
  split at h
  · cases h
  · rename_i url hurl
    split at h
    · cases h
    · cases h
      exact ⟨url, hurl, rfl⟩

/-- A client with another base than the empty one serves the address that it is built for. -/
lemma serves_of_build {method : String} (hmethod : Text.trimSlashes method ≠ "")
    (happlication : application.all isHeaderValue = true)
    (hbase : trimBase address ≠ "") :
    Serves ⟨trimBase address, application⟩ address method := by
  obtain ⟨mount, hmount, hpath⟩ := (isLoginPath_loginPath hmethod).mount
  refine
    { base_ne := hbase
      last_ne := getLast?_trimBase address
      slashes := exists_slashes address
      again := ?_
      login := ⟨mount, hmount, ?_⟩ }
  · intro env
    rw [build_of_ne hbase, if_pos happlication, trimBase_trimBase]
  · intro identity role r hr
    rw [loginRequest, hpath] at hr
    exact request_ok hr

/-- Under the empty base there is no address to log in at. -/
lemma loginRequest_of_empty (application : Option String) (method identity role : String) :
    loginRequest ⟨"", application⟩ method identity role = .error (.unbuildable none) := by
  have htext : ("" ++ "/v1/auth/" ++ loginPath method).toList =
      '/' :: ("v1/auth/".toList ++ (loginPath method).toList) := by
    simp
  rw [loginRequest, request, parse?_slash htext]

end Client

/-- The client of accepted settings.  It is refused for its name or not at all.  If the address has
another character than slashes, the client serves it; else it has the empty base, from which no
other client is built, and none of its logins is sent. -/
theorem accepted_settings_client {b : Settings.Builder} {env : Environment} {s : Settings}
    (h : b.resolve env = .ok s) (env' : Environment) :
    (∀ e, Client.build (some s.address) s.application env' = .error e →
      e = .transport (.unbuildable none) ∧ s.application.any (!isHeaderValue ·) = true ∧
        Agent.ofSettings s = .error (.vault e)) ∧
    (s.application.all isHeaderValue = true →
      ∃ client agent, Client.build (some s.address) s.application env' = .ok client ∧
        Agent.ofSettings s = .ok agent ∧ agent.client = client ∧ agent.auth.method = s.method ∧
        client.application = s.application ∧
        ((∃ c ∈ s.address.toList, c ≠ '/') → client.Serves s.address s.method) ∧
        ((∀ c ∈ s.address.toList, c = '/') →
          client.base = "" ∧
          Client.build (some client.base) client.application env' = .error .addressMissing ∧
          ∀ identity role,
            client.loginRequest s.method identity role = .error (.unbuildable none))) := by
  obtain ⟨haddress, hmethod⟩ := Settings.Builder.resolve_ok h
  constructor
  · intro e he
    rw [Client.build_of_ne haddress] at he
    split at he
    · cases he
    · rename_i hname
      cases he
      have hrefused : s.application.any (!isHeaderValue ·) = true := by
        cases happlication : s.application with
        | none => simp [happlication] at hname
        | some name => simpa [happlication] using hname
      refine ⟨rfl, hrefused, ?_⟩
      unfold Agent.ofSettings
      rw [Client.build_of_ne haddress, if_neg hname]
  · intro hname
    have hbuild : ∀ env, Client.build (some s.address) s.application env =
        .ok ⟨Client.trimBase s.address, s.application⟩ := by
      intro env
      rw [Client.build_of_ne haddress, if_pos hname]
    have hagent : ∃ agent, Agent.ofSettings s = .ok agent ∧
        agent.client = ⟨Client.trimBase s.address, s.application⟩ ∧
        agent.auth.method = s.method := by
      unfold Agent.ofSettings
      rw [hbuild]
      exact ⟨_, rfl, rfl, rfl⟩
    obtain ⟨agent, hok, hclient, hauth⟩ := hagent
    refine ⟨_, agent, hbuild env', hok, hclient, hauth, rfl, ?_, ?_⟩
    · rintro ⟨c, hc, hne⟩
      refine Client.serves_of_build hmethod hname fun hempty => hne ?_
      exact trimBase_eq_empty_iff.mp hempty c hc
    · intro hslashes
      have hempty := trimBase_eq_empty_iff.mpr hslashes
      refine ⟨hempty, ?_, ?_⟩
      · simp [hempty, Client.build]
      · intro identity role
        rw [hempty]
        exact Client.loginRequest_of_empty _ _ _ _

/-- Two slashes after an address are left out, whatever the environment says later. -/
theorem accepted_settings_client_slashes :
    let b : Settings.Builder := { address := some "http://vault:8200//", application := some "app" }
    let s : Settings := ⟨"http://vault:8200//", Settings.defaultMethod, Settings.defaultRole,
      Settings.defaultIdentityPath, none, Settings.defaultRetryInterval,
      Settings.defaultClientTimeout, some "app"⟩
    let env' : Environment := ⟨[("VAULT_ADDR", Text.bytes "/")]⟩
    b.resolve .empty = .ok s ∧
      ∃ client, Client.build (some s.address) s.application env' = .ok client ∧
        client.Serves s.address s.method := by
  intro b s env'
  have hs : b.resolve .empty = .ok s := by decide +kernel
  have hname : s.application.all isHeaderValue = true := by decide +kernel
  obtain ⟨client, agent, hbuild, -, -, -, -, hserves, -⟩ :=
    (accepted_settings_client hs env').2 hname
  exact ⟨hs, client, hbuild, hserves ⟨'h', by simp [s], by decide⟩⟩

/-- An address of one slash is accepted, and from the base that its client has no other client can
be built. -/
theorem accepted_slash :
    ∃ s client, Settings.Builder.resolve {} ⟨[("VAULT_ADDR", Text.bytes "/")]⟩ = .ok s ∧
      Client.build (some s.address) s.application .empty = .ok client ∧
      client.base = "" ∧
      Client.build (some client.base) s.application .empty = .error .addressMissing :=
  ⟨⟨"/", Settings.defaultMethod, Settings.defaultRole, Settings.defaultIdentityPath, none,
    Settings.defaultRetryInterval, Settings.defaultClientTimeout, none⟩, ⟨"", none⟩,
    by decide +kernel, by decide +kernel, rfl, by decide +kernel⟩

end Vault
end LeaseKeeper
