/-
# The normal form of a login path

Whatever slashes stand around an auth method that settings are accepted with, its login path is some
mount with `/login` after it and no slash at either end.  The path of a path is the path itself, so
a mount and its login path lead to the same endpoint.  Methods that differ by more than the slashes
around them share a path only if one is a mount and the other this mount with `/login` after it.
-/
import LeaseKeeper.Proofs.Settings.Resolution
import LeaseKeeper.Vault.Login

namespace LeaseKeeper

/-! ### Accepted methods -/

/-- Some settings are resolved with this auth method. -/
def Settings.Accepts (method : String) : Prop :=
  ∃ (b : Builder) (env : Environment) (s : Settings), b.resolve env = .ok s ∧ s.method = method

/-- Settings are accepted with all methods that are more than slashes, and with no others. -/
lemma Settings.accepts_iff {method : String} : Accepts method ↔ ∃ c ∈ method.toList, c ≠ '/' := by
  constructor
  · rintro ⟨b, env, s, hs, rfl⟩
    exact trimSlashes_ne_empty.mp (Builder.resolve_ok hs).2
  · intro h
    let b : Builder := { address := some "http://vault", method := some method }
    have hpasses : ∀ check, b.Passes .empty check := by
      rintro (- | - | - | - | -)
      · exact ⟨_, .given rfl, by decide⟩
      · exact Or.inr (Or.inl rfl)
      · exact Or.inr (Or.inl rfl)
      · exact ⟨method, .given rfl, h⟩
      · exact ⟨_, .usual rfl rfl rfl, by decide⟩
    obtain ⟨s, hs⟩ := Builder.resolves_iff.mpr hpasses
    exact ⟨b, .empty, s, hs, (Builder.passes_of_resolve hs).2.method.unique (.given rfl)⟩

namespace Vault

open Text (trimSlashes)

variable {method other path : String}

/-! ### Trimmed methods -/

lemma isTrimmed_trimSlashes (method : String) :
    Text.IsTrimmed (· == '/') method.toList (trimSlashes method).toList := by
  rw [Text.toList_trimSlashes]
  exact Text.isTrimmed_trimBoth _ _

/-- A text without slashes at its ends stays as it is. -/
lemma trimSlashes_eq_self (hfirst : path.toList.head? ≠ some '/')
    (hlast : path.toList.getLast? ≠ some '/') : trimSlashes path = path := by
  have htrimmed : Text.IsTrimmed (· == '/') path.toList path.toList := by
    refine ⟨⟨[], [], by simp, nofun, nofun⟩, fun c hc => ?_, fun c hc => ?_⟩
    · exact beq_eq_false_iff_ne.mpr fun heq => hfirst (heq ▸ hc)
    · exact beq_eq_false_iff_ne.mpr fun heq => hlast (heq ▸ hc)
  rw [← String.toList_inj, Text.toList_trimSlashes, ← htrimmed.eq_trimBoth]

lemma head?_trimSlashes (method : String) : (trimSlashes method).toList.head? ≠ some '/' :=
  fun h => absurd ((isTrimmed_trimSlashes method).first _ h) (by decide)

lemma getLast?_trimSlashes (method : String) : (trimSlashes method).toList.getLast? ≠ some '/' :=
  fun h => absurd ((isTrimmed_trimSlashes method).last _ h) (by decide)

lemma trimSlashes_trimSlashes (method : String) :
    trimSlashes (trimSlashes method) = trimSlashes method :=
  trimSlashes_eq_self (head?_trimSlashes method) (getLast?_trimSlashes method)

/-! ### Login paths -/

/-- A method that has `/login` at its end already. -/
def HasLogin (method : String) : Prop := ∃ mount, method = mount ++ "/login"

lemma isSuffixOf_toList_iff : "/login".toList.isSuffixOf path.toList = true ↔ HasLogin path := by
  rw [List.isSuffixOf_iff_suffix]
  constructor
  · rintro ⟨mount, hmount⟩
    refine ⟨String.ofList mount, ?_⟩
    rw [← String.toList_inj, ← hmount]
    simp
  · rintro ⟨mount, rfl⟩
    exact ⟨mount.toList, (String.toList_append ..).symm⟩

lemma loginPath_of_hasLogin (h : HasLogin (trimSlashes method)) :
    loginPath method = trimSlashes method := by
  rw [← isSuffixOf_toList_iff, Text.toList_trimSlashes] at h
  exact if_pos h

lemma loginPath_of_not_hasLogin (h : ¬ HasLogin (trimSlashes method)) :
    loginPath method = trimSlashes method ++ "/login" := by
  rw [← isSuffixOf_toList_iff, Text.toList_trimSlashes] at h
  rw [← String.toList_inj, String.toList_append, Text.toList_trimSlashes]
  exact (congrArg String.toList (if_neg h)).trans (String.toList_ofList ..)

/-- Slashes around a method make no difference. -/
lemma loginPath_trimSlashes (method : String) :
    loginPath (trimSlashes method) = loginPath method := by
  have htrim := trimSlashes_trimSlashes method
  by_cases h : HasLogin (trimSlashes method)
  · rw [loginPath_of_hasLogin (htrim.symm ▸ h), loginPath_of_hasLogin h, htrim]
  · rw [loginPath_of_not_hasLogin (htrim.symm ▸ h), loginPath_of_not_hasLogin h, htrim]

/-- Some mount with `/login` after it, and no slash at either end. -/
structure IsLoginPath (path : String) : Prop where
  mount : ∃ mount, mount ≠ "" ∧ path = mount ++ "/login"
  first : path.toList.head? ≠ some '/'
  last : path.toList.getLast? ≠ some '/'

lemma isLoginPath_append {mount : String} (hne : mount ≠ "")
    (hfirst : mount.toList.head? ≠ some '/') : IsLoginPath (mount ++ "/login") := by
  refine ⟨⟨mount, hne, rfl⟩, ?_, ?_⟩
  · rwa [String.toList_append, List.head?_append_of_ne_nil]
    rwa [ne_eq, String.toList_eq_nil_iff]
  · rw [String.toList_append, List.getLast?_append_of_ne_nil _ (by decide)]
    decide

lemma isLoginPath_loginPath (h : trimSlashes method ≠ "") : IsLoginPath (loginPath method) := by
  by_cases hlogin : HasLogin (trimSlashes method)
  · obtain ⟨mount, hmount⟩ := id hlogin
    have hfirst := head?_trimSlashes method
    have hne : mount ≠ "" := by
      rintro rfl
      rw [hmount] at hfirst
      exact hfirst rfl
    rw [loginPath_of_hasLogin hlogin, hmount]
    refine isLoginPath_append hne ?_
    rwa [hmount, String.toList_append, List.head?_append_of_ne_nil] at hfirst
    rwa [ne_eq, String.toList_eq_nil_iff]
  · rw [loginPath_of_not_hasLogin hlogin]
    exact isLoginPath_append h (head?_trimSlashes method)

/-- The login path of a login path is this path itself. -/
lemma IsLoginPath.loginPath_eq (h : IsLoginPath path) : loginPath path = path := by
  obtain ⟨mount, -, hmount⟩ := h.mount
  have htrim : trimSlashes path = path := trimSlashes_eq_self h.first h.last
  rw [loginPath_of_hasLogin (htrim.symm ▸ ⟨mount, hmount⟩), htrim]

/-! ### Methods with one path -/

/-- The one method is a mount, and the other this mount with `/login` after it. -/
def Completes (whole mount : String) : Prop := whole = mount ++ "/login" ∧ ¬ HasLogin mount

lemma append_login_inj {a b : String} (h : a ++ "/login" = b ++ "/login") : a = b := by
  have hlist := congrArg String.toList h
  rw [String.toList_append, String.toList_append] at hlist
  exact String.toList_inj.mp (List.append_cancel_right hlist)

/-- Which methods have the same path. -/
lemma loginPath_eq_iff : loginPath method = loginPath other ↔
    trimSlashes method = trimSlashes other ∨
      Completes (trimSlashes method) (trimSlashes other) ∨
      Completes (trimSlashes other) (trimSlashes method) := by
  by_cases h : HasLogin (trimSlashes method)
  · by_cases h' : HasLogin (trimSlashes other)
    · rw [loginPath_of_hasLogin h, loginPath_of_hasLogin h']
      simp [Completes, h, h']
    · rw [loginPath_of_hasLogin h, loginPath_of_not_hasLogin h']
      constructor
      · exact fun heq => Or.inr (Or.inl ⟨heq, h'⟩)
      · rintro (heq | ⟨heq, -⟩ | ⟨-, hnot⟩)
        · exact absurd (heq ▸ h) h'
        · exact heq
        · exact absurd h hnot
  · by_cases h' : HasLogin (trimSlashes other)
    · rw [loginPath_of_not_hasLogin h, loginPath_of_hasLogin h']
      constructor
      · exact fun heq => Or.inr (Or.inr ⟨heq.symm, h⟩)
      · rintro (heq | ⟨-, hnot⟩ | ⟨heq, -⟩)
        · exact absurd (heq ▸ h') h
        · exact absurd h' hnot
        · exact heq.symm
    · rw [loginPath_of_not_hasLogin h, loginPath_of_not_hasLogin h']
      constructor
      · exact fun heq => Or.inl (append_login_inj heq)
      · rintro (heq | ⟨heq, -⟩ | ⟨heq, -⟩)
        · rw [heq]
        · exact absurd ⟨_, heq⟩ h
        · exact absurd ⟨_, heq⟩ h'

/-- The login path of an accepted method, which is more than slashes, is in normal form.  It is the
path of the method without the slashes around it and its own path, so that a login with it is the
login with the method; and the methods with the same path are those that are the same without the
slashes around them, or of which one completes the other. -/
theorem loginPath_normal_form (h : Settings.Accepts method) :
    (∃ c ∈ method.toList, c ≠ '/') ∧
      IsLoginPath (loginPath method) ∧
      loginPath (trimSlashes method) = loginPath method ∧
      loginPath (loginPath method) = loginPath method ∧
      (∀ (c : Client) identity role,
        c.loginRequest (loginPath method) identity role = c.loginRequest method identity role) ∧
      ∀ other, loginPath method = loginPath other ↔
        trimSlashes method = trimSlashes other ∨
          Completes (trimSlashes method) (trimSlashes other) ∨
          Completes (trimSlashes other) (trimSlashes method) := by
  have hother := Settings.accepts_iff.mp h
  have hpath : IsLoginPath (loginPath method) :=
    isLoginPath_loginPath (Settings.trimSlashes_ne_empty.mpr hother)
  have hsame : loginPath (loginPath method) = loginPath method := hpath.loginPath_eq
  refine ⟨hother, hpath, loginPath_trimSlashes method, hsame, fun c identity role => ?_,
    fun other => loginPath_eq_iff⟩
  rw [Client.loginRequest, hsame, Client.loginRequest]

/-- A mount that is called `login` is a mount all the same. -/
theorem loginPath_normal_form_login :
    Settings.Accepts "/login/" ∧ loginPath "/login/" = "login/login" ∧
      loginPath "login/login" = "login/login" := by
  have haccepts : Settings.Accepts "/login/" := Settings.accepts_iff.mpr ⟨'l', by decide, by decide⟩
  have hpath : loginPath "/login/" = "login/login" := by decide +kernel
  obtain ⟨-, -, -, hsame, -⟩ := loginPath_normal_form haccepts
  rw [hpath] at hsame
  exact ⟨haccepts, hpath, hsame⟩

end Vault
end LeaseKeeper
