/-
# The errors below an error

An error may name the error that caused it, this one the next, and so on.  Such a chain always ends.
It has one error for each failed renewal, and one more if the innermost error holds an input or
output error or an error of the log's setup.  Down to there the text of each error ends with the
text of the error below it, so the text of the outermost one never hides the reason.  An input or
output error can have causes of its own, which follow in the chain, and which no text above need
show.
-/
import LeaseKeeper.Fault.Keeper
import Mathlib.Data.List.Chain

namespace LeaseKeeper

/-- An error of any kind. -/
inductive Fault
  | vault (error : VaultError)
  | keeper (error : KeeperError)
  | io (error : IoError)
  | setup (error : SetupError)
  | payload (error : Payload)
deriving DecidableEq

/-! ### Failed renewals and what they hold -/

/-- How many failed renewals are around an error of a request. -/
def VaultError.layers : VaultError → ℕ
  | renewalFailed reason => reason.layers + 1
  | _ => 0

/-- An error of a request without the failed renewals around it. -/
def VaultError.core : VaultError → VaultError
  | renewalFailed reason => reason.core
  | error => error

/-- The error right below an error of a request. -/
def VaultError.below? : VaultError → Option Fault
  | identityUnavailable _ cause => some (.io cause)
  | renewalFailed reason => some (.vault reason)
  | _ => none

namespace Fault

/-- The text of an error for its reader. -/
def message : Fault → String
  | vault error => error.message
  | keeper error => error.message
  | io error => error.message
  | setup error => error.message
  | payload error => error.message

/-- The texts of the errors below an error, the nearest first. -/
def sources : Fault → List String
  | vault error => error.sources
  | keeper error => error.sources
  | io error => error.sources
  | setup _ => []
  | payload error => error.sources

/-- How many failed renewals are around an error. -/
def layers : Fault → ℕ
  | vault error => error.layers
  | keeper (.vault error) => error.layers
  | _ => 0

/-- The innermost error, inside all failed renewals. -/
def core : Fault → Fault
  | vault error => vault error.core
  | keeper (.vault error) => vault error.core
  | error => error

/-- An error is made from an input or output error, or from an error of the log's setup. -/
inductive Wraps : Fault → Fault → Prop
  | identity {path : String} {cause : IoError} :
      Wraps (vault (.identityUnavailable path cause)) (io cause)
  | token {path : String} {cause : IoError} : Wraps (keeper (.notPersisted path cause)) (io cause)
  | logging {cause : SetupError} : Wraps (keeper (.logging cause)) (setup cause)
  | signals {cause : IoError} : Wraps (keeper (.signals cause)) (io cause)

/-- The error right below an error.  An error of a request passes through the keeper's. -/
def below? : Fault → Option Fault
  | vault error => error.below?
  | keeper (.vault error) => error.below?
  | keeper (.notPersisted _ cause) => some (io cause)
  | keeper (.logging cause) => some (setup cause)
  | keeper (.signals cause) => some (io cause)
  | keeper _ => none
  | io error => error.below?.map payload
  | setup _ => none
  | payload error => error.below?.map payload

/-- These errors are below an error, the nearest first, and nothing is below the last one. -/
inductive Chain : Fault → List Fault → Prop
  | nil {error : Fault} (h : error.below? = none) : Chain error []
  | cons {error cause : Fault} {rest : List Fault} (h : error.below? = some cause)
      (hrest : Chain cause rest) : Chain error (cause :: rest)

/-- The text of an error ends with the text of another. -/
def EndsWith (outer inner : Fault) : Prop := inner.message.toList <:+ outer.message.toList

instance : Trans EndsWith EndsWith EndsWith := ⟨fun h h' => h'.trans h⟩

/-- These errors are below an error that others are made from, and they are those below the error
of a caller in it: without such an error in it there are none. -/
def Brings (root : Fault) (own : List Fault) : Prop :=
  root.Chain own ∧
    (own ≠ [] → ∃ kind inner, root = io (.boxed kind inner) ∧ (payload inner).Chain own)

/-- Where the errors that a text tells of come to an end. -/
inductive Rooted (error : Fault) : List Fault → List Fault → Prop
  /-- There is one error for each failed renewal, and one more that the innermost error is made
  from.  What follows is what this one brings along. -/
  | wrapped {root : Fault} {told own : List Fault} (hwraps : error.core.Wraps root)
      (hlength : told.length = error.layers + 1) (hlast : told.getLast? = some root)
      (hown : root.Brings own) : Rooted error told own
  /-- The innermost error is made from no other, and nothing follows. -/
  | bare {told : List Fault} (hbare : ∀ root, ¬ error.core.Wraps root)
      (hlength : told.length = error.layers) : Rooted error told []

/-- The errors below an error are first those that its text tells of, and then those that only the
last of these brings along. -/
structure Told (error : Fault) (told own : List Fault) : Prop where
  /-- These errors are below the error, and no others. -/
  chain_iff (chain : List Fault) : error.Chain chain ↔ chain = told ++ own
  sources_eq : error.sources = (told ++ own).map message
  rooted : error.Rooted told own
  /-- Each text ends with the next one. -/
  isChain : (error :: told).IsChain EndsWith
  endsWith : ∀ cause ∈ told, error.EndsWith cause

variable {error root : Fault} {chain told own : List Fault}

/-! ### Chains -/

lemma sources_eq (error : Fault) :
    error.sources = match error.below? with
      | some cause => cause.message :: cause.sources
      | none => [] := by
  cases error with
  | vault error => cases error <;> rfl
  | keeper error =>
    cases error with
    | vault error => cases error <;> rfl
    | _ => rfl
  | io error =>
    cases error with
    | boxed kind inner => cases inner <;> rfl
    | _ => rfl
  | setup error => rfl
  | payload error => cases error <;> rfl

lemma Chain.map_message (h : error.Chain chain) : error.sources = chain.map message := by
  induction h with
  | nil hnone => rw [sources_eq, hnone, List.map_nil]
  | cons hsome hrest ih => rw [sources_eq, hsome, List.map_cons, ← ih]

lemma Chain.unique {other : List Fault} (h : error.Chain chain) (h' : error.Chain other) :
    other = chain := by
  induction h generalizing other with
  | nil hnone =>
    cases h' with
    | nil => rfl
    | cons hsome =>
      rw [hnone] at hsome
      cases hsome
  | cons hsome hrest ih =>
    cases h' with
    | nil hnone =>
      rw [hnone] at hsome
      cases hsome
    | cons hsome' hrest' =>
      obtain rfl := Option.some.inj (hsome.symm.trans hsome')
      rw [ih hrest']

/-- Errors with the same error below them have the same chain. -/
lemma chain_congr (error other : Fault) (h : error.below? = other.below?) :
    error.Chain chain ↔ other.Chain chain := by
  constructor
  · rintro (hnone | ⟨hsome, hrest⟩)
    · exact .nil (h.symm.trans hnone)
    · exact .cons (h.symm.trans hsome) hrest
  · rintro (hnone | ⟨hsome, hrest⟩)
    · exact .nil (h.trans hnone)
    · exact .cons (h.trans hsome) hrest

lemma exists_chain_payload (error : Payload) : ∃ chain, (payload error).Chain chain := by
  induction error with
  | root => exact ⟨_, .nil rfl⟩
  | caused message debug cause ih =>
    obtain ⟨rest, hrest⟩ := ih
    exact ⟨_, .cons rfl hrest⟩

lemma brings_nil (h : error.below? = none) : error.Brings [] := ⟨.nil h, fun h => absurd rfl h⟩

/-- Below an input or output error is what is below the error of the caller in it. -/
lemma exists_brings_io (error : IoError) : ∃ own, (io error).Brings own := by
  cases error with
  | boxed kind inner =>
    obtain ⟨own, hown⟩ := exists_chain_payload inner
    have hio := (chain_congr (io (.boxed kind inner)) (payload inner) rfl).mpr hown
    exact ⟨own, hio, fun _ => ⟨kind, inner, rfl, hown⟩⟩
  | _ => exact ⟨[], brings_nil rfl⟩

/-! ### From the innermost error outwards -/

lemma Told.of_chain (hchain : error.Chain (told ++ own)) (hrooted : error.Rooted told own)
    (hends : (error :: told).IsChain EndsWith) : error.Told told own where
  chain_iff _ := ⟨hchain.unique, fun h => h ▸ hchain⟩
  sources_eq := hchain.map_message
  rooted := hrooted
  isChain := hends
  endsWith _ hcause := hends.rel_cons hcause

lemma suffix_append (front text : String) : text.toList <:+ (front ++ text).toList := by
  rw [String.toList_append]
  exact List.suffix_append ..

/-- An error that is made from another one ends with its text. -/
lemma Wraps.endsWith (h : error.Wraps root) : error.EndsWith root := by
  cases h <;> exact suffix_append ..

lemma Wraps.exists_told (h : error.Wraps root) : ∃ told own, error.Told told own := by
  have hbelow : error.below? = some root := by cases h <;> rfl
  have hlayers : error.layers = 0 := by cases h <;> rfl
  have hcore : error.core = error := by cases h <;> rfl
  obtain ⟨own, hown⟩ : ∃ own, root.Brings own := by
    cases h with
    | identity => exact exists_brings_io _
    | token => exact exists_brings_io _
    | logging => exact ⟨[], brings_nil rfl⟩
    | signals => exact exists_brings_io _
  refine ⟨[root], own, .of_chain (.cons hbelow hown.1) ?_
    (List.isChain_cons_cons.mpr ⟨h.endsWith, .singleton _⟩)⟩
  exact .wrapped (hcore.symm ▸ h) (by rw [hlayers]; rfl) rfl hown

/-- An error with nothing below it that is no failed renewal. -/
lemma told_nil (hbelow : error.below? = none) (hbare : ∀ root, ¬ error.core.Wraps root)
    (hlayers : error.layers = 0) : error.Told [] [] :=
  .of_chain (.nil hbelow) (.bare hbare hlayers.symm) (.singleton _)

/-- A failed renewal adds one error, the reason. -/
lemma Told.renewal {reason : VaultError} (h : (vault reason).Told told own) :
    (vault (.renewalFailed reason)).Told (vault reason :: told) own := by
  refine .of_chain (.cons rfl ((h.chain_iff _).mpr rfl)) ?_
    (List.isChain_cons_cons.mpr ⟨suffix_append .., h.isChain⟩)
  -- The failed renewal has the same innermost error, and one layer more.
  cases h.rooted with
  | wrapped hwraps hlength hlast hown =>
    refine .wrapped hwraps (congrArg (· + 1) hlength) ?_ hown
    rw [List.getLast?_cons, hlast, Option.getD_some]
  | bare hbare hlength => exact .bare hbare (congrArg (· + 1) hlength)

lemma exists_told_vault (error : VaultError) : ∃ told own, (vault error).Told told own := by
  induction error with
  | identityUnavailable path cause => exact Wraps.identity.exists_told
  | renewalFailed reason ih =>
    obtain ⟨told, own, htold⟩ := ih
    exact ⟨_, own, htold.renewal⟩
  | _ => exact ⟨[], [], told_nil rfl (by rintro root ⟨⟩) rfl⟩

/-- An error of a request is told in the same way inside the keeper's. -/
lemma Told.passed {request : VaultError} (h : (vault request).Told told own) :
    (keeper (.vault request)).Told told own := by
  have hchain := (chain_congr (keeper (.vault request)) (vault request) rfl).mpr
    ((h.chain_iff _).mpr rfl)
  refine .of_chain hchain ?_ ?_
  · cases h.rooted with
    | wrapped hwraps hlength hlast hown => exact .wrapped hwraps hlength hlast hown
    | bare hbare hlength => exact .bare hbare hlength
  · cases told with
    | nil => exact .singleton _
    | cons cause rest =>
      obtain ⟨hends, hrest⟩ := List.isChain_cons_cons.mp h.isChain
      exact List.isChain_cons_cons.mpr ⟨hends, hrest⟩

lemma exists_told_keeper (error : KeeperError) : ∃ told own, (keeper error).Told told own := by
  cases error with
  | vault request =>
    obtain ⟨told, own, htold⟩ := exists_told_vault request
    exact ⟨told, own, htold.passed⟩
  | homeUnknown => exact ⟨[], [], told_nil rfl (by rintro root ⟨⟩) rfl⟩
  | notPersisted path cause => exact Wraps.token.exists_told
  | misconfigured cause => exact ⟨[], [], told_nil rfl (by rintro root ⟨⟩) rfl⟩
  | logging cause => exact Wraps.logging.exists_told
  | signals cause => exact Wraps.signals.exists_told

/-- Below every error of a request or of the keeper there is one chain of errors, and it ends.  It
has one error for each failed renewal, and one more if the innermost error is made from an input or
output error or an error of the log's setup.  So far the text of each error ends with that of the
next one, and the text of the outermost error with those of all others.  What follows is what is
below the input or output error by itself.  An error of a request has the same text and the same
chain inside the keeper's. -/
theorem text_ends_with_wrapped :
    (∀ request : VaultError, ∃ told own, (vault request).Told told own) ∧
      (∀ error : KeeperError, ∃ told own, (keeper error).Told told own) ∧
      ∀ request : VaultError, (keeper (.vault request)).message = (vault request).message ∧
        ∀ chain, (keeper (.vault request)).Chain chain ↔ (vault request).Chain chain :=
  ⟨exists_told_vault, exists_told_keeper, fun _ => ⟨rfl, fun _ => chain_congr _ _ rfl⟩⟩

/-- An identity file that could not be read, for a reason that has a cause. -/
def keyExpired : IoError :=
  .boxed .other (.caused "no identity" "NoIdentity" (.root "key expired" "KeyExpired"))

/-- Two failed renewals around an error with a chain of its own. -/
theorem text_ends_with_wrapped_nested :
    let identity : VaultError := .identityUnavailable "/jwt" keyExpired
    let error : KeeperError := .vault (.renewalFailed (.renewalFailed identity))
    error.message = "Lease renewal failed: Lease renewal failed: " ++
        "Identity assertion unavailable at /jwt: no identity" ∧
      (keeper error).Told [vault (.renewalFailed identity), vault identity, io keyExpired]
        [payload (.root "key expired" "KeyExpired")] := by
  intro identity error
  have hchain : (keeper error).Chain
      ([vault (.renewalFailed identity), vault identity, io keyExpired] ++
        [payload (.root "key expired" "KeyExpired")]) :=
    .cons rfl (.cons rfl (.cons rfl (.cons rfl (.nil rfl))))
  obtain ⟨told, own, htold⟩ := text_ends_with_wrapped.2.1 error
  have hlength : told.length = 3 := by
    cases htold.rooted with
    | wrapped hwraps hlength => exact hlength
    | bare hbare => exact absurd .identity (hbare (io keyExpired))
  obtain ⟨rfl, rfl⟩ := List.append_inj ((htold.chain_iff _).mp hchain).symm hlength
  exact ⟨by decide +kernel, htold⟩

/-- The cause of the reason is in the chain, but no text above shows it. -/
theorem hidden_below_wrapped :
    let cause := payload (.root "key expired" "KeyExpired")
    let error := vault (.identityUnavailable "/jwt" keyExpired)
    error.layers = 0 ∧ error.core.Wraps (io keyExpired) ∧
      error.Chain [io keyExpired, cause] ∧
      ¬ (∃ chain, error.Chain chain ∧ chain.length = error.layers + 1) ∧
      ¬ (∃ chain, error.Chain chain ∧ (error :: chain).IsChain EndsWith) := by
  intro cause error
  have hchain : error.Chain [io keyExpired, cause] := .cons rfl (.cons rfl (.nil rfl))
  refine ⟨rfl, .identity, hchain, ?_, ?_⟩
  · rintro ⟨chain, h, hlength⟩
    rw [hchain.unique h] at hlength
    cases hlength
  · rintro ⟨chain, h, hends⟩
    rw [hchain.unique h] at hends
    have hhidden : error.EndsWith cause := hends.rel_cons (by simp)
    revert hhidden
    unfold EndsWith
    decide +kernel

end Fault
end LeaseKeeper
