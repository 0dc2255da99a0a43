/-
# What is kept with spans

A span starts with a copy of the fields kept with the span that it is made under, and fields are
added to it later; nothing else changes what is kept with it.  So what holds of no fields, and still
holds when fields are added, holds of the fields kept with each span, whatever a log is told.
-/
import LeaseKeeper.Log.Session
import Mathlib.Data.List.Basic

namespace LeaseKeeper
namespace Log

/-- What holds of no fields, and still holds when fields are added. -/
structure Lasts (P : Stored → Prop) : Prop where
  nil : P []
  add : ∀ {s : Stored} (fields : List Field), P s → P (s.add fields)

namespace Spans

/-- `P` holds of the fields kept with each span. -/
def Keeps (P : Stored → Prop) (made : List Span) : Prop := ∀ span ∈ made, P span.kept

variable {P : Stored → Prop} {made : List Span} {s : Spans}

/-- A change of one span. -/
lemma Keeps.modify (h : Keeps P made) (i : Nat) {f : Span → Span}
    (hf : ∀ span, P span.kept → P (f span).kept) : Keeps P (made.modify i f) := by
  intro span hspan
  obtain ⟨j, hj⟩ := List.mem_iff_getElem?.mp hspan
  rw [List.getElem?_modify] at hj
  cases hmade : made[j]? with
  | none => simp [hmade] at hj
  | some old =>
    have hold : P old.kept := h old (List.mem_of_getElem? hmade)
    by_cases hij : i = j
    · have hspan : f old = span := by simpa [hmade, hij] using hj
      rw [← hspan]
      exact hf old hold
    · have hspan : old = span := by simpa [hmade, hij] using hj
      rw [← hspan]
      exact hold

lemma Keeps.set (h : Keeps P made) {i : Nat} {old : Span} (hold : made[i]? = some old)
    (keepers : Nat) : Keeps P (made.set i { old with keepers }) := by
  intro span hspan
  rcases List.mem_or_eq_of_mem_set hspan with hmem | rfl
  · exact h span hmem
  · exact h old (List.mem_of_getElem? hold)

lemma Keeps.letGo (h : Keeps P made) (i : Nat) : Keeps P (letGo made i) := by
  induction i using Nat.strongRecOn generalizing made with
  | ind i ih =>
    unfold Spans.letGo
    split
    · exact h
    · rename_i old hold
      have hset : Keeps P (made.set i { old with keepers := old.keepers - 1 }) := h.set hold _
      split
      · exact hset
      · rename_i p hparent
        split
        · rename_i hlast
          exact ih p hlast.2 hset
        · exact hset

lemma Keeps.keep (h : Keeps P made) (i : Nat) : Keeps P (keep made i) :=
  h.modify i fun _ hspan => hspan

/-- The fields kept with the current span. -/
lemma Keeps.current (h : Keeps P s.made) (hP : Lasts P) :
    P ((s.current.map Span.kept).getD []) := by
  cases hs : s.current with
  | none => exact hP.nil
  | some span =>
    obtain ⟨i, -, hi⟩ := Option.bind_eq_some_iff.mp hs
    exact h span (List.mem_of_getElem? hi)

lemma Keeps.make (h : Keeps P s.made) (hP : Lasts P) (name : String) (fields : List Field) :
    Keeps P (s.make name fields).made := by
  have hnew : P (Stored.add ((s.current.map Span.kept).getD []) fields) :=
    hP.add fields (h.current hP)
  unfold Spans.make
  intro span hspan
  rcases List.mem_append.mp hspan with hmem | hmem
  · split at hmem
    · exact h span hmem
    · exact h.keep _ span hmem
  · rw [List.mem_singleton.mp hmem]
    exact hnew

lemma Keeps.note (h : Keeps P s.made) (hP : Lasts P) (i : Nat) (fields : List Field) :
    Keeps P (s.note i fields).made :=
  h.modify i fun _ hspan => hP.add fields hspan

/-- The fields of the current span as a record sees it. -/
lemma Keeps.scope (h : Keeps P s.made) (hP : Lasts P) (storage : Bool) {scope : Scope}
    (hscope : s.scope storage = some scope) : P scope.fields := by
  obtain ⟨span, hspan, rfl⟩ := Option.map_eq_some_iff.mp hscope
  have hkept := h.current hP
  rw [hspan] at hkept
  cases storage with
  | true => exact hkept
  | false => exact hP.nil

end Spans

namespace Session

open Spans

/-! ### What a log goes through -/

section

variable {Q : Session → Prop} {s : Session} (k : Sink)

/-- A span may be made or not, and then the handle of an earlier one may be given up. -/
lemma makeSpan_of (id : String) {name : String} (site : Site) {fields : List Field} (h : Q s)
    (hmake : ∀ held gates, Q { s with spans := s.spans.make name fields, held, gates })
    (hrelease : ∀ {s : Session} id i, Q s → Q (s.release id i)) :
    Q (s.makeSpan k id name site fields) := by
  unfold makeSpan
  cases s.held.lookup id with
  | none =>
    dsimp only
    split
    · exact hmake _ _
    · exact h
  | some i =>
    dsimp only
    split
    · exact hrelease id i (hmake _ _)
    · exact hrelease id i h

/-- Something may be done with a span, or nothing. -/
lemma withHeld_of (id : String) {f : Session → Nat → Session} (h : Q s) (hf : ∀ i, Q (f s i)) :
    Q (s.withHeld id f) := by
  unfold withHeld
  split
  · exact h
  · exact hf _

/-- Whatever the log is told, one of these things is done, or nothing. -/
lemma act_of (a : Act) (h : Q s) (hwrite : ∀ e, Q (s.write k e))
    (hmake : ∀ name fields held gates,
      Q { s with spans := s.spans.make name fields, held, gates })
    (hrelease : ∀ {s : Session} id i, Q s → Q (s.release id i)) (henter : ∀ i, Q (s.enter i))
    (hleave : ∀ i, Q (s.leave i)) (hnote : ∀ i fields, Q (s.note i fields)) : Q (act k s a) := by
  cases a with
  | event e =>
    show Q (if s.passes k _ then s.write k e else s)
    split
    · exact hwrite e
    · exact h
  | forwarded level target text =>
    show Q (if s.passes k _ then s.write k _ else s)
    split
    · exact hwrite _
    · exact h
  | span id name target level fields => exact makeSpan_of k id _ h (hmake name fields) hrelease
  | enter id => exact withHeld_of id h henter
  | exit id => exact withHeld_of id h hleave
  | close id =>
    exact withHeld_of (f := fun s i => s.release id i) id h fun i => hrelease id i h
  | record id fields =>
    exact withHeld_of (f := fun s i => s.note i fields) id h fun i => hnote i fields

end

/-! ### What is kept -/

variable {P : Stored → Prop} {s : Session}

/-- To write a line changes no span. -/
lemma spans_write (s : Session) (k : Sink) (e : Event) : (s.write k e).spans = s.spans := by
  unfold write
  split <;> rfl

/-- Whatever the log is told, `P` goes on to hold of the fields kept with each span. -/
lemma keeps_act (hP : Lasts P) (k : Sink) (h : Keeps P s.spans.made) (a : Act) :
    Keeps P (act k s a).spans.made := by
  refine act_of (Q := fun s => Keeps P s.spans.made) k a h ?write ?make ?release ?enter ?leave ?note
  case write =>
    intro e
    rwa [spans_write]
  case make => exact fun name fields _ _ => h.make hP name fields
  case release => exact fun _ i hs => hs.letGo i
  case enter => exact fun _ => h
  case leave => exact fun _ => h
  case note => exact fun i fields => h.note hP i fields

lemma keeps_run (hP : Lasts P) (k : Sink) (acts : List Act) (h : Keeps P s.spans.made) :
    Keeps P (acts.foldl (act k) s).spans.made := by
  induction acts generalizing s with
  | nil => exact h
  | cons a rest ih => exact ih (keeps_act hP k h a)

end Session
end Log
end LeaseKeeper
