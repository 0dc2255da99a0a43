/-
# What trimming leaves

A trimmed list is what stands between members with a property at the two ends of a list, and it has
no such member at its own ends.  There is one such list.
-/
import LeaseKeeper.Text.Blank
import Mathlib.Data.List.Basic
import Mathlib.Data.List.TakeWhile

namespace LeaseKeeper
namespace Text

variable {α : Type} {p : α → Bool} {l t : List α}

/-- A list without the members at its two ends that have a property. -/
structure IsTrimmed (p : α → Bool) (l t : List α) : Prop where
  around : ∃ front back, l = front ++ (t ++ back) ∧ (∀ a ∈ front, p a = true) ∧
    ∀ a ∈ back, p a = true
  first : ∀ a ∈ t.head?, p a = false
  last : ∀ a ∈ t.getLast?, p a = false

lemma dropWhile_eq_self_of_head? (h : ∀ a ∈ l.head?, p a = false) : l.dropWhile p = l := by
  cases l with
  | nil => rfl
  | cons a rest => rw [List.dropWhile_cons_of_neg (by simp [h a rfl])]

lemma head?_dropWhile (l : List α) : ∀ a ∈ (l.dropWhile p).head?, p a = false := by
  intro a ha
  have hnot := List.head?_dropWhile_not p l
  rw [Option.mem_def.mp ha] at hnot
  exact hnot

lemma exists_dropWhile (l : List α) :
    ∃ front, l = front ++ l.dropWhile p ∧ ∀ a ∈ front, p a = true :=
  ⟨l.takeWhile p, List.takeWhile_append_dropWhile.symm, fun _ ha => List.mem_takeWhile_imp ha⟩

lemma isTrimmed_trimBoth (p : α → Bool) (l : List α) : IsTrimmed p l (trimBoth p l) := by
  obtain ⟨front, hfront, hall⟩ := exists_dropWhile (p := p) l
  obtain ⟨back, hback, hall'⟩ := exists_dropWhile (p := p) (l.dropWhile p).reverse
  have hsplit : l.dropWhile p = trimBoth p l ++ back.reverse := by
    rw [trimBoth, ← List.reverse_append, ← hback, List.reverse_reverse]
  refine ⟨⟨front, back.reverse, ?_, hall, by simpa using hall'⟩, fun a ha => ?_, fun a ha => ?_⟩
  · rw [← hsplit]
    exact hfront
  · -- The first member is also the first one after those at the beginning are gone.
    refine head?_dropWhile l a ?_
    rw [hsplit]
    cases htrim : trimBoth p l with
    | nil =>
      rw [htrim] at ha
      cases ha
    | cons b rest =>
      rw [htrim] at ha
      exact ha
  · rw [trimBoth, List.getLast?_reverse] at ha
    exact head?_dropWhile _ a ha

lemma IsTrimmed.eq_trimBoth (h : IsTrimmed p l t) : t = trimBoth p l := by
  obtain ⟨front, back, rfl, hfront, hback⟩ := h.around
  have hleft : (front ++ (t ++ back)).dropWhile p = (t ++ back).dropWhile p :=
    List.dropWhile_append_of_pos hfront
  unfold trimBoth
  rw [hleft]
  by_cases ht : t = []
  · have hnil : back.dropWhile p = [] := List.dropWhile_eq_nil_iff.mpr hback
    rw [ht, List.nil_append, hnil]
    rfl
  · have hstop : (t ++ back).dropWhile p = t ++ back := by
      refine dropWhile_eq_self_of_head? fun a ha => h.first a ?_
      rwa [List.head?_append_of_ne_nil _ ht] at ha
    have hright : (back.reverse ++ t.reverse).dropWhile p = t.reverse := by
      rw [List.dropWhile_append_of_pos (by simpa using hback)]
      refine dropWhile_eq_self_of_head? fun a ha => h.last a ?_
      rwa [List.head?_reverse] at ha
    rw [hstop, List.reverse_append, hright, List.reverse_reverse]

/-- Nothing is left of a list exactly when all its members have the property. -/
lemma trimBoth_eq_nil_iff : trimBoth p l = [] ↔ ∀ a ∈ l, p a = true := by
  constructor
  · intro hnil
    obtain ⟨⟨front, back, hl, hfront, hback⟩, -, -⟩ := isTrimmed_trimBoth p l
    rw [hnil, List.nil_append] at hl
    intro a ha
    rw [hl] at ha
    exact (List.mem_append.mp ha).elim (hfront a) (hback a)
  · intro hall
    have hempty : IsTrimmed p l [] :=
      ⟨⟨l, [], by simp, hall, nofun⟩, nofun, nofun⟩
    exact hempty.eq_trimBoth.symm

end Text
end LeaseKeeper
