/-
# Files at the end of a path

A path along which a file can be made leads to a place where there is a file or nothing.  Once a
file has been put there, the path leads to it, whoever takes the way: no node on the way is at that
place, as those are directories and links.
-/
import LeaseKeeper.File.Walk
import Mathlib.Data.List.Basic

namespace LeaseKeeper
namespace File

/-- There is a file at a place, or nothing. -/
def Tree.IsOpenable (t : Tree) (place : Place) : Prop :=
  ∀ node, t.get? place = some node → ∃ mode content, node = .file mode content

/-- Two trees have the same nodes but for the one at a place, which is a file in the second. -/
structure IsFiled (t t' : Tree) (place : Place) (mode : Nat) (content : List UInt8) : Prop where
  file : t'.get? place = some (.file mode content)
  others : ∀ q, q ≠ place → t'.get? q = t.get? q

variable {t t' : Tree} {place : Place} {mode : Nat} {content : List UInt8}

lemma Tree.IsOpenable.ne_root (h : t.IsOpenable place) : place ≠ [] := by
  rintro rfl
  obtain ⟨mode, content, hdir⟩ := h _ t.get?_root
  cases hdir

lemma isFiled_set (h : place ≠ []) :
    IsFiled t (t.set place (.file mode content)) place mode content where
  file := t.get?_set_self h _
  others _ hq := t.get?_set_ne hq _

/-- Another file put at the same place. -/
lemma IsFiled.set (h : IsFiled t t' place mode content) (hroot : place ≠ []) (mode' : Nat)
    (content' : List UInt8) :
    IsFiled t (t'.set place (.file mode' content')) place mode' content' where
  file := t'.get?_set_self hroot _
  others q hq := by rw [t'.get?_set_ne hq, h.others q hq]

/-- The way along names on which a file can be made is the way to this file. -/
lemma walkFrom_filed (h : IsFiled t t' place mode content) (hopen : t.IsOpenable place)
    {purpose : Purpose} (hpurpose : purpose ≠ .look)
    {follow follow' : Place → List String → Except IoError Place}
    (hfollow : ∀ dir names, follow dir names = .ok place → follow' dir names = .ok place)
    (dir : Place) (names : List String)
    (hway : walkFrom t .make follow dir names = .ok place) :
    walkFrom t' purpose follow' dir names = .ok place := by
  induction names generalizing dir with
  | nil => exact hway
  | cons name rest ih =>
    unfold walkFrom at hway ⊢
    by_cases hempty : name = ""
    · simpa only [if_pos hempty] using hway
    rw [if_neg hempty] at hway ⊢
    by_cases hpoint : name = "."
    · rw [if_pos hpoint] at hway ⊢
      exact ih dir hway
    rw [if_neg hpoint] at hway ⊢
    by_cases hpoints : name = ".."
    · rw [if_pos hpoints] at hway ⊢
      exact ih dir.dropLast hway
    rw [if_neg hpoints] at hway ⊢
    by_cases hslash : rest = [""]
    · rw [if_pos ⟨hslash, rfl⟩] at hway
      cases hway
    rw [if_neg fun hboth => hslash hboth.1] at hway ⊢
    by_cases hlong : longestName < name.utf8ByteSize
    · rw [if_pos hlong] at hway
      cases hway
    rw [if_neg hlong] at hway ⊢
    dsimp only at hway ⊢
    -- Only the last node on the way is at the place, so all others are the same in both trees.
    by_cases hplace : dir ++ [name] = place
    · rw [hplace] at hway ⊢
      have hlast : rest.isEmpty = true := by
        cases hnode : t.get? place with
        | none =>
          rw [hnode] at hway
          by_contra hrest
          simp [hrest] at hway
        | some node =>
          obtain ⟨m, c, rfl⟩ := hopen node hnode
          rw [hnode] at hway
          by_contra hrest
          simp [hrest] at hway
      rw [h.file]
      simp [hlast]
    · rw [h.others _ hplace]
      cases hnode : t.get? (dir ++ [name]) with
      | none =>
        rw [hnode] at hway
        exact hway
      | some node =>
        rw [hnode] at hway
        cases node with
        | file m c => exact hway
        | dir m => exact ih _ hway
        | link target =>
          dsimp only at hway ⊢
          rw [if_neg (by simp)] at hway
          rw [if_neg fun hlook => hpurpose hlook.2]
          exact hfollow _ _ hway

lemma walk_filed (h : IsFiled t t' place mode content) (hopen : t.IsOpenable place)
    {purpose : Purpose} (hpurpose : purpose ≠ .look) (links : Nat) (dir : Place)
    (names : List String) (hway : walk t .make links dir names = .ok place) :
    walk t' purpose links dir names = .ok place := by
  induction links generalizing dir names with
  | zero =>
    refine walkFrom_filed h hopen hpurpose ?_ dir names hway
    intro _ _ hfail
    cases hfail
  | succ links ih => exact walkFrom_filed h hopen hpurpose ih dir names hway

/-- The path leads to the file that has been put at its end. -/
lemma locate_filed (h : IsFiled t t' place mode content) (hopen : t.IsOpenable place)
    {purpose : Purpose} (hpurpose : purpose ≠ .look) {work : Place} {path : String}
    (hway : t.locate .make work path = .ok place) : t'.locate purpose work path = .ok place := by
  unfold Tree.locate at hway ⊢
  split_ifs at hway ⊢
  exact walk_filed h hopen hpurpose _ _ _ hway

/-- What is read there is the content of the file. -/
lemma read_filed (h : IsFiled t t' place mode content) (hopen : t.IsOpenable place) {work : Place}
    {path : String} (hway : t.locate .make work path = .ok place) :
    t'.read work path = .ok content := by
  have hfound : t'.locate .use work path = .ok place := locate_filed h hopen (by decide) hway
  simp only [Tree.read, hfound, bind, Except.bind, h.file]

/-- What is opened is an empty file at the place to which the path leads. -/
lemma openEmpty_ok {work : Place} {path : String} {mode : Nat}
    (h : t.openEmpty work path mode = .ok (place, t')) :
    t.locate .make work path = .ok place ∧ t.IsOpenable place ∧
      ∃ mode', IsFiled t t' place mode' [] := by
  unfold Tree.openEmpty at h
  cases hway : t.locate .make work path with
  | error e =>
    rw [hway] at h
    cases h
  | ok q =>
    rw [hway] at h
    cases hnode : t.get? q with
    | none =>
      simp only [bind, Except.bind, hnode] at h
      cases h
      have hopen : t.IsOpenable place := by
        intro node hnode'
        rw [hnode] at hnode'
        cases hnode'
      exact ⟨rfl, hopen, _, isFiled_set hopen.ne_root⟩
    | some node =>
      cases node with
      | file old content =>
        simp only [bind, Except.bind, hnode] at h
        cases h
        have hopen : t.IsOpenable place := by
          intro node hnode'
          rw [hnode] at hnode'
          cases hnode'
          exact ⟨old, content, rfl⟩
        exact ⟨rfl, hopen, _, isFiled_set hopen.ne_root⟩
      | dir m => simp [bind, Except.bind, hnode] at h
      | link target => simp [bind, Except.bind, hnode] at h

end File
end LeaseKeeper
