/-
# Rooted trees

A tree is rooted if every node lies in a directory.  On a rooted tree a way leads from directory to
directory, so what a path leads to lies in one.  Whatever others do to the files of a rooted tree,
it stays rooted.
-/
import LeaseKeeper.File.Change
import LeaseKeeper.Proofs.File.Walk

namespace LeaseKeeper
namespace File

/-- There is a directory at a place. -/
def Tree.IsDirectory (t : Tree) (place : Place) : Prop := ∃ mode, t.get? place = some (.dir mode)

/-- Every node lies in a directory. -/
def Tree.IsRooted (t : Tree) : Prop :=
  ∀ place name node, t.get? (place ++ [name]) = some node → t.IsDirectory place

variable {t : Tree} {place : Place}

lemma Tree.isDirectory_root (t : Tree) : t.IsDirectory [] := ⟨_, t.get?_root⟩

lemma Tree.IsDirectory.not_isOpenable (h : t.IsDirectory place) : ¬ t.IsOpenable place := by
  intro hopen
  obtain ⟨mode, hdir⟩ := h
  obtain ⟨_, _, hfile⟩ := hopen _ hdir
  cases hfile

/-- The directory in which a directory lies; the root lies in itself. -/
lemma Tree.IsRooted.dropLast (h : t.IsRooted) (hdir : t.IsDirectory place) :
    t.IsDirectory place.dropLast := by
  rcases List.eq_nil_or_concat' place with rfl | ⟨init, name, rfl⟩
  · exact t.isDirectory_root
  · obtain ⟨mode, hmode⟩ := hdir
    rw [List.dropLast_concat]
    exact h init name _ hmode

/-! ### Changes of a tree -/

/-- Another node is put into a directory, and not in the place of one unless it is one. -/
lemma Tree.IsRooted.of_others (h : t.IsRooted) {t' : Tree}
    (hothers : ∀ q, q ≠ place → t'.get? q = t.get? q) (hparent : t.IsDirectory place.dropLast)
    (hnode : t'.IsDirectory place ∨ ¬ t.IsDirectory place) : t'.IsRooted := by
  -- A directory of the old tree is one of the new tree, unless it is the place itself.
  have hkeep : ∀ q, q ≠ place → t.IsDirectory q → t'.IsDirectory q := by
    rintro q hq ⟨mode, hmode⟩
    exact ⟨mode, by rw [hothers q hq, hmode]⟩
  intro q name other hother
  by_cases hplace : q ++ [name] = place
  · have hq : q = place.dropLast := by rw [← hplace, List.dropLast_concat]
    have hne : q ≠ place := by
      intro heq
      have hlength := congrArg List.length (hplace.trans heq.symm)
      simp at hlength
    rw [← hq] at hparent
    exact hkeep q hne hparent
  · rw [hothers _ hplace] at hother
    have hdir : t.IsDirectory q := h q name other hother
    by_cases hq : q = place
    · subst hq
      exact hnode.resolve_right fun hnot => hnot hdir
    · exact hkeep q hq hdir

lemma Tree.IsRooted.set (h : t.IsRooted) (hroot : place ≠ [])
    (hparent : t.IsDirectory place.dropLast) {node : Node}
    (hnode : (∃ mode, node = .dir mode) ∨ ¬ t.IsDirectory place) :
    (t.set place node).IsRooted := by
  refine h.of_others (fun q hq => t.get?_set_ne hq _) hparent (hnode.imp_left ?_)
  rintro ⟨mode, rfl⟩
  exact ⟨mode, t.get?_set_self hroot _⟩

/-- A file is put where there was a file or nothing. -/
lemma IsFiled.isRooted {t' : Tree} {mode : ℕ} {content : List UInt8}
    (hfile : IsFiled t t' place mode content) (h : t.IsRooted) (hopen : t.IsOpenable place)
    (hparent : t.IsDirectory place.dropLast) : t'.IsRooted :=
  h.of_others hfile.others hparent (Or.inr fun hdir => hdir.not_isOpenable hopen)

lemma lookup_filter_not_prefix (p q : Place) (l : List (Place × Node)) :
    (l.filter fun e => !p.isPrefixOf e.1).lookup q =
      if p.isPrefixOf q then none else l.lookup q := by
  induction l with
  | nil => simp
  | cons e rest ih =>
    obtain ⟨r, node⟩ := e
    by_cases hq : q = r
    · subst hq
      by_cases hp : p.isPrefixOf q = true
      · simp [hp, ih]
      · simp [hp]
    · have hne : (q == r) = false := by simpa using hq
      by_cases hp : p.isPrefixOf r = true
      · simp [hp, ih, List.lookup_cons, hne]
      · simp [hp, ih, List.lookup_cons, hne]

/-- Of a tree from which a place was erased, all is left that does not lie below this place. -/
lemma Tree.get?_erase (t : Tree) (p q : Place) :
    (t.erase p).get? q =
      if q = [] then some (.dir rootMode) else if p.isPrefixOf q then none else t.get? q := by
  by_cases hq : q = []
  · simp [Tree.get?, hq]
  · simp only [Tree.get?, if_neg hq, Tree.erase, lookup_filter_not_prefix]

lemma Tree.IsRooted.erase (h : t.IsRooted) (p : Place) : (t.erase p).IsRooted := by
  intro q name node hnode
  rw [Tree.get?_erase, if_neg (by simp)] at hnode
  by_cases hp : p.isPrefixOf (q ++ [name]) = true
  · rw [if_pos hp] at hnode
    cases hnode
  · rw [if_neg hp] at hnode
    obtain ⟨mode, hmode⟩ := h q name node hnode
    by_cases hq : q = []
    · subst hq
      exact (t.erase p).isDirectory_root
    · have hnot : ¬ p.isPrefixOf q = true := by
        intro hprefix
        have hshort : p <+: q := List.isPrefixOf_iff_prefix.mp hprefix
        exact hp (List.isPrefixOf_iff_prefix.mpr (hshort.trans (List.prefix_append _ _)))
      exact ⟨mode, by rw [Tree.get?_erase, if_neg hq, if_neg hnot, hmode]⟩

/-! ### Ways -/

/-- A name that can be looked up in a directory. -/
structure IsProper (name : String) : Prop where
  ne_empty : name ≠ ""
  ne_here : name ≠ "."
  ne_up : name ≠ ".."
  short : name.utf8ByteSize ≤ longestName

/-- How a way goes on from a directory with a name and the names after it, to a place. -/
inductive Onward (t : Tree) (purpose : Purpose)
    (follow : Place → List String → Except IoError Place) (dir place : Place) :
    String → List String → Prop
  /-- The path ends with a slash. -/
  | slash {rest : List String} (h : place = dir) : Onward t purpose follow dir place "" rest
  | here {rest : List String} (h : walkFrom t purpose follow dir rest = .ok place) :
      Onward t purpose follow dir place "." rest
  | up {rest : List String} (h : walkFrom t purpose follow dir.dropLast rest = .ok place) :
      Onward t purpose follow dir place ".." rest
  /-- The last name stands for no directory, and its link, if it is one, is not followed. -/
  | last {name : String} (hname : IsProper name) (hplace : place = dir ++ [name])
      (h : t.get? place = none ∨ (∃ mode content, t.get? place = some (.file mode content)) ∨
        purpose = .look) : Onward t purpose follow dir place name []
  | enter {name : String} {rest : List String} {mode : ℕ} (hname : IsProper name)
      (hdir : t.get? (dir ++ [name]) = some (.dir mode))
      (h : walkFrom t purpose follow (dir ++ [name]) rest = .ok place) :
      Onward t purpose follow dir place name rest
  | link {name target : String} {rest : List String} (hname : IsProper name)
      (hlink : t.get? (dir ++ [name]) = some (.link target))
      (h : follow (origin dir target) (splice (names target.toList) rest) = .ok place) :
      Onward t purpose follow dir place name rest

lemma onward_of_walkFrom {purpose : Purpose} {follow : Place → List String → Except IoError Place}
    {dir : Place} {name : String} {rest : List String}
    (hway : walkFrom t purpose follow dir (name :: rest) = .ok place) :
    Onward t purpose follow dir place name rest := by
  unfold walkFrom at hway
  by_cases hempty : name = ""
  · rw [if_pos hempty] at hway
    subst hempty
    exact .slash (Except.ok.inj hway).symm
  rw [if_neg hempty] at hway
  by_cases hhere : name = "."
  · rw [if_pos hhere] at hway
    subst hhere
    exact .here hway
  rw [if_neg hhere] at hway
  by_cases hup : name = ".."
  · rw [if_pos hup] at hway
    subst hup
    exact .up hway
  rw [if_neg hup] at hway
  by_cases hslash : rest = [""] ∧ purpose = .make
  · rw [if_pos hslash] at hway
    cases hway
  rw [if_neg hslash] at hway
  by_cases hlong : longestName < name.utf8ByteSize
  · rw [if_pos hlong] at hway
    cases hway
  rw [if_neg hlong] at hway
  dsimp only at hway
  have hname : IsProper name := ⟨hempty, hhere, hup, Nat.le_of_not_lt hlong⟩
  cases hnode : t.get? (dir ++ [name]) with
  | none =>
    rw [hnode] at hway
    cases rest with
    | nil =>
      obtain rfl : dir ++ [name] = place := Except.ok.inj hway
      exact .last hname rfl (Or.inl hnode)
    | cons next rest => cases hway
  | some node =>
    rw [hnode] at hway
    cases node with
    | file mode content =>
      cases rest with
      | nil =>
        obtain rfl : dir ++ [name] = place := Except.ok.inj hway
        exact .last hname rfl (Or.inr (Or.inl ⟨mode, content, hnode⟩))
      | cons next rest => cases hway
    | dir mode => exact .enter hname hnode hway
    | link target =>
      dsimp only at hway
      split_ifs at hway with hlook
      · obtain ⟨hrest, hlook⟩ := hlook
        obtain rfl : rest = [] := List.isEmpty_iff.mp hrest
        exact .last hname (Except.ok.inj hway).symm (Or.inr (Or.inr hlook))
      · exact .link hname hnode hway

lemma Tree.isDirectory_origin {dir : Place} (hdir : t.IsDirectory dir) (path : String) :
    t.IsDirectory (origin dir path) := by
  unfold origin
  split_ifs
  · exact t.isDirectory_root
  · exact hdir

/-- What a way leads to lies in a directory. -/
lemma walkFrom_dropLast (h : t.IsRooted) {purpose : Purpose}
    {follow : Place → List String → Except IoError Place}
    (hfollow : ∀ dir names, t.IsDirectory dir → follow dir names = .ok place →
      t.IsDirectory place.dropLast)
    {dir : Place} (hdir : t.IsDirectory dir) {names : List String}
    (hway : walkFrom t purpose follow dir names = .ok place) : t.IsDirectory place.dropLast := by
  induction names generalizing dir with
  | nil =>
    obtain rfl : dir = place := Except.ok.inj hway
    exact h.dropLast hdir
  | cons name rest ih =>
    cases onward_of_walkFrom hway with
    | slash hplace =>
      rw [hplace]
      exact h.dropLast hdir
    | here hrest => exact ih hdir hrest
    | up hrest => exact ih (h.dropLast hdir) hrest
    | last _ hplace =>
      rw [hplace, List.dropLast_concat]
      exact hdir
    | @enter _ _ mode _ hnode hrest => exact ih ⟨mode, hnode⟩ hrest
    | link _ _ hrest => exact hfollow _ _ (Tree.isDirectory_origin hdir _) hrest

lemma walk_dropLast (h : t.IsRooted) {purpose : Purpose} {links : ℕ} {dir : Place}
    (hdir : t.IsDirectory dir) {names : List String}
    (hway : walk t purpose links dir names = .ok place) : t.IsDirectory place.dropLast := by
  induction links generalizing dir names with
  | zero =>
    refine walkFrom_dropLast h ?_ hdir hway
    intro _ _ _ hfail
    cases hfail
  | succ links ih => exact walkFrom_dropLast h (fun _ _ hdir' hway' => ih hdir' hway') hdir hway

/-- What a path leads to lies in a directory. -/
lemma locate_dropLast (h : t.IsRooted) {purpose : Purpose} {work : Place} {path : String}
    (horigin : t.IsDirectory (origin work path)) (hway : t.locate purpose work path = .ok place) :
    t.IsDirectory place.dropLast := by
  unfold Tree.locate at hway
  split_ifs at hway
  exact walk_dropLast h horigin hway

/-! ### What others do -/

/-- A directory is made in another one where there is nothing. -/
lemma makeEach_rooted (h : t.IsRooted) (paths : List String) :
    (Change.makeEach t [] paths).IsRooted := by
  induction paths generalizing t with
  | nil => exact h
  | cons path paths ih =>
    simp only [Change.makeEach, List.foldl_cons]
    refine ih ?_
    split
    · exact h
    · rename_i place hway
      split
      · rename_i hnone
        have hparent := locate_dropLast h (Tree.isDirectory_origin t.isDirectory_root path) hway
        refine h.set ?_ hparent (Or.inl ⟨_, rfl⟩)
        rintro rfl
        cases hnone
      · exact h

/-- Whatever others do to its files, a rooted tree stays rooted. -/
lemma apply_rooted (h : t.IsRooted) (change : Change) : (change.apply t []).IsRooted := by
  have horigin : ∀ path, t.IsDirectory (origin [] path) :=
    fun path => Tree.isDirectory_origin t.isDirectory_root path
  cases change with
  | makeDirs path => exact makeEach_rooted h _
  | write path content =>
    unfold Change.apply
    dsimp only
    cases hopen : t.openEmpty [] path 0o666 with
    | error e => exact h
    | ok opening =>
      obtain ⟨place, opened⟩ := opening
      obtain ⟨hway, hopenable, mode, hfile⟩ := openEmpty_ok hopen
      have hparent := locate_dropLast h (horigin path) hway
      simp only [hfile.file]
      exact (hfile.set hopenable.ne_root mode content).isRooted h hopenable hparent
  | setMode path mode =>
    unfold Change.apply
    dsimp only
    split
    · exact h
    · rename_i place hway
      have hparent := locate_dropLast h (horigin path) hway
      split
      · rename_i old content hfile
        refine h.of_others (fun q hq => t.get?_set_ne hq _) hparent (Or.inr ?_)
        rintro ⟨mode, hdir⟩
        rw [hfile] at hdir
        cases hdir
      · rename_i old hdir
        by_cases hroot : place = []
        · subst hroot
          exact h.of_others (fun q hq => t.get?_set_ne hq (.dir mode)) hparent
            (Or.inl (Tree.isDirectory_root _))
        · exact h.set hroot hparent (Or.inl ⟨_, rfl⟩)
      · exact h
  | link path target =>
    unfold Change.apply
    dsimp only
    split
    · exact h
    · rename_i place hway
      have hparent := locate_dropLast h (horigin path) hway
      split
      · rename_i hnone
        refine h.of_others (fun q hq => t.get?_set_ne hq _) hparent (Or.inr ?_)
        rintro ⟨mode, hdir⟩
        rw [hnone] at hdir
        cases hdir
      · exact h
  | remove path =>
    unfold Change.apply
    dsimp only
    split
    · exact h
    · exact h.erase _

end File
end LeaseKeeper
