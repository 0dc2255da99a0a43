/-
# Where a path leads

A way goes on step by step: it enters a directory, goes back up, or follows a link.  A file can be
opened or made at the end of a path exactly when the way, over at most forty links, comes to a last
name at which there is a file or nothing.  Every other way comes to an obstacle, or follows more
links than that, as one does that comes back to where it was.
-/
import LeaseKeeper.Proofs.File.Rooted

namespace LeaseKeeper
namespace File

/-- Where a way is: the directory that it has come to, and the names that are left. -/
abbrev Point := Place × List String

/-- One step of a way, and the number of links that it follows. -/
inductive Goes (t : Tree) : ℕ → Point → Point → Prop
  | here {dir : Place} {name : String} {rest : List String} (hname : name = ".") :
      Goes t 0 (dir, name :: rest) (dir, rest)
  | up {dir : Place} {name : String} {rest : List String} (hname : name = "..") :
      Goes t 0 (dir, name :: rest) (dir.dropLast, rest)
  | enter {dir : Place} {name : String} {rest : List String} {mode : ℕ} (hname : IsProper name)
      (h : t.get? (dir ++ [name]) = some (.dir mode)) :
      Goes t 0 (dir, name :: rest) (dir ++ [name], rest)
  | link {dir : Place} {name target : String} {rest : List String} (hname : IsProper name)
      (h : t.get? (dir ++ [name]) = some (.link target)) :
      Goes t 1 (dir, name :: rest) (origin dir target, splice (names target.toList) rest)

/-- The steps of a way from one point to another, and the number of links that they follow. -/
inductive Travels (t : Tree) : ℕ → Point → Point → Prop
  | refl (p : Point) : Travels t 0 p p
  | step {k n : ℕ} {p q r : Point} (h : Goes t k p q) (hrest : Travels t n q r) :
      Travels t (k + n) p r

/-- The way has come to a last name, and there is a file or nothing at its place. -/
inductive Ends (t : Tree) : Point → Place → Prop
  | file {dir : Place} {name : String} (hname : IsProper name)
      (hopen : t.IsOpenable (dir ++ [name])) : Ends t (dir, [name]) (dir ++ [name])

/-- A path leads to a place at which a file can be opened or made. -/
structure OpensAt (t : Tree) (work : Place) (path : String) (place : Place) : Prop where
  noNul : ∀ c ∈ path.toList, c.toNat ≠ 0
  short : path.utf8ByteSize ≤ longestPath
  leads : ∃ links p, Travels t links (origin work path, names path.toList) p ∧
    links ≤ mostLinks ∧ Ends t p place

/-- Why a way along which a file is to be opened can go no further. -/
inductive Obstacle (t : Tree) : Point → Prop
  /-- The path leads to a directory. -/
  | directory (dir : Place) : Obstacle t (dir, [])
  /-- The path ends with a slash. -/
  | slash {dir : Place} {name : String} {rest : List String} (hname : name = "") :
      Obstacle t (dir, name :: rest)
  /-- There is nothing with the name of a directory. -/
  | missing {dir : Place} {name : String} {rest : List String} (hname : IsProper name)
      (hrest : rest ≠ []) (h : t.get? (dir ++ [name]) = none) : Obstacle t (dir, name :: rest)
  /-- There is a file with the name of a directory. -/
  | notDirectory {dir : Place} {name : String} {rest : List String} {mode : ℕ}
      {content : List UInt8} (hname : IsProper name) (hrest : rest ≠ [])
      (h : t.get? (dir ++ [name]) = some (.file mode content)) : Obstacle t (dir, name :: rest)
  | tooLong {dir : Place} {name : String} {rest : List String}
      (h : longestName < name.utf8ByteSize) : Obstacle t (dir, name :: rest)

/-- No file can be opened along a path: it is no path, or its way comes to an obstacle or follows
too many links. -/
def Bars (t : Tree) (work : Place) (path : String) : Prop :=
  (∃ c ∈ path.toList, c.toNat = 0) ∨ longestPath < path.utf8ByteSize ∨
    ∃ links p, Travels t links (origin work path, names path.toList) p ∧
      (mostLinks < links ∨ Obstacle t p)

variable {t : Tree} {place : Place} {k k' n m links : ℕ} {p q r : Point}

/-! ### There is one way -/

lemma Travels.trans (h : Travels t n p q) (h' : Travels t m q r) : Travels t (n + m) p r := by
  induction h with
  | refl =>
    rw [Nat.zero_add]
    exact h'
  | step hgo _ ih =>
    rw [Nat.add_assoc]
    exact .step hgo (ih h')

lemma Goes.unique (h : Goes t k p q) (h' : Goes t k' p r) : k = k' ∧ q = r := by
  cases h with
  | here hpoint =>
    cases h' with
    | here => exact ⟨rfl, rfl⟩
    | up hpoints => exact absurd (hpoint.symm.trans hpoints) (by decide)
    | enter hname => exact absurd hpoint hname.ne_here
    | link hname => exact absurd hpoint hname.ne_here
  | up hpoints =>
    cases h' with
    | here hpoint => exact absurd (hpoint.symm.trans hpoints) (by decide)
    | up => exact ⟨rfl, rfl⟩
    | enter hname => exact absurd hpoints hname.ne_up
    | link hname => exact absurd hpoints hname.ne_up
  | enter hname h =>
    cases h' with
    | here hpoint => exact absurd hpoint hname.ne_here
    | up hpoints => exact absurd hpoints hname.ne_up
    | enter => exact ⟨rfl, rfl⟩
    | link _ h' => cases h.symm.trans h'
  | link hname h =>
    cases h' with
    | here hpoint => exact absurd hpoint hname.ne_here
    | up hpoints => exact absurd hpoints hname.ne_up
    | enter _ h' => cases h.symm.trans h'
    | link _ h' =>
      obtain ⟨⟩ := h.symm.trans h'
      exact ⟨rfl, rfl⟩

lemma Ends.not_goes (h : Ends t p place) : ¬ Goes t k p q := by
  intro hgo
  cases h with
  | file hname hopen =>
    cases hgo with
    | here hpoint => exact hname.ne_here hpoint
    | up hpoints => exact hname.ne_up hpoints
    | enter _ hdir => exact Tree.IsDirectory.not_isOpenable ⟨_, hdir⟩ hopen
    | link _ hlink =>
      obtain ⟨_, _, hfile⟩ := hopen _ hlink
      cases hfile

lemma Obstacle.not_goes (h : Obstacle t p) : ¬ Goes t k p q := by
  intro hgo
  cases h with
  | directory => cases hgo
  | slash hempty =>
    cases hgo with
    | here hpoint => exact absurd (hempty.symm.trans hpoint) (by decide)
    | up hpoints => exact absurd (hempty.symm.trans hpoints) (by decide)
    | enter hname => exact hname.ne_empty hempty
    | link hname => exact hname.ne_empty hempty
  | missing hname _ h =>
    cases hgo with
    | here hpoint => exact hname.ne_here hpoint
    | up hpoints => exact hname.ne_up hpoints
    | enter _ h' => cases h.symm.trans h'
    | link _ h' => cases h.symm.trans h'
  | notDirectory hname _ h =>
    cases hgo with
    | here hpoint => exact hname.ne_here hpoint
    | up hpoints => exact hname.ne_up hpoints
    | enter _ h' => cases h.symm.trans h'
    | link _ h' => cases h.symm.trans h'
  | tooLong h =>
    cases hgo with
    | here hpoint =>
      rw [hpoint] at h
      exact absurd h (by decide)
    | up hpoints =>
      rw [hpoints] at h
      exact absurd h (by decide)
    | enter hname => exact Nat.not_lt_of_le hname.short h
    | link hname => exact Nat.not_lt_of_le hname.short h

lemma Obstacle.not_ends (h : Obstacle t p) : ¬ Ends t p place := by
  intro hend
  cases hend with
  | file hname hopen =>
    cases h with
    | slash hempty => exact hname.ne_empty hempty
    | missing _ hrest => exact hrest rfl
    | notDirectory _ hrest => exact hrest rfl
    | tooLong h => exact Nat.not_lt_of_le hname.short h

/-- A way that has come to its end has gone through all points that it can come to. -/
lemma Travels.of_end (h : Travels t n p q) (hend : ∀ k r, ¬ Goes t k q r)
    (h' : Travels t m p r) : ∃ left, Travels t left r q ∧ n = m + left := by
  induction h' generalizing n with
  | refl => exact ⟨n, h, by rw [Nat.zero_add]⟩
  | step hgo _ ih =>
    cases h with
    | refl => exact absurd hgo (hend _ _)
    | step hgo' hrest =>
      obtain ⟨rfl, rfl⟩ := hgo.unique hgo'
      obtain ⟨left, hleft, hcount⟩ := ih hrest
      exact ⟨left, hleft, by omega⟩

lemma Travels.eq_of_end (h : Travels t n p q) (hend : ∀ k r, ¬ Goes t k p r) : p = q := by
  cases h with
  | refl => rfl
  | step hgo => exact absurd hgo (hend _ _)

/-- A way that comes back to where it was can follow any number of links. -/
lemma Travels.exists_of_cycle (h : Travels t (n + 1) p p) (m : ℕ) :
    ∃ links, m ≤ links ∧ Travels t links p p := by
  induction m with
  | zero => exact ⟨0, Nat.le_refl 0, .refl p⟩
  | succ m ih =>
    obtain ⟨links, hle, htravels⟩ := ih
    exact ⟨n + 1 + links, by omega, h.trans htravels⟩

/-- A path on which the way comes back to where it was, over a link, leads to nothing that can be
opened. -/
lemma bars_of_cycle {work : Place} {path : String}
    (h : Travels t n (origin work path, names path.toList) p) (hcycle : Travels t (m + 1) p p) :
    Bars t work path := by
  obtain ⟨links, hle, htravels⟩ := hcycle.exists_of_cycle (mostLinks + 1)
  exact Or.inr (Or.inr ⟨n + links, p, h.trans htravels, Or.inl (by omega)⟩)

/-! ### Every way ends or is barred -/

/-- From any point, a way follows more than so many links, or comes to an end or to an obstacle. -/
lemma exists_travels (t : Tree) (links : ℕ) (dir : Place) (names : List String) :
    ∃ n q, Travels t n (dir, names) q ∧
      (links < n ∨ n ≤ links ∧ (Obstacle t q ∨ ∃ place, Ends t q place)) := by
  -- A link is followed at the cost of one of the links, all other steps at that of a name.
  induction links using Nat.strongRecOn generalizing dir names with
  | _ links ih =>
    induction names generalizing dir with
    | nil => exact ⟨0, _, .refl _, Or.inr ⟨Nat.zero_le _, Or.inl (.directory dir)⟩⟩
    | cons name rest ihrest =>
      have hstay : Obstacle t (dir, name :: rest) ∨ (∃ place, Ends t (dir, name :: rest) place) →
          ∃ n q, Travels t n (dir, name :: rest) q ∧
            (links < n ∨ n ≤ links ∧ (Obstacle t q ∨ ∃ place, Ends t q place)) :=
        fun h => ⟨0, _, .refl _, Or.inr ⟨Nat.zero_le _, h⟩⟩
      have hstep : ∀ dir', Goes t 0 (dir, name :: rest) (dir', rest) →
          ∃ n q, Travels t n (dir, name :: rest) q ∧
            (links < n ∨ n ≤ links ∧ (Obstacle t q ∨ ∃ place, Ends t q place)) := by
        intro dir' hgo
        obtain ⟨n, q, htravels, hq⟩ := ihrest dir'
        refine ⟨n, q, ?_, hq⟩
        rw [← Nat.zero_add n]
        exact .step hgo htravels
      by_cases hempty : name = ""
      · exact hstay (Or.inl (.slash hempty))
      by_cases hhere : name = "."
      · exact hstep _ (.here hhere)
      by_cases hup : name = ".."
      · exact hstep _ (.up hup)
      by_cases hlong : longestName < name.utf8ByteSize
      · exact hstay (Or.inl (.tooLong hlong))
      have hname : IsProper name := ⟨hempty, hhere, hup, Nat.le_of_not_lt hlong⟩
      cases hnode : t.get? (dir ++ [name]) with
      | none =>
        by_cases hrest : rest = []
        · subst hrest
          have hopen : t.IsOpenable (dir ++ [name]) := fun node hnode' => by
            rw [hnode] at hnode'
            cases hnode'
          exact hstay (Or.inr ⟨_, .file hname hopen⟩)
        · exact hstay (Or.inl (.missing hname hrest hnode))
      | some node =>
        cases node with
        | file mode content =>
          by_cases hrest : rest = []
          · subst hrest
            have hopen : t.IsOpenable (dir ++ [name]) := fun node hnode' =>
              ⟨mode, content, Option.some.inj (hnode'.symm.trans hnode)⟩
            exact hstay (Or.inr ⟨_, .file hname hopen⟩)
          · exact hstay (Or.inl (.notDirectory hname hrest hnode))
        | dir mode => exact hstep _ (.enter hname hnode)
        | link target =>
          have hgo : Goes t 1 (dir, name :: rest) _ := .link hname hnode
          cases links with
          | zero => exact ⟨1 + 0, _, .step hgo (.refl _), Or.inl (by omega)⟩
          | succ links =>
            obtain ⟨n, q, htravels, hq⟩ := ih links (Nat.lt_succ_self _) (origin dir target)
              (splice (File.names target.toList) rest)
            refine ⟨1 + n, q, .step hgo htravels, hq.imp (fun hlt => by omega) ?_⟩
            exact fun hle => ⟨by omega, hle.2⟩

/-- Along a path a file can be opened, or the path is barred, and not both. -/
theorem bars_iff {work : Place} {path : String} :
    Bars t work path ↔ ∀ place, ¬ OpensAt t work path place := by
  constructor
  · rintro (⟨c, hc, hnul⟩ | hlong | ⟨n, q, htravels, hq⟩) place hopens
    · exact hopens.noNul c hc hnul
    · exact Nat.not_lt_of_le hopens.short hlong
    · obtain ⟨links, p, hway, hle, hend⟩ := hopens.leads
      obtain ⟨left, hleft, hcount⟩ := hway.of_end (fun _ _ => hend.not_goes) htravels
      rcases hq with hlt | hobstacle
      · omega
      · obtain rfl := hleft.eq_of_end fun _ _ => hobstacle.not_goes
        exact hobstacle.not_ends hend
  · intro hnot
    by_contra hbars
    simp only [Bars, not_or, not_exists, not_and] at hbars
    obtain ⟨hnul, hlong, hway⟩ := hbars
    obtain ⟨n, q, htravels, hq⟩ := exists_travels t mostLinks (origin work path) (names path.toList)
    obtain ⟨hmany, hobstacle⟩ := hway n q htravels
    rcases hq with hlt | ⟨hle, hobstacle' | ⟨place, hend⟩⟩
    · exact hmany hlt
    · exact hobstacle hobstacle'
    · exact hnot place ⟨hnul, Nat.le_of_not_lt hlong, n, q, htravels, hle, hend⟩

/-! ### The walk takes this way -/

/-- The names that are left end with a slash. -/
def IsSlashed (p : Point) : Prop := ∃ before, p.2 = before ++ [""]

lemma Goes.isSlashed (h : Goes t k p q) (hp : IsSlashed p) : IsSlashed q := by
  -- No step takes the empty name that stands for the slash.
  have hrest : ∀ {name : String} {rest : List String}, name ≠ "" →
      (∃ before, name :: rest = before ++ [""]) → ∃ before, rest = before ++ [""] := by
    rintro name rest hne ⟨before, hbefore⟩
    cases before with
    | nil => exact absurd (List.cons.inj hbefore).1 hne
    | cons first before => exact ⟨before, (List.cons.inj hbefore).2⟩
  cases h with
  | here hpoint => exact hrest (by rw [hpoint]; decide) hp
  | up hpoints => exact hrest (by rw [hpoints]; decide) hp
  | enter hname => exact hrest hname.ne_empty hp
  | @link dir name target rest hname =>
    obtain ⟨before, hbefore⟩ := hrest hname.ne_empty hp
    have hrest' : rest.isEmpty = false := by
      rw [hbefore]
      simp
    refine ⟨(names target.toList).filter (!·.isEmpty) ++ before, ?_⟩
    simp only [splice, hrest', Bool.false_eq_true, if_false]
    rw [hbefore, List.append_assoc]

/-- A way to a path with a slash at its end does not come to a file. -/
lemma Travels.not_isSlashed (h : Travels t n p q) (hend : Ends t q place) : ¬ IsSlashed p := by
  induction h with
  | refl =>
    rintro ⟨before, hbefore⟩
    cases hend with
    | file hname =>
      cases before with
      | nil => exact hname.ne_empty (List.cons.inj hbefore).1
      | cons first before => simp at hbefore
  | step hgo _ ih => exact fun hslash => ih hend (hgo.isSlashed hslash)

/-- The way from a directory along names, whatever the number of links. -/
lemma walk_eq (t : Tree) (purpose : Purpose) (links : ℕ) :
    ∃ follow, walk t purpose links = walkFrom t purpose follow := by
  cases links with
  | zero => exact ⟨_, rfl⟩
  | succ links => exact ⟨_, rfl⟩

/-- A walk looks a name up, unless only a slash comes after it. -/
lemma walkFrom_proper {follow : Place → List String → Except IoError Place} {dir : Place}
    {name : String} {rest : List String} (hname : IsProper name) (hslash : rest ≠ [""]) :
    walkFrom t .make follow dir (name :: rest) =
      match t.get? (dir ++ [name]) with
      | none => if rest.isEmpty then .ok (dir ++ [name]) else .error .notFound
      | some (.dir _) => walkFrom t .make follow (dir ++ [name]) rest
      | some (.file ..) => if rest.isEmpty then .ok (dir ++ [name]) else .error .notDirectory
      | some (.link target) => follow (origin dir target) (splice (names target.toList) rest) := by
  rw [walkFrom, if_neg hname.ne_empty, if_neg hname.ne_here, if_neg hname.ne_up,
    if_neg (fun hboth => hslash hboth.1), if_neg (Nat.not_lt_of_le hname.short)]
  dsimp only
  cases t.get? (dir ++ [name]) with
  | none => rfl
  | some node =>
    cases node with
    | link target => exact if_neg (by simp)
    | _ => rfl

/-- The walk takes each step of the way, if it may follow that many links. -/
lemma Goes.walk (h : Goes t k p q) (hslash : ¬ IsSlashed p) (hlinks : n + k ≤ links)
    (hrest : ∀ links', n ≤ links' → walk t .make links' q.1 q.2 = .ok place) :
    walk t .make links p.1 p.2 = .ok place := by
  have hnot : ∀ {dir : Place} {name : String} {rest : List String},
      ¬ IsSlashed (dir, name :: rest) → rest ≠ [""] := by
    rintro dir name rest hns rfl
    exact hns ⟨[name], rfl⟩
  cases h with
  | here hpoint =>
    have hrest' := hrest links (by omega)
    obtain ⟨follow, hwalk⟩ := walk_eq t .make links
    rw [hwalk] at hrest' ⊢
    simpa [walkFrom, hpoint] using hrest'
  | up hpoints =>
    have hrest' := hrest links (by omega)
    obtain ⟨follow, hwalk⟩ := walk_eq t .make links
    rw [hwalk] at hrest' ⊢
    simpa [walkFrom, hpoints] using hrest'
  | enter hname hdir =>
    have hrest' := hrest links (by omega)
    obtain ⟨follow, hwalk⟩ := walk_eq t .make links
    rw [hwalk] at hrest' ⊢
    rw [walkFrom_proper hname (hnot hslash), hdir]
    exact hrest'
  | link hname hlink =>
    obtain ⟨links, rfl⟩ : ∃ l, links = l + 1 := ⟨links - 1, by omega⟩
    rw [File.walk, walkFrom_proper hname (hnot hslash), hlink]
    exact hrest links (by omega)

/-- The walk comes to the end of the way. -/
lemma Travels.walk (h : Travels t n p q) (hend : Ends t q place) (hlinks : n ≤ links) :
    walk t .make links p.1 p.2 = .ok place := by
  induction h generalizing links with
  | refl =>
    cases hend with
    | @file dir name hname hopen =>
      obtain ⟨follow, hwalk⟩ := walk_eq t .make links
      rw [hwalk, walkFrom_proper hname (by simp)]
      cases hnode : t.get? (dir ++ [name]) with
      | none => rfl
      | some node =>
        obtain ⟨mode, content, rfl⟩ := hopen node hnode
        rfl
  | step hgo hrest ih =>
    refine hgo.walk (fun hslash => ?_) (by omega) fun links' hle => ih hend hle
    exact hrest.not_isSlashed hend (hgo.isSlashed hslash)

/-- A walk that comes to something that can be opened takes a way that ends there. -/
lemma exists_travels_of_walkFrom (hrooted : t.IsRooted) (hopen : t.IsOpenable place)
    {follow : Place → List String → Except IoError Place}
    (hfollow : ∀ dir names, t.IsDirectory dir → follow dir names = .ok place →
      ∃ n q, Travels t n (dir, names) q ∧ n + 1 ≤ links ∧ Ends t q place)
    {dir : Place} (hdir : t.IsDirectory dir) {names : List String}
    (hway : walkFrom t .make follow dir names = .ok place) :
    ∃ n q, Travels t n (dir, names) q ∧ n ≤ links ∧ Ends t q place := by
  -- A directory is nothing that can be opened, so the way ends nowhere but at a last name.
  induction names generalizing dir with
  | nil =>
    obtain rfl : dir = place := Except.ok.inj hway
    exact absurd hopen hdir.not_isOpenable
  | cons name rest ih =>
    have hstep : ∀ {dir' : Place}, Goes t 0 (dir, name :: rest) (dir', rest) → t.IsDirectory dir' →
        walkFrom t .make follow dir' rest = .ok place →
        ∃ n q, Travels t n (dir, name :: rest) q ∧ n ≤ links ∧ Ends t q place := by
      intro dir' hgo hdir' hway'
      obtain ⟨n, q, htravels, hle, hend⟩ := ih hdir' hway'
      exact ⟨0 + n, q, .step hgo htravels, by omega, hend⟩
    cases onward_of_walkFrom hway with
    | slash hplace =>
      rw [hplace] at hopen
      exact absurd hopen hdir.not_isOpenable
    | here hrest => exact hstep (.here rfl) hdir hrest
    | up hrest => exact hstep (.up rfl) (hrooted.dropLast hdir) hrest
    | last hname hplace =>
      subst hplace
      exact ⟨0, _, .refl _, Nat.zero_le _, .file hname hopen⟩
    | @enter _ _ mode hname hnode hrest => exact hstep (.enter hname hnode) ⟨mode, hnode⟩ hrest
    | link hname hlink hrest =>
      obtain ⟨n, q, htravels, hle, hend⟩ :=
        hfollow _ _ (Tree.isDirectory_origin hdir _) hrest
      exact ⟨1 + n, q, .step (.link hname hlink) htravels, by omega, hend⟩

lemma exists_travels_of_walk (hrooted : t.IsRooted) (hopen : t.IsOpenable place)
    {dir : Place} (hdir : t.IsDirectory dir) {names : List String}
    (hway : walk t .make links dir names = .ok place) :
    ∃ n q, Travels t n (dir, names) q ∧ n ≤ links ∧ Ends t q place := by
  induction links generalizing dir names with
  | zero =>
    refine exists_travels_of_walkFrom hrooted hopen ?_ hdir hway
    intro _ _ _ hfail
    cases hfail
  | succ links ih =>
    refine exists_travels_of_walkFrom hrooted hopen ?_ hdir hway
    intro dir' names' hdir' hway'
    obtain ⟨n, q, htravels, hle, hend⟩ := ih hdir' hway'
    exact ⟨n, q, htravels, by omega, hend⟩

lemma OpensAt.isOpenable {work : Place} {path : String} (h : OpensAt t work path place) :
    t.IsOpenable place := by
  obtain ⟨_, _, _, _, hend⟩ := h.leads
  cases hend with
  | file _ hopen => exact hopen

/-- A file can be opened at the place to which a path is located, if this is no directory and no
link. -/
theorem opensAt_iff (hrooted : t.IsRooted) {work : Place} {path : String}
    (horigin : t.IsDirectory (origin work path)) :
    OpensAt t work path place ↔ t.locate .make work path = .ok place ∧ t.IsOpenable place := by
  constructor
  · intro h
    obtain ⟨links, p, htravels, hle, hend⟩ := h.leads
    have hway := htravels.walk hend hle
    have hnul : ¬ path.toList.any (·.toNat = 0) = true := by
      simpa using h.noNul
    have hne : path ≠ "" := by
      rintro rfl
      -- Along no names at all a way stays where it is.
      have hstay := htravels.eq_of_end (by rintro k r ⟨⟩)
      rw [← hstay] at hend
      cases hend
    refine ⟨?_, h.isOpenable⟩
    simp only [Tree.locate, if_neg hnul, if_neg (Nat.not_lt_of_le h.short), if_neg hne]
    exact hway
  · rintro ⟨hway, hopen⟩
    unfold Tree.locate at hway
    split_ifs at hway with hnul hlong hne
    refine ⟨by simpa using hnul, Nat.le_of_not_lt hlong, ?_⟩
    exact exists_travels_of_walk hrooted hopen horigin hway

/-- A file is opened exactly where the path leads. -/
lemma openEmpty_of_opensAt (mode : ℕ) (hrooted : t.IsRooted) {work : Place} {path : String}
    (horigin : t.IsDirectory (origin work path)) (h : OpensAt t work path place) :
    ∃ t', t.openEmpty work path mode = .ok (place, t') := by
  obtain ⟨hway, hopen⟩ := (opensAt_iff hrooted horigin).mp h
  unfold Tree.openEmpty
  rw [hway]
  cases hnode : t.get? place with
  | none =>
    simp only [bind, Except.bind, hnode]
    exact ⟨_, rfl⟩
  | some node =>
    obtain ⟨old, content, rfl⟩ := hopen node hnode
    simp only [bind, Except.bind, hnode]
    exact ⟨_, rfl⟩

lemma openEmpty_of_bars (mode : ℕ) (hrooted : t.IsRooted) {work : Place} {path : String}
    (horigin : t.IsDirectory (origin work path)) (h : Bars t work path) :
    ∃ cause, t.openEmpty work path mode = .error cause := by
  cases hopen : t.openEmpty work path mode with
  | error cause => exact ⟨cause, rfl⟩
  | ok opening =>
    obtain ⟨place, t'⟩ := opening
    obtain ⟨hway, hopenable, -⟩ := openEmpty_ok hopen
    exact absurd ((opensAt_iff hrooted horigin).mpr ⟨hway, hopenable⟩) (bars_iff.mp h place)

end File
end LeaseKeeper
