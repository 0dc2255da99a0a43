/-
# What a persist leaves

Others change the files at will, the home directory changes, and tokens are persisted.  Whenever a
token is persisted at a path along which a file can be opened, there is then a file with this token
alone at the place to which the path leads, for its owner only, and nothing else has changed.  Along
any other path the persist fails and leaves all files as they were.
-/
import LeaseKeeper.Proofs.File.Resolution
import LeaseKeeper.Proofs.TokenFile.Halfway

namespace LeaseKeeper
namespace TokenFile

open File (Tree IsFiled OpensAt Bars Travels)
open Relation (ReflTransGen)

/-! ### Moments -/

/-- Where the program finds itself, and the files of that moment. -/
abbrev Moment := Setting × Tree

/-- Every node lies in a directory, and the program works in one. -/
structure Moment.Stands (now : Moment) : Prop where
  rooted : now.2.IsRooted
  work : now.2.IsDirectory now.1.work

/-- What happens to the files and around the program. -/
inductive Step : Moment → Moment → Prop
  | persist {s : Setting} {t : Tree} (f : TokenFile) (token : String) :
      Step (s, t) (s, (f.persist s t token).2)
  /-- Others do what they will, but the program keeps the directory in which it works. -/
  | outside {s : Setting} {t t' : Tree} (h : Moment.Stands (s, t')) : Step (s, t) (s, t')
  | setHome {s : Setting} {t : Tree} (home : Option String) : Step (s, t) ({ s with home }, t)

/-- All that can happen. -/
abbrev Happens : Moment → Moment → Prop := ReflTransGen Step

/-- A change from outside is such a step. -/
lemma step_change {s : Setting} {t : Tree} (h : Moment.Stands (s, t)) {change : File.Change}
    (hwork : (change.apply t []).IsDirectory s.work) : Step (s, t) (s, change.apply t []) :=
  .outside ⟨File.apply_rooted h.rooted change, hwork⟩

/-! ### One persist -/

/-- What there is after a token was stored at a place to which a path leads: a file with the token
alone, for its owner only, in a directory that was there before.  All else is as before, and the
path leads to the file. -/
structure Stored (work : File.Place) (path token : String) (place : File.Place) (t t' : Tree) :
    Prop where
  file : t'.get? place = some (.file fileMode (Text.bytes token))
  others : ∀ q, q ≠ place → t'.get? q = t.get? q
  parent : t.IsDirectory place.dropLast
  leads : OpensAt t' work path place
  read : t'.read work path = .ok (Text.bytes token)

variable {s : Setting} {t t' : Tree} {work place : File.Place} {path token : String}

/-- A token is written where the path leads. -/
lemma write_of_opensAt (token : String) (hrooted : t.IsRooted)
    (horigin : t.IsDirectory (File.origin work path))
    (h : OpensAt t work path place) :
    ∃ t', write t work path token = .ok t' ∧ IsFiled t t' place fileMode (Text.bytes token) := by
  obtain ⟨opened, hopen⟩ := File.openEmpty_of_opensAt fileMode hrooted horigin h
  obtain ⟨-, hopenable, mode, hempty⟩ := File.openEmpty_ok hopen
  have hfilled := fill_filed (restrict_filed hempty hopenable.ne_root) hopenable.ne_root
    (Text.bytes token)
  refine ⟨fill (restrict opened place) place (Text.bytes token), ?_, hfilled⟩
  simp only [write, stages, hopen]
  rfl

lemma write_of_bars (token : String) (hrooted : t.IsRooted)
    (horigin : t.IsDirectory (File.origin work path))
    (h : Bars t work path) : ∃ cause, write t work path token = .error cause := by
  obtain ⟨cause, hopen⟩ := File.openEmpty_of_bars fileMode hrooted horigin h
  refine ⟨cause, ?_⟩
  simp only [write, stages, hopen]
  rfl

lemma stored_of_filed (hrooted : t.IsRooted) (horigin : t.IsDirectory (File.origin work path))
    (h : OpensAt t work path place) (hfile : IsFiled t t' place fileMode (Text.bytes token)) :
    Stored work path token place t t' ∧ t'.IsRooted := by
  obtain ⟨hway, hopen⟩ := (File.opensAt_iff hrooted horigin).mp h
  have hparent := File.locate_dropLast hrooted horigin hway
  have hrooted' : t'.IsRooted := hfile.isRooted hrooted hopen hparent
  -- The directory in which the way begins is not the place of the file.
  have horigin' : t'.IsDirectory (File.origin work path) := by
    obtain ⟨mode, hdir⟩ := horigin
    have hne : File.origin work path ≠ place := by
      rintro rfl
      exact Tree.IsDirectory.not_isOpenable ⟨mode, hdir⟩ hopen
    exact ⟨mode, by rw [hfile.others _ hne, hdir]⟩
  have hopen' : t'.IsOpenable place := fun node hnode =>
    ⟨_, _, Option.some.inj (hnode.symm.trans hfile.file)⟩
  have hway' : t'.locate .make work path = .ok place :=
    File.locate_filed hfile hopen (by decide) hway
  exact ⟨⟨hfile.file, hfile.others, hparent,
    (File.opensAt_iff hrooted' horigin').mpr ⟨hway', hopen'⟩,
    File.read_filed hfile hopen hway⟩, hrooted'⟩

/-- A persist along a path on which a file can be opened. -/
lemma persist_of_opensAt {f : TokenFile} (token : String) (hpath : f.path s = .ok path)
    (h : Moment.Stands (s, t)) (hopens : OpensAt t s.work path place) :
    ∃ t', f.persist s t token = (.ok (.tokenWritten path), t') ∧
      Stored s.work path token place t t' ∧ t'.IsRooted := by
  have horigin := File.Tree.isDirectory_origin h.work path
  obtain ⟨t', hwrite, hfile⟩ := write_of_opensAt token h.rooted horigin hopens
  refine ⟨t', ?_, stored_of_filed h.rooted horigin hopens hfile⟩
  simp only [persist, hpath]
  rw [hwrite]

/-- A persist along any other path. -/
lemma persist_of_bars {f : TokenFile} (token : String) (hpath : f.path s = .ok path)
    (h : Moment.Stands (s, t)) (hbars : Bars t s.work path) :
    ∃ cause, f.persist s t token = (.error (.notPersisted path cause), t) := by
  have horigin := File.Tree.isDirectory_origin h.work path
  obtain ⟨cause, hwrite⟩ := write_of_bars token h.rooted horigin hbars
  refine ⟨cause, ?_⟩
  simp only [persist, hpath]
  rw [hwrite]

/-! ### Any number of them -/

lemma Moment.Stands.persist (h : Moment.Stands (s, t)) (f : TokenFile) (token : String) :
    Moment.Stands (s, (f.persist s t token).2) := by
  cases hpath : f.path s with
  | error e =>
    simp only [TokenFile.persist, hpath]
    exact h
  | ok path =>
    by_cases hbars : Bars t s.work path
    · obtain ⟨cause, hpersist⟩ := persist_of_bars token hpath h hbars
      rw [hpersist]
      exact h
    · rw [File.bars_iff] at hbars
      push Not at hbars
      obtain ⟨place, hopens⟩ := hbars
      obtain ⟨t', hpersist, hstored, hrooted⟩ := persist_of_opensAt token hpath h hopens
      rw [hpersist]
      refine ⟨hrooted, ?_⟩
      obtain ⟨mode, hdir⟩ := h.work
      have hne : s.work ≠ place := by
        rintro hsame
        rw [hsame] at hdir
        exact Tree.IsDirectory.not_isOpenable ⟨mode, hdir⟩ hopens.isOpenable
      exact ⟨mode, (hstored.others _ hne).trans hdir⟩

lemma Moment.Stands.step {now later : Moment} (h : now.Stands) (hstep : Step now later) :
    later.Stands := by
  cases hstep with
  | persist f token => exact h.persist f token
  | outside h' => exact h'
  | setHome => exact ⟨h.rooted, h.work⟩

lemma Moment.Stands.later {now later : Moment} (h : now.Stands) (hlater : Happens now later) :
    later.Stands := by
  induction hlater with
  | refl => exact h
  | tail _ hstep ih => exact ih.step hstep

/-- What a persist does at any moment.  Its path is the one that was configured, or that of the file
in the home directory of the moment.  If a file can be opened where the path leads, the persist
stores the token there and says so; it does so in no other case.  If the path is barred, it fails
with this path, and all files are as before; every path is barred along which no file can be opened,
and so is one whose way comes back to where it was over a link. -/
theorem persist_stores_or_spares {begun : Moment} (hbegun : begun.Stands)
    (hlater : Happens begun (s, t)) {f : TokenFile} (hpath : f.path s = .ok path)
    (token : String) :
    (∀ configured, f = .at configured → path = configured) ∧
    (f = .inHome → ∃ home, s.homeDirectory = some home ∧ path = File.join home fileName) ∧
    (∀ place, OpensAt t s.work path place →
      ∃ t', f.persist s t token = (.ok (.tokenWritten path), t') ∧
        Stored s.work path token place t t') ∧
    (∀ note, (f.persist s t token).1 = .ok note → ∃ place, OpensAt t s.work path place) ∧
    (Bars t s.work path →
      ∃ cause, f.persist s t token = (.error (.notPersisted path cause), t)) ∧
    (Bars t s.work path ↔ ∀ place, ¬ OpensAt t s.work path place) ∧
    (∀ n m p, Travels t n (File.origin s.work path, File.names path.toList) p →
      Travels t (m + 1) p p → Bars t s.work path) := by
  have hstands : Moment.Stands (s, t) := hbegun.later hlater
  refine ⟨?_, ?_, fun place hopens => ?_, fun note hnote => ?_, persist_of_bars token hpath hstands,
    File.bars_iff, fun n m p => File.bars_of_cycle⟩
  · rintro configured rfl
    exact (Except.ok.inj hpath).symm
  · rintro rfl
    unfold TokenFile.path at hpath
    dsimp only at hpath
    cases hhome : s.homeDirectory with
    | none =>
      rw [hhome] at hpath
      cases hpath
    | some home =>
      rw [hhome] at hpath
      exact ⟨home, rfl, (Except.ok.inj hpath).symm⟩
  · obtain ⟨t', hpersist, hstored, -⟩ := persist_of_opensAt token hpath hstands hopens
    exact ⟨t', hpersist, hstored⟩
  · by_contra hnone
    push Not at hnone
    obtain ⟨cause, hpersist⟩ :=
      persist_of_bars token hpath hstands (File.bars_iff.mpr hnone)
    rw [hpersist] at hnote
    cases hnote

/-- A token persisted in a home directory that was set in the meantime, through a link that others
have placed and that leads to no file yet. -/
theorem persist_stores_linked :
    ∃ begun s t t', begun.Stands ∧ Happens begun (s, t) ∧ inHome.path s = .ok "/.vault-token" ∧
      t.get? [".vault-token"] = some (.link "keep/token") ∧ t.get? ["keep", "token"] = none ∧
      inHome.persist s t "hvs.new" = (.ok (.tokenWritten "/.vault-token"), t') ∧
      Stored [] "/.vault-token" "hvs.new" ["keep", "token"] t t' := by
  let away : Setting := ⟨none, none, []⟩
  let kept : Tree := (File.Change.makeDirs "/keep").apply Tree.bare []
  let linked : Tree := (File.Change.link "/.vault-token" "keep/token").apply kept []
  have hbare : Moment.Stands (away, Tree.bare) := by
    refine ⟨fun place name node hnode => ?_, Tree.isDirectory_root _⟩
    simp [Tree.get?, Tree.bare] at hnode
  have hmade : Step (away, Tree.bare) (away, kept) := step_change hbare (Tree.isDirectory_root _)
  have hplaced : Step (away, kept) (away, linked) :=
    step_change (hbare.step hmade) (Tree.isDirectory_root _)
  have hhome : Step (away, linked) ({ away with home := some "/" }, linked) := .setHome (some "/")
  have hlater : Happens (away, Tree.bare) ({ away with home := some "/" }, linked) :=
    .tail (.tail (.tail .refl hmade) hplaced) hhome
  have hpath : inHome.path { away with home := some "/" } = .ok "/.vault-token" := by
    decide +kernel
  have hopens : OpensAt linked [] "/.vault-token" ["keep", "token"] := by
    refine (File.opensAt_iff (hbare.later hlater).rooted (Tree.isDirectory_root _)).mpr ⟨?_, ?_⟩
    · decide +kernel
    · have hnone : linked.get? ["keep", "token"] = none := by decide +kernel
      rintro node hnode
      rw [hnone] at hnode
      cases hnode
  obtain ⟨-, -, hstores, -⟩ := persist_stores_or_spares hbare hlater hpath "hvs.new"
  obtain ⟨t', hpersist, hstored⟩ := hstores _ hopens
  exact ⟨_, _, _, t', hbare, hlater, hpath, by decide +kernel, by decide +kernel, hpersist, hstored⟩

end TokenFile
end LeaseKeeper
