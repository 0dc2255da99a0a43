/-
# A persist that is given up

Each of the four steps of a persist can fail, and the whole can be dropped between them or while the
token is being written.  Opening the file already empties it, so what was there before survives only
a persist that never opened the file: from then on there is the part of the token that has been
written so far, which may be nothing, and the whole token if the persist came to its end.  No other
file changes.
-/
import LeaseKeeper.Proofs.File.Walk
import LeaseKeeper.TokenFile
import Mathlib.Logic.Relation

namespace LeaseKeeper
namespace TokenFile

open File (Tree IsFiled)
open Relation (ReflTransGen)

/-! ### The steps of a persist -/

/-- How far a persist has come. -/
inductive Stage
  /-- The file has not been opened. -/
  | closed
  | opened (place : File.Place)
  /-- The mode of the file has been set, and these bytes are left to be written. -/
  | writing (place : File.Place) (rest : List UInt8)
  /-- The file has been flushed. -/
  | done
deriving DecidableEq

/-- One step on the way of a token to a path. -/
inductive Advance (work : File.Place) (path token : String) : Stage × Tree → Stage × Tree → Prop
  | opening {t t' : Tree} {place : File.Place} (h : t.openEmpty work path fileMode = .ok (place, t')) :
      Advance work path token (.closed, t) (.opened place, t')
  | restricting {t : Tree} {place : File.Place} :
      Advance work path token (.opened place, t)
        (.writing place (Text.bytes token), restrict t place)
  /-- Some of the bytes that are left are written, perhaps all of them. -/
  | filling {t : Tree} {place : File.Place} (part rest : List UInt8) :
      Advance work path token (.writing place (part ++ rest), t)
        (.writing place rest, fill t place part)
  | flushing {t : Tree} {place : File.Place} :
      Advance work path token (.writing place [], t) (.done, t)

/-- The steps that a persist has taken so far. -/
abbrev Advances (work : File.Place) (path token : String) : Stage × Tree → Stage × Tree → Prop :=
  ReflTransGen (Advance work path token)

/-- What becomes of a persist: its report, if it comes to one, and the tree that it leaves. -/
inductive Ends (f : TokenFile) (s : Setting) (t : Tree) (token : String) :
    Option (Except KeeperError Note) → Tree → Prop
  /-- There is no path. -/
  | unplaced {e : KeeperError} (hpath : f.path s = .error e) : Ends f s t token (some (.error e)) t
  | finished {path : String} {t' : Tree} (hpath : f.path s = .ok path)
      (h : Advances s.work path token (.closed, t) (.done, t')) :
      Ends f s t token (some (.ok (.tokenWritten path))) t'
  /-- The next step fails. -/
  | failed {path : String} {stage : Stage} {t' : Tree} (hpath : f.path s = .ok path)
      (h : Advances s.work path token (.closed, t) (stage, t')) (hstage : stage ≠ .done)
      (cause : IoError) : Ends f s t token (some (.error (.notPersisted path cause))) t'
  /-- The persist is given up before its next step. -/
  | dropped {path : String} {stage : Stage} {t' : Tree} (hpath : f.path s = .ok path)
      (h : Advances s.work path token (.closed, t) (stage, t')) : Ends f s t token none t'

/-! ### What the steps leave -/

variable {t t' : Tree} {work place : File.Place} {path token : String} {mode : Nat}
  {content : List UInt8}

lemma restrict_filed (h : IsFiled t t' place mode content) (hroot : place ≠ []) :
    IsFiled t (restrict t' place) place fileMode content := by
  unfold restrict
  rw [h.file]
  exact h.set hroot _ _

lemma fill_filed (h : IsFiled t t' place mode content) (hroot : place ≠ [])
    (bytes : List UInt8) : IsFiled t (fill t' place bytes) place mode (content ++ bytes) := by
  unfold fill
  rw [h.file]
  exact h.set hroot _ _

/-- The path leads to a place where a file can be made, and there is now a file with this content
while all else is as before. -/
def Holds (t : Tree) (work : File.Place) (path : String) (t' : Tree) (place : File.Place)
    (content : List UInt8) : Prop :=
  t.locate .make work path = .ok place ∧ t.IsOpenable place ∧
    ∃ mode, IsFiled t t' place mode content

/-- What there is after the steps up to a stage. -/
def Stage.Sound (t : Tree) (work : File.Place) (path token : String) (t' : Tree) : Stage → Prop
  | closed => t' = t
  | opened place => Holds t work path t' place []
  | writing place rest =>
    ∃ written, written ++ rest = Text.bytes token ∧ Holds t work path t' place written
  | done => ∃ place, Holds t work path t' place (Text.bytes token)

/-- Each step leaves what its stage says. -/
lemma Advance.sound {stage stage' : Stage} {t₁ t₂ : Tree}
    (h : Advance work path token (stage, t₁) (stage', t₂))
    (hstage : stage.Sound t work path token t₁) : stage'.Sound t work path token t₂ := by
  cases h with
  | opening h =>
    obtain rfl : t₁ = t := hstage
    exact File.openEmpty_ok h
  | restricting =>
    obtain ⟨hway, hopen, mode, hfile⟩ := hstage
    exact ⟨[], rfl, hway, hopen, _, restrict_filed hfile hopen.ne_root⟩
  | filling part rest =>
    obtain ⟨written, hwritten, hway, hopen, mode, hfile⟩ := hstage
    refine ⟨written ++ part, ?_, hway, hopen, _, fill_filed hfile hopen.ne_root part⟩
    rw [← hwritten, List.append_assoc]
  | flushing =>
    obtain ⟨written, hwritten, hway, hopen, hfile⟩ := hstage
    rw [List.append_nil] at hwritten
    rw [hwritten] at hfile
    exact ⟨_, hway, hopen, hfile⟩

lemma Advances.sound {state : Stage × Tree}
    (h : Advances work path token (.closed, t) state) :
    state.1.Sound t work path token state.2 := by
  induction h with
  | refl => exact rfl
  | tail _ hstep ih => exact hstep.sound ih

/-- At every stage but the first there is a part of the token at the path. -/
lemma Stage.Sound.exists_part {stage : Stage} (h : stage.Sound t work path token t')
    (hstage : stage ≠ .closed) :
    ∃ place written, Holds t work path t' place written ∧ written <+: Text.bytes token ∧
      (stage = .done → written = Text.bytes token) := by
  cases stage with
  | closed => exact absurd rfl hstage
  | opened place => exact ⟨place, [], h, List.nil_prefix, nofun⟩
  | writing place rest =>
    obtain ⟨written, hwritten, h⟩ := h
    exact ⟨place, written, h, ⟨rest, hwritten⟩, nofun⟩
  | done =>
    obtain ⟨place, h⟩ := h
    exact ⟨place, _, h, List.prefix_rfl, fun _ => rfl⟩

/-! ### The undisturbed course -/

/-- The steps up to a part of the token that has been written. -/
lemma advances_writing {opened : Tree} (h : t.openEmpty work path fileMode = .ok (place, opened))
    {part rest : List UInt8} (hpart : part ++ rest = Text.bytes token) :
    Advances work path token (.closed, t)
      (.writing place rest, fill (restrict opened place) place part) := by
  have hopened : Advances work path token (.closed, t) (.opened place, opened) :=
    ReflTransGen.single (.opening h)
  have hrestricted : Advances work path token (.closed, t)
      (.writing place (Text.bytes token), restrict opened place) := hopened.tail .restricting
  rw [← hpart] at hrestricted
  exact hrestricted.tail (.filling part rest)

/-- To write a token is to take all the steps. -/
lemma advances_of_write (h : write t work path token = .ok t') :
    Advances work path token (.closed, t) (.done, t') := by
  unfold write stages at h
  cases hopen : t.openEmpty work path fileMode with
  | error e =>
    rw [hopen] at h
    cases h
  | ok opening =>
    obtain ⟨place, opened⟩ := opening
    rw [hopen] at h
    have hwritten : fill (restrict opened place) place (Text.bytes token) = t' := by
      injection h
    rw [← hwritten]
    exact (advances_writing hopen (List.append_nil _)).tail .flushing

/-- A persist without disturbance is one of those that can happen. -/
lemma ends_persist (f : TokenFile) (s : Setting) (t : Tree) (token : String) :
    Ends f s t token (some (f.persist s t token).1) (f.persist s t token).2 := by
  unfold persist
  cases hpath : f.path s with
  | error e => exact .unplaced hpath
  | ok path =>
    dsimp only
    cases hwrite : write t s.work path token with
    | error cause => exact .failed hpath ReflTransGen.refl (by decide) cause
    | ok written => exact .finished hpath (advances_of_write hwrite)

/-! ### What a persist leaves -/

/-- The path leads to a file with a part of the token, and all else is as before. -/
structure HasPart (t : Tree) (work : File.Place) (path token : String) (t' : Tree)
    (written : List UInt8) : Prop where
  read : t'.read work path = .ok written
  part : written <+: Text.bytes token
  others : ∃ place, t.locate .make work path = .ok place ∧ ∀ q, q ≠ place → t'.get? q = t.get? q

/-- After some steps the file has not been opened and all is as before, or there is a part of the
token, which after the last step is the whole one. -/
lemma Advances.untouched_or_part {stage : Stage}
    (h : Advances work path token (.closed, t) (stage, t')) :
    (stage = .closed ∧ t' = t) ∨ ∃ written, HasPart t work path token t' written ∧
      (stage = .done → written = Text.bytes token) := by
  have hsound : stage.Sound t work path token t' := h.sound
  by_cases hclosed : stage = .closed
  · subst hclosed
    exact .inl ⟨rfl, hsound⟩
  · obtain ⟨place, written, ⟨hway, hopen, mode, hfile⟩, hprefix, hdone⟩ :=
      hsound.exists_part hclosed
    exact .inr ⟨written, ⟨File.read_filed hfile hopen hway, hprefix, place, hway, hfile.others⟩,
      hdone⟩

/-- A file that cannot be opened is not touched. -/
lemma Advances.eq_of_error {state : Stage × Tree} {cause : IoError}
    (h : Advances work path token (.closed, t) state)
    (hopen : t.openEmpty work path fileMode = .error cause) : state = (.closed, t) := by
  induction h with
  | refl => rfl
  | tail _ hstep ih =>
    subst ih
    cases hstep with
    | opening hok =>
      rw [hopen] at hok
      cases hok

/-- Any part of the token can be all that has been written. -/
lemma exists_hasPart {opened : Tree} {written : List UInt8}
    (h : t.openEmpty work path fileMode = .ok (place, opened))
    (hpart : written <+: Text.bytes token) :
    ∃ stage t', Advances work path token (.closed, t) (stage, t') ∧ stage ≠ .done ∧
      t'.read work path = .ok written := by
  obtain ⟨rest, hrest⟩ := hpart
  have hsteps := advances_writing h hrest
  obtain ⟨written', hwritten', hway, hopen, mode, hfile⟩ := hsteps.sound
  obtain rfl : written' = written := List.append_cancel_right (hwritten'.trans hrest.symm)
  exact ⟨_, _, hsteps, by simp, File.read_filed hfile hopen hway⟩

/-- What a persist leaves, however it ends: all is as before, and then it does not report success;
or the path leads to a file with a part of the token, the whole one if the persist reports success.
If the file cannot be opened, all is as before.  If it can be, any part of the token can be what a
persist leaves that is given up or that reports a failure.  A persist without disturbance is one
that can happen. -/
theorem ends_part (f : TokenFile) (s : Setting) (t : Tree) (token : String) :
    (∀ report t', Ends f s t token report t' →
      (t' = t ∧ ∀ note, report ≠ some (.ok note)) ∨
      ∃ path written, f.path s = .ok path ∧ HasPart t s.work path token t' written ∧
        ∀ note, report = some (.ok note) → written = Text.bytes token) ∧
    (∀ path cause, f.path s = .ok path → t.openEmpty s.work path fileMode = .error cause →
      ∀ report t', Ends f s t token report t' → t' = t) ∧
    (∀ path place opened, f.path s = .ok path →
      t.openEmpty s.work path fileMode = .ok (place, opened) →
      ∀ written, written <+: Text.bytes token → ∃ t', t'.read s.work path = .ok written ∧
        Ends f s t token none t' ∧
        ∀ cause, Ends f s t token (some (.error (.notPersisted path cause))) t') ∧
    Ends f s t token (some (f.persist s t token).1) (f.persist s t token).2 := by
  refine ⟨?_, ?_, ?_, ends_persist f s t token⟩
  · intro report t' h
    cases h with
    | unplaced hpath => exact .inl ⟨rfl, nofun⟩
    | finished hpath hsteps =>
      rcases hsteps.untouched_or_part with ⟨hstage, -⟩ | ⟨written, hpart, hdone⟩
      · cases hstage
      · exact .inr ⟨_, written, hpath, hpart, fun _ _ => hdone rfl⟩
    | failed hpath hsteps _ cause =>
      rcases hsteps.untouched_or_part with ⟨-, hsame⟩ | ⟨written, hpart, -⟩
      · exact .inl ⟨hsame, nofun⟩
      · exact .inr ⟨_, written, hpath, hpart, nofun⟩
    | dropped hpath hsteps =>
      rcases hsteps.untouched_or_part with ⟨-, hsame⟩ | ⟨written, hpart, -⟩
      · exact .inl ⟨hsame, nofun⟩
      · exact .inr ⟨_, written, hpath, hpart, nofun⟩
  · intro path cause hpath hopen report t' h
    have hsame : ∀ {path' : String} {stage : Stage}, f.path s = .ok path' →
        Advances s.work path' token (.closed, t) (stage, t') → t' = t := by
      intro path' stage hpath' hsteps
      obtain rfl : path = path' := Except.ok.inj (hpath.symm.trans hpath')
      exact congrArg Prod.snd (hsteps.eq_of_error hopen)
    cases h with
    | unplaced hpath' => rfl
    | finished hpath' hsteps => exact hsame hpath' hsteps
    | failed hpath' hsteps => exact hsame hpath' hsteps
    | dropped hpath' hsteps => exact hsame hpath' hsteps
  · intro path place opened hpath hopen written hwritten
    obtain ⟨stage, t', hsteps, hstage, hread⟩ := exists_hasPart hopen hwritten
    exact ⟨t', hread, .dropped hpath hsteps, .failed hpath hsteps hstage⟩

/-- A token that takes the place of another one. -/
def replaced : Tree := ⟨[(["token"], .file fileMode (Text.bytes "old"))]⟩

/-- One byte can be all that is left. -/
theorem ends_part_one :
    ∃ t', t'.read [] "/token" = .ok (Text.bytes "n") ∧
      Ends (.at "/token") ⟨none, none, []⟩ replaced "new" none t' := by
  have hopen : replaced.openEmpty [] "/token" fileMode =
      .ok (["token"], replaced.set ["token"] (.file fileMode [])) := by decide +kernel
  have hpart : Text.bytes "n" <+: Text.bytes "new" := ⟨Text.bytes "ew", by decide +kernel⟩
  obtain ⟨-, -, hleft, -⟩ := ends_part (.at "/token") ⟨none, none, []⟩ replaced "new"
  obtain ⟨t', hread, hdropped, -⟩ := hleft "/token" _ _ rfl hopen _ hpart
  exact ⟨t', hread, hdropped⟩

/-- Neither the old token nor the new one is left when a persist is given up, or fails, after it
has opened the file. -/
theorem neither_token :
    ∃ t', Ends (.at "/token") ⟨none, none, []⟩ replaced "new" none t' ∧
      Ends (.at "/token") ⟨none, none, []⟩ replaced "new"
        (some (.error (.notPersisted "/token" .noSpace))) t' ∧
      replaced.read [] "/token" = .ok (Text.bytes "old") ∧ t'.read [] "/token" = .ok [] ∧
      [] ≠ Text.bytes "old" ∧ [] ≠ Text.bytes "new" := by
  have hopen : replaced.openEmpty [] "/token" fileMode =
      .ok (["token"], replaced.set ["token"] (.file fileMode [])) := by decide +kernel
  have hsteps : Advances [] "/token" "new" (.closed, replaced)
      (.opened ["token"], replaced.set ["token"] (.file fileMode [])) :=
    ReflTransGen.single (.opening hopen)
  have hold : replaced.read [] "/token" = .ok (Text.bytes "old") := by decide +kernel
  have hleft : (replaced.set ["token"] (.file fileMode [])).read [] "/token" = .ok [] := by
    decide +kernel
  exact ⟨_, .dropped rfl hsteps, .failed rfl hsteps (by decide) _, hold, hleft,
    by decide +kernel, by decide +kernel⟩

end TokenFile
end LeaseKeeper
