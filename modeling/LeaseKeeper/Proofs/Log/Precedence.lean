/-
# Precedence in the records of a log at work

Whatever a program tells its log, the fields kept with each of the log's spans have one name each:
a span starts with a copy of such fields, and to add fields to them keeps them so.  The record of
any event is therefore as `IsRecord` has it, for the name of the span that is current and the fields
kept with it, which are those that it was given or else those of the span that it was made under.
-/
import LeaseKeeper.Proofs.Log.Kept
import LeaseKeeper.Proofs.Log.Record

namespace LeaseKeeper
namespace Log

open Stored

lemma lasts_nodup : Lasts fun fields => fields.names.Nodup :=
  ⟨List.nodup_nil, fun fields h => nodup_add fields h⟩

namespace Spans

/-- The fields kept with each span have one name each. -/
def IsNamed (made : List Span) : Prop := ∀ span ∈ made, span.kept.names.Nodup

lemma nodup_scope {s : Spans} (h : IsNamed s.made) (storage : Bool) {scope : Scope}
    (hscope : s.scope storage = some scope) : scope.fields.names.Nodup := by
  have hkeeps : Keeps (fun fields => fields.names.Nodup) s.made := h
  exact hkeeps.scope lasts_nodup storage hscope

/-! ### What a span starts with -/

/-- The names of spans and what is kept with them. -/
def contents (made : List Span) : List (String × Stored) :=
  made.map fun span => (span.name, span.kept)

lemma contents_set {made : List Span} {i : ℕ} {old : Span} (hold : made[i]? = some old)
    (keepers : ℕ) : contents (made.set i { old with keepers }) = contents made := by
  refine List.ext_getElem? fun j => ?_
  simp only [contents, List.getElem?_map]
  by_cases hij : i = j
  · subst hij
    obtain ⟨hlt, -⟩ := List.getElem?_eq_some_iff.mp hold
    rw [List.getElem?_set_self hlt, hold]
    rfl
  · rw [List.getElem?_set_ne hij]

lemma contents_letGo (made : List Span) (i : ℕ) : contents (letGo made i) = contents made := by
  induction i using Nat.strongRecOn generalizing made with
  | ind i ih =>
    unfold letGo
    split
    · rfl
    · rename_i old hold
      have hset := contents_set hold (old.keepers - 1)
      split
      · exact hset
      · split
        · rename_i hlast
          exact (ih _ hlast.2 _).trans hset
        · exact hset

lemma contents_keep (made : List Span) (i : ℕ) : contents (keep made i) = contents made := by
  refine List.ext_getElem? fun j => ?_
  simp only [contents, keep, List.getElem?_map, List.getElem?_modify]
  cases made[j]? with
  | none => rfl
  | some span => by_cases hij : i = j <;> simp [hij]

/-- A new span starts with the fields kept with the current one, and its own. -/
lemma contents_make (s : Spans) (name : String) (fields : List Field) :
    contents (s.make name fields).made =
      contents s.made ++ [(name, Stored.add ((s.current.map Span.kept).getD []) fields)] := by
  unfold make
  dsimp only
  split
  · exact List.map_append
  · rw [← contents_keep s.made]
    exact List.map_append

end Spans

namespace Session

open Spans

lemma isNamed_run (k : Sink) (acts : List Act) {s : Session} (h : IsNamed s.spans.made) :
    IsNamed (acts.foldl (act k) s).spans.made := keeps_run lasts_nodup k acts h

/-- The span that a log makes has its own fields, and else those kept with the current one. -/
lemma lookup_kept_makeSpan (k : Sink) (s : Session) (id name : String) (site : Site)
    (fields : List Field) {span : Span}
    (h : (s.makeSpan k id name site fields).spans.made[s.spans.made.length]? = some span) :
    span.name = name ∧ ∀ key, span.kept.lookup key =
      ((fields.filterMap Field.kept?).reverse.lookup key).or
        (s.spans.current.bind fun outer => outer.kept.lookup key) := by
  let kept := Stored.add ((s.spans.current.map Span.kept).getD []) fields
  have hcontents : contents (s.makeSpan k id name site fields).spans.made = contents s.spans.made ∨
      contents (s.makeSpan k id name site fields).spans.made =
        contents s.spans.made ++ [(name, kept)] := by
    refine makeSpan_of (Q := fun s' => contents s'.spans.made = contents s.spans.made ∨
      contents s'.spans.made = contents s.spans.made ++ [(name, kept)]) k id site (.inl rfl) ?_ ?_
    · exact fun _ _ => .inr (contents_make s.spans name fields)
    · intro s' id' i hs'
      rwa [release, close, contents_letGo]
  have hspan : (contents (s.makeSpan k id name site fields).spans.made)[s.spans.made.length]? =
      some (span.name, span.kept) := by rw [contents, List.getElem?_map, h, Option.map_some]
  have hlength : (contents s.spans.made).length = s.spans.made.length := List.length_map ..
  rcases hcontents with hsame | hmade
  · rw [hsame, List.getElem?_eq_none (Nat.le_of_eq hlength)] at hspan
    cases hspan
  · rw [hmade, ← hlength, List.getElem?_concat_length, Option.some.injEq, Prod.mk.injEq] at hspan
    obtain ⟨rfl, hkept⟩ := hspan
    refine ⟨rfl, fun key => ?_⟩
    rw [← hkept, lookup_add]
    cases s.spans.current <;> rfl

/-- The record of an event, which comes after a program has told the log anything whatever,
`acts`, is as `IsRecord` has it for the name of the span that is current then and for the fields
kept with this span, if the log keeps any; a log that can write, and whose filter lets the event
pass, adds a line with this record and nothing else.  A span that is made then has its own fields
kept with it, and else those of the current span. -/
theorem event_isRecord (w : Writer) (filter : Option Filter) (storage isBroken : Bool)
    (time : Option Moment) (acts : List Act) (e : Event) :
    let k : Sink := ⟨.records w, filter, storage, isBroken⟩
    let s := acts.foldl (act k) { start with time }
    (∃ members : Stored,
      IsRecord w e
        (s.spans.current.map fun span => ⟨span.name, if storage then span.kept else []⟩)
        (s.time.map Moment.recordText) members ∧
      (act k s (.event e)).lines =
        if s.passes k ⟨e.target, e.level, none, e.fields.map (·.name)⟩ && !isBroken then
          s.lines ++ [recordLine members]
        else s.lines) ∧
    ∀ id name target level fields span,
      (act k s (.span id name target level fields)).spans.made[s.spans.made.length]? = some span →
      span.name = name ∧ ∀ key, span.kept.lookup key =
        ((fields.filterMap Field.kept?).reverse.lookup key).or
          (s.spans.current.bind fun outer => outer.kept.lookup key) := by
  intro k s
  have hnamed : IsNamed s.spans.made :=
    isNamed_run k acts (s := { start with time }) fun _ h => absurd h List.not_mem_nil
  refine ⟨⟨record w (s.spans.scope storage) (s.time.map Moment.recordText) e, ?_, ?_⟩, ?_⟩
  · exact isRecord_record w _ e fun scope hscope => nodup_scope hnamed storage hscope
  · show (if s.passes k _ then s.write k e else s).lines = _
    cases s.passes k ⟨e.target, e.level, none, e.fields.map (·.name)⟩ with
    | false => rfl
    | true => cases isBroken <;> rfl
  · exact fun id name target level fields span h => lookup_kept_makeSpan k s id name _ fields h

/-- A span with two fields is made and entered. -/
def login : List Act :=
  [.span "l" "login" "t" .info [.of "role" (.text "app"), .of "attempt" (.int 1)], .enter "l"]

/-- A span with a field of the same name is made. -/
def request : Act :=
  .span "r" "request" "t" .info [.of "attempt" (.int 2), .of "path" (.text "/v1")]

/-- A request that is made within a login has fields of its own and of the login.  The record of an
event within the request has them too, but neither one that the event has itself nor one with a
reserved name. -/
theorem event_isRecord_nested :
    let k : Sink := ⟨.records ⟨"agent", "1", "host"⟩, none, true, false⟩
    let s := login.foldl (act k) start
    let s' := [request, .enter "r", .record "r" [.of "level" (.text "none")]].foldl (act k) s
    let e : Event := ⟨.warn, "t", none, none, [.of "path" (.text "/v2")]⟩
    (∃ span, (act k s request).spans.made[1]? = some span ∧ span.name = "request" ∧
      span.kept.lookup "role" = some (.string "app") ∧
      span.kept.lookup "attempt" = some (.ofInt 2)) ∧
    ∃ members : Stored, (act k s' (.event e)).lines = [recordLine members] ∧
      members.lookup "span" = some (.string "request") ∧
      members.lookup "role" = some (.string "app") ∧
      members.lookup "attempt" = some (.ofInt 2) ∧
      members.lookup "path" = some (.string "/v2") ∧
      members.lookup "level" = some (.string "warn") := by
  intro k s s' e
  have hlogin := event_isRecord ⟨"agent", "1", "host"⟩ none true false none login e
  obtain ⟨⟨members, hrecord, hlines⟩, -⟩ :=
    event_isRecord ⟨"agent", "1", "host"⟩ none true false none
      (login ++ [request, .enter "r", .record "r" [.of "level" (.text "none")]]) e
  constructor
  · obtain ⟨hname, hkept⟩ := hlogin.2 "r" "request" "t" .info _ _ rfl
    exact ⟨_, rfl, hname, hkept "role", hkept "attempt"⟩
  · refine ⟨members, hlines, hrecord.span, ?_, ?_, ?_, hrecord.level⟩
    · exact hrecord.free "role" (by decide)
    · exact hrecord.free "attempt" (by decide)
    · exact hrecord.free "path" (by decide)

end Session
end Log
end LeaseKeeper
