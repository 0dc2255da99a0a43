/-
# One record on each line

A log writes one line for each event that its filter lets pass, and no content can break the lines:
whatever is in the messages, in the names and values of fields, in the names of spans and in those
of the application and the host, controls among it are escaped, so a line break stands at the end of
each line and nowhere else, and each line is read back as the one object that it was written for.
-/
import LeaseKeeper.Proofs.Json.Parsing
import LeaseKeeper.Proofs.Json.Printed
import LeaseKeeper.Proofs.Log.Precedence
import LeaseKeeper.Proofs.Number.Written

namespace LeaseKeeper
namespace Log

open Json (HasNumbers)

/-! ### What lines are about -/

/-- What a line is about. -/
structure Told where
  event : Event
  /-- The span that is current. -/
  scope : Option Scope
  timestamp : Option String

/-- The event that the log is told of, one of another library included. -/
def Act.event? : Act → Option Event
  | .event e => some e
  | .forwarded level target text => some (Session.forwardedEvent level target text)
  | _ => none

namespace Session

/-- The bytes that a log has written. -/
def output (s : Session) : List UInt8 := s.lines.flatMap Text.bytes

/-- The log at another moment. -/
def later (s : Session) (time : Option Moment) : Session := { s with time }

/-- Does what the program tells the log at a moment. -/
def actAt (k : Sink) (s : Session) (m : Option Moment × Act) : Session := act k (s.later m.1) m.2

/-- The event that a line is written for. -/
def reported? (k : Sink) (s : Session) : Act → Option Event
  | .event e =>
    if s.passes k ⟨e.target, e.level, none, e.fields.map (·.name)⟩ then some e else none
  | .forwarded level target text =>
    if s.passes k ⟨target, level, none, forwardedNames⟩ then
      some (forwardedEvent level target text)
    else none
  | _ => none

/-- What the line is about that is written for it. -/
def told? (k : Sink) (s : Session) (a : Act) : Option Told :=
  (reported? k s a).map fun e => ⟨e, s.spans.scope k.storage, s.time.map Moment.recordText⟩

/-- What the lines are about that a log writes from now on, in order. -/
def told (k : Sink) : Session → List (Option Moment × Act) → List Told
  | _, [] => []
  | s, m :: rest => (told? k (s.later m.1) m.2).toList ++ told k (actAt k s m) rest

end Session

/-- The record of what is told, on a line without its end. -/
def Told.line (w : Writer) (t : Told) : List UInt8 :=
  Text.bytes (Json.Value.object (record w t.scope t.timestamp t.event)).text

/-- A line, without the line break at its end, that is about something: there is no control in it,
and it is read as an object with the members of the record. -/
structure IsFrame (w : Writer) (t : Told) (line : List UInt8) : Prop where
  ne_nil : line ≠ []
  noControl : ∀ b ∈ line, 0x20 ≤ b.toNat
  decodes : ∃ members, IsRecord w t.event t.scope t.timestamp members ∧
    Json.parse? line = some (Json.Value.object members).raw

/-! ### Numbers in records -/

/-- The numbers of a value that is written in a record. -/
lemma hasNumbers_json (v : Value) : HasNumbers v.json := by
  cases v with
  | text s => exact .string s
  | bool b => exact .bool b
  | int i => exact .ofInt i
  | double d =>
    show HasNumbers (if d.isFinite then .number (d.text recordLayout) else .null)
    split_ifs with hfinite
    · exact Json.hasNumbers_number.mpr (d.isNumber_text hfinite recordLayout)
    · exact .null
  | shown s => exact .string s
  | quoted s => exact .string _

namespace Stored

/-- The numbers among the values of fields are numbers as they are written. -/
def Numbered (s : Stored) : Prop := ∀ f ∈ s, HasNumbers f.2

variable {s s' : Stored}

lemma Numbered.nil : Numbered [] := List.forall_mem_nil _

lemma Numbered.append (h : s.Numbered) (h' : s'.Numbered) : Numbered (s ++ s') :=
  List.forall_mem_append.mpr ⟨h, h'⟩

lemma Numbered.filter (h : s.Numbered) (p : String × Json.Value String → Bool) :
    Numbered (s.filter p) := fun f hf => h f (List.mem_of_mem_filter hf)

lemma Numbered.put (h : s.Numbered) (key : String) {v : Json.Value String} (hv : HasNumbers v) :
    (s.put key v).Numbered := by
  unfold Stored.put
  split_ifs
  · intro f hf
    obtain ⟨e, he, rfl⟩ := List.mem_map.mp hf
    split_ifs
    · exact hv
    · exact h e he
  · exact h.append (List.forall_mem_singleton.mpr hv)

lemma Numbered.add (h : s.Numbered) (fields : List Field) : (s.add fields).Numbered := by
  induction fields generalizing s with
  | nil => exact h
  | cons f rest ih =>
    refine ih (s := s.addField f) ?_
    unfold addField
    split
    · exact h
    · split
      · exact h
      · exact h.put _ (hasNumbers_json _)

lemma numbered_known {name : String} {v : Option (Json.Value String)}
    (h : ∀ u ∈ v, HasNumbers u) : Numbered (known name v) := by
  cases v with
  | none => exact .nil
  | some u => exact List.forall_mem_singleton.mpr (h u rfl)

lemma lasts_numbered : Lasts Numbered := ⟨.nil, fun fields h => h.add fields⟩

end Stored

open Stored

lemma numbered_base (w : Writer) (e : Event) (scope : Option Scope) (timestamp : Option String)
    (fields : Stored) : (base w e scope timestamp fields).Numbered := by
  have hstring : ∀ {s : Option String}, ∀ u ∈ s.map Json.Value.string, HasNumbers u := by
    intro s u hu
    obtain ⟨t, -, rfl⟩ := Option.map_eq_some_iff.mp hu
    exact .string t
  have hline : ∀ u ∈ e.line.map Json.Value.ofNat, HasNumbers u := by
    intro u hu
    obtain ⟨n, -, rfl⟩ := Option.map_eq_some_iff.mp hu
    exact .ofNat n
  have hspan : ∀ u ∈ scope.map fun s => Json.Value.string s.name, HasNumbers u := by
    intro u hu
    obtain ⟨s, -, rfl⟩ := Option.map_eq_some_iff.mp hu
    exact .string s.name
  refine ((((numbered_known hstring).append ?_).append (numbered_known hstring)).append
    (numbered_known hline)).append (numbered_known hspan)
  intro f hf
  simp only [List.mem_cons, List.not_mem_nil, or_false] at hf
  rcases hf with rfl | rfl | rfl | rfl | rfl | rfl <;> exact .string _

lemma hasNumbers_record (w : Writer) {scope : Option Scope} (timestamp : Option String)
    (e : Event) (h : ∀ s, scope = some s → s.fields.Numbered) :
    HasNumbers (.object (record w scope timestamp e)) := by
  have hscope : Numbered ((scope.map Scope.fields).getD []) := by
    cases scope with
    | none => exact .nil
    | some s => exact h s rfl
  have hown : Numbered (unreserved (Stored.add [] e.fields)) := (Numbered.nil.add e.fields).filter _
  have hgather : (gather w scope timestamp e).Numbered :=
    ((numbered_base w e scope timestamp _).append hown).append ((hscope.filter _).filter _)
  exact .object fun f hf => hgather f (List.mem_mergeSort.mp hf)

/-! ### One line -/

/-- The line of a record is read back as the record. -/
lemma isFrame_record (w : Writer) (t : Told)
    (hnames : ∀ s, t.scope = some s → s.fields.names.Nodup)
    (hnumbers : ∀ s, t.scope = some s → s.fields.Numbered) :
    IsFrame w t (t.line w) := by
  have hvalue := hasNumbers_record w t.timestamp t.event hnumbers
  have hparse := Json.parse?_document hvalue.document
  constructor
  case ne_nil =>
    intro hnil
    rw [Told.line] at hnil
    rw [hnil] at hparse
    cases hparse
  case noControl =>
    refine Json.NoControl.bytes ?_
    rw [Json.Value.text, String.toList_ofList]
    exact hvalue.noControl
  case decodes => exact ⟨_, isRecord_record w t.timestamp t.event hnames, hparse⟩

lemma bytes_recordLine (members : Stored) :
    Text.bytes (recordLine members) = Text.bytes (Json.Value.object members).text ++ [0x0a] := by
  rw [recordLine, Text.bytes, String.toList_append, List.flatMap_append]
  rfl

/-! ### All lines -/

/-- Lines are told apart by the line breaks at their ends. -/
lemma splitOn_lines {lines : List (List UInt8)} (h : ∀ line ∈ lines, 0x0a ∉ line) :
    (lines.flatMap (· ++ [0x0a])).splitOn 0x0a = lines ++ [[]] := by
  have hjoin : lines.flatMap (· ++ [0x0a]) = [0x0a].intercalate (lines ++ [[]]) := by
    induction lines with
    | nil => rfl
    | cons line rest ih =>
      rw [List.flatMap_cons, ih fun l hl => h l (List.mem_cons_of_mem _ hl)]
      cases rest <;> simp [List.intercalate]
  have hbreak : ∀ line ∈ lines ++ [[]], 0x0a ∉ line :=
    List.forall_mem_append.mpr ⟨h, List.forall_mem_singleton.mpr List.not_mem_nil⟩
  rw [hjoin]
  exact List.splitOn_intercalate 0x0a hbreak (by simp)

namespace Session

/-- A log that is told of no event writes no line. -/
lemma lines_act_of_no_event (k : Sink) (s : Session) {a : Act} (h : a.event? = none) :
    (act k s a).lines = s.lines := by
  have hkept : ∀ id {f : Session → Nat → Session}, (∀ i, (f s i).lines = s.lines) →
      (s.withHeld id f).lines = s.lines :=
    fun id _ hf => withHeld_of (Q := fun s' => s'.lines = s.lines) id rfl hf
  cases a with
  | event e => cases h
  | forwarded level target text => cases h
  | span id name target level fields =>
    exact makeSpan_of (Q := fun s' => s'.lines = s.lines) k id _ rfl (fun _ _ => rfl)
      fun _ _ hs => hs
  | enter id => exact hkept id fun _ => rfl
  | exit id => exact hkept id fun _ => rfl
  | close id => exact hkept id fun _ => rfl
  | record id fields => exact hkept id fun _ => rfl

/-- A log that can write adds the line of what it reports, and no other. -/
lemma lines_act {w : Writer} {k : Sink} (hform : k.form = .records w)
    (hbroken : k.isBroken = false) (s : Session) (a : Act) :
    (act k s a).lines = s.lines ++ (told? k s a).toList.map fun t =>
      recordLine (record w t.scope t.timestamp t.event) := by
  have hwrite : ∀ e, (s.write k e).lines = s.lines ++
      [recordLine (record w (s.spans.scope k.storage) (s.time.map Moment.recordText) e)] := by
    intro e
    rw [write, if_neg (by simp [hbroken]), lineOf, hform]
  cases a with
  | event e =>
    by_cases hpasses : s.passes k ⟨e.target, e.level, none, e.fields.map (·.name)⟩ = true
    · simp only [act, told?, reported?, if_pos hpasses]
      exact hwrite e
    · simp [act, told?, reported?, hpasses]
  | forwarded level target text =>
    by_cases hpasses : s.passes k ⟨target, level, none, forwardedNames⟩ = true
    · simp only [act, told?, reported?, if_pos hpasses]
      exact hwrite _
    · simp [act, told?, reported?, hpasses]
  | _ => exact (lines_act_of_no_event k s rfl).trans (List.append_nil _).symm

/-- With no filter all events are reported. -/
lemma map_event_told {k : Sink} (hfilter : k.filter = none) (s : Session)
    (acts : List (Option Moment × Act)) :
    (told k s acts).map Told.event = acts.filterMap fun m => m.2.event? := by
  have hpasses : ∀ (s : Session) (site : Site), s.passes k site = true := by
    intro s site
    rw [passes, hfilter]
  have hone : ∀ (s : Session) (a : Act), (told? k s a).map Told.event = a.event? := by
    intro s a
    cases a <;> simp [told?, reported?, hpasses, Act.event?]
  induction acts generalizing s with
  | nil => rfl
  | cons m rest ih =>
    rw [told, List.map_append, ih, ← Option.toList_map, hone, List.filterMap_cons]
    cases m.2.event? <;> rfl

/-- What a log adds to its output is the lines of what it reports. -/
lemma output_run {w : Writer} {k : Sink} (hform : k.form = .records w)
    (hbroken : k.isBroken = false) (s : Session) (acts : List (Option Moment × Act)) :
    output (acts.foldl (actAt k) s) =
      output s ++ ((told k s acts).map (Told.line w)).flatMap (· ++ [0x0a]) := by
  induction acts generalizing s with
  | nil => exact (List.append_nil _).symm
  | cons m rest ih =>
    have hone : output (actAt k s m) = output s ++
        ((told? k (s.later m.1) m.2).toList.map (Told.line w)).flatMap (· ++ [0x0a]) := by
      have hact := lines_act hform hbroken (s.later m.1) m.2
      rw [output, actAt, hact, List.flatMap_append, List.flatMap_map, List.flatMap_map]
      simp only [bytes_recordLine]
      rfl
    rw [List.foldl_cons, ih, hone, told, List.map_append, List.flatMap_append, List.append_assoc]

lemma time_act (k : Sink) (s : Session) (a : Act) : (act k s a).time = s.time := by
  refine act_of (Q := fun s' => s'.time = s.time) k a rfl ?write ?make ?release ?enter ?leave ?note
  case write =>
    intro e
    unfold write
    split <;> rfl
  case make => exact fun _ _ _ _ => rfl
  case release => exact fun _ _ hs => hs
  case enter => exact fun _ => rfl
  case leave => exact fun _ => rfl
  case note => exact fun _ _ => rfl

/-- A log that is told everything at one moment writes the lines that `run` and `linesOf` have. -/
theorem lines_at_one_moment (k : Sink) (time : Option Moment) (acts : List Act) :
    ((acts.map (time, ·)).foldl (actAt k) start).lines =
      (acts.foldl (act k) { start with time }).lines := by
  have hstill : ∀ s : Session, s.time = time → s.later time = s := by
    rintro s rfl
    rfl
  have hsession : ∀ s : Session, ((acts.map (time, ·)).foldl (actAt k) s).later time =
      acts.foldl (act k) (s.later time) := by
    induction acts with
    | nil => exact fun _ => rfl
    | cons a rest ih =>
      intro s
      have hrest := ih (act k (s.later time) a)
      rwa [hstill _ (time_act k (s.later time) a)] at hrest
  have hlines := congrArg Session.lines (hsession start)
  exact hlines

/-- What a log reports has a line that is read back. -/
lemma isFrame_of_mem_told (w : Writer) (k : Sink) (acts : List (Option Moment × Act))
    {s : Session} (hnames : Spans.Keeps (fun fields => fields.names.Nodup) s.spans.made)
    (hnumbers : Spans.Keeps Stored.Numbered s.spans.made) :
    ∀ t ∈ told k s acts, IsFrame w t (t.line w) := by
  induction acts generalizing s with
  | nil => exact List.forall_mem_nil _
  | cons m rest ih =>
    intro t ht
    rcases List.mem_append.mp ht with ht | ht
    · obtain ⟨e, -, rfl⟩ := Option.map_eq_some_iff.mp (Option.mem_toList.mp ht)
      exact isFrame_record w _ (fun scope hscope => hnames.scope lasts_nodup k.storage hscope)
        fun scope hscope => hnumbers.scope lasts_numbered k.storage hscope
    · have hnames' := keeps_act (s := s.later m.1) lasts_nodup k hnames m.2
      have hnumbers' := keeps_act (s := s.later m.1) lasts_numbered k hnumbers m.2
      exact ih hnames' hnumbers' t ht

/-- One line for each event, and nothing but lines.  Whatever a program tells a log that writes
records, each time at a moment of its own, the output is a list of lines with a line break at the
end of each, and the line breaks tell the lines apart.  There is one line for each event that is
reported, in order, and with no filter these are all events; the line is not empty, has no control
in it, and is read back as the object with the members of the record, for the span that was current
and the moment then. -/
theorem output_frames (w : Writer) (filter : Option Filter) (storage : Bool)
    (acts : List (Option Moment × Act)) :
    let k : Sink := ⟨.records w, filter, storage, false⟩
    let bytes := output (acts.foldl (actAt k) start)
    (filter = none → (told k start acts).map Told.event = acts.filterMap fun m => m.2.event?) ∧
      ∃ lines : List (List UInt8), bytes = lines.flatMap (· ++ [0x0a]) ∧
        bytes.splitOn 0x0a = lines ++ [[]] ∧
        List.Forall₂ (IsFrame w) (told k start acts) lines := by
  intro k bytes
  have hbytes : bytes = ((told k start acts).map (Told.line w)).flatMap (· ++ [0x0a]) :=
    output_run rfl rfl start acts
  have hframes : ∀ t ∈ told k start acts, IsFrame w t (t.line w) :=
    isFrame_of_mem_told w k acts (List.forall_mem_nil _) (List.forall_mem_nil _)
  refine ⟨fun hfilter => map_event_told hfilter start acts, _, hbytes, ?_, ?_⟩
  · rw [hbytes]
    refine splitOn_lines (List.forall_mem_map.mpr fun t ht hbreak => ?_)
    exact absurd ((hframes t ht).noControl _ hbreak) (by decide)
  · rw [List.forall₂_map_right_iff, List.forall₂_same]
    exact hframes

/-- A message that would end its record and begin one of its own. -/
def forgery : Event :=
  .say .info "a\nb" "\"\x7d\n\x7b\"level\":\"error\"" [.of "\\\n" (.text "\r\n")]

/-- An event outside and one within a span, both with a message that would forge a record. -/
def forging : List (Option Moment × Act) :=
  [(none, .event forgery), (none, .span "s" "\n" "t" .info [.of "\n" (.int (-1))]),
    (none, .enter "s"), (none, .event forgery)]

/-- There are two events and two lines, with nothing after their ends. -/
theorem output_frames_forging :
    let k : Sink := ⟨.records ⟨"\n", "1", "\n"⟩, none, true, false⟩
    (told k start forging).map Told.event = [forgery, forgery] ∧
      ((output (forging.foldl (actAt k) start)).splitOn 0x0a).length = 3 := by
  obtain ⟨htold, lines, -, hsplit, hframes⟩ :=
    output_frames ⟨"\n", "1", "\n"⟩ none true forging
  have hevents := htold rfl
  refine ⟨hevents, ?_⟩
  have hlength : lines.length = 2 := by
    rw [← hframes.length_eq, ← List.length_map Told.event, hevents]
    rfl
  rw [hsplit, List.length_append, hlength]
  rfl

end Session
end Log
end LeaseKeeper
