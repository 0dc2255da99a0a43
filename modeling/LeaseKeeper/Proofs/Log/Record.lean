/-
# Which field a record shows

A record has each name once.  The base members are those of the log itself, whatever the fields of
the event and of the span are called; under any other name stands what the event says there, or else
what is kept with the current span.  `IsRecord` says so member by member, `isRecord_record` is the
law for any span whose fields have one name each, and the fields that a log keeps with its spans are
always like that.
-/
import LeaseKeeper.Log.Session
import Mathlib.Data.List.Nodup

namespace LeaseKeeper
namespace Log

/-! ### Fields that are stored -/

/-- The name and the value under which a field is stored, if it is stored at all. -/
def Field.kept? (f : Field) : Option (String × Json.Value String) :=
  f.value.bind fun v => (v.key? f.name).map fun key => (key, v.json)

/-- What an event says under a name: the last of its fields that are stored under it. -/
def Event.value? (e : Event) (key : String) : Option (Json.Value String) :=
  (e.fields.filterMap Field.kept?).reverse.lookup key

namespace Stored

/-- The names that are stored. -/
def names (s : Stored) : List String := s.map Prod.fst

lemma addField_of_kept {f : Field} {key : String} {v : Json.Value String} (s : Stored)
    (h : f.kept? = some (key, v)) : s.addField f = s.put key v := by
  simp only [Field.kept?, Option.bind_eq_some_iff, Option.map_eq_some_iff, Prod.mk.injEq] at h
  obtain ⟨value, hv, name, hk, rfl, rfl⟩ := h
  simp only [addField, hv, hk]

lemma addField_of_not_kept {f : Field} (s : Stored) (h : f.kept? = none) : s.addField f = s := by
  simp only [Field.kept?, Option.bind_eq_none_iff, Option.map_eq_none_iff] at h
  unfold addField
  cases hv : f.value with
  | none => rfl
  | some value => simp only [h value hv]

lemma any_key_iff {s : Stored} {key : String} :
    (s.any fun e => decide (e.1 = key)) = true ↔ key ∈ s.names := by
  simp [names]

lemma names_put_of_mem {s : Stored} {key : String} (v : Json.Value String) (h : key ∈ s.names) :
    (s.put key v).names = s.names := by
  unfold put names
  rw [if_pos (any_key_iff.mpr h), List.map_map]
  refine List.map_congr_left fun e _ => ?_
  by_cases he : e.1 = key
  · simp [he]
  · simp [he]

lemma names_put_of_not_mem {s : Stored} {key : String} (v : Json.Value String)
    (h : key ∉ s.names) : (s.put key v).names = s.names ++ [key] := by
  unfold put
  rw [if_neg (fun hany => h (any_key_iff.mp hany))]
  simp [names]

lemma nodup_put {s : Stored} (key : String) (v : Json.Value String) (h : s.names.Nodup) :
    (s.put key v).names.Nodup := by
  by_cases hk : key ∈ s.names
  · rw [names_put_of_mem v hk]
    exact h
  · rw [names_put_of_not_mem v hk]
    rw [← List.concat_eq_append]
    exact h.concat hk

/-- Fields that are added keep one name each. -/
lemma nodup_add {s : Stored} (fields : List Field) (h : s.names.Nodup) :
    (s.add fields).names.Nodup := by
  induction fields generalizing s with
  | nil => exact h
  | cons f rest ih =>
    refine ih (s := s.addField f) ?_
    cases hf : f.kept? with
    | none =>
      rw [addField_of_not_kept s hf]
      exact h
    | some entry =>
      rw [addField_of_kept s hf]
      exact nodup_put _ _ h

lemma lookup_eq_none {s : Stored} {key : String} (h : key ∉ s.names) : s.lookup key = none := by
  rw [List.lookup_eq_none_iff]
  intro e he
  have hne : key ≠ e.1 := by
    rintro rfl
    exact h (List.mem_map_of_mem he)
  simpa using hne

lemma isSome_lookup {s : Stored} {key : String} (h : key ∈ s.names) :
    ∃ v, s.lookup key = some v := by
  rw [← Option.ne_none_iff_exists']
  intro hnone
  obtain ⟨e, he, rfl⟩ := List.mem_map.mp h
  have hne := List.lookup_eq_none_iff.mp hnone e he
  simp at hne

/-- To replace what stands under one name changes nothing under the others. -/
lemma lookup_replaced (s : Stored) (key : String) (v : Json.Value String) (k : String) :
    (s.map fun e => if e.1 = key then (key, v) else e).lookup k =
      (s.lookup k).map fun u => if k = key then v else u := by
  induction s with
  | nil => rfl
  | cons e rest ih =>
    obtain ⟨name, u⟩ := e
    rw [List.map_cons]
    by_cases hk : k = name
    · subst hk
      by_cases hname : k = key
      · simp [hname]
      · simp [hname]
    · have hbeq : (k == name) = false := beq_eq_false_iff_ne.mpr hk
      by_cases hname : name = key
      · subst hname
        simp [List.lookup_cons, hbeq, ih]
      · simp [List.lookup_cons, hbeq, hname, ih]

/-- The value that was put in last is the one that is found. -/
lemma lookup_put (s : Stored) (key : String) (v : Json.Value String) (k : String) :
    (s.put key v).lookup k = if k = key then some v else s.lookup k := by
  unfold put
  split
  · rename_i hany
    rw [lookup_replaced]
    split
    · rename_i hk
      subst hk
      obtain ⟨u, hu⟩ := isSome_lookup (any_key_iff.mp hany)
      rw [hu, Option.map_some]
    · exact Option.map_id'
  · rename_i hany
    have hmem : key ∉ s.names := fun h => hany (any_key_iff.mpr h)
    rw [List.lookup_append]
    split
    · rename_i hk
      subst hk
      simp [lookup_eq_none hmem]
    · rename_i hk
      simp [List.lookup_cons, beq_eq_false_iff_ne.mpr hk]

/-- Under each name stands the last field that was added there, or else what stood there before. -/
lemma lookup_add (s : Stored) (fields : List Field) (k : String) :
    (s.add fields).lookup k =
      ((fields.filterMap Field.kept?).reverse.lookup k).or (s.lookup k) := by
  induction fields generalizing s with
  | nil => rfl
  | cons f rest ih =>
    have hadd : s.add (f :: rest) = (s.addField f).add rest := rfl
    rw [hadd, ih]
    cases hf : f.kept? with
    | none => rw [addField_of_not_kept s hf, List.filterMap_cons_none hf]
    | some entry =>
      obtain ⟨key, v⟩ := entry
      rw [addField_of_kept s hf, List.filterMap_cons_some hf, List.reverse_cons,
        List.lookup_append, Option.or_assoc, lookup_put]
      by_cases hk : k = key
      · simp [hk]
      · simp [hk, List.lookup_cons, beq_eq_false_iff_ne.mpr hk]

/-- What is found among the entries whose names satisfy `p`. -/
lemma lookup_filter_names (p : String → Bool) (s : Stored) (k : String) :
    (s.filter fun e => p e.1).lookup k = if p k then s.lookup k else none := by
  induction s with
  | nil => simp
  | cons e rest ih =>
    obtain ⟨name, v⟩ := e
    by_cases hk : k = name
    · subst hk
      by_cases hp : p k = true
      · simp [hp]
      · simp [hp, ih]
    · by_cases hp : p name = true
      · simp [hp, List.lookup_cons, beq_eq_false_iff_ne.mpr hk, ih]
      · simp [hp, List.lookup_cons, beq_eq_false_iff_ne.mpr hk, ih]

/-- With one name each, an entry is found exactly if it is there. -/
lemma lookup_eq_some {s : Stored} (h : s.names.Nodup) {key : String} {v : Json.Value String} :
    s.lookup key = some v ↔ (key, v) ∈ s := by
  induction s with
  | nil => simp
  | cons e rest ih =>
    obtain ⟨name, u⟩ := e
    obtain ⟨hname, hrest⟩ := List.nodup_cons.mp h
    by_cases hk : key = name
    · subst hk
      have habsent : (key, v) ∉ rest := fun hmem => hname (List.mem_map.mpr ⟨_, hmem, rfl⟩)
      simp [habsent, eq_comm]
    · simp [List.lookup_cons, beq_eq_false_iff_ne.mpr hk, hk, ih hrest]

lemma names_sorted_perm (s : Stored) : s.sorted.names.Perm s.names :=
  (List.mergeSort_perm _ _).map Prod.fst

lemma lookup_sorted {s : Stored} (h : s.names.Nodup) (key : String) :
    s.sorted.lookup key = s.lookup key := by
  ext v
  rw [lookup_eq_some h, lookup_eq_some ((names_sorted_perm s).nodup_iff.mpr h)]
  exact List.mem_mergeSort

lemma pairwise_sorted (s : Stored) : s.sorted.names.Pairwise (· ≤ ·) := by
  refine List.pairwise_map.mpr ((List.pairwise_mergeSort ?_ ?_ s).imp of_decide_eq_true)
  · intro a b c hab hbc
    exact decide_eq_true (String.le_trans (of_decide_eq_true hab) (of_decide_eq_true hbc))
  · intro a b
    simpa using String.le_total a.1 b.1

lemma names_filter (p : String → Bool) (s : Stored) :
    names (s.filter fun e => p e.1) = s.names.filter p := by
  simp [names, List.filter_map, Function.comp_def]

end Stored

/-! ### The members of a record -/

open Stored

/-- What is kept with the current span under a name. -/
def Scope.value? (scope : Option Scope) (key : String) : Option (Json.Value String) :=
  scope.bind fun s => s.fields.lookup key

/-- The members of the record of an event: each name stands there once, in its order, the reserved
names are the log's own, and any other one is the event's, or else the span's. -/
structure IsRecord (w : Writer) (e : Event) (scope : Option Scope) (timestamp : Option String)
    (members : Stored) : Prop where
  nodup : members.names.Nodup
  ordered : members.names.Pairwise (· ≤ ·)
  timestamp : members.lookup "timestamp" = timestamp.map .string
  level : members.lookup "level" = some (.string e.level.name)
  target : members.lookup "target" = some (.string e.target)
  text_message : ∀ text, e.value? "message" = some (.string text) →
    members.lookup "message" = some (.string text)
  other_message : (∀ text, e.value? "message" ≠ some (.string text)) →
    members.lookup "message" = some (.string e.target)
  application : members.lookup "application" = some (.string w.application)
  version : members.lookup "version" = some (.string w.version)
  hostname : members.lookup "hostname" = some (.string w.hostname)
  file : members.lookup "file" = e.file.map .string
  line : members.lookup "line" = e.line.map .ofNat
  span : members.lookup "span" = scope.map fun s => .string s.name
  free : ∀ key, key ∉ reserved →
    members.lookup key = (e.value? key).or (Scope.value? scope key)

lemma names_known_sublist (name : String) (v : Option (Json.Value String)) :
    (names (known name v)).Sublist [name] := by
  cases v with
  | none => exact List.nil_sublist _
  | some v => exact List.Sublist.refl _

/-- The base members stand in the order in which their names are reserved. -/
lemma names_base_sublist (w : Writer) (e : Event) (scope : Option Scope)
    (timestamp : Option String) (fields : Stored) :
    (names (base w e scope timestamp fields)).Sublist reserved := by
  have hfirst := names_known_sublist "timestamp" (timestamp.map .string)
  have hfile := names_known_sublist "file" (e.file.map .string)
  have hline := names_known_sublist "line" (e.line.map .ofNat)
  have hspan := names_known_sublist "span" (scope.map fun s => .string s.name)
  have hfixed : (names [("level", .string e.level.name), ("target", .string e.target),
      ("message", .string (message e.target fields)), ("application", .string w.application),
      ("version", .string w.version), ("hostname", .string w.hostname)]).Sublist
      ["level", "target", "message", "application", "version", "hostname"] :=
    List.Sublist.refl _
  have hall := (((hfirst.append hfixed).append hfile).append hline).append hspan
  have hreserved : ((((["timestamp"] ++
      ["level", "target", "message", "application", "version", "hostname"]) ++ ["file"]) ++
      ["line"]) ++ ["span"] : List String) = reserved := rfl
  rw [hreserved] at hall
  simpa only [names, base, List.map_append] using hall

lemma nodup_reserved : reserved.Nodup := by decide

lemma lookup_base_of_free (w : Writer) (e : Event) (scope : Option Scope)
    (timestamp : Option String) (fields : Stored) {key : String} (h : key ∉ reserved) :
    (base w e scope timestamp fields).lookup key = none :=
  lookup_eq_none fun hmem => h ((names_base_sublist w e scope timestamp fields).subset hmem)

lemma lookup_unreserved (s : Stored) (key : String) :
    (unreserved s).lookup key = if key ∈ reserved then none else s.lookup key := by
  have hfilter := lookup_filter_names (fun name => !reserved.contains name) s key
  by_cases h : key ∈ reserved
  · simpa [unreserved, h] using hfilter
  · simpa [unreserved, h] using hfilter

lemma nodup_unreserved {s : Stored} (h : s.names.Nodup) : (unreserved s).names.Nodup := by
  have hnames := names_filter (fun name => !reserved.contains name) s
  rw [unreserved, hnames]
  exact h.filter _

lemma not_mem_reserved {s : Stored} {key : String} (h : key ∈ (unreserved s).names) :
    key ∉ reserved := by
  have hnames := names_filter (fun name => !reserved.contains name) s
  rw [unreserved, hnames, List.mem_filter] at h
  simpa using h.2

/-- The fields of a span that stand in a record beside those of the event. -/
def inherited (own : Stored) (scope : Option Scope) : Stored :=
  (unreserved ((scope.map Scope.fields).getD [])).filter fun f => !own.any (·.1 = f.1)

lemma lookup_inherited (own : Stored) (scope : Option Scope) (key : String) :
    (inherited own scope).lookup key =
      if key ∈ own.names ∨ key ∈ reserved then none else Scope.value? scope key := by
  have hfilter := lookup_filter_names (fun name => !own.any (·.1 = name))
    (unreserved ((scope.map Scope.fields).getD [])) key
  rw [inherited, hfilter, lookup_unreserved]
  have hscope : ((scope.map Scope.fields).getD []).lookup key = Scope.value? scope key := by
    cases scope <;> rfl
  rw [hscope]
  by_cases hown : key ∈ own.names
  · simp [hown, any_key_iff.mpr hown]
  · have hany : (own.any (·.1 = key)) = false := by
      rw [Bool.eq_false_iff]
      exact fun h => hown (any_key_iff.mp h)
    simp [hown, hany]

lemma lookup_gather (w : Writer) (scope : Option Scope) (timestamp : Option String) (e : Event)
    (key : String) :
    (gather w scope timestamp e).lookup key =
      if key ∈ reserved then (base w e scope timestamp (Stored.add [] e.fields)).lookup key
      else (e.value? key).or (Scope.value? scope key) := by
  have hown : (Stored.add [] e.fields).lookup key = e.value? key := by
    rw [lookup_add]
    simp [Event.value?]
  have hgather : gather w scope timestamp e =
      base w e scope timestamp (Stored.add [] e.fields) ++ unreserved (Stored.add [] e.fields)
        ++ inherited (unreserved (Stored.add [] e.fields)) scope := rfl
  rw [hgather, List.lookup_append, List.lookup_append, lookup_unreserved, lookup_inherited]
  split
  · rename_i hkey
    simp [hkey]
  · rename_i hkey
    rw [lookup_base_of_free _ _ _ _ _ hkey, Option.none_or, hown]
    by_cases hmem : key ∈ (unreserved (Stored.add [] e.fields)).names
    · -- The event uses the name, so the span's field is left out.
      obtain ⟨v, hv⟩ := isSome_lookup hmem
      rw [lookup_unreserved, if_neg hkey, hown] at hv
      simp [hmem, hv]
    · have hnone := lookup_eq_none hmem
      rw [lookup_unreserved, if_neg hkey, hown] at hnone
      simp [hmem, hkey, hnone]

/-- The members have one name each, if the fields of the span do. -/
lemma nodup_gather (w : Writer) {scope : Option Scope} (timestamp : Option String) (e : Event)
    (h : ∀ s, scope = some s → s.fields.names.Nodup) :
    (gather w scope timestamp e).names.Nodup := by
  have hbase := names_base_sublist w e scope timestamp (Stored.add [] e.fields)
  have hown : (unreserved (Stored.add [] e.fields)).names.Nodup :=
    nodup_unreserved (nodup_add e.fields List.nodup_nil)
  have hscope : (names ((scope.map Scope.fields).getD [])).Nodup := by
    cases scope with
    | none => exact List.nodup_nil
    | some s => exact h s rfl
  have hin := names_filter (fun name => !(unreserved (Stored.add [] e.fields)).any (·.1 = name))
    (unreserved ((scope.map Scope.fields).getD []))
  have hgather : (gather w scope timestamp e).names =
      (base w e scope timestamp (Stored.add [] e.fields)).names
        ++ (unreserved (Stored.add [] e.fields)).names
        ++ (inherited (unreserved (Stored.add [] e.fields)) scope).names := by
    simp [gather, inherited, names]
  rw [hgather, List.nodup_append, List.nodup_append]
  refine ⟨⟨nodup_reserved.sublist hbase, hown, ?_⟩, ?_, ?_⟩
  · rintro key hkey _ hkey' rfl
    exact not_mem_reserved hkey' (hbase.subset hkey)
  · rw [inherited, hin]
    exact (nodup_unreserved hscope).filter _
  · rintro key hkey _ hkey' rfl
    rw [inherited, hin, List.mem_filter] at hkey'
    rcases List.mem_append.mp hkey with hleft | hleft
    · exact not_mem_reserved hkey'.1 (hbase.subset hleft)
    · have hany := any_key_iff.mpr hleft
      simp [hany] at hkey'

lemma lookup_known (name : String) (v : Option (Json.Value String)) (key : String) :
    (known name v).lookup key = if key = name then v else none := by
  cases v with
  | none => simp [known]
  | some v =>
    by_cases hkey : key = name
    · simp [known, hkey]
    · simp [known, hkey, List.lookup_cons, beq_eq_false_iff_ne.mpr hkey]

/-- The record of an event within a span whose fields have one name each. -/
theorem isRecord_record (w : Writer) {scope : Option Scope} (timestamp : Option String)
    (e : Event) (h : ∀ s, scope = some s → s.fields.names.Nodup) :
    IsRecord w e scope timestamp (record w scope timestamp e) := by
  have hmessage : (Stored.add [] e.fields).lookup "message" = e.value? "message" := by
    rw [lookup_add]
    simp [Event.value?]
  have hnodup := nodup_gather w timestamp e h
  have hbase : ∀ key ∈ reserved, (record w scope timestamp e).lookup key =
      (base w e scope timestamp (Stored.add [] e.fields)).lookup key := by
    intro key hkey
    rw [record, lookup_sorted hnodup, lookup_gather, if_pos hkey]
  constructor
  case nodup => exact (names_sorted_perm _).nodup_iff.mpr hnodup
  case ordered => exact pairwise_sorted _
  case free =>
    intro key hkey
    rw [record, lookup_sorted hnodup, lookup_gather, if_neg hkey]
  case text_message =>
    intro text htext
    rw [hbase _ (by decide)]
    simp [base, List.lookup_append, lookup_known, List.lookup_cons, message, messageName,
      hmessage, htext]
  case other_message =>
    intro hother
    have htarget : message e.target (Stored.add [] e.fields) = e.target := by
      unfold message messageName
      rw [hmessage]
      split
      · rename_i text htext
        exact absurd htext (hother text)
      · rfl
    rw [hbase _ (by decide)]
    simp [base, List.lookup_append, lookup_known, List.lookup_cons, htarget]
  -- The other members do not depend on the fields of the event.
  all_goals
    rw [hbase _ (by decide)]
    simp [base, List.lookup_append, lookup_known, List.lookup_cons]

end Log
end LeaseKeeper
