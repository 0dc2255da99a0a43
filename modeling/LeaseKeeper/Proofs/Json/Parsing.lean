/-
# Documents are read as their values

The tokens of a value take the builder from where a value is due to where this value has come, with
the lists and objects around it unchanged.  The other way round, the builder holds all tokens that
it has taken.  So bytes are read as a value exactly when they are a document of this value.
-/
import LeaseKeeper.Proofs.Json.Passed
import LeaseKeeper.Proofs.Json.Tokens

namespace LeaseKeeper
namespace Json

namespace Builder

/-! ### The tokens of a value are taken -/

/-- The builder takes the tokens of a value where one is due. -/
def Takes (v : Raw) : Prop :=
  ∀ stack rest, (rawTokens v ++ rest).foldlM push? (.value stack) =
    rest.foldlM push? (.after v stack)

/-- Parts with commas between them up to the closing token, of which the builder takes each where it
has come by the ones before. -/
lemma foldlM_separated {α : Type} {tokens : α → List Token} {close : Token} {parts : List α}
    (before : List α → Builder) (behind : α → List α → Builder) (closed : List α → Builder)
    (htakes : ∀ a ∈ parts, ∀ rev more, (tokens a ++ more).foldlM push? (before rev) =
      more.foldlM push? (behind a rev))
    (hcomma : ∀ a rev, push? (behind a rev) .comma = some (before (a :: rev)))
    (hclose : ∀ a rev, push? (behind a rev) close = some (closed (a :: rev).reverse))
    (hne : parts ≠ []) (rev : List α) (rest : List Token) :
    ([Token.comma].intercalate (parts.map tokens) ++ close :: rest).foldlM push? (before rev) =
      rest.foldlM push? (closed (rev.reverse ++ parts)) := by
  -- The parts before are kept in reverse, so the induction is on those that are left.
  induction parts generalizing rev with
  | nil => exact absurd rfl hne
  | cons a parts ih =>
    have ha := htakes a (List.mem_cons_self ..) rev
    cases parts with
    | nil =>
      have hone : [Token.comma].intercalate ([a].map tokens) = tokens a := by
        simp [List.intercalate]
      rw [hone, ha, List.foldlM_cons, hclose, List.reverse_cons]
      rfl
    | cons next parts =>
      have hsplit : [Token.comma].intercalate ((a :: next :: parts).map tokens) =
          tokens a ++ .comma :: [Token.comma].intercalate ((next :: parts).map tokens) := by
        simp
      have hrest := ih (fun b hb => htakes b (List.mem_cons_of_mem _ hb)) (List.cons_ne_nil _ _)
        (a :: rev)
      rw [List.reverse_cons, List.append_assoc] at hrest
      rw [hsplit, List.append_assoc, ha, List.cons_append, List.foldlM_cons, hcomma]
      exact hrest

lemma foldlM_items {items : List Raw} (h : ∀ v ∈ items, Takes v) (hne : items ≠ [])
    (stack : List Frame) (rest : List Token) :
    ([Token.comma].intercalate (rawItemTokens items) ++ .closeArray :: rest).foldlM push?
        (.value (.items [] :: stack)) =
      rest.foldlM push? (.after (.array items) stack) := by
  rw [rawItemTokens_eq_map]
  exact foldlM_separated (fun rev => .value (.items rev :: stack))
    (fun v rev => .after v (.items rev :: stack)) (fun items => .after (.array items) stack)
    (fun v hv rev more => h v hv _ more) (fun _ _ => rfl) (fun _ _ => rfl) hne [] rest

lemma foldlM_members {members : List (Option String × Raw)} (h : ∀ m ∈ members, Takes m.2)
    (hne : members ≠ []) (stack : List Frame) (rest : List Token) :
    ([Token.comma].intercalate (rawMemberTokens members) ++ .closeObject :: rest).foldlM push?
        (.name [] stack) =
      rest.foldlM push? (.after (.object members) stack) := by
  have htakes : ∀ m ∈ members, ∀ rev more, (memberOf m ++ more).foldlM push? (.name rev stack) =
      more.foldlM push? (.after m.2 (.members rev m.1 :: stack)) :=
    fun m hm rev more => h m hm (.members rev m.1 :: stack) more
  rw [rawMemberTokens_eq_map]
  exact foldlM_separated (fun rev => .name rev stack)
    (fun m rev => .after m.2 (.members rev m.1 :: stack))
    (fun members => .after (.object members) stack) htakes (fun _ _ => rfl) (fun _ _ => rfl)
    hne [] rest

/-- Where a list has been opened, the first item is taken like any other value. -/
lemma foldlM_opened {items : List Raw} (hne : items ≠ []) (stack : List Frame)
    (rest : List Token) :
    ([Token.comma].intercalate (rawItemTokens items) ++ rest).foldlM push? (.opened stack) =
      ([Token.comma].intercalate (rawItemTokens items) ++ rest).foldlM push?
        (.value (.items [] :: stack)) := by
  obtain ⟨v, items, rfl⟩ := List.exists_cons_of_ne_nil hne
  -- The first token of a value is no closing bracket.
  cases items with
  | nil => cases v <;> rfl
  | cons next items => cases v <;> rfl

/-- Where an object has been opened, the first name is taken like any other one. -/
lemma foldlM_openedObject {members : List (Option String × Raw)} (hne : members ≠ [])
    (stack : List Frame) (rest : List Token) :
    ([Token.comma].intercalate (rawMemberTokens members) ++ rest).foldlM push?
        (.openedObject stack) =
      ([Token.comma].intercalate (rawMemberTokens members) ++ rest).foldlM push?
        (.name [] stack) := by
  obtain ⟨⟨name, v⟩, members, rfl⟩ := List.exists_cons_of_ne_nil hne
  cases members with
  | nil => rfl
  | cons next members => rfl

lemma takes (v : Raw) : Takes v := by
  -- A list or an object is opened, its parts are taken by induction, and the last one closes it.
  induction v using Value.parts_induction with
  | null => exact fun _ _ => rfl
  | bool => exact fun _ _ => rfl
  | number => exact fun _ _ => rfl
  | string => exact fun _ _ => rfl
  | array items ih =>
    intro stack rest
    have hopen : (rawTokens (.array items) ++ rest).foldlM push? (.value stack) =
        ([Token.comma].intercalate (rawItemTokens items) ++ .closeArray :: rest).foldlM push?
          (.opened stack) := by
      rw [rawTokens, List.cons_append, List.append_assoc]
      rfl
    rw [hopen]
    cases items with
    | nil => rfl
    | cons v items =>
      rw [foldlM_opened (List.cons_ne_nil _ _), foldlM_items ih (List.cons_ne_nil _ _)]
  | object members ih =>
    intro stack rest
    have hopen : (rawTokens (.object members) ++ rest).foldlM push? (.value stack) =
        ([Token.comma].intercalate (rawMemberTokens members) ++ .closeObject :: rest).foldlM push?
          (.openedObject stack) := by
      rw [rawTokens, List.cons_append, List.append_assoc]
      rfl
    rw [hopen]
    cases members with
    | nil => rfl
    | cons m members =>
      rw [foldlM_openedObject (List.cons_ne_nil _ _), foldlM_members ih (List.cons_ne_nil _ _)]

/-! ### The tokens that were taken -/

/-- Parts with a comma after each of them. -/
def followed {α : Type} (tokens : α → List Token) (rev : List α) : List Token :=
  rev.reverse.flatMap fun a => tokens a ++ [.comma]

lemma followed_cons {α : Type} (tokens : α → List Token) (a : α) (rev : List α) :
    followed tokens (a :: rev) = followed tokens rev ++ (tokens a ++ [.comma]) := by
  simp [followed]

/-- The last part has no comma after it. -/
lemma intercalate_reverse {α : Type} (tokens : α → List Token) (a : α) (rev : List α) :
    [Token.comma].intercalate ((a :: rev).reverse.map tokens) =
      followed tokens rev ++ tokens a := by
  have hparts : ∀ parts : List α, [Token.comma].intercalate ((parts ++ [a]).map tokens) =
      parts.flatMap (fun a => tokens a ++ [.comma]) ++ tokens a := by
    intro parts
    induction parts with
    | nil => simp [List.intercalate]
    | cons b parts ih =>
      obtain ⟨next, rest, hrest⟩ := List.exists_cons_of_ne_nil
        (show parts ++ [a] ≠ [] by simp)
      rw [List.cons_append, hrest, List.map_cons, List.map_cons, List.intercalate_cons_cons,
        ← List.map_cons, ← hrest, ih, List.flatMap_cons, List.append_assoc, List.append_assoc,
        List.append_assoc]
  rw [List.reverse_cons, hparts, followed]

end Builder

/-- The tokens of a list or object that has begun. -/
def Frame.tokens : Frame → List Token
  | .items rev => .openArray :: Builder.followed rawTokens rev
  | .members rev key =>
    .openObject :: (Builder.followed memberOf rev ++ [.string key, .colon])

namespace Builder

/-- The tokens of all lists and objects that have begun. -/
def stackTokens (stack : List Frame) : List Token := stack.reverse.flatMap Frame.tokens

@[simp] lemma stackTokens_cons (frame : Frame) (stack : List Frame) :
    stackTokens (frame :: stack) = stackTokens stack ++ frame.tokens := by
  simp [stackTokens]

/-- The tokens that the builder has taken. -/
def tokens : Builder → List Token
  | value stack => stackTokens stack
  | opened stack => stackTokens stack ++ [.openArray]
  | openedObject stack => stackTokens stack ++ [.openObject]
  | name rev stack => stackTokens stack ++ .openObject :: followed memberOf rev
  | colon rev key stack =>
    stackTokens stack ++ .openObject :: (followed memberOf rev ++ [.string key])
  | after v stack => stackTokens stack ++ rawTokens v

variable {builder builder' : Builder} {t : Token}

lemma tokens_begin {stack : List Frame} (h : begin? stack t = some builder) :
    builder.tokens = stackTokens stack ++ [t] := by
  cases t <;> cases h <;> rfl

/-- Each token is kept. -/
lemma tokens_push (h : push? builder t = some builder') :
    builder'.tokens = builder.tokens ++ [t] := by
  unfold push? at h
  split at h
  · exact tokens_begin h
  · cases h
    simp [tokens, rawTokens, rawItemTokens, List.intercalate]
  · rw [tokens_begin h]
    simp [tokens, Frame.tokens, followed]
  · cases h
    simp [tokens, rawTokens, rawMemberTokens, List.intercalate]
  · cases h
    simp [tokens, followed]
  · cases h
    simp [tokens]
  · cases h
    simp [tokens, Frame.tokens]
  · cases h
    simp [tokens, Frame.tokens, followed_cons]
  · cases h
    simp only [tokens, rawTokens, rawItemTokens_eq_map, intercalate_reverse, stackTokens_cons,
      Frame.tokens]
    simp
  · cases h
    simp [tokens, Frame.tokens, followed_cons, memberOf]
  · cases h
    simp only [tokens, rawTokens, rawMemberTokens_eq_map, intercalate_reverse, stackTokens_cons,
      Frame.tokens, memberOf]
    simp
  · cases h

/-- The tokens of a value that is complete are all that were taken. -/
lemma tokens_foldlM {ts : List Token} (h : ts.foldlM push? builder = some builder') :
    builder'.tokens = builder.tokens ++ ts := by
  induction ts generalizing builder with
  | nil =>
    obtain rfl := Option.some.inj h
    rw [List.append_nil]
  | cons t ts ih =>
    rw [List.foldlM_cons] at h
    obtain ⟨next, hpush, hrest⟩ := Option.bind_eq_some_iff.mp h
    rw [ih hrest, tokens_push hpush, List.append_assoc, List.singleton_append]

end Builder

lemma ofTokens?_eq_some {ts : List Token} {v : Raw} : ofTokens? ts = some v ↔ rawTokens v = ts := by
  constructor
  · intro h
    obtain ⟨builder, hread, hfinish⟩ := Option.bind_eq_some_iff.mp h
    have htokens := Builder.tokens_foldlM hread
    unfold Builder.finish? at hfinish
    split at hfinish
    · obtain rfl := Option.some.inj hfinish
      exact htokens
    · cases hfinish
  · rintro rfl
    have htakes := Builder.takes v [] []
    rw [List.append_nil] at htakes
    rw [ofTokens?, htakes]
    rfl

/-- Bytes are read as a value exactly when they are a document of this value. -/
theorem parse?_eq_some {bs : List UInt8} {v : Raw} : parse? bs = some v ↔ RawDocument v bs := by
  constructor
  · intro h
    obtain ⟨ts, hts, hv⟩ := Option.bind_eq_some_iff.mp h
    rw [RawDocument, ofTokens?_eq_some.mp hv]
    exact written_of_tokens? hts
  · intro h
    rw [parse?, tokens?_written h (isChain_rawTokens v), Option.bind_some]
    exact ofTokens?_eq_some.mpr rfl

/-- A document is read as its value. -/
theorem parse?_document {v : Value String} {text : String} (h : Document v text) :
    parse? (Text.bytes text) = some v.raw := parse?_eq_some.mpr h.raw

/-- Lists are the same if their items are, read in a way that tells the items apart. -/
lemma map_eq_map {α β : Type} {f : α → β} {l l' : List α} (h : l.map f = l'.map f)
    (hf : ∀ a ∈ l, ∀ b, f a = f b → a = b) : l = l' := by
  induction l generalizing l' with
  | nil => exact (List.map_eq_nil_iff.mp h.symm).symm
  | cons a rest ih =>
    obtain ⟨b, rest', rfl⟩ := List.exists_cons_of_ne_nil (l := l') (by rintro rfl; cases h)
    obtain ⟨ha, hrest⟩ := List.cons.inj h
    rw [hf a (List.mem_cons_self ..) b ha,
      ih hrest fun c hc => hf c (List.mem_cons_of_mem _ hc)]

lemma Value.raw_injective {v w : Value String} (h : v.raw = w.raw) : v = w := by
  induction v using Value.parts_induction generalizing w with
  | array items ih =>
    cases w with
    | array items' =>
      simp only [Value.raw, rawItems_eq_map, Value.array.injEq] at h
      rw [map_eq_map h fun v hv _ => ih v hv]
    | _ => simp [Value.raw] at h
  | object members ih =>
    cases w with
    | object members' =>
      simp only [Value.raw, rawMembers_eq_map, Value.object.injEq] at h
      have hmember : ∀ m ∈ members, ∀ m', rawMember m = rawMember m' → m = m' := by
        rintro ⟨name, v⟩ hm ⟨name', v'⟩ hmm
        obtain ⟨hname, hv⟩ := Prod.mk.inj hmm
        exact Prod.ext (Option.some.inj hname) (ih _ hm hv)
      rw [map_eq_map h hmember]
    | _ => simp [Value.raw] at h
  | _ => cases w <;> simp_all [Value.raw]

/-- A text is a document of one value at most. -/
theorem Document.unique {v w : Value String} {text : String} (h : Document v text)
    (h' : Document w text) : v = w :=
  Value.raw_injective (Option.some.inj ((parse?_document h).symm.trans (parse?_document h')))

end Json
end LeaseKeeper
