/-
# Auth documents

The documents that grant a token, said by their values: what the members of an auth block are, in
whatever order and among whatever others, or what its five elements are.  A successful answer with
a document grants exactly what these rules say, and nothing if they do not apply.
-/
import LeaseKeeper.Proofs.Json.Parsing
import LeaseKeeper.Proofs.Json.Printed
import LeaseKeeper.Proofs.Vault.Members
import LeaseKeeper.Proofs.Vault.Verdict

namespace LeaseKeeper
namespace Vault

open Json (Raw Value Document HasNumbers IsNumber)

/-! ### The rules -/

/-- The values of the members with a name. -/
def valuesOf (members : List (String × Value String)) (name : String) : List (Value String) :=
  (members.filter (·.1 = name)).map (·.2)

/-- What an accessor may be, and what it says: it is absent, null or a string. -/
inductive IsAccessor : Option (Value String) → Option String → Prop
  | absent : IsAccessor none none
  | null : IsAccessor (some .null) none
  | string (accessor : String) : IsAccessor (some (.string accessor)) (some accessor)

/-- What policies may be, and what they say: they are absent or a list of strings. -/
inductive IsPolicies : Option (Value String) → List String → Prop
  | absent : IsPolicies none []
  | array (policies : List String) : IsPolicies (some (.array (policies.map .string))) policies

/-- The terms of a grant: a token, what else it has, whole seconds that are written without sign,
fraction and exponent, and whether it is renewable. -/
inductive Terms : (token accessor policies ttl renewable : Option (Value String)) → Grant → Prop
  | intro (token : String) {accessor policies : Option (Value String)} {a : Option String}
      {ps : List String} (seconds : UInt64) (renewable : Bool) (ha : IsAccessor accessor a)
      (hp : IsPolicies policies ps) :
      Terms (some (.string token)) accessor policies (some (.ofNat seconds.toNat))
        (some (.bool renewable)) ⟨token, a, ps, .ofSeconds seconds, renewable⟩

/-- An auth block with its grant: an object in which none of the five members is repeated, whatever
else it holds, or a list of the five values. -/
inductive IsAuthBlock : Value String → Grant → Prop
  | object {members : List (String × Value String)}
      {token accessor policies ttl renewable : Option (Value String)} {grant : Grant}
      (htoken : valuesOf members "client_token" = token.toList)
      (haccessor : valuesOf members "accessor" = accessor.toList)
      (hpolicies : valuesOf members "policies" = policies.toList)
      (httl : valuesOf members "lease_duration" = ttl.toList)
      (hrenewable : valuesOf members "renewable" = renewable.toList)
      (hterms : Terms token accessor policies ttl renewable grant) :
      IsAuthBlock (.object members) grant
  | array {token accessor policies ttl renewable : Value String} {grant : Grant}
      (hterms : Terms (some token) (some accessor) (some policies) (some ttl) (some renewable)
        grant) : IsAuthBlock (.array [token, accessor, policies, ttl, renewable]) grant

/-- A document with an auth block, and the grant of this block: an object with one such member, or
a list of one element. -/
inductive IsAuthDocument : Value String → Grant → Prop
  | object {members : List (String × Value String)} {block : Value String} {grant : Grant}
      (hauth : valuesOf members "auth" = [block]) (hblock : IsAuthBlock block grant) :
      IsAuthDocument (.object members) grant
  | array {block : Value String} {grant : Grant} (hblock : IsAuthBlock block grant) :
      IsAuthDocument (.array [block]) grant

/-! ### Reading by the rules -/

variable {v : Value String} {grant : Grant}

lemma text?_raw {s : String} : text? v.raw = some s ↔ v = .string s := by
  cases v <;> simp [Value.raw, text?]

lemma bool?_raw {b : Bool} : bool? v.raw = some b ↔ v = .bool b := by
  cases v <;> simp [Value.raw, bool?]

/-- A number is read as seconds if it is the numeral of a number of 64 bits. -/
lemma seconds?_raw (hv : HasNumbers v) {seconds : UInt64} :
    seconds? v.raw = some seconds ↔ v = .ofNat seconds.toNat := by
  constructor
  · intro h
    cases v with
    | number literal =>
      have hword : Text.word? literal.toList = some seconds := h
      obtain ⟨n, hn, hseconds⟩ := Option.bind_eq_some_iff.mp hword
      have hvalue : seconds.toNat = n := by
        split_ifs at hseconds with hlt
        rw [← Option.some.inj hseconds]
        exact UInt64.toNat_ofNatLT
      -- The literal has digits only, and none of them is a zero in front.
      have hnumber : IsNumber literal.toList := Json.hasNumbers_number.mp hv
      have hdigits : ∀ c ∈ literal.toList, c.isDigit = true := by
        cases hliteral : literal.toList with
        | nil => simp
        | cons c rest =>
          rw [hliteral] at hn
          exact Text.isDigit_of_digitsFrom? hn
      have hliteral : literal = Nat.repr seconds.toNat := by
        rw [← String.toList_inj, Nat.toList_repr, hvalue]
        exact Text.eq_toDigits (hnumber.isWhole hdigits).2 hn
      rw [hliteral]
      rfl
    | _ => cases h
  · rintro rfl
    have hdigits := Text.digits?_toDigits seconds.toNat
    have hlt : seconds.toNat < UInt64.size := seconds.toNat_lt_size
    simp only [Value.ofNat, Value.raw, seconds?, Text.word?, Nat.toList_repr, hdigits,
      Option.bind_some, dif_pos hlt]
    simp

lemma accessor?_raw {v : Option (Value String)} {a : Option String} :
    optional none (nullable text?) (v.map Value.raw) = some a ↔ IsAccessor v a := by
  constructor
  · intro h
    cases v with
    | none =>
      obtain rfl := Option.some.inj h
      exact .absent
    | some v =>
      cases v with
      | null =>
        obtain rfl := Option.some.inj h
        exact .null
      | string accessor =>
        obtain rfl := Option.some.inj h
        exact .string accessor
      | _ => cases h
  · intro h
    cases h <;> rfl

lemma texts?_raw {ps : List String} :
    texts? v.raw = some ps ↔ v = .array (ps.map .string) := by
  have hlist : textList ps = Value.raw (.array (ps.map .string)) := by
    simp only [textList, Value.raw, Json.rawItems_eq_map, List.map_map]
    rfl
  rw [texts?_eq_some, hlist]
  exact ⟨Value.raw_injective, fun h => by rw [h]⟩

lemma policies?_raw {v : Option (Value String)} {ps : List String} :
    optional [] texts? (v.map Value.raw) = some ps ↔ IsPolicies v ps := by
  constructor
  · intro h
    cases v with
    | none =>
      obtain rfl := Option.some.inj h
      exact .absent
    | some v =>
      obtain rfl := texts?_raw.mp h
      exact .array ps
  · intro h
    cases h with
    | absent => rfl
    | array => exact texts?_raw.mpr rfl

lemma required_raw {α : Type} {read : Raw → Option α} {v : Option (Value String)} {a : α} :
    required read (v.map Value.raw) = some a ↔ ∃ w, v = some w ∧ read w.raw = some a := by
  cases v <;> simp [required]

lemma grant?_raw {token accessor policies ttl renewable : Option (Value String)}
    (httl : ∀ v ∈ ttl, HasNumbers v) :
    grant? (token.map Value.raw) (accessor.map Value.raw) (policies.map Value.raw)
      (ttl.map Value.raw) (renewable.map Value.raw) = some grant ↔
        Terms token accessor policies ttl renewable grant := by
  constructor
  · intro h
    obtain ⟨t, ht, h⟩ := Option.bind_eq_some_iff.mp h
    obtain ⟨a, ha, h⟩ := Option.bind_eq_some_iff.mp h
    obtain ⟨ps, hps, h⟩ := Option.bind_eq_some_iff.mp h
    obtain ⟨seconds, hseconds, h⟩ := Option.bind_eq_some_iff.mp h
    obtain ⟨r, hr, h⟩ := Option.bind_eq_some_iff.mp h
    obtain rfl := Option.some.inj h
    obtain ⟨v, rfl, hv⟩ := required_raw.mp ht
    obtain rfl := text?_raw.mp hv
    obtain ⟨v, rfl, hv⟩ := required_raw.mp hseconds
    obtain rfl := (seconds?_raw (httl v rfl)).mp hv
    obtain ⟨v, rfl, hv⟩ := required_raw.mp hr
    obtain rfl := bool?_raw.mp hv
    exact .intro t seconds r (accessor?_raw.mp ha) (policies?_raw.mp hps)
  · intro h
    obtain @⟨token, accessor, policies, a, ps, seconds, renewable, ha, hp⟩ := h
    have htoken := required_raw.mpr ⟨_, rfl, text?_raw (v := .string token).mpr rfl⟩
    have hseconds := required_raw.mpr ⟨_, rfl, (seconds?_raw (httl _ rfl)).mpr rfl⟩
    have hrenewable := required_raw.mpr ⟨_, rfl, bool?_raw (v := .bool renewable).mpr rfl⟩
    simp only [grant?, htoken, accessor?_raw.mpr ha, policies?_raw.mpr hp, hseconds, hrenewable]
    rfl

lemma named?_rawMembers (members : List (String × Value String)) :
    named? (Json.rawMembers members) = some (members.map fun m => (m.1, m.2.raw)) := by
  rw [named?_eq_some, Json.rawMembers_eq_map, List.map_map]
  rfl

lemma single?_raw {members : List (String × Value String)} {name : String} {r : Option Raw} :
    single? (members.map fun m => (m.1, m.2.raw)) name = some r ↔
      ∃ v : Option (Value String), valuesOf members name = v.toList ∧ v.map Value.raw = r := by
  have hvalues : ((members.map fun m => (m.1, m.2.raw)).filter (·.1 = name)).map (·.2) =
      (valuesOf members name).map Value.raw := by
    rw [List.filter_map, List.map_map, valuesOf, List.map_map]
    rfl
  rw [single?_eq_some, hvalues]
  generalize valuesOf members name = values
  constructor
  · intro h
    cases r with
    | none => exact ⟨none, List.map_eq_nil_iff.mp h, rfl⟩
    | some w =>
      obtain ⟨v, rfl, rfl⟩ := List.map_eq_singleton_iff.mp h
      exact ⟨some v, rfl, rfl⟩
  · rintro ⟨v, rfl, rfl⟩
    cases v <;> rfl

lemma hasNumbers_of_valuesOf {members : List (String × Value String)} {name : String}
    (h : HasNumbers (.object members)) (hv : v ∈ valuesOf members name) : HasNumbers v := by
  obtain ⟨m, hm, rfl⟩ := List.mem_map.mp hv
  exact h.of_member (List.mem_filter.mp hm).1

lemma auth?_object {members : List (String × Value String)} (hv : HasNumbers (.object members)) :
    auth? (Value.object members).raw = some grant ↔ IsAuthBlock (.object members) grant := by
  have hnumbers : ∀ ttl : Option (Value String),
      valuesOf members "lease_duration" = ttl.toList → ∀ v ∈ ttl, HasNumbers v := by
    intro ttl httl v hmem
    have hvalue : v ∈ valuesOf members "lease_duration" := by
      rw [httl]
      exact Option.mem_toList.mpr hmem
    exact hasNumbers_of_valuesOf hv hvalue
  constructor
  · intro h
    obtain ⟨ms, hms, h⟩ := Option.bind_eq_some_iff.mp h
    obtain rfl := Option.some.inj ((named?_rawMembers members).symm.trans hms)
    obtain ⟨t, ht, h⟩ := Option.bind_eq_some_iff.mp h
    obtain ⟨a, ha, h⟩ := Option.bind_eq_some_iff.mp h
    obtain ⟨p, hp, h⟩ := Option.bind_eq_some_iff.mp h
    obtain ⟨l, hl, h⟩ := Option.bind_eq_some_iff.mp h
    obtain ⟨r, hr, h⟩ := Option.bind_eq_some_iff.mp h
    obtain ⟨token, htoken, rfl⟩ := single?_raw.mp ht
    obtain ⟨accessor, haccessor, rfl⟩ := single?_raw.mp ha
    obtain ⟨policies, hpolicies, rfl⟩ := single?_raw.mp hp
    obtain ⟨ttl, httl, rfl⟩ := single?_raw.mp hl
    obtain ⟨renewable, hrenewable, rfl⟩ := single?_raw.mp hr
    exact .object htoken haccessor hpolicies httl hrenewable
      ((grant?_raw (hnumbers ttl httl)).mp h)
  · intro h
    cases h with
    | object htoken haccessor hpolicies httl hrenewable hterms =>
      have ht := single?_raw.mpr ⟨_, htoken, rfl⟩
      have ha := single?_raw.mpr ⟨_, haccessor, rfl⟩
      have hp := single?_raw.mpr ⟨_, hpolicies, rfl⟩
      have hl := single?_raw.mpr ⟨_, httl, rfl⟩
      have hr := single?_raw.mpr ⟨_, hrenewable, rfl⟩
      have hgrant := (grant?_raw (hnumbers _ httl)).mpr hterms
      refine Option.bind_eq_some_iff.mpr ⟨_, named?_rawMembers members, ?_⟩
      exact Option.bind_eq_some_iff.mpr ⟨_, ht, Option.bind_eq_some_iff.mpr ⟨_, ha,
        Option.bind_eq_some_iff.mpr ⟨_, hp, Option.bind_eq_some_iff.mpr ⟨_, hl,
          Option.bind_eq_some_iff.mpr ⟨_, hr, hgrant⟩⟩⟩⟩⟩

lemma auth?_array {items : List (Value String)} (hv : HasNumbers (.array items)) :
    auth? (Value.array items).raw = some grant ↔ IsAuthBlock (.array items) grant := by
  constructor
  · intro h
    -- Fewer or more elements than five are no block.
    rcases items with _ | ⟨token, _ | ⟨accessor, _ | ⟨policies, _ | ⟨ttl, _ |
      ⟨renewable, _ | ⟨more, rest⟩⟩⟩⟩⟩⟩
    case cons.cons.cons.cons.cons.nil =>
      have hnumbers : ∀ v ∈ some ttl, HasNumbers v := by
        intro v hmem
        obtain rfl := Option.some.inj hmem
        exact hv.of_mem (by simp)
      have hterms : Terms (some token) (some accessor) (some policies) (some ttl)
          (some renewable) grant := (grant?_raw hnumbers).mp h
      exact .array hterms
    all_goals cases h
  · intro h
    cases h with
    | @array token accessor policies ttl renewable _ hterms =>
      have hnumbers : ∀ v ∈ some ttl, HasNumbers v := by
        intro v hmem
        obtain rfl := Option.some.inj hmem
        exact hv.of_mem (by simp)
      exact (grant?_raw hnumbers).mpr hterms

lemma auth?_raw (hv : HasNumbers v) : auth? v.raw = some grant ↔ IsAuthBlock v grant := by
  cases v with
  | object members => exact auth?_object hv
  | array items => exact auth?_array hv
  | _ =>
    constructor
    · intro h
      cases h
    · intro h
      cases h

lemma nullable_auth?_raw (hv : HasNumbers v) :
    nullable auth? v.raw = some (some grant) ↔ IsAuthBlock v grant := by
  rw [← auth?_raw hv]
  by_cases hnull : v = .null
  · subst hnull
    constructor
    · intro h
      cases h
    · intro h
      cases h
  · have hmap : nullable auth? v.raw = (auth? v.raw).map some := by
      cases v with
      | null => exact absurd rfl hnull
      | _ => rfl
    rw [hmap]
    simp

lemma authDocument?_raw (hv : HasNumbers v) :
    authDocument? v.raw = some (some grant) ↔ IsAuthDocument v grant := by
  cases v with
  | object members =>
    constructor
    · intro h
      obtain ⟨ms, hms, h⟩ := Option.bind_eq_some_iff.mp h
      obtain rfl := Option.some.inj ((named?_rawMembers members).symm.trans hms)
      obtain ⟨r, hr, h⟩ := Option.bind_eq_some_iff.mp h
      obtain ⟨block, hblock, rfl⟩ := single?_raw.mp hr
      cases block with
      | none => cases h
      | some block =>
        have hvalue : block ∈ valuesOf members "auth" := by simp [hblock]
        have hnumbers : HasNumbers block := hasNumbers_of_valuesOf hv hvalue
        exact .object hblock ((nullable_auth?_raw hnumbers).mp h)
    · intro h
      cases h with
      | @object _ block _ hauth hblock =>
        have hvalue : block ∈ valuesOf members "auth" := by simp [hauth]
        have hnumbers : HasNumbers block := hasNumbers_of_valuesOf hv hvalue
        have hr := single?_raw.mpr ⟨some block, hauth, rfl⟩
        refine Option.bind_eq_some_iff.mpr ⟨_, named?_rawMembers members, ?_⟩
        exact Option.bind_eq_some_iff.mpr ⟨_, hr, (nullable_auth?_raw hnumbers).mpr hblock⟩
  | array items =>
    constructor
    · intro h
      rcases items with _ | ⟨block, _ | ⟨more, rest⟩⟩
      · cases h
      · exact .array ((nullable_auth?_raw (hv.of_mem (by simp))).mp h)
      · cases h
    · intro h
      cases h with
      | array hblock => exact (nullable_auth?_raw (hv.of_mem (by simp))).mpr hblock
  | _ =>
    constructor
    · intro h
      cases h
    · intro h
      cases h

/-- The body of a document grants what the rules say. -/
lemma grantOf_document {text : String} (h : Document v text) :
    grantOf (Text.bytes text) = .ok grant ↔ IsAuthDocument v grant := by
  have hv : HasNumbers v := fun literal hliteral => h.isNumber hliteral
  rw [← authDocument?_raw hv, grantOf, Json.parse?_document h, Option.bind_some]
  cases authDocument? v.raw with
  | none => simp
  | some found => cases found <;> simp

/-- An accessor, or null where there is none. -/
def ofAccessor : Option String → Value String
  | none => .null
  | some accessor => .string accessor

lemma isAccessor_ofAccessor (accessor : Option String) :
    IsAccessor (some (ofAccessor accessor)) accessor := by
  cases accessor with
  | none => exact .null
  | some accessor => exact .string accessor

/-- The document of a grant: an object with an auth block that is an object. -/
def encoding (grant : Grant) : Value String :=
  .object [("auth", .object [("client_token", .string grant.token),
    ("accessor", ofAccessor grant.accessor), ("policies", .array (grant.policies.map .string)),
    ("lease_duration", .ofNat grant.ttl.seconds), ("renewable", .bool grant.renewable)])]

/-- The document of a grant of whole seconds is one of this grant. -/
lemma isAuthDocument_encoding {seconds : UInt64} (h : grant.ttl = .ofSeconds seconds) :
    IsAuthDocument (encoding grant) grant := by
  obtain ⟨token, accessor, policies, ttl, renewable⟩ := grant
  obtain rfl : ttl = .ofSeconds seconds := h
  have hseconds : (Duration.ofSeconds seconds).seconds = seconds.toNat := by
    simp [Duration.seconds]
  have hterms := Terms.intro token seconds renewable (isAccessor_ofAccessor accessor)
    (.array policies)
  rw [encoding, hseconds]
  exact .object rfl (.object rfl rfl rfl rfl rfl hterms)

/-- The printer writes the document of a grant. -/
lemma document_encoding (grant : Grant) : Document (encoding grant) (encoding grant).text := by
  have hnumbers : HasNumbers (encoding grant) := by
    refine .object fun m hm => ?_
    obtain rfl := List.mem_singleton.mp hm
    refine .object fun m hm => ?_
    simp only [List.mem_cons, List.not_mem_nil, or_false] at hm
    rcases hm with rfl | rfl | rfl | rfl | rfl
    · exact .string _
    · cases grant.accessor with
      | none => exact .null
      | some accessor => exact .string accessor
    · refine .array fun v hv => ?_
      obtain ⟨policy, -, rfl⟩ := List.mem_map.mp hv
      exact .string policy
    · exact .ofNat _
    · exact .bool _
  exact hnumbers.document

variable {c : Client} {op : Operation} {server : Http.Server} {sent : List Http.Request}
  {status : ℕ} {text : String}

/-- A success body is read as its document says.  If the final answer to an operation is a success
with a document, the operation grants a token exactly when this is an auth document, and it grants
the values of this document; all other documents are malformed.  In particular the document of any
grant of whole seconds, however it is written, grants this grant again, and the printer writes such
a document. -/
theorem success_body (hresponds : server.Responds) (hstatus : 200 ≤ status ∧ status ≤ 299)
    (hdocument : Document v text)
    (hfinal : Conversation c op server sent (some (status, Text.bytes text))) :
    (∀ grant, (op.run c server).1 = some (.ok grant) ↔ IsAuthDocument v grant) ∧
      ((∃ fault, (op.run c server).1 = some (.error (.malformed fault))) ↔
        ∀ grant, ¬ IsAuthDocument v grant) ∧
      ∀ grant seconds, grant.ttl = .ofSeconds seconds →
        (v = encoding grant → (op.run c server).1 = some (.ok grant)) ∧
          Document (encoding grant) (encoding grant).text := by
  obtain ⟨result, hrun, hverdict⟩ := hfinal.exists_verdict hresponds
  have hgrant : ∀ grant, (op.run c server).1 = some (.ok grant) ↔ IsAuthDocument v grant := by
    intro grant
    rw [hrun, Option.some.injEq, hverdict.granted_iff, ← grantOf_document hdocument]
    constructor
    · rintro ⟨status', body, hfinal', -, hbody⟩
      obtain ⟨-, rfl⟩ := Prod.mk.inj (Option.some.inj hfinal')
      exact hbody
    · exact fun hbody => ⟨status, _, rfl, hstatus, hbody⟩
  refine ⟨hgrant, ?_, fun grant seconds hseconds => ⟨?_, document_encoding grant⟩⟩
  · simp only [hrun, Option.some.injEq, hverdict.malformed_iff, ← grantOf_document hdocument]
    constructor
    · rintro ⟨status', body, hfinal', -, hnone⟩
      obtain ⟨-, rfl⟩ := Prod.mk.inj hfinal'
      exact hnone
    · exact fun hnone => ⟨status, _, rfl, hstatus, hnone⟩
  · rintro rfl
    exact (hgrant grant).mpr (isAuthDocument_encoding hseconds)

/-- A grant of a minute. -/
def minute : Grant := ⟨"t", none, ["default"], .ofSeconds 60, true⟩

/-- A server that grants a minute. -/
def granting : Http.Server :=
  ⟨false, [.answer 200 none (Text.bytes (encoding minute).text) 0], some .closed, []⟩

lemma conversation_granting : ∃ sent, Conversation ⟨"http://vault", none⟩ (.renewal "s" .zero)
    granting sent (some (200, Text.bytes (encoding minute).text)) :=
  conversation_answering (by decide +kernel) (by decide +kernel)

/-- A renewal of a minute is read back from the document of this grant. -/
theorem success_body_granting : granting.Responds ∧
    Document (encoding minute) (encoding minute).text ∧
    (∃ sent, Conversation ⟨"http://vault", none⟩ (.renewal "s" .zero) granting sent
      (some (200, Text.bytes (encoding minute).text))) ∧
    (Operation.run ⟨"http://vault", none⟩ (.renewal "s" .zero) granting).1 =
      some (.ok minute) := by
  have hresponds : granting.Responds := Or.inr (Or.inl nofun)
  obtain ⟨sent, hconversation⟩ := conversation_granting
  obtain ⟨-, -, hencoding⟩ := success_body hresponds (by decide) (document_encoding minute)
    hconversation
  exact ⟨hresponds, document_encoding minute, ⟨sent, hconversation⟩,
    (hencoding minute 60 rfl).1 rfl⟩

end Vault
end LeaseKeeper
