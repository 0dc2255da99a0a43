/-
# The identity of the moment

Each attempt to authenticate reads the identity file anew.  Without a file that can be read and that
holds a text, the attempt ends before any request.  Otherwise its first request carries this text,
without the white space at its ends, together with the role.  Nothing of an attempt is left for the
ones that come after it.
-/
import LeaseKeeper.File.Walk
import LeaseKeeper.Proofs.Json.Parsing
import LeaseKeeper.Proofs.Text.Blank
import LeaseKeeper.Proofs.Text.Decoding
import LeaseKeeper.Proofs.Vault.Verdict

namespace LeaseKeeper

namespace Http

/-! ### What a server has seen before -/

/-- The server after some more requests, which came in before all others. -/
def Server.following (s : Server) (seen : List Request) : Server :=
  { s with seen := seen ++ s.seen }

lemma Server.take_following (s : Server) (seen : List Request) (r : Request) :
    (s.following seen).take r = ((s.take r).1, (s.take r).2.following seen) := by
  cases haway : s.isAway with
  | true => simp [take, following, haway]
  | false =>
    cases hreplies : s.replies with
    | nil => simp [take, following, haway, hreplies]
    | cons reply rest => simp [take, following, haway, hreplies]

/-- What a server has seen before makes no difference to a call. -/
lemma send_following (first : Url) (left : ℕ) (r : Request) (s : Server) (seen : List Request) :
    send first left r (s.following seen) =
      ((send first left r s).1, (send first left r s).2.following seen) := by
  induction left generalizing r s with
  | zero =>
    rw [send, send, Server.take_following]
    obtain ⟨reply, s'⟩ := s.take r
    cases reply with
    | none => rfl
    | some reply =>
      dsimp only
      cases reply.response? with
      | none => rfl
      | some a => cases hf : follow r a <;> simp [hf]
  | succ left ih =>
    rw [send, send, Server.take_following]
    obtain ⟨reply, s'⟩ := s.take r
    cases reply with
    | none => rfl
    | some reply =>
      dsimp only
      cases reply.response? with
      | none => rfl
      | some a => cases hf : follow r a <;> simp [hf, ih]

lemma call_following (r : Request) (s : Server) (seen : List Request) :
    call r (s.following seen) = ((call r s).1, (call r s).2.following seen) := by
  unfold call
  split_ifs
  · exact send_following _ _ _ _ _
  · rfl

/-- A call to a server that listens begins with its request. -/
lemma exists_send_seen (first : Url) (left : ℕ) (r : Request) {s : Server}
    (h : s.isAway = false) : ∃ rest, (send first left r s).2.seen = s.seen ++ r :: rest := by
  induction left generalizing r s with
  | zero =>
    rw [send, Server.take_eq h]
    cases s.upcoming with
    | none => exact ⟨[], rfl⟩
    | some reply =>
      dsimp only
      cases reply.response? with
      | none => exact ⟨[], rfl⟩
      | some a => cases hf : follow r a <;> exact ⟨[], by simp [hf, Server.after]⟩
  | succ left ih =>
    rw [send, Server.take_eq h]
    cases s.upcoming with
    | none => exact ⟨[], rfl⟩
    | some reply =>
      dsimp only
      cases reply.response? with
      | none => exact ⟨[], rfl⟩
      | some a =>
        cases hf : follow r a with
        | final => exact ⟨[], by simp [hf, Server.after]⟩
        | unbuildable url => exact ⟨[], by simp [hf, Server.after]⟩
        | next r' =>
          -- The redirection is followed by another request, with the first one seen.
          obtain ⟨rest, hrest⟩ := ih r' (s := s.after [r]) h
          refine ⟨r' :: rest, ?_⟩
          simp only [hf]
          rw [hrest]
          simp [Server.after]

end Http

namespace Vault

open Json (Compact Document Value)
open Text (isBlank)

/-! ### The body of a login -/

/-- What a login sends. -/
def loginValue (identity role : String) : Value String :=
  .object [("jwt", .string identity), ("role", .string role)]

lemma compact_loginDocument (identity role : String) :
    Compact (loginValue identity role).tokens (loginDocument identity role).toList := by
  rw [loginDocument, Value.text, String.toList_ofList]
  refine Json.compact_print _ fun literal hmem => ?_
  simp [loginValue, Value.tokens, Json.memberTokens, List.intercalate] at hmem

lemma document_loginDocument {identity role : String} {v : Value String} :
    Document v (loginDocument identity role) ↔ v = loginValue identity role := by
  have hdocument : Document (loginValue identity role) (loginDocument identity role) :=
    (compact_loginDocument identity role).written
  constructor
  · exact fun h => h.unique hdocument
  · rintro rfl
    exact hdocument

lemma loginDocument_inj {identity role identity' role' : String}
    (h : loginDocument identity role = loginDocument identity' role') :
    identity = identity' ∧ role = role' := by
  have hvalue : loginValue identity role = loginValue identity' role' := by
    rw [← document_loginDocument, ← h, document_loginDocument]
  simpa [loginValue] using hvalue

lemma loginRequest_ok {c : Client} {method identity role : String} {r : Http.Request}
    (h : c.loginRequest method identity role = .ok r) :
    r.method = .post ∧ r.document = some (loginDocument identity role) := by
  unfold Client.loginRequest Client.request at h
  split at h
  · cases h
  · split_ifs at h
    obtain rfl := Except.ok.inj h
    exact ⟨rfl, rfl⟩

/-! ### Attempts -/

/-- The circumstances of an attempt. -/
structure Occasion where
  /-- The files of the moment. -/
  tree : File.Tree
  /-- The directory in which the program works. -/
  work : File.Place
  /-- Why no file may be read at this moment, if so. -/
  refusal : Option IoError
  /-- What the server does during the attempt. -/
  server : Http.Server

namespace Occasion

/-- What comes of reading a file. -/
def content (o : Occasion) (path : String) : Except IoError (List UInt8) :=
  match o.refusal with
  | some cause => .error cause
  | none => o.tree.read o.work path

/-- There is a file at the end of a path that may be read, and this is what it holds. -/
structure Holds (o : Occasion) (path : String) (content : List UInt8) : Prop where
  readable : o.refusal = none
  file : ∃ place mode, o.tree.locate .use o.work path = .ok place ∧
    o.tree.get? place = some (.file mode content)

lemma holds_iff {o : Occasion} {path : String} {content : List UInt8} :
    o.Holds path content ↔ o.content path = .ok content := by
  constructor
  · rintro ⟨hreadable, place, mode, hway, hfile⟩
    simp only [Occasion.content, hreadable, File.Tree.read, hway, bind, Except.bind, hfile]
  · intro h
    unfold Occasion.content at h
    cases hreadable : o.refusal with
    | some cause =>
      rw [hreadable] at h
      cases h
    | none =>
      rw [hreadable] at h
      unfold File.Tree.read at h
      cases hway : o.tree.locate .use o.work path with
      | error cause =>
        rw [hway] at h
        cases h
      | ok place =>
        rw [hway] at h
        simp only [bind, Except.bind] at h
        split at h
        · rename_i mode held hfile
          obtain rfl := Except.ok.inj h
          exact ⟨hreadable, place, mode, hway, hfile⟩
        · cases h
        · cases h

end Occasion

/-- The outcome of an attempt: its result, if it ends, and the requests that it sends. -/
abbrev Attempted := Option (Except VaultError Grant) × List Http.Request

/-- Attempts one after the other, each with the requests before it still known to the server. -/
def attempts (c : Client) (auth : Auth) : List Http.Request → List Occasion → List Attempted
  | _, [] => []
  | seen, o :: rest =>
    let (result, server) :=
      c.authenticate auth (o.content auth.identityPath) { o.server with seen }
    (result, server.seen.drop seen.length) :: attempts c auth server.seen rest

/-- An attempt before which there was no other. -/
def Occasion.alone (c : Client) (auth : Auth) (o : Occasion) : Attempted :=
  let (result, server) :=
    c.authenticate auth (o.content auth.identityPath) { o.server with seen := [] }
  (result, server.seen)

lemma authenticate_following (c : Client) (auth : Auth) (content : Except IoError (List UInt8))
    (server : Http.Server) (seen : List Http.Request) :
    c.authenticate auth content (server.following seen) =
      ((c.authenticate auth content server).1,
        (c.authenticate auth content server).2.following seen) := by
  unfold Client.authenticate
  cases identity auth.identityPath content with
  | error e => rfl
  | ok text =>
    dsimp only
    unfold Client.login
    cases c.loginRequest auth.method text auth.role with
    | error fault => rfl
    | ok r => simp only [attempt, Http.call_following]

/-- Each attempt is as if it were the only one. -/
theorem attempts_eq_map (c : Client) (auth : Auth) (seen : List Http.Request)
    (occasions : List Occasion) :
    attempts c auth seen occasions = occasions.map (·.alone c auth) := by
  induction occasions generalizing seen with
  | nil => rfl
  | cons o rest ih =>
    have hserver : { o.server with seen } =
        Http.Server.following { o.server with seen := [] } seen := by
      simp [Http.Server.following]
    rw [attempts, hserver, authenticate_following]
    dsimp only
    rw [ih, List.map_cons]
    simp [Occasion.alone, Http.Server.following]

variable {c : Client} {auth : Auth} {o : Occasion} {text : String} {r : Http.Request}

/-- An attempt without an identity. -/
lemma Occasion.alone_of_not_holds
    (h : ∀ text, ¬ o.Holds auth.identityPath (Text.bytes text)) :
    ∃ cause, o.alone c auth =
      (some (.error (.identityUnavailable auth.identityPath cause)), []) := by
  have hidentity : ∃ cause, identity auth.identityPath (o.content auth.identityPath) =
      .error (.identityUnavailable auth.identityPath cause) := by
    cases hcontent : o.content auth.identityPath with
    | error cause => exact ⟨cause, rfl⟩
    | ok bytes =>
      have hnone : Text.ofBytes? bytes = none := by
        refine Option.eq_none_iff_forall_ne_some.mpr fun text htext => h text ?_
        rw [Occasion.holds_iff, hcontent, Text.ofBytes?_eq_some.mp htext]
      exact ⟨.notText, by simp only [identity, hnone]⟩
  obtain ⟨cause, hcause⟩ := hidentity
  exact ⟨cause, by simp only [Occasion.alone, Client.authenticate, hcause]⟩

/-- An attempt with an identity begins with its login, if this can be sent. -/
lemma Occasion.exists_alone (h : o.Holds auth.identityPath (Text.bytes text))
    (hreach : Reaches c (.login auth.method (Text.trimBlank text) auth.role) o.server r) :
    ∃ result rest, o.alone c auth = (result, r :: rest) := by
  have hidentity : identity auth.identityPath (o.content auth.identityPath) =
      .ok (Text.trimBlank text) := by
    simp only [identity, Occasion.holds_iff.mp h, Text.ofBytes?_bytes]
  have hrequest : c.loginRequest auth.method (Text.trimBlank text) auth.role = .ok r :=
    hreach.built
  have hlistens : ({ o.server with seen := [] } : Http.Server).isAway = false := hreach.listens
  obtain ⟨rest, hseen⟩ := Http.exists_send_seen r.url Http.redirectLimit r hlistens
  refine ⟨_, rest, Prod.ext rfl ?_⟩
  simp only [Occasion.alone, Client.authenticate, hidentity, Client.login, hrequest, attempt,
    Http.call, if_pos hreach.usable]
  exact hseen

/-- Each attempt sends the identity of its moment.  What comes of it depends on its own occasion
alone.  If there is no file that can be read and that holds a text, it fails with the path of the
file and sends nothing.  Otherwise the first request that it sends, if it can send one, posts a
document without white space that denotes one value only: an object of two members, the text of the
file without the white space at its ends and the role.  No other two texts have this document. -/
theorem attempts_send_identity {occasions : List Occasion} {k : ℕ} (hk : occasions[k]? = some o)
    (c : Client) (auth : Auth) :
    ∃ result sent, (attempts c auth [] occasions)[k]? = some (result, sent) ∧
      (∀ (occasions' : List Occasion) (k' : ℕ), occasions'[k']? = some o →
        (attempts c auth [] occasions')[k']? = some (result, sent)) ∧
      ((∀ text, ¬ o.Holds auth.identityPath (Text.bytes text)) →
        sent = [] ∧ ∃ cause, result = some (.error (.identityUnavailable auth.identityPath cause))) ∧
      ∀ text, o.Holds auth.identityPath (Text.bytes text) → ∃ identity document : String,
        Text.IsTrimmed isBlank text.toList identity.toList ∧
        Compact (loginValue identity auth.role).tokens document.toList ∧
        (∀ v, Document v document ↔ v = loginValue identity auth.role) ∧
        (∀ identity' role', loginDocument identity' role' = document →
          identity' = identity ∧ role' = auth.role) ∧
        ∀ r, Reaches c (.login auth.method identity auth.role) o.server r →
          r.method = .post ∧ r.document = some document ∧ ∃ rest, sent = r :: rest := by
  have halone : ∀ (occasions' : List Occasion) (k' : ℕ), occasions'[k']? = some o →
      (attempts c auth [] occasions')[k']? = some (o.alone c auth) := by
    intro occasions' k' hk'
    rw [attempts_eq_map, List.getElem?_map, hk', Option.map_some]
  refine ⟨(o.alone c auth).1, (o.alone c auth).2, halone _ _ hk, halone, fun hnone => ?_,
    fun text htext => ?_⟩
  · obtain ⟨cause, hcause⟩ := Occasion.alone_of_not_holds (c := c) hnone
    rw [hcause]
    exact ⟨rfl, cause, rfl⟩
  · refine ⟨Text.trimBlank text, loginDocument (Text.trimBlank text) auth.role, ?_,
      compact_loginDocument _ _, fun v => document_loginDocument,
      fun _ _ hsame => loginDocument_inj hsame, fun r hreach => ?_⟩
    · rw [Text.toList_trimBlank]
      exact Text.isTrimmed_trimBoth _ _
    · obtain ⟨hmethod, hdocument⟩ := loginRequest_ok hreach.built
      obtain ⟨result, rest, hsent⟩ := Occasion.exists_alone htext hreach
      exact ⟨hmethod, hdocument, rest, by rw [hsent]⟩

/-- A server that closes each connection. -/
def closing : Http.Server := ⟨false, [], some .closed, []⟩

/-- A moment at which the identity file holds some bytes. -/
def Occasion.with (content : List UInt8) : Occasion :=
  ⟨⟨[(["jwt"], .file 0o600 content)]⟩, [], none, closing⟩

/-- Once the file holds another text, and held none in between, the new text is sent without the
white space around it. -/
theorem attempts_send_identity_rotated :
    let attempted := attempts ⟨"http://vault", none⟩ ⟨"kubernetes", "a\"b", "/jwt"⟩ []
      [.with (Text.bytes "old"), .with [0xff], .with (Text.bytes " new\n")]
    attempted[1]?.map (·.2) = some [] ∧
      ∃ result rest document, ∃ r : Http.Request, attempted[2]? = some (result, r :: rest) ∧
        r.document = some document ∧ ∀ v, Document v document ↔ v = loginValue "new" "a\"b" := by
  intro attempted
  have hcontent : ∀ content, (Occasion.with content).content "/jwt" = .ok content := fun _ => rfl
  constructor
  · have hsecond : [Occasion.with (Text.bytes "old"), .with [0xff],
        .with (Text.bytes " new\n")][1]? = some (.with [0xff]) := rfl
    obtain ⟨result, sent, hattempted, -, hnone, -⟩ := attempts_send_identity hsecond
      ⟨"http://vault", none⟩ ⟨"kubernetes", "a\"b", "/jwt"⟩
    have hformless : Text.ofBytes? [0xff] = none := by decide +kernel
    obtain ⟨hsent, -⟩ := hnone fun text hholds => by
      rw [Occasion.holds_iff, hcontent] at hholds
      rw [Text.ofBytes?_eq_some.mpr (Except.ok.inj hholds)] at hformless
      cases hformless
    rw [hattempted, hsent]
    rfl
  · have hthird : [Occasion.with (Text.bytes "old"), .with [0xff],
        .with (Text.bytes " new\n")][2]? = some (.with (Text.bytes " new\n")) := rfl
    obtain ⟨result, sent, hattempted, -, -, hsend⟩ := attempts_send_identity hthird
      ⟨"http://vault", none⟩ ⟨"kubernetes", "a\"b", "/jwt"⟩
    obtain ⟨identity, document, htrimmed, -, hdocument, -, hfirst⟩ :=
      hsend " new\n" (Occasion.holds_iff.mpr (hcontent _))
    obtain rfl : identity = "new" := by
      rw [← String.toList_inj, htrimmed.eq_trimBoth]
      decide +kernel
    have husable : (Client.loginRequest ⟨"http://vault", none⟩ "kubernetes" "new"
        "a\"b").toOption.map (·.url.isUsable) = some true := by decide +kernel
    cases hrequest : Client.loginRequest ⟨"http://vault", none⟩ "kubernetes" "new" "a\"b" with
    | error fault =>
      rw [hrequest] at husable
      cases husable
    | ok r =>
      rw [hrequest] at husable
      obtain ⟨-, hr, rest, hsent⟩ := hfirst r ⟨hrequest, Option.some.inj husable, rfl⟩
      exact ⟨result, rest, document, r, by rw [hattempted, hsent], hr, hdocument⟩

end Vault
end LeaseKeeper
