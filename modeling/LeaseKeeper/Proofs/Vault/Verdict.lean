/-
# One attempt, one verdict

A login or a renewal sends its request and follows the redirections that it is given, at most ten.
The last reply is the only one that counts: without a complete final answer the attempt fails in
transport, and otherwise the status and the body decide.  No request is sent but the first one and
those that follow a redirection, and each of them takes one reply of the server.
-/
import LeaseKeeper.Vault.Login
import Mathlib.Data.List.Basic

namespace LeaseKeeper
namespace Http

/-! ### Requests and replies -/

namespace Server

/-- What the server does with the next request, if it does anything. -/
def upcoming (s : Server) : Option Reply := s.replies.head?.or s.further

/-- The server after some more requests. -/
def after (s : Server) (sent : List Request) : Server :=
  { s with replies := s.replies.drop sent.length, seen := s.seen ++ sent }

/-- The server does something with each of the requests that one call can send: nobody listens, or
it has enough replies, or a reply for any further request. -/
def Responds (s : Server) : Prop :=
  s.isAway = true ∨ s.further ≠ none ∨ redirectLimit < s.replies.length

@[simp] lemma after_nil (s : Server) : s.after [] = s := by
  simp [after]

lemma after_cons (s : Server) (r : Request) (sent : List Request) :
    (s.after [r]).after sent = s.after (r :: sent) := by
  simp [after]

lemma take_eq {s : Server} (h : s.isAway = false) (r : Request) :
    s.take r = (s.upcoming, s.after [r]) := by
  unfold take
  rw [if_neg (by simp [h])]
  cases hreplies : s.replies with
  | nil => simp [upcoming, after, hreplies]
  | cons reply rest => simp [upcoming, after, hreplies]

lemma exists_upcoming {s : Server} {left : ℕ} (h : s.further ≠ none ∨ left < s.replies.length) :
    ∃ reply, s.upcoming = some reply := by
  unfold upcoming
  cases hreplies : s.replies with
  | nil =>
    rw [hreplies] at h
    rcases h with hfurther | hlt
    · exact Option.ne_none_iff_exists'.mp hfurther
    · cases hlt
  | cons reply rest => exact ⟨reply, rfl⟩

end Server

/-- The course of a call in which at most `left` more redirections are followed: the requests that
are sent, the last of them, and the reply to it.  Each request but the last got a redirection. -/
inductive Course : ℕ → Server → Request → List Request → Request → Reply → Prop
  | last {left : ℕ} {s : Server} {r : Request} {reply : Reply} (h : s.upcoming = some reply)
      (hend : left = 0 ∨ ∀ a r', reply.response? = some a → follow r a ≠ .next r') :
      Course left s r [r] r reply
  | next {left : ℕ} {s : Server} {r r' last : Request} {sent : List Request} {a : Response}
      {reply final : Reply} (h : s.upcoming = some reply) (ha : reply.response? = some a)
      (hf : follow r a = .next r') (hrest : Course left (s.after [r]) r' sent last final) :
      Course (left + 1) s r (r :: sent) last final

variable {left : ℕ} {s : Server} {r last last' : Request} {sent sent' : List Request}
  {reply reply' : Reply}

lemma Course.length_le (h : Course left s r sent last reply) : sent.length ≤ left + 1 := by
  induction h with
  | last => simp
  | next _ _ _ _ ih => simpa using ih

/-- The replies of the server determine the course of a call. -/
lemma Course.unique (h : Course left s r sent last reply) (h' : Course left s r sent' last' reply') :
    sent = sent' ∧ last = last' ∧ reply = reply' := by
  -- The reply to each request tells whether the course goes on.
  induction h generalizing sent' with
  | last hreply hend =>
    cases h' with
    | last hreply' => exact ⟨rfl, rfl, Option.some.inj (hreply.symm.trans hreply')⟩
    | next hreply' ha hf =>
      obtain rfl := Option.some.inj (hreply.symm.trans hreply')
      rcases hend with hzero | hnone
      · cases hzero
      · exact absurd hf (hnone _ _ ha)
  | next hreply ha hf _ ih =>
    cases h' with
    | last hreply' hend =>
      obtain rfl := Option.some.inj (hreply.symm.trans hreply')
      rcases hend with hzero | hnone
      · cases hzero
      · exact absurd hf (hnone _ _ ha)
    | next hreply' ha' hf' hrest' =>
      obtain rfl := Option.some.inj (hreply.symm.trans hreply')
      obtain rfl := Option.some.inj (ha.symm.trans ha')
      obtain rfl := Follow.next.inj (hf.symm.trans hf')
      obtain ⟨rfl, hlast, hfinal⟩ := ih hrest'
      exact ⟨rfl, hlast, hfinal⟩

lemma exists_course (h : s.further ≠ none ∨ left < s.replies.length) :
    ∃ sent last reply, Course left s r sent last reply := by
  induction left generalizing s r with
  | zero =>
    obtain ⟨reply, hreply⟩ := Server.exists_upcoming h
    exact ⟨_, _, _, .last hreply (Or.inl rfl)⟩
  | succ left ih =>
    obtain ⟨reply, hreply⟩ := Server.exists_upcoming h
    by_cases hnext : ∃ a r', reply.response? = some a ∧ follow r a = .next r'
    · obtain ⟨a, r', ha, hf⟩ := hnext
      have hmore : (s.after [r]).further ≠ none ∨ left < (s.after [r]).replies.length := by
        refine h.imp id fun hlt => ?_
        simp only [Server.after, List.length_singleton, List.length_drop]
        omega
      obtain ⟨sent, last, final, hrest⟩ := ih (r := r') hmore
      exact ⟨_, _, _, .next hreply ha hf hrest⟩
    · exact ⟨_, _, _, .last hreply (Or.inr fun a r' ha hf => hnext ⟨a, r', ha, hf⟩)⟩

/-- How a call ends with the reply to its last request: with an answer, if this is a complete and
final one. -/
inductive Concludes (last : Request) (reply : Reply) : Outcome → Prop
  | answered {a : Response} {body : List UInt8} (ha : reply.response? = some a)
      (hf : follow last a = .final) (hbody : a.body = some body) :
      Concludes last reply (.answered a.status body)
  | failed (fault : TransportFault) (hnone : ∀ a body, reply.response? = some a →
      follow last a = .final → a.body ≠ some body) : Concludes last reply (.failed fault)

/-- A call takes its course, and the last reply decides. -/
lemma Course.send (first : Url) (h : Course left s r sent last reply) (haway : s.isAway = false) :
    ∃ outcome, send first left r s = (outcome, s.after sent) ∧ Concludes last reply outcome := by
  -- The last reply fails the call for one of several reasons, and each redirection goes on with it.
  induction h with
  | @last left s r reply hreply hend =>
    rw [Http.send, Server.take_eq haway, hreply]
    cases ha : reply.response? with
    | none => exact ⟨.failed (.unanswered first.text), by simp only [ha], .failed _ (by simp [ha])⟩
    | some a =>
      have hlost : ∀ fault, follow r a ≠ .final → Concludes r reply (.failed fault) := by
        intro fault hne
        refine .failed fault fun a' body ha' hf => ?_
        obtain rfl := Option.some.inj (ha.symm.trans ha')
        exact absurd hf hne
      cases hf : follow r a with
      | final =>
        cases hbody : a.body with
        | none =>
          refine ⟨.failed .bodyCutShort, by simp only [ha, hf, hbody], .failed _ ?_⟩
          intro a' body ha' _
          obtain rfl := Option.some.inj (ha.symm.trans ha')
          simp [hbody]
        | some body =>
          exact ⟨.answered a.status body, by simp only [ha, hf, hbody], .answered ha hf hbody⟩
      | unbuildable url =>
        cases left with
        | zero =>
          exact ⟨.failed (.redirectLimit r.url.withoutFragment.text), by simp only [ha, hf],
            hlost _ (by simp [hf])⟩
        | succ left =>
          exact ⟨.failed (.unbuildable (some url.text)), by simp only [ha, hf],
            hlost _ (by simp [hf])⟩
      | next r' =>
        cases left with
        | zero =>
          exact ⟨.failed (.redirectLimit r.url.withoutFragment.text), by simp only [ha, hf],
            hlost _ (by simp [hf])⟩
        | succ left =>
          rcases hend with hzero | hnone
          · cases hzero
          · exact absurd hf (hnone a r' ha)
  | next hreply ha hf _ ih =>
    obtain ⟨outcome, hsend, hconcludes⟩ := ih haway
    refine ⟨outcome, ?_, hconcludes⟩
    rw [Http.send, Server.take_eq haway, hreply]
    simp only [ha, hf]
    rw [hsend, Server.after_cons]

lemma response?_closed : Reply.response? .closed = none := rfl

/-- Where nobody listens, a call fails and nothing is sent. -/
lemma call_of_isAway (r : Request) (h : s.isAway = true) :
    ∃ fault, call r s = (.failed fault, s) := by
  unfold call
  split_ifs
  · have htake : s.take r = (some .closed, s) := by
      simp [Server.take, h]
    refine ⟨.unanswered r.url.text, ?_⟩
    rw [send, htake]
    simp only [response?_closed]
  · exact ⟨_, rfl⟩

end Http

namespace Vault

/-- A login or a renewal. -/
inductive Operation
  | login (method identity role : String)
  | renewal (token : String) (increment : Duration)

namespace Operation

def request (c : Client) : Operation → Except TransportFault Http.Request
  | login method identity role => c.loginRequest method identity role
  | renewal token increment => c.renewalRequest token increment

def run (c : Client) : Operation → Http.Server → Option (Except VaultError Grant) × Http.Server
  | login method identity role => c.login method identity role
  | renewal token increment => c.renew token increment

lemma run_eq (c : Client) (op : Operation) (server : Http.Server) :
    op.run c server = attempt (op.request c) server := by
  cases op <;> rfl

end Operation

/-- A client can send the request of an operation to a server: it can be built, its address can be
used, and somebody listens there. -/
structure Reaches (c : Client) (op : Operation) (server : Http.Server) (r : Http.Request) :
    Prop where
  built : op.request c = .ok r
  usable : r.url.isUsable = true
  listens : server.isAway = false

/-- The requests that an operation sends, and the status and the body of the complete final answer,
if one is obtained.  There is none if no request can be sent, or if the last reply is no such
answer. -/
inductive Conversation (c : Client) (op : Operation) (server : Http.Server) :
    List Http.Request → Option (ℕ × List UInt8) → Prop
  | unsent (h : ∀ r, ¬ Reaches c op server r) : Conversation c op server [] none
  | answered {r last : Http.Request} {sent : List Http.Request} {reply : Http.Reply}
      {a : Http.Response} {body : List UInt8} (h : Reaches c op server r)
      (hcourse : Http.Course Http.redirectLimit server r sent last reply)
      (ha : reply.response? = some a) (hf : Http.follow last a = .final)
      (hbody : a.body = some body) : Conversation c op server sent (some (a.status, body))
  | lost {r last : Http.Request} {sent : List Http.Request} {reply : Http.Reply}
      (h : Reaches c op server r)
      (hcourse : Http.Course Http.redirectLimit server r sent last reply)
      (hnone : ∀ a body, reply.response? = some a → Http.follow last a = .final →
        a.body ≠ some body) : Conversation c op server sent none

variable {c : Client} {op : Operation} {server : Http.Server} {sent sent' : List Http.Request}
  {final final' : Option (ℕ × List UInt8)}

lemma Reaches.unique {r r' : Http.Request} (h : Reaches c op server r)
    (h' : Reaches c op server r') : r = r' := Except.ok.inj (h.built.symm.trans h'.built)

/-- The replies of the server determine a conversation. -/
lemma Conversation.unique (h : Conversation c op server sent final)
    (h' : Conversation c op server sent' final') : sent = sent' ∧ final = final' := by
  cases h with
  | unsent hnot =>
    cases h' with
    | unsent => exact ⟨rfl, rfl⟩
    | answered hreach => exact absurd hreach (hnot _)
    | lost hreach => exact absurd hreach (hnot _)
  | answered hreach hcourse ha hf hbody =>
    cases h' with
    | unsent hnot => exact absurd hreach (hnot _)
    | answered hreach' hcourse' ha' hf' hbody' =>
      obtain rfl := hreach.unique hreach'
      obtain ⟨rfl, rfl, rfl⟩ := hcourse.unique hcourse'
      obtain rfl := Option.some.inj (ha.symm.trans ha')
      obtain rfl := Option.some.inj (hbody.symm.trans hbody')
      exact ⟨rfl, rfl⟩
    | lost hreach' hcourse' hnone =>
      obtain rfl := hreach.unique hreach'
      obtain ⟨rfl, rfl, rfl⟩ := hcourse.unique hcourse'
      exact absurd hbody (hnone _ _ ha hf)
  | lost hreach hcourse hnone =>
    cases h' with
    | unsent hnot => exact absurd hreach (hnot _)
    | answered hreach' hcourse' ha hf hbody =>
      obtain rfl := hreach.unique hreach'
      obtain ⟨rfl, rfl, rfl⟩ := hcourse.unique hcourse'
      exact absurd hbody (hnone _ _ ha hf)
    | lost hreach' hcourse' =>
      obtain rfl := hreach.unique hreach'
      obtain ⟨rfl, -, -⟩ := hcourse.unique hcourse'
      exact ⟨rfl, rfl⟩

lemma Conversation.length_le (h : Conversation c op server sent final) : sent.length ≤ 11 := by
  cases h with
  | unsent => exact Nat.zero_le _
  | answered _ hcourse => exact hcourse.length_le
  | lost _ hcourse => exact hcourse.length_le

/-- The verdict on the complete final answer of a conversation, if there is one: whether its status
is a success, and then whether its body grants a token. -/
inductive Verdict : Option (ℕ × List UInt8) → Except VaultError Grant → Prop
  | transport (fault : TransportFault) : Verdict none (.error (.transport fault))
  | rejected {status : ℕ} (body : List UInt8) (hstatus : ¬ (200 ≤ status ∧ status ≤ 299)) :
      Verdict (some (status, body)) (.error (.rejected status (reasonsOf body)))
  | malformed {status : ℕ} {body : List UInt8} {fault : ResponseFault}
      (hstatus : 200 ≤ status ∧ status ≤ 299) (hbody : grantOf body = .error fault) :
      Verdict (some (status, body)) (.error (.malformed fault))
  | granted {status : ℕ} {body : List UInt8} {grant : Grant}
      (hstatus : 200 ≤ status ∧ status ≤ 299) (hbody : grantOf body = .ok grant) :
      Verdict (some (status, body)) (.ok grant)

lemma isSuccess_iff {status : ℕ} : isSuccess status = true ↔ 200 ≤ status ∧ status ≤ 299 := by
  simp only [isSuccess, Bool.and_eq_true, decide_eq_true_eq]
  omega

lemma verdict_answer (status : ℕ) (body : List UInt8) :
    Verdict (some (status, body)) (verdict status body) := by
  unfold verdict
  split_ifs with hstatus
  · cases hbody : grantOf body with
    | ok grant => exact .granted (isSuccess_iff.mp hstatus) hbody
    | error fault => exact .malformed (isSuccess_iff.mp hstatus) hbody
  · exact .rejected body fun h => hstatus (isSuccess_iff.mpr h)

variable {result : Except VaultError Grant} {status : ℕ} {body : List UInt8} {grant : Grant}

lemma Verdict.transport_iff (h : Verdict final result) :
    (∃ fault, result = .error (.transport fault)) ↔ final = none := by
  constructor
  · rintro ⟨fault, rfl⟩
    cases h with
    | transport => rfl
  · rintro rfl
    cases h with
    | transport fault => exact ⟨fault, rfl⟩

lemma Verdict.rejected_iff (h : Verdict final result) (status : ℕ) :
    (∃ errors, result = .error (.rejected status errors)) ↔
      ∃ body, final = some (status, body) ∧ ¬ (200 ≤ status ∧ status ≤ 299) := by
  constructor
  · rintro ⟨errors, rfl⟩
    cases h with
    | rejected body hstatus => exact ⟨body, rfl, hstatus⟩
  · rintro ⟨body, rfl, hnot⟩
    cases h with
    | rejected => exact ⟨_, rfl⟩
    | malformed hstatus => exact absurd hstatus hnot
    | granted hstatus => exact absurd hstatus hnot

lemma Verdict.malformed_iff (h : Verdict final result) :
    (∃ fault, result = .error (.malformed fault)) ↔ ∃ status body,
      final = some (status, body) ∧ (200 ≤ status ∧ status ≤ 299) ∧
        ∀ grant, grantOf body ≠ .ok grant := by
  constructor
  · rintro ⟨fault, rfl⟩
    cases h with
    | malformed hstatus hbody => exact ⟨_, _, rfl, hstatus, by simp [hbody]⟩
  · rintro ⟨status, body, rfl, hsuccess, hnone⟩
    cases h with
    | rejected _ hstatus => exact absurd hsuccess hstatus
    | malformed => exact ⟨_, rfl⟩
    | granted _ hbody => exact absurd hbody (hnone _)

lemma Verdict.granted_iff (h : Verdict final result) (grant : Grant) :
    result = .ok grant ↔ ∃ status body,
      final = some (status, body) ∧ (200 ≤ status ∧ status ≤ 299) ∧ grantOf body = .ok grant := by
  constructor
  · rintro rfl
    cases h with
    | granted hstatus hbody => exact ⟨_, _, rfl, hstatus, hbody⟩
  · rintro ⟨status, body, rfl, hsuccess, hgrant⟩
    cases h with
    | rejected _ hstatus => exact absurd hsuccess hstatus
    | malformed _ hbody => cases hbody.symm.trans hgrant
    | granted _ hbody => rw [Except.ok.inj (hbody.symm.trans hgrant)]

/-- An operation carries on its conversation to the end, and its result is the verdict on it. -/
lemma exists_conversation (c : Client) (op : Operation) (h : server.Responds) :
    ∃ sent final result, Conversation c op server sent final ∧
      op.run c server = (some result, server.after sent) ∧ Verdict final result := by
  rw [Operation.run_eq]
  cases hrequest : op.request c with
  | error fault =>
    have hnot : ∀ r, ¬ Reaches c op server r := by
      intro r hreach
      cases hrequest.symm.trans hreach.built
    exact ⟨[], none, _, .unsent hnot, by rw [Http.Server.after_nil]; rfl, .transport fault⟩
  | ok r =>
    by_cases hreach : r.url.isUsable = true ∧ server.isAway = false
    · -- The course ends since the server does something with each request.
      obtain ⟨husable, haway⟩ := hreach
      have hmore : server.further ≠ none ∨ Http.redirectLimit < server.replies.length :=
        h.resolve_left (by simp [haway])
      obtain ⟨sent, last, reply, hcourse⟩ := Http.exists_course (r := r) hmore
      obtain ⟨outcome, hsend, hconcludes⟩ := hcourse.send r.url haway
      have hcall : Http.call r server = (outcome, server.after sent) := by
        rw [Http.call, if_pos husable, hsend]
      have hattempt : attempt (.ok r) server = (verdictOn outcome, server.after sent) := by
        simp only [attempt, hcall]
      rw [hattempt]
      cases hconcludes with
      | answered ha hf hbody =>
        exact ⟨sent, _, _, .answered ⟨hrequest, husable, haway⟩ hcourse ha hf hbody, rfl,
          verdict_answer _ _⟩
      | failed fault hnone =>
        exact ⟨sent, _, _, .lost ⟨hrequest, husable, haway⟩ hcourse hnone, rfl, .transport fault⟩
    · -- Nothing can be sent, since the address is not one to call or nobody listens.
      have hnot : ∀ r, ¬ Reaches c op server r := by
        intro r' hreach'
        obtain rfl : r = r' := Except.ok.inj (hrequest.symm.trans hreach'.built)
        exact hreach ⟨hreach'.usable, hreach'.listens⟩
      obtain ⟨fault, hcall⟩ : ∃ fault, Http.call r server = (.failed fault, server) := by
        cases haway : server.isAway with
        | true => exact Http.call_of_isAway r haway
        | false =>
          have hunusable : ¬ r.url.isUsable = true := fun husable => hreach ⟨husable, haway⟩
          exact ⟨_, by rw [Http.call, if_neg hunusable]⟩
      refine ⟨[], none, _, .unsent hnot, ?_, .transport fault⟩
      simp only [attempt, hcall, Http.Server.after_nil]
      rfl

/-- The result of an operation is the verdict on its conversation. -/
lemma Conversation.exists_verdict (h : Conversation c op server sent final)
    (hresponds : server.Responds) :
    ∃ result, (op.run c server).1 = some result ∧ Verdict final result := by
  obtain ⟨sent', final', result, hconversation, hrun, hverdict⟩ :=
    exists_conversation c op hresponds
  obtain ⟨-, rfl⟩ := h.unique hconversation
  exact ⟨result, by rw [hrun], hverdict⟩

lemma Conversation.grantOf_eq (h : Conversation c op server sent (some (status, body)))
    (hresponds : server.Responds) (hrun : (op.run c server).1 = some (.ok grant)) :
    grantOf body = .ok grant := by
  obtain ⟨result, hresult, hverdict⟩ := h.exists_verdict hresponds
  obtain rfl := Option.some.inj (hresult.symm.trans hrun)
  cases hverdict with
  | granted _ hbody => exact hbody

/-- One attempt, one verdict.  Every operation ends.  It fails in transport when it has obtained no
complete final answer, which includes that nothing could be sent; it is rejected with the status
of this answer when that is no success; and otherwise the body decides.  The server has received
the requests of one course of the call, at most eleven, and has spent one reply on each of them.
Two operations that end well with the same final body grant the same lease from any moment on. -/
theorem one_verdict (c : Client) (op : Operation) (server : Http.Server) (h : server.Responds) :
    ∃ sent final result, Conversation c op server sent final ∧
      op.run c server = (some result, server.after sent) ∧ sent.length ≤ 11 ∧
      ((∃ fault, result = .error (.transport fault)) ↔ final = none) ∧
      (∀ status, (∃ errors, result = .error (.rejected status errors)) ↔
        ∃ body, final = some (status, body) ∧ ¬ (200 ≤ status ∧ status ≤ 299)) ∧
      ((∃ fault, result = .error (.malformed fault)) ↔ ∃ status body,
        final = some (status, body) ∧ (200 ≤ status ∧ status ≤ 299) ∧
          ∀ grant, grantOf body ≠ .ok grant) ∧
      (∀ grant, result = .ok grant ↔ ∃ status body,
        final = some (status, body) ∧ (200 ≤ status ∧ status ≤ 299) ∧
          grantOf body = .ok grant) ∧
      (∀ c' op' server' sent' status status' body grant grant' received,
        final = some (status, body) → result = .ok grant → server'.Responds →
        Conversation c' op' server' sent' (some (status', body)) →
        (op'.run c' server').1 = some (.ok grant') →
        grant'.startingAt received = grant.startingAt received) := by
  obtain ⟨sent, final, result, hconversation, hrun, hverdict⟩ := exists_conversation c op h
  refine ⟨sent, final, result, hconversation, hrun, hconversation.length_le,
    hverdict.transport_iff, hverdict.rejected_iff, hverdict.malformed_iff, hverdict.granted_iff, ?_⟩
  intro c' op' server' sent' status status' body grant grant' received hfinal hresult h' hother hrun'
  subst hfinal hresult
  have hgrant := hconversation.grantOf_eq h (by rw [hrun])
  have hgrant' := hother.grantOf_eq h' hrun'
  rw [Except.ok.inj (hgrant'.symm.trans hgrant)]

/-- A server that gives one answer and closes any further connection. -/
def answering (status : ℕ) (body : List UInt8) : Http.Server :=
  ⟨false, [.answer status none body 0], some .closed, []⟩

lemma responds_answering (status : ℕ) (body : List UInt8) : (answering status body).Responds :=
  Or.inr (Or.inl nofun)

/-- An answer that names no other address ends the conversation. -/
lemma conversation_answering {status : ℕ} {body : List UInt8}
    (hreply : (Http.Reply.answer status none body 0).response? = some ⟨status, none, some body⟩)
    (husable : (op.request c).toOption.map (·.url.isUsable) = some true) :
    ∃ sent, Conversation c op (answering status body) sent (some (status, body)) := by
  cases hrequest : op.request c with
  | error fault =>
    rw [hrequest] at husable
    cases husable
  | ok r =>
    rw [hrequest] at husable
    have hreach : Reaches c op (answering status body) r :=
      ⟨hrequest, Option.some.inj husable, rfl⟩
    have hfinal : Http.follow r ⟨status, none, some body⟩ = .final := by
      unfold Http.follow
      cases r.redirected? status <;> rfl
    have hend : ∀ a r', (Http.Reply.answer status none body 0).response? = some a →
        Http.follow r a ≠ .next r' := by
      intro a r' ha hnext
      obtain rfl := Option.some.inj (hreply.symm.trans ha)
      cases hfinal.symm.trans hnext
    exact ⟨[r], .answered hreach (.last rfl (Or.inr hend)) hreply hfinal rfl⟩

/-- A server that sends a login on to another address, where it grants a token, and that closes any
further connection. -/
def forwarding : Http.Server where
  isAway := false
  replies := [.answer 307 (some "/elsewhere") [] 0,
    .answer 200 none (Text.bytes "[[\"t\",null,[],9,true]]") 0]
  further := some .closed
  seen := []

/-- The login that is sent on takes two requests, and the second answer grants the token. -/
theorem one_verdict_forwarding : forwarding.Responds ∧
    ∃ sent final, Conversation ⟨"http://vault", none⟩ (.login "kubernetes" "jwt" "app") forwarding
      sent final ∧ sent.length = 2 ∧ sent.length ≤ 11 ∧
      ∃ status body, final = some (status, body) ∧ (200 ≤ status ∧ status ≤ 299) ∧
        grantOf body = .ok ⟨"t", none, [], .ofSeconds 9, true⟩ := by
  have hresponds : forwarding.Responds := Or.inr (Or.inl nofun)
  obtain ⟨sent, final, result, hconversation, hrun, hle, -, -, -, hgranted, -⟩ :=
    one_verdict ⟨"http://vault", none⟩ (.login "kubernetes" "jwt" "app") forwarding hresponds
  have hseen : (Operation.run ⟨"http://vault", none⟩ (.login "kubernetes" "jwt" "app")
      forwarding).2.seen.length = 2 := by decide +kernel
  have htoken : (Operation.run ⟨"http://vault", none⟩ (.login "kubernetes" "jwt" "app")
      forwarding).1.map Except.toOption = some (some ⟨"t", none, [], .ofSeconds 9, true⟩) := by
    decide +kernel
  rw [hrun] at hseen htoken
  have hresult : result = .ok ⟨"t", none, [], .ofSeconds 9, true⟩ := by
    cases result with
    | ok grant => simpa [Except.toOption] using htoken
    | error => simp [Except.toOption] at htoken
  refine ⟨hresponds, sent, final, hconversation, ?_, hle, (hgranted _).mp hresult⟩
  simpa [Http.Server.after, forwarding] using hseen

end Vault
end LeaseKeeper
