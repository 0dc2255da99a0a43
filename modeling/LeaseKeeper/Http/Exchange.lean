/-
# Exchanges with a server

A client sends a request and follows the redirections that it is given, at most ten for one call.
After a 301 or 302 to a document that was sent, and after any 303, it asks for the document instead;
after a 307 or 308 it repeats what it did.  A redirection without an address that can be understood
and named is an ordinary answer.
-/
import LeaseKeeper.Fault.Vault
import LeaseKeeper.Http.Named
import LeaseKeeper.Http.Reference
import LeaseKeeper.Http.Wire

namespace LeaseKeeper
namespace Http

/-- A server: what it does with the next requests, and what it has been asked. -/
structure Server where
  /-- Whether nobody listens at all. -/
  isAway : Bool
  /-- What it does with the next requests. -/
  replies : List Reply
  /-- What it does with any further request; `none` leaves it without an answer. -/
  further : Option Reply
  /-- The requests that have come in, the oldest first. -/
  seen : List Request

namespace Server

/-- The server takes a request, and says what it does with it. -/
def take (s : Server) (r : Request) : Option Reply × Server :=
  if s.isAway then (some .closed, s)
  else
    match s.replies with
    | reply :: rest => (some reply, { s with replies := rest, seen := s.seen ++ [r] })
    | [] => (s.further, { s with seen := s.seen ++ [r] })

end Server

/-- How a call ends. -/
inductive Outcome
  /-- A complete answer was received. -/
  | answered (status : Nat) (body : List UInt8)
  /-- No complete answer was received. -/
  | failed (fault : TransportFault)
  /-- The server never answers. -/
  | pending
deriving DecidableEq

/-- What follows an answer. -/
inductive Follow
  | final
  /-- Another request is sent. -/
  | next (r : Request)
  /-- The answer leads to an address that no request can be sent to. -/
  | unbuildable (url : Url)

/-- The request as a question for a document. -/
def Request.asking (r : Request) : Request := { r with method := .get, document := none }

/-- The request that is sent after a redirection with this status, if it is one. -/
def Request.redirected? (r : Request) (status : Nat) : Option Request :=
  if status = 301 ∨ status = 302 then some (if r.method = .post then r.asking else r)
  else if status = 303 then some r.asking
  else if status = 307 ∨ status = 308 then some r
  else none

/-- What follows an answer to a request. -/
def follow (r : Request) (a : Response) : Follow :=
  match r.redirected? a.status, (a.location.bind r.url.join?).bind Url.named? with
  | some r, some url => if url.isWeb then .next { r with url } else .unbuildable url
  | _, _ => .final

/-- How many redirections are followed for one call. -/
def redirectLimit : Nat := 10

/-- Sends a request and follows at most `left` redirections; `first` is the address of the call. -/
def send (first : Url) : Nat → Request → Server → Outcome × Server
  | left, r, server =>
    match server.take r with
    | (none, server) => (.pending, server)
    | (some reply, server) =>
      match reply.response? with
      | none => (.failed (.unanswered first.text), server)
      | some a =>
        match follow r a, left with
        | .final, _ =>
          (match a.body with
            | some body => .answered a.status body
            | none => .failed .bodyCutShort, server)
        -- The limit comes before the question where the answer leads.
        | _, 0 => (.failed (.redirectLimit r.url.withoutFragment.text), server)
        | .unbuildable url, _ => (.failed (.unbuildable (some url.text)), server)
        | .next r, left + 1 => send first left r server

/-- Whether requests can be sent to an address. -/
def Url.isUsable (u : Url) : Bool := u.isWeb && u.named?.isSome

/-- One call: a request with its redirections. -/
def call (r : Request) (server : Server) : Outcome × Server :=
  if r.url.isUsable then send r.url redirectLimit r server
  else (.failed (.unbuildable (some r.url.text)), server)

/-- How a call ends after these replies, and the request that waits for another reply if it has not
ended. -/
def afterReplies (r : Request) (replies : List Reply) : Outcome × Option Request :=
  let (outcome, server) := call r ⟨false, replies, none, []⟩
  (outcome, if outcome = .pending then server.seen.getLast? else none)

end Http
end LeaseKeeper
