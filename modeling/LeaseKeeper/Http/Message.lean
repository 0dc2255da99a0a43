/-
# Requests and what servers do with them

A request has a method, an address, three optional headers and a body.  A server answers it with a
status, perhaps with an address to go on at, and with a body that may be cut short; or it closes the
connection; or it sends bytes that are only called an answer.
-/
import LeaseKeeper.Http.Url

namespace LeaseKeeper
namespace Http

/-- How a request is meant. -/
inductive Method
  /-- The server is asked for a document. -/
  | get
  /-- The server is sent a document. -/
  | post
deriving DecidableEq

/-- The name of a method. -/
def Method.name : Method → String
  | get => "GET"
  | post => "POST"

/-- A request. -/
structure Request where
  /-- How the request is meant. -/
  method : Method
  /-- Where it goes. -/
  url : Url
  /-- The name of the application that sends it. -/
  application : Option String
  /-- The token that it carries. -/
  token : Option String
  /-- The document that it carries, if any. -/
  document : Option String
deriving DecidableEq

namespace Request

/-- The headers of a request that say something about its sender or its body. -/
def headers (r : Request) : List (String × String) :=
  (match r.document with
    | none => []
    | some _ => [("content-type", "application/json")])
  ++ (match r.application with
    | none => []
    | some name => [("user-agent", name)])
  ++ (match r.token with
    | none => []
    | some token => [("x-vault-token", token)])

/-- The body of a request. -/
def body (r : Request) : String := r.document.getD ""

/-- The host of a request with its port, unless it is the usual one. -/
def authority (r : Request) : String :=
  Url.hostText (r.url.host.getD "") r.url.port

/-- All headers of a request that is sent on a connection of its own. -/
def allHeaders (r : Request) : List (String × String) :=
  r.headers ++ [("accept", "*/*"), ("host", r.authority), ("connection", "close")]
    ++ match r.document with
      | none => []
      | some document => [("content-length", toString document.utf8ByteSize)]

/-- The text by which a request is sent. -/
def wire (r : Request) : String :=
  let line := r.method.name ++ " " ++ r.url.target ++ " HTTP/1.1"
  "\r\n".intercalate (line :: r.allHeaders.map fun (k, v) => k ++ ": " ++ v)
    ++ "\r\n\r\n" ++ r.body

end Request

/-- A final answer as a client sees it. -/
structure Response where
  /-- The status. -/
  status : Nat
  /-- The reference at which to go on, if one is given. -/
  location : Option String
  /-- The body; `none` if it is cut short. -/
  body : Option (List UInt8)
deriving DecidableEq

/-- What a server does with one request. -/
inductive Reply
  /-- It answers, with so many bytes of the body missing. -/
  | answer (status : Nat) (location : Option String) (body : List UInt8) (missing : Nat)
  | closed
  /-- It sends these bytes and closes the connection. -/
  | bytes (sent : List UInt8)
deriving DecidableEq

/-- Whether an answer with this status has no body, whatever is sent after its headers. -/
def isBodiless (status : Nat) : Bool := status == 101 || status == 204 || status == 304

/-- Whether a status is that of a final answer; the others below 200 announce one. -/
def isFinalStatus (status : Nat) : Bool := status == 101 || (200 ≤ status && status < 1000)

end Http
end LeaseKeeper
