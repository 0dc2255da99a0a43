/-
# What a server answers

A successful answer is a document with an auth block, and a refusal may be a document with a list
of reasons.  A block is an object, in which each known member occurs at most once and any others
are skipped, or a list of the known members in order.  Integers are written without sign, fraction
and exponent, and stay below `2 ^ 64`.
-/
import LeaseKeeper.Fault.Vault
import LeaseKeeper.Json.Document
import LeaseKeeper.Lease
import LeaseKeeper.Text.Blank
import LeaseKeeper.Text.Digits

namespace LeaseKeeper
namespace Vault

open Json (Raw Value)

/-- The members of an object under their names, unless a name is no text. -/
def named? (members : List (Option String × Raw)) : Option (List (String × Raw)) :=
  members.mapM fun (name, v) => name.map (·, v)

/-- The value of a member, `none` inside if there is none; no answer at all if there are two. -/
def single? (members : List (String × Raw)) (name : String) : Option (Option Raw) :=
  match members.filter (·.1 = name) with
  | [] => some none
  | [(_, v)] => some (some v)
  | _ => none

/-- The text of a string. -/
def text? : Raw → Option String
  | .string s => s
  | _ => none

/-- The value of a truth value. -/
def bool? : Raw → Option Bool
  | .bool b => some b
  | _ => none

/-- The texts of a list of strings. -/
def texts? : Raw → Option (List String)
  | .array items => items.mapM text?
  | _ => none

/-- What may be null. -/
def nullable {α : Type} (read : Raw → Option α) : Raw → Option (Option α)
  | .null => some none
  | v => (read v).map some

/-- The number of seconds that a number is. -/
def seconds? : Raw → Option UInt64
  | .number literal => Text.word? literal.toList
  | _ => none

/-- A member that has to be there. -/
def required {α : Type} (read : Raw → Option α) (v : Option Raw) : Option α := v.bind read

/-- A member that may be absent. -/
def optional {α : Type} (absent : α) (read : Raw → Option α) : Option Raw → Option α
  | none => some absent
  | some v => read v

/-- The grant whose members are given. -/
def grant? (token accessor policies ttl renewable : Option Raw) : Option Grant := do
  return {
    token := ← required text? token
    accessor := ← optional none (nullable text?) accessor
    policies := ← optional [] texts? policies
    ttl := .ofSeconds (← required seconds? ttl)
    renewable := ← required bool? renewable }

/-- The grant of an auth block. -/
def auth? : Raw → Option Grant
  | .object members => do
    let ms ← named? members
    grant? (← single? ms "client_token") (← single? ms "accessor") (← single? ms "policies")
      (← single? ms "lease_duration") (← single? ms "renewable")
  -- In a list no member can be absent.
  | .array [token, accessor, policies, ttl, renewable] =>
    grant? (some token) (some accessor) (some policies) (some ttl) (some renewable)
  | _ => none

/-- The grant of a document, `none` inside if it has no auth block. -/
def authDocument? : Raw → Option (Option Grant)
  | .object members => do
    let ms ← named? members
    optional none (nullable auth?) (← single? ms "auth")
  | .array [] => some none
  | .array [v] => nullable auth? v
  | _ => none

/-- The reasons of a document. -/
def errorDocument? : Raw → Option (List String)
  | .object members => do
    let ms ← named? members
    optional [] texts? (← single? ms "errors")
  | .array [] => some []
  | .array [v] => texts? v
  | _ => none

/-- What the body of a successful answer grants. -/
def grantOf (body : List UInt8) : Except ResponseFault Grant :=
  match (Json.parse? body).bind authDocument? with
  | none => .error .unreadable
  | some none => .error .noAuthBlock
  | some (some grant) => .ok grant

/-- The body as one reason, or none at all when it is blank. -/
def plainReason (body : List UInt8) : List String :=
  let text := Text.trimBlank (Text.ofBytesLossy body)
  if text = "" then [] else [text]

/-- The reasons that the body of a refusal gives. -/
def reasonsOf (body : List UInt8) : List String :=
  match (Json.parse? body).bind errorDocument? with
  | some (e :: es) => e :: es
  | _ => plainReason body

/-- Whether a status is a success. -/
def isSuccess (status : Nat) : Bool := 200 ≤ status && status < 300

/-- The verdict on an answer. -/
def verdict (status : Nat) (body : List UInt8) : Except VaultError Grant :=
  if isSuccess status then
    match grantOf body with
    | .ok grant => .ok grant
    | .error fault => .error (.malformed fault)
  else .error (.rejected status (reasonsOf body))

end Vault
end LeaseKeeper
