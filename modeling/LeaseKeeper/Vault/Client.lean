/-
# The client of a server

A client is an address without trailing slashes and, if it is given, a name that every request
carries.  It cannot be made without an address, nor with a name that is no header value.
-/
import LeaseKeeper.Fault.Vault
import LeaseKeeper.Settings.Environment
import LeaseKeeper.Text.Blank

namespace LeaseKeeper
namespace Vault

/-- The bytes that a header value may hold: no controls other than the tab. -/
def isHeaderByte (b : UInt8) : Bool := (0x20 ≤ b.toNat && b.toNat != 0x7f) || b.toNat == 9

/-- Whether a text can be the value of a header. -/
def isHeaderValue (s : String) : Bool := (Text.bytes s).all isHeaderByte

/-- A client of one server. -/
structure Client where
  /-- The address, without trailing slashes. -/
  base : String
  /-- The name that every request carries. -/
  application : Option String
deriving DecidableEq

namespace Client

/-- An address without its trailing slashes. -/
def trimBase (address : String) : String :=
  String.ofList (Text.trimEnd (· == '/') address.toList)

/-- The client for the address that is given, or else for the one in the environment. -/
def build (address application : Option String) (env : Environment) : Except VaultError Client :=
  match address.or (env.text? "VAULT_ADDR") with
  | none => .error .addressMissing
  | some a =>
    if a = "" then .error .addressMissing
    else if application.all isHeaderValue then .ok ⟨trimBase a, application⟩
    else .error (.transport (.unbuildable none))

end Client

/-- The path of the login endpoint below `auth/`: a mount, to which `/login` is added unless it
stands there already. -/
def loginPath (method : String) : String :=
  let mount := Text.trimBoth (· == '/') method.toList
  if "/login".toList.isSuffixOf mount then String.ofList mount
  else String.ofList (mount ++ "/login".toList)

end Vault
end LeaseKeeper
