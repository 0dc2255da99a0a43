/-
# Addresses as requests name them

A request names an address without its fragment, and one with a host has at least a slash for a
path.  Not every address can be named: it may not be too long, its host may not hold characters that
are escaped or that have a meaning of their own, and without a host it has to look like an authority
itself.
-/
import LeaseKeeper.Http.Url

namespace LeaseKeeper
namespace Http

/-- An authority that is being read. -/
structure AuthorityScan where
  /-- The colons since the last at sign or closing bracket. -/
  colons : Nat
  /-- Whether a bracket was opened. -/
  isOpened : Bool
  /-- Whether the bracket was closed. -/
  isClosed : Bool
  /-- Whether there was an escaped character since the last at sign or closing bracket. -/
  isEscaped : Bool
  /-- Whether the last character was an at sign. -/
  isAfterAt : Bool

namespace AuthorityScan

/-- Nothing read. -/
def start : AuthorityScan := ⟨0, false, false, false, false⟩

/-- The most colons in a row of brackets. -/
def mostColons : Nat := 8

/-- Whether a character other than a colon, a bracket, an at sign or a percent sign may stand in an
authority. -/
def isPlain (c : Char) : Bool := c.isAlphanum || "!$&'()*+,-.;=_~".toList.contains c

/-- Reads a character. -/
def push? (s : AuthorityScan) (c : Char) : Option AuthorityScan :=
  let s := { s with isAfterAt := false }
  if c == ':' then
    if mostColons ≤ s.colons then none else some { s with colons := s.colons + 1 }
  else if c == '[' then
    if s.isEscaped || s.isOpened then none else some { s with isOpened := true }
  else if c == ']' then
    if !s.isOpened || s.isClosed then none
    else some { s with isClosed := true, colons := 0, isEscaped := false }
  else if c == '@' then some { s with colons := 0, isEscaped := false, isAfterAt := true }
  else if c == '%' then some { s with isEscaped := true }
  else if isPlain c then some s
  else none

/-- Whether the authority may end here. -/
def isComplete (s : AuthorityScan) : Bool :=
  s.isOpened == s.isClosed && s.colons ≤ 1 && !s.isAfterAt && !s.isEscaped

end AuthorityScan

namespace Url

/-- Whether a text is an authority that a request can name. -/
def isAuthority (cs : List Char) : Bool :=
  !cs.isEmpty && (cs.foldlM AuthorityScan.push? .start).any AuthorityScan.isComplete

/-- The longest address that a request can name, in bytes. -/
def longest : Nat := 65534

/-- The longest scheme of an address that a request can name. -/
def longestScheme : Nat := 64

/-- The address as a request names it. -/
def named? (u : Url) : Option Url :=
  if longest < u.text.utf8ByteSize then none
  else if u.host.isNone then (if isAuthority u.text.toList then some u else none)
  else if u.scheme.length ≤ longestScheme && isAuthority (u.authorityText.toList.drop 2) then
    some { u with
      fragment := none
      path := if u.path.text.isEmpty then .segments [""] else u.path }
  else none

end Url
end Http
end LeaseKeeper
