/-
# JSON values

A value is what a JSON text denotes: members of an object keep their order and may repeat, and a
number keeps the digits in which it is written.  The type of the strings is a parameter: a text
that is written has texts, and one that is read may have strings that are the form of no text.
The printer writes a value without any white space.
-/
import LeaseKeeper.Text.Utf8

namespace LeaseKeeper
namespace Json

/-- A JSON value whose strings are of type `τ`. -/
inductive Value (τ : Type) where
  | null
  | bool (b : Bool)
  /-- A number, as it is written. -/
  | number (literal : String)
  | string (s : τ)
  | array (items : List (Value τ))
  /-- Names with values, in order. -/
  | object (members : List (τ × Value τ))

/-- The digits of a number below sixteen. -/
def hexDigit (n : Nat) : Char := Nat.digitChar n

/-- How a character is written inside a string. -/
def escaped (c : Char) : List Char :=
  if c == '"' then ['\\', '"']
  else if c == '\\' then ['\\', '\\']
  else if 0x20 ≤ c.toNat then [c]
  else if c == '\n' then ['\\', 'n']
  else if c == '\r' then ['\\', 'r']
  else if c == '\t' then ['\\', 't']
  else if c.toNat == 8 then ['\\', 'b']
  else if c.toNat == 12 then ['\\', 'f']
  else ['\\', 'u', '0', '0', hexDigit (c.toNat / 16), hexDigit (c.toNat % 16)]

/-- A string as it is written. -/
def quoted (s : String) : List Char := '"' :: (s.toList.flatMap escaped ++ ['"'])

/-- Parts with commas between them. -/
def separated : List (List Char) → List Char
  | [] => []
  | [part] => part
  | part :: rest => part ++ ',' :: separated rest

mutual

/-- A value as it is written, without any white space. -/
def Value.print : Value String → List Char
  | .null => "null".toList
  | .bool true => "true".toList
  | .bool false => "false".toList
  | .number literal => literal.toList
  | .string s => quoted s
  | .array items => '[' :: (separated (printItems items) ++ [']'])
  | .object members => Char.ofNat 0x7b :: (separated (printMembers members) ++ [Char.ofNat 0x7d])

/-- The items of a list as they are written. -/
def printItems : List (Value String) → List (List Char)
  | [] => []
  | v :: rest => v.print :: printItems rest

/-- The members of an object as they are written. -/
def printMembers : List (String × Value String) → List (List Char)
  | [] => []
  | (name, v) :: rest => (quoted name ++ ':' :: v.print) :: printMembers rest

end

namespace Value

/-- A value as a text. -/
def text (v : Value String) : String := String.ofList v.print

/-- The number `n`. -/
def ofNat {τ : Type} (n : Nat) : Value τ := .number (Nat.repr n)

/-- The number `i`. -/
def ofInt {τ : Type} (i : Int) : Value τ := .number (toString i)

end Value

example : (Value.object [("a", .array [.ofNat 1, .null]), ("b", .string "x\n")]).text
    = "\x7b\"a\":[1,null],\"b\":\"x\\n\"\x7d" := by
  decide +kernel

end Json
end LeaseKeeper
