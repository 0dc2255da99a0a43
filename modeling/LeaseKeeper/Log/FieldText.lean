/-
# Fields in plain lines

A field is written as its name, an equals sign and its value.  The message stands there as it is,
without its name, but for controls that a terminal would obey.  A field without a value is left out.
-/
import LeaseKeeper.Log.Value

namespace LeaseKeeper
namespace Log

/-- A character of a message as a terminal may see it. -/
def harmless (c : Char) : List Char :=
  let n := c.toNat
  if n = 0x1b || n = 7 || n = 8 || n = 12 || n = 0x7f then
    ['\\', 'x', Nat.digitChar (n / 16), Nat.digitChar (n % 16)]
  else if 0x80 ≤ n && n ≤ 0x9f then
    ['\\', 'u', Char.ofNat 0x7b] ++ Text.hexDigits n ++ [Char.ofNat 0x7d]
  else [c]

/-- A message: a text as it is, any other value as in any field. -/
def messageText : Value → String
  | .text s => s
  | v => v.line

/-- A field with a value in a plain line. -/
def fieldText (name : String) (v : Value) : String :=
  if name = messageName then String.ofList ((messageText v).toList.flatMap harmless)
  else bareName name ++ "=" ++ v.line

/-- Fields in a plain line. -/
def fieldsText (fields : List Field) : String :=
  " ".intercalate (fields.filterMap fun f => f.value.map (fieldText f.name))

/-- Fields in a plain line after others that have been written. -/
def moreFieldsText (written : String) (fields : List Field) : String :=
  (if written.isEmpty then written else written ++ " ") ++ fieldsText fields

end Log
end LeaseKeeper
