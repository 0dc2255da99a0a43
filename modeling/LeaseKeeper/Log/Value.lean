/-
# Fields of log events

A field has a name and a value.  Texts, truth values and numbers are kept as they are; a value that
is only shown is kept as the text that it shows.  Such a field is dropped when its name begins with
`log.`, and the two characters `r#` in front of its name do not count.
-/
import LeaseKeeper.Json.Value
import LeaseKeeper.Number.Shortest
import LeaseKeeper.Text.Shown

namespace LeaseKeeper
namespace Log

/-- The value of a field. -/
inductive Value
  | text (s : String)
  | bool (b : Bool)
  | int (i : Int)
  | double (d : Double)
  /-- A value that is shown as this text. -/
  | shown (s : String)
  /-- A text that is shown in quotes. -/
  | quoted (s : String)
deriving DecidableEq

/-- A field. -/
structure Field where
  /-- Its name. -/
  name : String
  /-- Its value; `none` if the field is announced and left without one. -/
  value : Option Value
deriving DecidableEq

/-- A field with a value. -/
def Field.of (name : String) (v : Value) : Field := ⟨name, some v⟩

/-- How doubles are written in records. -/
def recordLayout : Layout := ⟨-4, 16⟩

/-- How doubles are written in plain lines. -/
def lineLayout : Layout := ⟨-3, 16⟩

namespace Value

/-- The value in a record. -/
def json : Value → Json.Value String
  | text s => .string s
  | bool b => .bool b
  | int i => .ofInt i
  | double d => if d.isFinite then .number (d.text recordLayout) else .null
  | shown s => .string s
  | quoted s => .string (Text.quoted s)

/-- Whether the value is kept as the text that it shows. -/
def isShown : Value → Bool
  | shown _ => true
  | quoted _ => true
  | _ => false

/-- The value in a plain line. -/
def line : Value → String
  | text s => Text.quoted s
  | bool b => toString b
  | int i => toString i
  | double d =>
    if d.isFinite then d.text lineLayout
    else if d.isNaN then "NaN"
    else if d.isNegative then "-inf" else "inf"
  | shown s => s
  | quoted s => Text.quoted s

end Value

/-- What names of the log's own fields begin with. -/
def ownMark : String := "log."

/-- A name without the two characters `r#` in front. -/
def bareName (name : String) : String :=
  if "r#".toList.isPrefixOf name.toList then String.ofList (name.toList.drop 2) else name

/-- The name under which a field with a value is kept, if it is kept. -/
def Value.key? (name : String) (v : Value) : Option String :=
  if v.isShown then
    if ownMark.toList.isPrefixOf name.toList then none else some (bareName name)
  else some name

/-- The name of the field that holds the message. -/
def messageName : String := "message"

end Log
end LeaseKeeper
