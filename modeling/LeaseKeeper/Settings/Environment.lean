/-
# Environment variables

The environment gives bytes to names.  A variable whose bytes are not the form of any text counts
as unset.  In the text of a number of seconds white space around it does not count, a plus sign may
stand in front, and the rest is one or more of the ten ASCII digits, with a value below `2 ^ 64`.
-/
import LeaseKeeper.Text.Blank
import LeaseKeeper.Text.Digits
import LeaseKeeper.Text.Utf8

namespace LeaseKeeper

/-- The variables that are set, with their bytes. -/
structure Environment where
  /-- Names and bytes; the first entry of a name counts. -/
  entries : List (String × List UInt8)

namespace Environment

/-- The environment without any variable. -/
def empty : Environment := ⟨[]⟩

/-- The text of a variable, if it is set to one. -/
def text? (env : Environment) (name : String) : Option String :=
  (env.entries.lookup name).bind Text.ofBytes?

@[simp] theorem text?_empty (name : String) : empty.text? name = none := rfl

end Environment

namespace Seconds

/-- A text without one plus sign in front. -/
def dropSign : List Char → List Char
  | '+' :: rest => rest
  | cs => cs

/-- The value of a text, unless it is no number or too large. -/
def parse? (s : String) : Option UInt64 :=
  Text.word? (dropSign (Text.trimBoth Text.isBlank s.toList))

end Seconds

end LeaseKeeper
