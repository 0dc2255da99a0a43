/-
# JSON documents

A document is one value with nothing but white space around it.  The values that have begun lie on
a stack, so documents of any depth are read.
-/
import LeaseKeeper.Json.Token
import LeaseKeeper.Json.Value

namespace LeaseKeeper
namespace Json

/-- A value that is read: a string that is the form of no text is `none`. -/
abbrev Raw := Value (Option String)

/-- A list or object that has begun, its parts so far with the last one first. -/
inductive Frame
  /-- A list. -/
  | items (rev : List Raw)
  /-- An object, and the name that the next value belongs to. -/
  | members (rev : List (Option String × Raw)) (key : Option String)

/-- What has to follow, with the lists and objects that have begun, the innermost first. -/
inductive Builder
  | value (stack : List Frame)
  /-- A value, or the end of a list without items. -/
  | opened (stack : List Frame)
  /-- A name, or the end of an object without members. -/
  | openedObject (stack : List Frame)
  | name (rev : List (Option String × Raw)) (stack : List Frame)
  /-- A colon after a name. -/
  | colon (rev : List (Option String × Raw)) (key : Option String) (stack : List Frame)
  /-- What may come after a value. -/
  | after (v : Raw) (stack : List Frame)

namespace Builder

/-- Takes a token that begins a value. -/
def begin? (stack : List Frame) : Token → Option Builder
  | .null => some (.after .null stack)
  | .bool b => some (.after (.bool b) stack)
  | .number literal => some (.after (.number literal) stack)
  | .string s => some (.after (.string s) stack)
  | .openArray => some (.opened stack)
  | .openObject => some (.openedObject stack)
  | _ => none

/-- Takes a token, unless it cannot stand here. -/
def push? : Builder → Token → Option Builder
  | .value stack, t => begin? stack t
  | .opened stack, .closeArray => some (.after (.array []) stack)
  | .opened stack, t => begin? (.items [] :: stack) t
  | .openedObject stack, .closeObject => some (.after (.object []) stack)
  | .openedObject stack, .string s => some (.colon [] s stack)
  | .name rev stack, .string s => some (.colon rev s stack)
  | .colon rev key stack, .colon => some (.value (.members rev key :: stack))
  | .after v (.items rev :: stack), .comma => some (.value (.items (v :: rev) :: stack))
  | .after v (.items rev :: stack), .closeArray =>
    some (.after (.array (v :: rev).reverse) stack)
  | .after v (.members rev key :: stack), .comma => some (.name ((key, v) :: rev) stack)
  | .after v (.members rev key :: stack), .closeObject =>
    some (.after (.object ((key, v) :: rev).reverse) stack)
  | _, _ => none

/-- The value, when it is complete. -/
def finish? : Builder → Option Raw
  | .after v [] => some v
  | _ => none

end Builder

/-- The value of a list of tokens. -/
def ofTokens? (ts : List Token) : Option Raw :=
  (ts.foldlM Builder.push? (.value [])).bind Builder.finish?

/-- The value of a document. -/
def parse? (bs : List UInt8) : Option Raw := (tokens? bs).bind ofTokens?

end Json
end LeaseKeeper
