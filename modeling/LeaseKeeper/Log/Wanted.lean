/-
# Values that a directive waits for

A directive may name a field, and the value that the field must have.  The value is written as a
truth value or a number, and anything else is a pattern that the field's text has to fit.
-/
import LeaseKeeper.Log.Value
import LeaseKeeper.Number.Literal
import LeaseKeeper.Pattern.Reader

namespace LeaseKeeper
namespace Log

/-- The value that a field must have. -/
inductive Wanted
  | bool (b : Bool)
  | int (i : Int)
  /-- A double, or one very near to it. -/
  | double (d : Double)
  /-- A text that fits the pattern written in this way. -/
  | fitting (written : String) (p : Pattern)
deriving DecidableEq

namespace Wanted

/-- Whether a whole number fits into 64 bits, with or without sign. -/
def isWord (i : Int) : Bool := -0x8000000000000000 ≤ i && i ≤ 0xffffffffffffffff

/-- A double whose sign does not count if it is zero or no number. -/
def ofDouble (d : Double) : Wanted :=
  double (if d.isNaN then .notANumber else if d = .opposite ⟨0⟩ then ⟨0⟩ else d)

/-- The wanted value that a text is. -/
def parse? (cs : List Char) : Option Wanted :=
  if cs = "true".toList then some (bool true)
  else if cs = "false".toList then some (bool false)
  else
    match (Double.signed? cs).filter isWord, Double.parse? cs with
    | some i, _ => some (int i)
    | none, some d => some (ofDouble d)
    | none, none =>
      let written := String.ofList cs
      (Pattern.parse? written).map (fitting written)

/-- Whether a value is as wanted. -/
def accepts : Wanted → Value → Bool
  | bool b, .bool c => b == c
  | int i, .int j => i == j
  | double d, .double e => if d.isNaN then e.isNaN else d.isNear e
  | fitting _ p, .text s => p.fits s
  | fitting _ p, .shown s => p.fits s
  | fitting _ p, .quoted s => p.fits (Text.quoted s)
  | _, _ => false

end Wanted

/-- A field that must be there. -/
structure FieldTest where
  /-- Its name. -/
  name : String
  /-- The value that it must have, if it matters. -/
  wanted : Option Wanted
deriving DecidableEq

namespace FieldTest

/-- The test that a text is: a name, and a value after an equals sign.  What stands after a second
equals sign does not count. -/
def parse? (cs : List Char) : Option FieldTest :=
  match Text.splitOn (· == '=') cs with
  | [] => none
  | [name] => some ⟨String.ofList name, none⟩
  | name :: value :: _ =>
    (Wanted.parse? value).map fun wanted => ⟨String.ofList name, some wanted⟩

/-- Whether one of some fields has the value that the field must have. -/
def isMet (t : FieldTest) (fields : List Field) : Bool :=
  t.wanted.all fun wanted =>
    (fields.find? (·.name = t.name)).any fun f => f.value.any wanted.accepts

end FieldTest
end Log
end LeaseKeeper
