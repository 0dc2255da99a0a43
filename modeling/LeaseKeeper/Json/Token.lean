/-
# Tokens of JSON

A JSON text is read byte by byte into tokens.  White space stands between tokens only.  A string
becomes the text that it denotes, or `none` when its bytes and escapes are the form of no text;
controls and unknown escapes are refused in any string.  A number keeps the digits in which it is
written.
-/
import LeaseKeeper.Text.Utf8

namespace LeaseKeeper
namespace Json

/-- A token of a JSON text. -/
inductive Token
  | openObject
  | closeObject
  | openArray
  | closeArray
  | comma
  | colon
  | null
  | bool (b : Bool)
  /-- A number, as it is written. -/
  | number (literal : String)
  /-- A string, if it denotes a text. -/
  | string (s : Option String)
deriving DecidableEq

/-- A string that has begun. -/
structure Reading where
  /-- The bytes of the text so far, the last one first, or `none` when it is the form of none. -/
  rev : Option (List UInt8)
  /-- The first half of a pair of units that still waits for its second half. -/
  high : Option Nat
deriving DecidableEq

namespace Reading

/-- A string without any character. -/
def start : Reading := ⟨some [], none⟩

/-- A string that is the form of no text. -/
def broken : Reading := ⟨none, none⟩

/-- Whether a unit is the first half of a pair. -/
def isHigh (n : Nat) : Bool := 0xd800 ≤ n && n ≤ 0xdbff

/-- Whether a unit is the second half of a pair. -/
def isLow (n : Nat) : Bool := 0xdc00 ≤ n && n ≤ 0xdfff

/-- Adds bytes to the text. -/
def push (r : Reading) (bs : List UInt8) : Reading :=
  match r.high with
  | none => { r with rev := r.rev.map (bs.reverse ++ ·) }
  -- A first half that is left alone is the form of no text.
  | some _ => broken

/-- Adds the unit of an escape to the text. -/
def pushUnit (r : Reading) (n : Nat) : Reading :=
  match r.high with
  | none =>
    if isHigh n then { r with high := some n }
    else if isLow n then broken
    else r.push (String.utf8EncodeChar (Char.ofNat n))
  | some h =>
    if isLow n then
      { r with high := none }.push
        (String.utf8EncodeChar (Char.ofNat (0x10000 + (h - 0xd800) * 0x400 + (n - 0xdc00))))
    else broken

/-- The text that the string denotes. -/
def text? (r : Reading) : Option String :=
  match r.high with
  | none => r.rev.bind fun bs => Text.ofBytes? bs.reverse
  | some _ => none

end Reading

/-- How far a number has come. -/
inductive NumberPart
  /-- After the minus sign. -/
  | minus
  /-- After a zero in front. -/
  | zero
  /-- Within the whole part. -/
  | whole
  /-- After the point. -/
  | point
  /-- Within the fraction. -/
  | fraction
  /-- After the mark of the exponent. -/
  | mark
  /-- After the sign of the exponent. -/
  | sign
  /-- Within the exponent. -/
  | exponent
deriving DecidableEq

namespace NumberPart

/-- Whether a number may end here. -/
def isComplete : NumberPart → Bool
  | zero | whole | fraction | exponent => true
  | _ => false

/-- Whether a byte is one of the ten digits. -/
def isDigit (b : UInt8) : Bool := 0x30 ≤ b.toNat && b.toNat ≤ 0x39

/-- How far the number has come after one more byte, if it takes the byte. -/
def next (p : NumberPart) (b : UInt8) : Option NumberPart :=
  let c := Char.ofNat b.toNat
  let afterWhole :=
    if c == '.' then some point else if c == 'e' || c == 'E' then some mark else none
  match p with
  | minus => if c == '0' then some zero else if isDigit b then some whole else none
  | zero => afterWhole
  | whole => if isDigit b then some whole else afterWhole
  | point => if isDigit b then some fraction else none
  | fraction =>
    if isDigit b then some fraction else if c == 'e' || c == 'E' then some mark else none
  | mark =>
    if isDigit b then some exponent else if c == '+' || c == '-' then some sign else none
  | sign => if isDigit b then some exponent else none
  | exponent => if isDigit b then some exponent else none

end NumberPart

/-- What the reader is in the middle of. -/
inductive Mode
  | between
  /-- In a word, of which these bytes are still to come. -/
  | word (rest : List UInt8) (token : Token)
  /-- In a number, with its bytes so far, the last one first. -/
  | number (part : NumberPart) (rev : List UInt8)
  | string (r : Reading)
  /-- In a string after a backslash. -/
  | escape (r : Reading)
  /-- In the digits of an escape, of which `left` are still to come. -/
  | unit (r : Reading) (left value : Nat)
deriving DecidableEq

/-- A text that is being read: what the reader is in the middle of, and the tokens so far, the last
one first. -/
structure Lexer where
  /-- What the reader is in the middle of. -/
  mode : Mode
  /-- The tokens so far, the last one first. -/
  rev : List Token

namespace Lexer

/-- Nothing read yet. -/
def start : Lexer := ⟨.between, []⟩

/-- Whether a byte is white space. -/
def isSpace (b : UInt8) : Bool := b == 0x20 || b == 9 || b == 10 || b == 13

/-- The value of a digit in base sixteen. -/
def hexValue? (b : UInt8) : Option Nat :=
  let n := b.toNat
  if 0x30 ≤ n ∧ n ≤ 0x39 then some (n - 0x30)
  else if 0x41 ≤ n ∧ n ≤ 0x46 then some (n - 0x41 + 10)
  else if 0x61 ≤ n ∧ n ≤ 0x66 then some (n - 0x61 + 10)
  else none

/-- Adds a token. -/
def emit (rev : List Token) (t : Token) : Lexer := ⟨.between, t :: rev⟩

/-- Takes a byte between tokens. -/
def begin? (rev : List Token) (b : UInt8) : Option Lexer :=
  if isSpace b then some ⟨.between, rev⟩
  else if b == 0x7b then some (emit rev .openObject)
  else if b == 0x7d then some (emit rev .closeObject)
  else if b == 0x5b then some (emit rev .openArray)
  else if b == 0x5d then some (emit rev .closeArray)
  else if b == 0x2c then some (emit rev .comma)
  else if b == 0x3a then some (emit rev .colon)
  else if b == 0x22 then some ⟨.string .start, rev⟩
  else if b == 0x6e then some ⟨.word (Text.bytes "ull") .null, rev⟩
  else if b == 0x74 then some ⟨.word (Text.bytes "rue") (.bool true), rev⟩
  else if b == 0x66 then some ⟨.word (Text.bytes "alse") (.bool false), rev⟩
  else if b == 0x2d then some ⟨.number .minus [b], rev⟩
  else if b == 0x30 then some ⟨.number .zero [b], rev⟩
  else if NumberPart.isDigit b then some ⟨.number .whole [b], rev⟩
  else none

/-- The number token of its bytes, the last one first. -/
def numberToken (rev : List UInt8) : Token :=
  .number (String.ofList (rev.reverse.map fun b => Char.ofNat b.toNat))

/-- The byte that a one-letter escape stands for. -/
def named? (b : UInt8) : Option UInt8 :=
  if b == 0x22 || b == 0x5c || b == 0x2f then some b
  else if b == 0x62 then some 8
  else if b == 0x66 then some 12
  else if b == 0x6e then some 10
  else if b == 0x72 then some 13
  else if b == 0x74 then some 9
  else none

/-- Takes a byte, unless no token can go on or begin with it. -/
def push? (l : Lexer) (b : UInt8) : Option Lexer :=
  match l.mode with
  | .between => begin? l.rev b
  | .word [] t => begin? (t :: l.rev) b
  | .word (c :: rest) t =>
    if b = c then
      match rest with
      | [] => some (emit l.rev t)
      | _ => some { l with mode := .word rest t }
    else none
  | .number part rev =>
    match part.next b with
    | some part => some { l with mode := .number part (b :: rev) }
    -- Only what follows a number shows that it has ended.
    | none => if part.isComplete then begin? (numberToken rev :: l.rev) b else none
  | .string r =>
    if b == 0x22 then some (emit l.rev (.string r.text?))
    else if b == 0x5c then some { l with mode := .escape r }
    else if b.toNat < 0x20 then none
    else some { l with mode := .string (r.push [b]) }
  | .escape r =>
    if b == 0x75 then some { l with mode := .unit r 3 0 }
    else (named? b).map fun c => { l with mode := .string (r.push [c]) }
  | .unit r left value =>
    (hexValue? b).map fun d =>
      let value := value * 16 + d
      if left = 0 then { l with mode := .string (r.pushUnit value) }
      else { l with mode := .unit r (left - 1) value }

/-- The tokens in order, unless one of them is cut short. -/
def finish? (l : Lexer) : Option (List Token) :=
  match l.mode with
  | .between => some l.rev.reverse
  | .number part rev =>
    if part.isComplete then some (numberToken rev :: l.rev).reverse else none
  | _ => none

end Lexer

/-- The tokens of a JSON text. -/
def tokens? (bs : List UInt8) : Option (List Token) :=
  (bs.foldlM Lexer.push? .start).bind Lexer.finish?

end Json
end LeaseKeeper
