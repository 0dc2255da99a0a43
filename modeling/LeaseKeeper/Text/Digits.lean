/-
# Digits

The number that a list of digits stands for, most significant digit first: the ten ASCII digits, or
the digits of a base up to sixteen.
-/

namespace LeaseKeeper
namespace Text

/-- The value of one of the ten ASCII digits. -/
def digit? (c : Char) : Option Nat :=
  if '0' ≤ c ∧ c ≤ '9' then some (c.toNat - '0'.toNat) else none

/-- The value of a list of digits that follow a number worth `acc`. -/
def digitsFrom? (acc : Nat) : List Char → Option Nat
  | [] => some acc
  | c :: rest => (digit? c).bind fun d => digitsFrom? (acc * 10 + d) rest

/-- The value of one or more digits. -/
def digits? : List Char → Option Nat
  | [] => none
  | cs => digitsFrom? 0 cs

/-- The value of one or more digits, if it fits into 64 bits. -/
def word? (cs : List Char) : Option UInt64 :=
  (digits? cs).bind fun n => if h : n < UInt64.size then some (UInt64.ofNatLT n h) else none

/-- The value of a digit in base sixteen. -/
def hexDigit? (c : Char) : Option Nat :=
  if 'a' ≤ c ∧ c ≤ 'f' then some (c.toNat - 'a'.toNat + 10)
  else if 'A' ≤ c ∧ c ≤ 'F' then some (c.toNat - 'A'.toNat + 10)
  else digit? c

/-- The value of digits in a base of at most sixteen; no digits are worth nothing. -/
def digitsIn? (base : Nat) (cs : List Char) : Option Nat :=
  cs.foldlM (fun acc c => (hexDigit? c).bind fun d =>
    if d < base then some (acc * base + d) else none) 0

/-- The value of digits in base sixteen. -/
def hexDigits? (cs : List Char) : Option Nat := digitsIn? 16 cs

@[simp] theorem digits?_nil : digits? [] = none := rfl

theorem digitsFrom?_append (acc : Nat) (a b : List Char) :
    digitsFrom? acc (a ++ b) = (digitsFrom? acc a).bind (digitsFrom? · b) := by
  induction a generalizing acc with
  | nil => rfl
  | cons c rest ih =>
    simp only [List.cons_append, digitsFrom?]
    cases digit? c with
    | none => rfl
    | some d => simpa using ih (acc * 10 + d)

end Text
end LeaseKeeper
