/-
# Labels in ASCII

A label with other characters is written in ASCII: first its ASCII characters, and a hyphen if there
are any; then, for each of the others in the order of their code points, how far it is from the one
before, counted over all code points and places.  A distance is written least digit first, in digits
of base 36; below a threshold a digit is the last one.  The thresholds follow the sizes of the
distances so far.
-/

namespace LeaseKeeper
namespace Domain
namespace Punycode

/-- The letter or figure of a digit. -/
def ofDigit (d : Nat) : Char := Char.ofNat (if d < 26 then 0x61 + d else 0x30 + (d - 26))

/-- The digit that a lower-case letter or a figure is. -/
def digit? (c : Char) : Option Nat :=
  if 'a' ≤ c ∧ c ≤ 'z' then some (c.toNat - 0x61)
  else if '0' ≤ c ∧ c ≤ '9' then some (c.toNat - 0x30 + 26)
  else none

/-- The threshold at the place with weight `36 ^ i`, where `k` is `36 * (i + 1)`. -/
def threshold (bias k : Nat) : Nat := min 26 (max 1 (k - bias))

theorem one_le_threshold (bias k : Nat) : 1 ≤ threshold bias k := by
  unfold threshold; omega

/-- Divides a distance until it is small; the second number counts the divisions in steps of 36. -/
def shrink (delta k : Nat) : Nat × Nat :=
  if 455 < delta then shrink (delta / 35) (k + 36) else (delta, k)
termination_by delta
decreasing_by omega

/-- The bias after a distance, when `count` characters have been placed. -/
def adapt (delta count : Nat) (isFirst : Bool) : Nat :=
  let damped := if isFirst then delta / 700 else delta / 2
  let (small, k) := shrink (damped + damped / count) 0
  k + 36 * small / (small + 38)

/-- The digits of a distance from the place `k` on. -/
def distance (bias k q : Nat) : List Char :=
  let t := threshold bias k
  if q < t then [ofDigit q]
  else ofDigit (t + (q - t) % (36 - t)) :: distance bias (k + 36) ((q - t) / (36 - t))
termination_by q
decreasing_by
  have h := one_le_threshold bias k
  calc (q - threshold bias k) / (36 - threshold bias k)
      ≤ q - threshold bias k := Nat.div_le_self _ _
    _ < q := by omega

/-- A label on its way into ASCII. -/
structure Writer where
  /-- The distances that have been written. -/
  written : List Char
  /-- How far the next character is from the last one that was placed. -/
  delta : Nat
  /-- The bias of the thresholds. -/
  bias : Nat
  /-- How many characters have been placed. -/
  count : Nat

/-- Passes a place of the label, where all code points below `n` have been placed; `basic` is the
number of ASCII characters. -/
def Writer.pass (basic n : Nat) (w : Writer) (c : Char) : Writer :=
  if c.toNat < n then { w with delta := w.delta + 1 }
  else if c.toNat = n then
    ⟨w.written ++ distance w.bias 36 w.delta, 0,
      adapt w.delta (w.count + 1) (w.count == basic), w.count + 1⟩
  else w

/-- Places the code points of a list in turn, where those below `n` have been placed. -/
def Writer.place (label : List Char) (basic : Nat) (w : Writer) (n : Nat) : List Nat → Writer
  | [] => w
  | m :: rest =>
    let w := { w with delta := w.delta + (m - n) * (w.count + 1) }
    let w := label.foldl (Writer.pass basic m) w
    Writer.place label basic { w with delta := w.delta + 1 } (m + 1) rest

/-- The code points outside ASCII of a label, in order, each of them once. -/
def foreign (label : List Char) : List Nat :=
  ((label.map Char.toNat).filter (0x80 ≤ ·)).mergeSort.foldr (fun n ns =>
    if ns.head? = some n then ns else n :: ns) []

/-- A label in ASCII. -/
def encode (label : List Char) : List Char :=
  let basic := label.filter (·.toNat < 0x80)
  let w := Writer.place label basic.length ⟨[], 0, 72, basic.length⟩ 0x80 (foreign label)
  (if basic.isEmpty then [] else basic ++ ['-']) ++ w.written

/-- The distance that stands at the beginning of a text, added to `sum`, and what follows it. -/
def distance? (bias : Nat) : List Char → Nat → Nat → Nat → Option (Nat × List Char)
  | [], _, _, _ => none
  | c :: rest, k, weight, sum =>
    (digit? c).bind fun d =>
      let t := threshold bias k
      if d < t then some (sum + d * weight, rest)
      else distance? bias rest (k + 36) (weight * (36 - t)) (sum + d * weight)

theorem length_lt_of_distance? {bias k weight sum : Nat} {cs rest : List Char} {n : Nat}
    (h : distance? bias cs k weight sum = some (n, rest)) : rest.length < cs.length := by
  induction cs generalizing k weight sum with
  | nil => simp [distance?] at h
  | cons c cs ih =>
    simp only [distance?, Option.bind_eq_some_iff] at h
    obtain ⟨d, -, h⟩ := h
    split at h
    · simp only [Option.some.injEq, Prod.mk.injEq] at h
      simp [← h.2]
    · have := ih h
      simp only [List.length_cons]
      omega

/-- The greatest code point. -/
def greatest : Nat := 0x10ffff

/-- Puts the characters whose distances follow into a label, where `n` and `i` are code point and
place of the last one. -/
def fill (cs : List Char) (label : List Char) (n i bias : Nat) (isFirst : Bool) :
    Option (List Char) :=
  if cs.isEmpty then some label
  else
    match h : distance? bias cs 36 1 i with
    | none => none
    | some (j, rest) =>
      have : rest.length < cs.length := length_lt_of_distance? h
      let count := label.length + 1
      let m := n + j / count
      if greatest < m ∨ (0xd800 ≤ m ∧ m < 0xe000) then none
      else
        fill rest (label.take (j % count) ++ Char.ofNat m :: label.drop (j % count)) m
          (j % count + 1) (adapt (j - i) count isFirst) false
termination_by cs.length

/-- The label that a text in ASCII stands for, if it stands for one.  A hyphen in front of all
divides nothing. -/
def decode? (cs : List Char) : Option (List Char) :=
  let rev := cs.reverse
  let tail := rev.takeWhile (· != '-')
  let basic := (rev.drop (tail.length + 1)).reverse
  if basic.any (0x80 ≤ ·.toNat) then none
  else fill (if basic.isEmpty then cs else tail.reverse) basic 0x80 0 72 true

example : encode "bücher".toList = "bcher-kva".toList := by cbv
example : decode? "bcher-kva".toList = some "bücher".toList := by cbv
example : decode? "-zca".toList = none := by cbv

end Punycode
end Domain
end LeaseKeeper
