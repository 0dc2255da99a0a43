/-
# Answers on the wire

An answer begins with a status line and headers, each on a line of its own, up to an empty line.
Answers that only announce another one are skipped.  The headers say where the body ends: with the
last chunk, after a number of bytes, or with the connection.  A body that ends early is cut short; a
head that is not of this form, or that has too many headers, is no answer at all.  The lines between
chunks are read more strictly than those of the head: each of them ends with both line end
characters.
-/
import LeaseKeeper.Http.Message
import LeaseKeeper.Text.Blank

namespace LeaseKeeper
namespace Http
namespace Wire

/-- The first line without its end, and what follows it; none if no line ends. -/
def line? : List UInt8 → Option (List UInt8 × List UInt8)
  | [] => none
  | b :: rest =>
    if b = 10 then some ([], rest)
    else if b = 13 ∧ rest.head? = some 10 then some ([], rest.tail)
    else (line? rest).map fun (line, after) => (b :: line, after)

/-- What is left of a list after a line is shorter. -/
theorem length_lt_of_line? {bs line after : List UInt8} (h : line? bs = some (line, after)) :
    after.length < bs.length := by
  induction bs generalizing line with
  | nil => simp [line?] at h
  | cons b rest ih =>
    unfold line? at h
    split at h
    · simp at h
      simp [← h.2]
    · split at h
      · simp only [Option.some.injEq, Prod.mk.injEq] at h
        obtain ⟨-, rfl⟩ := h
        simp only [List.length_cons, List.length_tail]
        omega
      · simp only [Option.map_eq_some_iff, Prod.mk.injEq, Prod.exists] at h
        obtain ⟨l, a, hl, -, rfl⟩ := h
        have := ih hl
        simp
        omega

/-- Whether a byte may stand in a header value or a reason. -/
def isTextByte (b : UInt8) : Bool := (0x20 ≤ b.toNat && b.toNat != 0x7f) || b.toNat == 9

/-- Whether a byte may stand in the name of a header. -/
def isNameByte (b : UInt8) : Bool :=
  let c := Char.ofNat b.toNat
  b.toNat < 0x80 && (c.isAlphanum || "!#$%&'*+-.^_|~".toList.contains c || b.toNat == 0x60)

/-- Whether a byte is a space or a tab. -/
def isGap (b : UInt8) : Bool := b == 0x20 || b == 9

/-- The text of ASCII bytes. -/
def ascii (bs : List UInt8) : String := String.ofList (bs.map fun b => Char.ofNat b.toNat)

/-- The head of an answer. -/
structure Head where
  /-- Whether the answer is of the older version, which has no chunks. -/
  isOld : Bool
  /-- The status. -/
  status : Nat
  /-- The headers in order, their names in lower case. -/
  headers : List (String × List UInt8)

/-- Version and status of a status line. -/
def statusLine? (line : List UInt8) : Option (Bool × Nat) :=
  match line.map fun b => Char.ofNat b.toNat with
  | 'H' :: 'T' :: 'T' :: 'P' :: '/' :: '1' :: '.' :: v :: ' ' :: a :: b :: c :: reason =>
    if (v == '0' || v == '1') && (reason.isEmpty || reason.head? == some ' ')
        && (line.drop 12).all isTextByte then
      (Text.digits? [a, b, c]).map fun status => (v == '0', status)
    else none
  | _ => none

/-- The length that the name of a header does not reach. -/
def nameLimit : Nat := 65536

/-- The name and the value of a header line. -/
def header? (line : List UInt8) : Option (String × List UInt8) :=
  let name := line.takeWhile isNameByte
  match line.dropWhile isNameByte with
  | 0x3a :: rest =>
    let value := Text.trimBoth isGap rest
    if name.isEmpty || nameLimit ≤ name.length || !value.all isTextByte then none
    else some (String.ofList ((ascii name).toList.map Char.toLower), value)
  | _ => none

/-- The headers up to an empty line, and what follows it. -/
def headers? (bs : List UInt8) : Option (List (String × List UInt8) × List UInt8) :=
  match h : line? bs with
  | none => none
  | some ([], after) => some ([], after)
  | some (line, after) =>
    have : after.length < bs.length := length_lt_of_line? h
    (header? line).bind fun header =>
      (headers? after).map fun (headers, body) => (header :: headers, body)
termination_by bs.length

/-- Bytes without the empty lines before them; none if half of a line end stands there. -/
def skipEmptyLines? : List UInt8 → Option (List UInt8)
  | 10 :: rest => skipEmptyLines? rest
  | 13 :: 10 :: rest => skipEmptyLines? rest
  | 13 :: _ => none
  | bs => some bs

/-- How many headers a head may have. -/
def mostHeaders : Nat := 100

/-- A head, and what follows it. -/
def head? (bs : List UInt8) : Option (Head × List UInt8) := do
  let (line, rest) ← line? (← skipEmptyLines? bs)
  let (isOld, status) ← statusLine? line
  let (headers, body) ← headers? rest
  if headers.length ≤ mostHeaders then return (⟨isOld, status, headers⟩, body) else none

/-- The values of a header. -/
def Head.values (h : Head) (name : String) : List (List UInt8) :=
  (h.headers.filter (·.1 = name)).map (·.2)

/-- How long a body is. -/
inductive Extent
  /-- It comes in chunks. -/
  | chunks
  /-- It has so many bytes. -/
  | length (n : Nat)
  /-- It ends with the connection. -/
  | open_

/-- The greatest length of a body; two numbers of 64 bits have a meaning of their own. -/
def greatestLength : Nat := 18446744073709551613

/-- The length that all values agree on; a value may repeat it after commas. -/
def length? (values : List (List UInt8)) : Option Nat := do
  let parts := values.flatMap fun v => Text.splitOn (· == 0x2c) v
  let numbers ← parts.mapM fun p => Text.word? (ascii (Text.trimBoth isGap p)).toList
  match numbers with
  | [] => none
  | n :: rest => if rest.all (· == n) && n.toNat ≤ greatestLength then some n.toNat else none

/-- Whether the last coding is the one in chunks; nothing is made of a value outside ASCII. -/
def isChunked (values : List (List UInt8)) : Bool :=
  match values.getLast? with
  | none => false
  | some value =>
    let last := (Text.splitOn (· == 0x2c) value).getLastD []
    value.all (·.toNat < 0x80) && (ascii (Text.trimBoth isGap last)).toLower == "chunked"

/-- How long the body after a head is; none if the head contradicts itself. -/
def Head.extent? (h : Head) : Option Extent :=
  match h.values "transfer-encoding", h.values "content-length" with
  | [], [] => some .open_
  | [], lengths => (length? lengths).map .length
  | codings, _ => if h.isOld then none else some (if isChunked codings then .chunks else .open_)

/-- Bytes up to a carriage return, and what follows the line feed after it. -/
def strictLine? (bs : List UInt8) : Option (List UInt8 × List UInt8) :=
  match bs.dropWhile (· ≠ 13) with
  | 13 :: 10 :: rest => some (bs.takeWhile (· ≠ 13), rest)
  | _ => none

/-- Whether a byte is a digit in base sixteen. -/
def isHexByte (b : UInt8) : Bool := (Text.hexDigit? (Char.ofNat b.toNat)).isSome

/-- The size at the beginning of a chunk's line, and the length of the remark after it. -/
def chunkSize? (line : List UInt8) : Option (Nat × Nat) := do
  let digits := line.takeWhile isHexByte
  let size ← Text.hexDigits? (ascii digits).toList
  if digits.isEmpty || UInt64.size ≤ size then none
  else
    match (line.dropWhile isHexByte).dropWhile isGap with
    | [] => return (size, 0)
    | 0x3b :: remark => if remark.contains 10 then none else return (size, remark.length)
    | _ => none

/-- The length that neither the remarks nor the trailer of a body reach. -/
def remarkLimit : Nat := 16384

/-- The lines of a trailer up to an empty one, in at most `fuel` lines. -/
def trailer? : Nat → List UInt8 → Option (List (List UInt8))
  | 0, _ => none
  | fuel + 1, bs =>
    (strictLine? bs).bind fun (line, rest) =>
      if line.isEmpty then some [] else (trailer? fuel rest).map (line :: ·)

/-- Whether the lines of a trailer are headers, not more of them than lines. -/
def isTrailer (lines : List (List UInt8)) : Bool :=
  let bytes := lines.flatMap (· ++ [13, 10]) ++ [13, 10]
  lines.isEmpty || (lines.length < mostHeaders && bytes.length < remarkLimit
    && (headers? bytes).any fun (headers, _) => headers.length ≤ lines.length)

/-- The bytes of all chunks, in at most `fuel` of them, after remarks of the length `remarks`. -/
def chunks? : Nat → Nat → List UInt8 → Option (List UInt8)
  | 0, _, _ => none
  | fuel + 1, remarks, bs => do
    let (line, rest) ← strictLine? bs
    let (size, remark) ← chunkSize? line
    let remarks := remarks + remark
    if remarkLimit ≤ remarks then none
    else if size = 0 then
      -- The chunk without bytes is the last one, and the trailer follows it.
      if isTrailer (← trailer? (rest.length + 1) rest) then return [] else none
    else if rest.length < size then none
    else
      match rest.drop size with
      | 13 :: 10 :: after => return rest.take size ++ (← chunks? fuel remarks after)
      | _ => none

/-- The body of a given extent; none if it is cut short. -/
def body? (bs : List UInt8) : Extent → Option (List UInt8)
  | .chunks => chunks? (bs.length + 1) 0 bs
  | .length n => if bs.length < n then none else some (bs.take n)
  | .open_ => some bs

/-- The final answer that bytes are, in at most `fuel` heads. -/
def response? : Nat → List UInt8 → Option Response
  | 0, _ => none
  | fuel + 1, bs => do
    let (head, rest) ← head? bs
    if head.status < 100 then none
    else if !isFinalStatus head.status then response? fuel rest
    else
      let location := (head.values "location").head?.bind Text.ofBytes?
      if isBodiless head.status then return ⟨head.status, location, some []⟩
      else
        let extent ← head.extent?
        return ⟨head.status, location, body? rest extent⟩

end Wire

/-- The bytes that a server sends. -/
def Reply.sent : Reply → List UInt8
  | .answer status location body missing =>
    Text.bytes ("HTTP/1.1 " ++ toString status ++ " \r\ncontent-length: "
      ++ toString (body.length + missing) ++ "\r\n"
      ++ (match location with
        | none => ""
        | some reference => "location: " ++ reference ++ "\r\n") ++ "\r\n") ++ body
  | .closed => []
  | .bytes sent => sent

/-- What a client sees of a reply; none if there is no readable answer. -/
def Reply.response? (r : Reply) : Option Response := Wire.response? (r.sent.length + 1) r.sent

end Http
end LeaseKeeper
