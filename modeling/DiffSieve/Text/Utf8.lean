import DiffSieve.Number.Decimal

/-!
# UTF-8

Bytes are read as the shortest encodings of code points that are no surrogates, and nothing
else.  The first ill-formed place is reported with the bytes it covers: the first byte of a
character together with the continuation bytes that were still possible.

A stream is read in parts.  The bytes at the end of a part that may still become a character
are held back and put before the next part, so a fault is located within the part it was found
in, counted from the first byte that was held back.
-/

namespace DiffSieve.Text.Utf8

/-- The bytes that encode a text. -/
def encode (text : Text) : List UInt8 :=
  (String.ofList text).toUTF8.toList

/-- What is wrong with an ill-formed sequence. -/
inductive Reason where
  | invalidStart
  | invalidContinuation
  | unexpectedEnd
  deriving DecidableEq

/-- The wording of a reason. -/
def Reason.message : Reason → Text
  | invalidStart => "invalid start byte".toList
  | invalidContinuation => "invalid continuation byte".toList
  | unexpectedEnd => "unexpected end of data".toList

/-- An ill-formed sequence: its first byte, the place of that byte, the number of bytes covered
and what is wrong. -/
structure Malformed where
  first : UInt8
  position : Nat
  size : Nat
  reason : Reason
  deriving DecidableEq

/-- The message for an ill-formed sequence. -/
def Malformed.message (m : Malformed) : Text :=
  "'utf-8' codec can't decode ".toList ++
    (if m.size = 1 then
      "byte 0x".toList ++ Number.hexadecimal 2 m.first.toNat ++
        " in position ".toList ++ Number.ofNat m.position
    else
      "bytes in position ".toList ++ Number.ofNat m.position ++ '-' ::
        Number.ofNat (m.position + m.size - 1)) ++
    ": ".toList ++ m.reason.message

/-- What the first byte of a character says: the bits it contributes, the number of continuation
bytes, and the range of the first of them. -/
structure Opening where
  bits : Nat
  tails : Nat
  low : Nat
  high : Nat

/-- The least and the greatest continuation byte. -/
def tailRange : Nat × Nat := (0x80, 0xBF)

/-- The opening that a byte is, unless no character starts with it.  The narrowed ranges leave
out longer encodings than needed, surrogates and what lies beyond the last code point. -/
def opening? (byte : Nat) : Option Opening :=
  if byte < 0x80 then some ⟨byte, 0, tailRange.1, tailRange.2⟩
  else if byte < 0xC2 then none
  else if byte < 0xE0 then some ⟨byte - 0xC0, 1, tailRange.1, tailRange.2⟩
  else if byte < 0xF0 then
    some ⟨byte - 0xE0, 2, if byte = 0xE0 then 0xA0 else tailRange.1,
      if byte = 0xED then 0x9F else tailRange.2⟩
  else if byte < 0xF5 then
    some ⟨byte - 0xF0, 3, if byte = 0xF0 then 0x90 else tailRange.1,
      if byte = 0xF4 then 0x8F else tailRange.2⟩
  else none

/-- Reads `n` continuation bytes, the first of them between `low` and `high`, into the code point
begun in `bits`.  A fault comes with the number of bytes that were read. -/
def readTails (low high bits read : Nat) : (n : Nat) → List UInt8 → Except (Reason × Nat) Nat
  | 0, _ => .ok bits
  | _ + 1, [] => .error (.unexpectedEnd, read)
  | n + 1, byte :: rest =>
    if low ≤ byte.toNat && byte.toNat ≤ high then
      readTails tailRange.1 tailRange.2 (bits * 64 + (byte.toNat - 0x80)) (read + 1) n rest
    else .error (.invalidContinuation, read)

/-- The character that opens the bytes, and the number of its continuation bytes.  A fault comes
with the number of bytes it covers. -/
def readChar (byte : UInt8) (rest : List UInt8) : Except (Reason × Nat) (Char × Nat) :=
  match opening? byte.toNat with
  | none => .error (.invalidStart, 1)
  | some o => (readTails o.low o.high o.bits 1 o.tails rest).map fun n => (Char.ofNat n, o.tails)

/-- How far reading came: the characters read, newest first, the bytes that are left, and the
fault they open with, if any are left. -/
structure Progress where
  decoded : Text
  left : List UInt8
  fault : Option Malformed

/-- Reads characters up to the first fault. -/
def readFrom (position : Nat) (decoded : Text) : List UInt8 → Progress
  | [] => ⟨decoded, [], none⟩
  | byte :: rest =>
    match readChar byte rest with
    | .ok (c, tails) => readFrom (position + tails + 1) (c :: decoded) (rest.drop tails)
    | .error (reason, size) => ⟨decoded, byte :: rest, some ⟨byte, position, size, reason⟩⟩
termination_by bytes => bytes.length
decreasing_by simp only [List.length_cons, List.length_drop]; omega

/-- The text that the bytes encode. -/
def decode (bytes : List UInt8) : Except Malformed Text :=
  let progress := readFrom 0 [] bytes
  match progress.fault with
  | none => .ok progress.decoded.reverse
  | some fault => .error fault

/-- Whether the bytes left over at the end of a part may still become a character, as far as
they are looked at then: a lone surrogate is not told from a cut one before its third byte. -/
def isUnfinished (left : List UInt8) (fault : Malformed) : Bool :=
  fault.reason = .unexpectedEnd ||
    match left with
    | [first, second] => first = 0xED && 0xA0 ≤ second.toNat && second.toNat ≤ 0xBF
    | _ => false

/-- Reads a stream part by part, with the characters read and the bytes held back so far. -/
def decodeFrom (decoded : Text) (held : List UInt8) : List (List UInt8) → Except Malformed Text
  | [] => (decode held).map (decoded ++ ·)
  | part :: later =>
    let progress := readFrom 0 [] (held ++ part)
    match progress.fault with
    | none => decodeFrom (decoded ++ progress.decoded.reverse) [] later
    | some fault =>
      if isUnfinished progress.left fault then
        decodeFrom (decoded ++ progress.decoded.reverse) progress.left later
      else .error fault

/-- The parts of a stream, of `size + 1` bytes each but the last. -/
def parts (size : Nat) : List UInt8 → List (List UInt8)
  | [] => []
  | byte :: rest => (byte :: rest.take size) :: parts size (rest.drop size)
termination_by bytes => bytes.length
decreasing_by simp only [List.length_cons, List.length_drop]; omega

/-- The text that a stream encodes, read in parts of 8192 bytes. -/
def decodeStream (bytes : List UInt8) : Except Malformed Text :=
  decodeFrom [] [] (parts 8191 bytes)

end DiffSieve.Text.Utf8
