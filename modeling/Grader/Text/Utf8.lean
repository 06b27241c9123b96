/-!
Decoding of bytes as UTF-8. A fault names the bytes that cannot be part of a text and why.
-/

namespace Grader.Text.Utf8

/-- Bytes that cannot be decoded: the first position, the number of bytes, the first byte, and the
reason. -/
structure Fault where
  codec : String
  first : Nat
  count : Nat
  byte : Nat
  reason : String
  deriving Repr, DecidableEq

/-- Two hexadecimal digits. -/
def hexByte (n : Nat) : String :=
  let digit (d : Nat) : Char := Char.ofNat (if d < 10 then 48 + d else 87 + d)
  String.ofList [digit (n / 16 % 16), digit (n % 16)]

def Fault.message (f : Fault) : String :=
  if f.count = 1 then
    s!"'{f.codec}' codec can't decode byte 0x{hexByte f.byte} in position {f.first}: {f.reason}"
  else
    s!"'{f.codec}' codec can't decode bytes in position " ++
      s!"{f.first}-{f.first + f.count - 1}: {f.reason}"

/-- How a sequence goes on behind its first byte: the range of the second byte, the number of
bytes behind the first, and the bits that the first contributes. -/
def lead (b : Nat) : Option (Nat × Nat × Nat × Nat) :=
  if 0xC2 ≤ b && b ≤ 0xDF then some (0x80, 0xBF, 1, b - 0xC0)
  else if b = 0xE0 then some (0xA0, 0xBF, 2, 0)
  else if b = 0xED then some (0x80, 0x9F, 2, 0xD)
  else if 0xE1 ≤ b && b ≤ 0xEF then some (0x80, 0xBF, 2, b - 0xE0)
  else if b = 0xF0 then some (0x90, 0xBF, 3, 0)
  else if 0xF1 ≤ b && b ≤ 0xF3 then some (0x80, 0xBF, 3, b - 0xF0)
  else if b = 0xF4 then some (0x80, 0x8F, 3, 4)
  else none

/-- Reads `n` continuation bytes, the first of them in a range. The answer is the value and the
rest, or the number of good bytes and whether the bytes ran out. -/
def follow (lo hi : Nat) : Nat → Nat → List UInt8 → Except (Nat × Bool) (Nat × List UInt8)
  | 0, v, bs => .ok (v, bs)
  | _ + 1, _, [] => .error (0, true)
  | n + 1, v, b :: bs =>
    if lo ≤ b.toNat && b.toNat ≤ hi then
      (follow 0x80 0xBF n (64 * v + (b.toNat - 0x80)) bs).mapError fun (k, out) => (k + 1, out)
    else .error (0, false)

/-- Decodes bytes from a position on; the characters so far are newest first. -/
def decodeFrom (fuel pos : Nat) (acc : List Char) (bytes : List UInt8) :
    Except Fault (List Char) :=
  match fuel, bytes with
  | _, [] => .ok acc.reverse
  | 0, _ => .ok acc.reverse
  | fuel + 1, b :: bs =>
    let n := b.toNat
    if n < 0x80 then decodeFrom fuel (pos + 1) (Char.ofNat n :: acc) bs
    else match lead n with
      | none => .error ⟨"utf-8", pos, 1, n, "invalid start byte"⟩
      | some (lo, hi, k, v) =>
        match follow lo hi k v bs with
        | .ok (v, rest) => decodeFrom fuel (pos + 1 + k) (Char.ofNat v :: acc) rest
        | .error (good, out) =>
          .error ⟨"utf-8", pos, good + 1, n,
            if out then "unexpected end of data" else "invalid continuation byte"⟩

def decode (bytes : List UInt8) : Except Fault (List Char) :=
  decodeFrom bytes.length 0 [] bytes

/-- Decodes bytes, with one replacement character for each fault. -/
def decodeLossy (fuel : Nat) (acc : List Char) (bytes : List UInt8) : List Char :=
  match fuel, bytes with
  | _, [] => acc.reverse
  | 0, _ => acc.reverse
  | fuel + 1, b :: bs =>
    let n := b.toNat
    if n < 0x80 then decodeLossy fuel (Char.ofNat n :: acc) bs
    else match lead n with
      | none => decodeLossy fuel ('\uFFFD' :: acc) bs
      | some (lo, hi, k, v) =>
        match follow lo hi k v bs with
        | .ok (v, rest) => decodeLossy fuel (Char.ofNat v :: acc) rest
        | .error (good, _) => decodeLossy fuel ('\uFFFD' :: acc) (bs.drop good)

/-- The bytes of a text. -/
def encode (s : String) : List UInt8 := s.toUTF8.toList

end Grader.Text.Utf8
