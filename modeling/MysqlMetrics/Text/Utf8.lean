/-!
# Text as bytes

Strict decoding refuses every ill-formed byte string. Lossy decoding agrees with it where it
succeeds, and otherwise puts U+FFFD for each maximal ill-formed part.
-/
namespace MysqlMetrics

/-- A byte string as it comes from a row or a request. -/
abbrev Bytes := List UInt8

namespace Utf8

def encode (s : String) : Bytes := s.toList.flatMap String.utf8EncodeChar

/-- The text that the bytes encode, if they are well-formed UTF-8. -/
def decode (bs : Bytes) : Option String :=
  (bs.toByteArray.utf8Decode?).map fun cs => String.ofList cs.toList

/-! ## Replacing what is ill-formed -/

/-- The bytes that may follow the lead `b`: how many, and the range of the first of them. -/
def continuation (b : UInt8) : Option (Nat × UInt8 × UInt8) :=
  if b < 0x80 then some (0, 0x80, 0xBF)
  else if b < 0xC2 then none
  else if b < 0xE0 then some (1, 0x80, 0xBF)
  else if b == 0xE0 then some (2, 0xA0, 0xBF)
  else if b == 0xED then some (2, 0x80, 0x9F)
  else if b < 0xF0 then some (2, 0x80, 0xBF)
  else if b == 0xF0 then some (3, 0x90, 0xBF)
  else if b < 0xF4 then some (3, 0x80, 0xBF)
  else if b == 0xF4 then some (3, 0x80, 0x8F)
  else none

/-- How many of the next `n` bytes continue the character, the first within `lo` to `hi`. -/
def continued : Nat → UInt8 → UInt8 → Bytes → Nat
  | 0, _, _, _ => 0
  | _ + 1, _, _, [] => 0
  | n + 1, lo, hi, b :: bs => if lo ≤ b && b ≤ hi then continued n 0x80 0xBF bs + 1 else 0

/-- The length of the first character or ill-formed part of `b :: bs`, and whether it is one. -/
def unit (b : UInt8) (bs : Bytes) : Nat × Bool :=
  match continuation b with
  | none => (1, false)
  | some (n, lo, hi) => let k := continued n lo hi bs; (k + 1, k == n)

/-- One unit after another; `skip` bytes are left of the unit read last. -/
def lossyFrom : Nat → Bytes → List Char
  | _, [] => []
  | skip + 1, _ :: bs => lossyFrom skip bs
  | 0, b :: bs =>
    let (len, ok) := unit b bs
    let text := if ok then decode ((b :: bs).take len) else none
    (text.map String.toList).getD ['\uFFFD'] ++ lossyFrom (len - 1) bs

/-- The text of the bytes, with U+FFFD for each ill-formed part. -/
def decodeLossy (bs : Bytes) : String :=
  match decode bs with
  | some s => s
  | none => String.ofList (lossyFrom 0 bs)

end Utf8
end MysqlMetrics
