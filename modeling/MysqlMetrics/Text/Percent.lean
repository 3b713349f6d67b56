import MysqlMetrics.Text.Split
import MysqlMetrics.Text.Utf8
/-!
# Percent encoding

A percent sign with two hexadecimal digits stands for a byte; without them it stands for itself.
In a form a plus sign stands for a blank, and pairs are divided by ampersands.
-/
namespace MysqlMetrics.Percent

/-- The value of a hexadecimal digit. -/
def hexValue (b : UInt8) : Option UInt8 :=
  if 0x30 ≤ b && b ≤ 0x39 then some (b - 0x30)
  else if 0x41 ≤ b && b ≤ 0x46 then some (b - 0x37)
  else if 0x61 ≤ b && b ≤ 0x66 then some (b - 0x57)
  else none

/-- The bytes that the escapes and the other bytes stand for. -/
def decodeBytes : Bytes → Bytes
  | 0x25 :: a :: b :: rest =>
    match hexValue a, hexValue b with
    | some x, some y => (16 * x + y) :: decodeBytes rest
    | _, _ => 0x25 :: decodeBytes (a :: b :: rest)
  | b :: rest => b :: decodeBytes rest
  | [] => []

/-- The text behind the escapes, if it is well-formed. -/
def decode (s : String) : Option String := Utf8.decode (decodeBytes (Utf8.encode s))

/-! ## Forms -/

/-- One key or value of a form, bytes that are no text replaced. -/
def formText (bs : Bytes) : String :=
  Utf8.decodeLossy (decodeBytes (bs.map fun b => if b == 0x2B then 0x20 else b))

def splitBytes (sep : UInt8) : Bytes → List Bytes
  | [] => [[]]
  | b :: bs =>
    match splitBytes sep bs with
    | [] => [[b]]
    | piece :: pieces => if b == sep then [] :: piece :: pieces else (b :: piece) :: pieces

/-- The key and the value of a pair; without an equals sign the value is empty. -/
def formPair (bs : Bytes) : String × String :=
  (formText (bs.takeWhile (· != 0x3D)), formText ((bs.dropWhile (· != 0x3D)).drop 1))

/-- The pairs of a form in order; empty ones are left out. -/
def formPairs (s : String) : List (String × String) :=
  ((splitBytes 0x26 (Utf8.encode s)).filter fun bs => !bs.isEmpty).map formPair

end MysqlMetrics.Percent
