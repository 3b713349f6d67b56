import MysqlMetrics.Text.Utf8
/-!
# Base 64

Bytes in characters of six bits each, highest bits first. A text is read only in its one written
form: the bits of its last character that belong to no byte are zero.
-/
namespace MysqlMetrics.Base64

/-- The characters of the digits from 0 to 63. -/
def standardAlphabet : List Char :=
  "ABCDEFGHIJKLMNOPQRSTUVWXYZabcdefghijklmnopqrstuvwxyz0123456789+/".toList

def digits? (alphabet text : List Char) : Option (List Nat) := text.mapM alphabet.idxOf?

/-- The bytes of digits without padding: four digits hold three bytes. -/
def bytes? : List Nat → Option Bytes
  | [] => some []
  | a :: b :: c :: d :: rest =>
    (bytes? rest).map fun bs =>
      (a * 4 + b / 16).toUInt8 :: (b % 16 * 16 + c / 4).toUInt8 :: (c % 4 * 64 + d).toUInt8 :: bs
  | [a, b, c] =>
    if c % 4 = 0 then some [(a * 4 + b / 16).toUInt8, (b % 16 * 16 + c / 4).toUInt8] else none
  | [a, b] => if b % 16 = 0 then some [(a * 4 + b / 16).toUInt8] else none
  | [_] => none

/-- Reads a text without padding. -/
def decodeBare (alphabet : List Char) (s : String) : Option Bytes :=
  (digits? alphabet s.toList).bind bytes?

/-- Reads a text of the standard alphabet, padded to a multiple of four characters. -/
def decode (s : String) : Option Bytes :=
  let cs := s.toList
  let padding := (cs.reverse.takeWhile (· == '=')).length
  if cs.length % 4 = 0 ∧ padding ≤ 2 then
    (digits? standardAlphabet (cs.take (cs.length - padding))).bind bytes?
  else none

end MysqlMetrics.Base64
