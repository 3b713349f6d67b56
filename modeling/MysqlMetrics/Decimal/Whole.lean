/-!
# Reading whole numbers

Digits with an optional sign, read from the left. The first fault decides the error: a character
that is no digit, or a value that has left the range.
-/
namespace MysqlMetrics.Decimal

inductive WholeError where
  | empty
  | invalidDigit
  | tooLarge
  | tooSmall
deriving DecidableEq, Repr

def WholeError.message : WholeError → String
  | .empty => "cannot parse integer from empty string"
  | .invalidDigit => "invalid digit found in string"
  | .tooLarge => "number too large to fit in target type"
  | .tooSmall => "number too small to fit in target type"

/-- Reads digits onto `n`, refusing a value above `limit` with `overflow`. A digit that would
multiply `n` out of range is still looked at first. -/
def readDigits (limit : Nat) (overflow : WholeError) : Nat → List Char → Except WholeError Nat
  | n, [] => .ok n
  | n, c :: cs =>
    if !c.isDigit then .error .invalidDigit
    else
      let m := 10 * n + (c.toNat - 48)
      if m ≤ limit then readDigits limit overflow m cs else .error overflow

/-- A number from 0 to `limit`; a plus sign may stand in front. -/
def readNat (limit : Nat) (s : String) : Except WholeError Nat :=
  match s.toList with
  | [] => .error .empty
  | ['+'] => .error .invalidDigit
  | '+' :: cs => readDigits limit .tooLarge 0 cs
  | cs => readDigits limit .tooLarge 0 cs

/-- A number from `-limit - 1` to `limit`. -/
def readInt (limit : Nat) (s : String) : Except WholeError Int :=
  match s.toList with
  | [] => .error .empty
  | ['+'] => .error .invalidDigit
  | ['-'] => .error .invalidDigit
  | '+' :: cs => (readDigits limit .tooLarge 0 cs).map Int.ofNat
  | '-' :: cs => (readDigits (limit + 1) .tooSmall 0 cs).map fun n => -(n : Int)
  | cs => (readDigits limit .tooLarge 0 cs).map Int.ofNat

def maxU16 : Nat := 65535
def maxU32 : Nat := 4294967295
def maxU64 : Nat := 18446744073709551615
def maxI64 : Nat := 9223372036854775807

def readU16 (s : String) : Except WholeError Nat := readNat maxU16 s
def readU32 (s : String) : Except WholeError Nat := readNat maxU32 s
def readU64 (s : String) : Except WholeError Nat := readNat maxU64 s
def readI64 (s : String) : Except WholeError Int := readInt maxI64 s

end MysqlMetrics.Decimal
