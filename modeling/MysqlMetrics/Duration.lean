import MysqlMetrics.Decimal.Binary64
import MysqlMetrics.Decimal.Shortest
import MysqlMetrics.Decimal.Whole
/-!
# Spans of time

A span is a whole number of nanoseconds below `2 ^ 64` seconds. A number of seconds becomes the
nearest span, a half nanosecond going to the even neighbour.
-/
namespace MysqlMetrics

structure Duration where
  nanos : Nat
deriving DecidableEq, Repr, Inhabited

namespace Duration

def perSecond : Nat := 1000000000

def ofSeconds (n : Nat) : Duration := ⟨n * perSecond⟩

def ofMillis (n : Nat) : Duration := ⟨n * 1000000⟩

/-- The seconds as a double: the whole seconds plus the nanoseconds divided by `1e9`. -/
def toSeconds (d : Duration) : Float :=
  Decimal.ofNat (d.nanos / perSecond) +
    Decimal.ofNat (d.nanos % perSecond) / Decimal.ofNat perSecond

/-- The nanoseconds rounded up to whole milliseconds, the resolution of the timers. -/
def ceilMillis (d : Duration) : Nat := (d.nanos + 999999) / 1000000

inductive OfSecondsError where
  | negative
  | tooBig
deriving DecidableEq, Repr

def OfSecondsError.message : OfSecondsError → String
  | .negative => "cannot convert float seconds to Duration: value is negative"
  | .tooBig => "cannot convert float seconds to Duration: value is either too big or NaN"

/-- Seconds below `2 ^ 64` become nanoseconds; zero of either sign is zero. -/
def trySeconds (x : Float) : Except OfSecondsError Duration :=
  match Decimal.exactParts x with
  | .nan => .error .tooBig
  | .infinite negative => .error (if negative then .negative else .tooBig)
  | .finite negative mantissa exponent =>
    if mantissa = 0 then .ok ⟨0⟩
    else if negative then .error .negative
    else
      let (num, den) := Decimal.scaleTwo mantissa 1 (-exponent)
      if den * (Decimal.maxU64 + 1) ≤ num then .error .tooBig
      else .ok ⟨Decimal.roundHalfEven (num * perSecond) den⟩

end Duration
end MysqlMetrics
