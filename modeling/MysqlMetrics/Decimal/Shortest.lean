import MysqlMetrics.Decimal.Binary64
/-!
# Writing doubles

The fewest digits that read back as the same double, and of those the nearest to it, a tie going
up. The notation is always positional: `1e21` is a one with twenty-one zeros.

A double stands for all reals that round to it: from half a unit below to half a unit above, the
ends included exactly when its mantissa is even. At a power of two the unit below is half as long.
-/
namespace MysqlMetrics.Decimal

/-- A positive real `value / scale` with the reals that round to it, from `value - below` to
`value + above` over the same scale. -/
structure Interval where
  value : Nat
  below : Nat
  above : Nat
  scale : Nat
  closed : Bool
deriving DecidableEq, Repr

/-- The interval of `mantissa * 2 ^ exponent`, in quarters of a unit. -/
def Interval.ofDouble (mantissa : Nat) (exponent : Int) : Interval :=
  let up := match exponent with | .ofNat k => k | .negSucc _ => 0
  let down := match exponent with | .ofNat _ => 0 | .negSucc k => k + 1
  { value := (4 * mantissa) <<< up
    below := (if mantissa = leadingUnit then 1 else 2) <<< up
    above := 2 <<< up
    scale := 4 <<< down
    closed := mantissa % 2 == 0 }

/-- The point `num / den` lies in the interval. -/
def Interval.holds (i : Interval) (num den : Nat) : Bool :=
  let low := (i.value - i.below) * den
  let high := (i.value + i.above) * den
  let point := num * i.scale
  if i.closed then low ≤ point && point ≤ high else low < point && point < high

/-- How many digits the whole number `n` has; zero has none. -/
def digitCount (n : Nat) : Nat := if n = 0 then 0 else (Nat.toDigits 10 n).length

/-- The `k` with `10 ^ (k - 1) ≤ num / den < 10 ^ k`. -/
def decimalPosition (num den : Nat) : Int :=
  if den ≤ num then digitCount (num / den)
  else 1 - (digitCount ((den + num - 1) / num - 1) : Int)

/-- The grid of the multiples of `10 ^ e` as a quotient. -/
def powerOfTen : Int → Nat × Nat
  | .ofNat k => (tenTo k, 1)
  | .negSucc k => (1, tenTo (k + 1))

/-- The neighbour of the value on the grid of `10 ^ e` that lies in the interval; of two the
nearer, and the upper one when they are equally near. -/
def Interval.onGrid (i : Interval) (e : Int) : Option Nat :=
  let (num, den) := powerOfTen e
  let low := i.value * den / (i.scale * num)
  let lowHolds := i.holds (low * num) den
  let highHolds := i.holds ((low + 1) * num) den
  if highHolds && (!lowHolds || 2 * i.value * den ≥ (2 * low + 1) * (i.scale * num)) then
    some (low + 1)
  else if lowHolds then some low
  else none

/-- The first grid with a hit, from `digits` digits on; seventeen always suffice. -/
def Interval.shortestFrom (i : Interval) (position : Int) : Nat → Nat → Nat × Int
  | 0, digits => ((i.onGrid (position - digits)).getD 0, position - digits)
  | fuel + 1, digits =>
    match i.onGrid (position - digits) with
    | some c => (c, position - digits)
    | none => i.shortestFrom position fuel (digits + 1)

/-- The digits `c` and the exponent `e` of the shortest decimal `c * 10 ^ e` in the interval. -/
def Interval.shortest (i : Interval) : Nat × Int :=
  i.shortestFrom (decimalPosition i.value i.scale) 16 1

/-- `c * 10 ^ e` in positional notation. -/
def positional (c : Nat) (e : Int) : List Char :=
  let digits := Nat.toDigits 10 c
  match e with
  | .ofNat k => digits ++ List.replicate k '0'
  | .negSucc k =>
    let places := k + 1
    let padded := List.replicate (places + 1 - digits.length) '0' ++ digits
    let whole := padded.take (padded.length - places)
    let fraction := padded.drop (padded.length - places)
    let fraction := (fraction.reverse.dropWhile (· == '0')).reverse
    if fraction.isEmpty then whole else whole ++ '.' :: fraction

/-- A double as text: `NaN`, `inf`, or the shortest decimal, with the sign in front. -/
def write (x : Float) : String :=
  match exactParts x with
  | .nan => "NaN"
  | .infinite negative => if negative then "-inf" else "inf"
  | .finite negative mantissa exponent =>
    let body :=
      if mantissa = 0 then ['0']
      else let (c, e) := (Interval.ofDouble mantissa exponent).shortest; positional c e
    String.ofList (if negative then '-' :: body else body)

end MysqlMetrics.Decimal
