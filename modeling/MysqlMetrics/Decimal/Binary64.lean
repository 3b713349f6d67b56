/-!
# Doubles as exact quantities

A finite double is a whole number times a power of two. `exactParts` reads the two off, and
`ofRatio` is the double nearest to a quotient of whole numbers, a tie going to the even neighbour.
-/
namespace MysqlMetrics.Decimal

/-- A power of ten. -/
def tenTo (k : Nat) : Nat := Nat.pow 10 k

/-- The quotient rounded to the nearest whole number, a half to the even one. -/
def roundHalfEven (num den : Nat) : Nat :=
  let q := num / den
  let twice := 2 * (num % den)
  if twice < den || (twice == den && q % 2 == 0) then q else q + 1

/-- `num / den` at the scale `2 ^ e`: the two numbers whose quotient is `num / (den * 2 ^ e)`. -/
def scaleTwo (num den : Nat) (e : Int) : Nat × Nat :=
  match e with
  | .ofNat k => (num, den <<< k)
  | .negSucc k => (num <<< (k + 1), den)

/-- The largest `e` with `2 ^ e ≤ num / den`. -/
def floorLog2 (num den : Nat) : Int :=
  let e : Int := (num.log2 : Int) - den.log2
  let (n, d) := scaleTwo num den e
  if d ≤ n then e else e - 1

/-- The bits of infinity. -/
def infinityBits : Nat := 0x7FF <<< 52

/-- The bits of the double nearest to `num / den`: the whole number of units of the last place,
counted from zero through the subnormals, which is how the bit patterns are ordered. -/
def nearestBits (num den : Nat) : Nat :=
  if num = 0 then 0
  else
    let e := max (floorLog2 num den - 52) (-1074)
    let (n, d) := scaleTwo num den e
    min ((e + 1074).toNat <<< 52 + roundHalfEven n d) infinityBits

def ofRatio (num den : Nat) : Float := Float.ofBits (nearestBits num den).toUInt64

/-- The double nearest to a whole number. -/
def ofNat (n : Nat) : Float := ofRatio n 1

def ofInt : Int → Float
  | .ofNat n => ofNat n
  | .negSucc n => -ofNat (n + 1)

/-! ## Taking a double apart -/

inductive Parts where
  | nan
  | infinite (negative : Bool)
  /-- `mantissa * 2 ^ exponent`, with the sign apart: zero has one too. -/
  | finite (negative : Bool) (mantissa : Nat) (exponent : Int)
deriving DecidableEq, Repr

/-- The smallest mantissa of a normal double. -/
def leadingUnit : Nat := 1 <<< 52

def exactParts (x : Float) : Parts :=
  let bits := x.toBits.toNat
  let negative := bits >>> 63 == 1
  let biased := bits >>> 52 % 2048
  let fraction := bits % leadingUnit
  if biased = 2047 then if fraction = 0 then .infinite negative else .nan
  else if biased = 0 then .finite negative fraction (-1074)
  else .finite negative (fraction + leadingUnit) ((biased : Int) - 1075)

def infinity : Float := Float.ofBits 0x7FF0000000000000

def nan : Float := Float.ofBits 0x7FF8000000000000

end MysqlMetrics.Decimal
