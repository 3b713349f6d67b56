import MysqlMetrics.Decimal.Binary64
/-!
# Reading numbers

A decimal is digits with an optional point and exponent, with a digit on at least one side of the
point, or a name of infinity or of the undefined value in any letter case. Nothing may stand
before or after it but one sign. Its value is the nearest double.
-/
namespace MysqlMetrics.Decimal

def digitsValue (ds : List Char) : Nat := ds.foldl (fun n c => 10 * n + (c.toNat - 48)) 0

/-- The double nearest to `mantissa * 10 ^ exponent`. Beyond the range of doubles no digit
matters: the length of the mantissa tells before a power is computed. -/
def ofDecimal (mantissa : Nat) (exponent : Int) : Float :=
  if mantissa = 0 then ofNat 0
  else
    let top : Int := exponent + (Nat.toDigits 10 mantissa).length
    if top > 310 then infinity
    else if top < -330 then ofNat 0
    else
      match exponent with
      | .ofNat k => ofRatio (mantissa * tenTo k) 1
      | .negSucc k => ofRatio mantissa (tenTo (k + 1))

/-- An optional sign and what follows it. -/
def takeSign : List Char → Bool × List Char
  | '-' :: cs => (true, cs)
  | '+' :: cs => (false, cs)
  | cs => (false, cs)

/-- The exponent at the end of a number: nothing, or `e` with at least one digit. -/
def readExponent : List Char → Option Int
  | [] => some 0
  | c :: cs =>
    if c = 'e' || c = 'E' then
      let (negative, ds) := takeSign cs
      if ds.isEmpty || !ds.all Char.isDigit then none
      else some (if negative then -(digitsValue ds : Int) else digitsValue ds)
    else none

/-- A number without sign. -/
def readUnsigned (cs : List Char) : Option Float :=
  let whole := cs.takeWhile Char.isDigit
  let afterWhole := cs.dropWhile Char.isDigit
  let (fraction, rest) :=
    match afterWhole with
    | '.' :: ds => (ds.takeWhile Char.isDigit, ds.dropWhile Char.isDigit)
    | ds => ([], ds)
  if whole.isEmpty && fraction.isEmpty then none
  else
    (readExponent rest).map fun e =>
      ofDecimal (digitsValue (whole ++ fraction)) (e - fraction.length)

/-- The names of the values that have no digits. -/
def readName (cs : List Char) : Option Float :=
  let word := String.ofList (cs.map Char.toLower)
  if word == "inf" || word == "infinity" then some infinity
  else if word == "nan" then some nan
  else none

def readList (cs : List Char) : Option Float :=
  let (negative, body) := takeSign cs
  let value := (readName body).or (readUnsigned body)
  value.map fun x => if negative then -x else x

/-- The number that the whole text writes. -/
def read (s : String) : Option Float := readList s.toList

end MysqlMetrics.Decimal
