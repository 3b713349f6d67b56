import MysqlMetrics.Decimal.Whole
import MysqlMetrics.Text.Percent
/-!
# Addresses

IPv6 addresses are eight groups of up to four hexadecimal digits. Once, two colons stand for one or
more groups of zero, and the last two groups may be written as an IPv4 address. They are printed
with the first longest run of at least two zero groups left out.
-/
namespace MysqlMetrics.Address

/-- A number from 0 to 255 without needless zeros. -/
def octet? (cs : List Char) : Option Nat :=
  if cs.isEmpty || cs.length > 3 || !cs.all Char.isDigit ||
    (cs.length > 1 && cs.head? == some '0') then none
  else
    let n := cs.foldl (fun n c => 10 * n + (c.toNat - 48)) 0
    if n ≤ 255 then some n else none

/-- The four numbers of a dotted address. -/
def ipv4? (cs : List Char) : Option (List Nat) :=
  let parts := Text.splitList (· == '.') cs
  if parts.length = 4 then parts.mapM octet? else none

def hexDigit? (c : Char) : Option Nat :=
  if c.isDigit then some (c.toNat - 48)
  else if 'a' ≤ c && c ≤ 'f' then some (c.toNat - 87)
  else if 'A' ≤ c && c ≤ 'F' then some (c.toNat - 55)
  else none

/-- One group of an IPv6 address. -/
def group? (cs : List Char) : Option Nat :=
  if cs.isEmpty || cs.length > 4 then none
  else (cs.mapM hexDigit?).map fun ds => ds.foldl (fun n d => 16 * n + d) 0

/-- The groups between colons; the last may be a dotted address, which is two groups. -/
def groups? : List (List Char) → Option (List Nat)
  | [] => some []
  | [piece] =>
    match ipv4? piece with
    | some [a, b, c, d] => some [256 * a + b, 256 * c + d]
    | _ => (group? piece).map fun g => [g]
  | piece :: rest =>
    match group? piece, groups? rest with
    | some g, some gs => some (g :: gs)
    | _, _ => none

/-- What stands before and after the first two colons in a row. -/
def cutGap : List Char → Option (List Char × List Char)
  | ':' :: ':' :: rest => some ([], rest)
  | c :: rest => (cutGap rest).map fun (before, after) => (c :: before, after)
  | [] => none

/-- The groups of a text, which may be empty. -/
def side? (cs : List Char) : Option (List Nat) :=
  if cs.isEmpty then some [] else groups? (Text.splitList (· == ':') cs)

/-- The eight groups of an IPv6 address. -/
def ipv6? (cs : List Char) : Option (List Nat) :=
  match cutGap cs with
  | none =>
    match side? cs with
    | some gs => if gs.length = 8 then some gs else none
    | none => none
  | some (before, after) =>
    match side? before, side? after with
    | some front, some back =>
      if before.contains '.' || front.length + back.length > 7 then none
      else some (front ++ List.replicate (8 - front.length - back.length) 0 ++ back)
    | _, _ => none

/-! ## Printing -/

/-- The length of the run of zeros at the start. -/
def zeroRun (gs : List Nat) : Nat := (gs.takeWhile (· == 0)).length

/-- Position and length of the first longest run of zeros. -/
def longestRun : Nat → List Nat → Nat × Nat
  | _, [] => (0, 0)
  | i, g :: gs =>
    let here := zeroRun (g :: gs)
    let (j, later) := longestRun (i + 1) gs
    if here ≥ later then (i, here) else (j, later)

def colons (gs : List Nat) : String :=
  ":".intercalate (gs.map fun g => String.ofList (Nat.toDigits 16 g))

/-- The address in brackets. -/
def ipv6Text (gs : List Nat) : String :=
  let (start, len) := longestRun 0 gs
  let body :=
    if len < 2 then colons gs else colons (gs.take start) ++ "::" ++ colons (gs.drop (start + len))
  "[" ++ body ++ "]"

/-! ## Numbers as addresses -/

/-- A part of a dotted address in decimal, octal after `0` or hexadecimal after `0x`. -/
def part? (cs : List Char) : Option Nat :=
  match cs with
  | [] => none
  | '0' :: 'x' :: ds => if ds.isEmpty then some 0 else digitsIn 16 ds
  | '0' :: 'X' :: ds => if ds.isEmpty then some 0 else digitsIn 16 ds
  | '0' :: d :: ds => digitsIn 8 (d :: ds)
  | ds => digitsIn 10 ds
where
  digitsIn (base : Nat) (ds : List Char) : Option Nat :=
    (ds.mapM fun c => (hexDigit? c).filter (· < base)).map fun vs => vs.foldl (base * · + ·) 0

/-- Does the last label look like a number? Then the host must be an IPv4 address. -/
def endsInNumber (labels : List (List Char)) : Bool :=
  let labels := if labels.getLast? == some [] then labels.dropLast else labels
  match labels.getLast? with
  | some l => (!l.isEmpty && l.all Char.isDigit) ||
      (match l with
        | '0' :: x :: ds => (x == 'x' || x == 'X') && ds.all fun c => (hexDigit? c).isSome
        | _ => false)
  | none => false

/-- An address of up to four parts, of which the last fills what is left, in dotted form. -/
def looseIpv4? (labels : List (List Char)) : Option String :=
  let labels := if labels.getLast? == some [] then labels.dropLast else labels
  if labels.length > 4 then none
  else
    match labels.mapM part? with
    | none => none
    | some ns =>
      let last := ns.getLast?.getD 0
      let front := ns.dropLast
      if front.any (· > 255) || last ≥ 1 <<< (8 * (5 - ns.length)) then none
      else
        let n := (front.zipIdx.foldl (fun n (v, i) => n + v <<< (8 * (3 - i))) 0) + last
        some (".".intercalate
          ([n >>> 24, n >>> 16 % 256, n >>> 8 % 256, n % 256].map toString))

end MysqlMetrics.Address
