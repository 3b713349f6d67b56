import MysqlMetrics.Decimal.Whole
import MysqlMetrics.Text.Blank
import MysqlMetrics.Text.Split
/-!
# Server versions

A server announces itself in one line of text. Its version is the dotted number at the start,
whatever follows; a component that is missing or too large counts as zero. Versions are ordered
component by component.
-/
namespace MysqlMetrics

structure Version where
  major : Nat
  minor : Nat
  patch : Nat
deriving DecidableEq, Repr, Inhabited

namespace Version

def zero : Version := ⟨0, 0, 0⟩

def component (cs : List Char) : Nat := (Decimal.readU64 (String.ofList cs)).toOption.getD 0

/-- Digits and dots from the start of the text, after blanks. -/
def numeral (cs : List Char) : List Char :=
  (Text.trimList cs).takeWhile fun c => c.isDigit || c == '.'

def ofList (cs : List Char) : Version :=
  let parts := (Text.splitList (· == '.') (numeral cs)).map component
  ⟨parts[0]?.getD 0, parts[1]?.getD 0, parts[2]?.getD 0⟩

def parse (s : String) : Version := ofList s.toList

def toText (v : Version) : String :=
  toString v.major ++ "." ++ toString v.minor ++ "." ++ toString v.patch

instance : Ord Version := ⟨fun a b =>
  (compare a.major b.major).then ((compare a.minor b.minor).then (compare a.patch b.patch))⟩

def atLeast (v least : Version) : Bool := compare v least != .lt

end Version
end MysqlMetrics
