import MysqlMetrics.Text.Split
import MysqlMetrics.Text.Utf8
/-!
# Requests and responses

Names of headers are compared without regard to the case of letters; of several headers of one name
the first counts.
-/
namespace MysqlMetrics

structure Request where
  method : String := "GET"
  /-- The path, and perhaps a query after `?`. -/
  target : String := "/"
  headers : List (String × Bytes) := []
deriving DecidableEq, Repr, Inhabited

structure Response where
  status : Nat
  /-- Names in small letters. -/
  headers : List (String × String) := []
  body : String := ""
deriving DecidableEq, Repr, Inhabited

namespace Request

/-- The target without a fragment. -/
def location (r : Request) : String := ((Text.cut '#' r.target).map (·.1)).getD r.target

def path (r : Request) : String := ((Text.cut '?' r.location).map (·.1)).getD r.location

def query (r : Request) : Option String := (Text.cut '?' r.location).map (·.2)

def header? (r : Request) (name : String) : Option Bytes :=
  (r.headers.find? fun h => Text.sameIgnoringCase h.1 name).map (·.2)

def isVisible (b : UInt8) : Bool := b == 9 || (32 ≤ b && b < 127)

/-- The text of a header, if it is printable ASCII. -/
def headerText? (r : Request) (name : String) : Option String :=
  (r.header? name).bind fun bs =>
    if bs.all isVisible then some (String.ofList (bs.map fun b => Char.ofNat b.toNat)) else none

end Request

namespace Response

/-- Sets a header in place of any of its name. -/
def setHeader (r : Response) (name value : String) : Response :=
  { r with headers := r.headers.filter (·.1 != name) ++ [(name, value)] }

/-- Sets a header unless there is one of its name. -/
def setHeaderIfNone (r : Response) (name value : String) : Response :=
  if r.headers.any (·.1 == name) then r else { r with headers := r.headers ++ [(name, value)] }

end Response
end MysqlMetrics
