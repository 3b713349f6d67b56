import MysqlMetrics.Decimal.Reading
import MysqlMetrics.Text.Blank
import MysqlMetrics.Text.Split
import MysqlMetrics.Text.Utf8
/-!
# Values of status cells

A cell is bytes. Without the blanks around it, it is a switch in words, a number, or nothing that
can be measured.
-/
namespace MysqlMetrics.Status

/-- The value of a text: one for `on` and `yes`, zero for `off` and `no`, else a number. -/
def ofText (s : String) : Option Float :=
  let s := Text.trim s
  if Text.sameIgnoringCase s "on" || Text.sameIgnoringCase s "yes" then some (Decimal.ofNat 1)
  else if Text.sameIgnoringCase s "off" || Text.sameIgnoringCase s "no" then some (Decimal.ofNat 0)
  else Decimal.read s

def ofBytes (bs : Bytes) : Option Float := (Utf8.decode bs).bind ofText

/-- The numbers between slashes, all of which must be numbers. -/
def listOfBytes (bs : Bytes) : Option (List Float) :=
  (Utf8.decode bs).bind fun s =>
    let s := Text.trim s
    if s.isEmpty then none
    else (Text.split '/' s).mapM fun field => Decimal.read (Text.trim field)

end MysqlMetrics.Status
