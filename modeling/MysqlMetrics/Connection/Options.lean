/-!
# Connection options

Where a connection goes and as whom. A socket takes the place of host and port. The mode says how
much of an encrypted connection is asked for, from not at all to a verified name.
-/
namespace MysqlMetrics

inductive SslMode where
  | disabled
  | preferred
  | required
  | verifyCa
  | verifyIdentity
deriving DecidableEq, Repr

namespace SslMode

def title : SslMode → String
  | .disabled => "Disabled"
  | .preferred => "Preferred"
  | .required => "Required"
  | .verifyCa => "VerifyCa"
  | .verifyIdentity => "VerifyIdentity"

/-- Does the mode refuse a connection in the clear? -/
def refusesPlaintext : SslMode → Bool
  | .disabled | .preferred => false
  | _ => true

end SslMode

structure ConnectOptions where
  host : String := "localhost"
  port : Nat := 3306
  socket : Option String := none
  user : String := "root"
  password : Option String := none
  database : Option String := none
  sslMode : SslMode := .preferred
  charset : String := "utf8mb4"
  collation : Option String := none
deriving DecidableEq, Repr, Inhabited

end MysqlMetrics
