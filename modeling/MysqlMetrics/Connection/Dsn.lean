import MysqlMetrics.Connection.Options
import MysqlMetrics.Connection.Url
/-!
# Data source names

A data source name is a URL whose user, password, host, port and path say where to connect and
whose query sets the mode of encryption, the character set and the socket. What it leaves out stays
as in fresh connection options.
-/
namespace MysqlMetrics.Dsn

def sslMode? (s : String) : Option SslMode :=
  match Text.asciiLower s with
  | "disabled" => some .disabled
  | "preferred" => some .preferred
  | "required" => some .required
  | "verify_ca" => some .verifyCa
  | "verify_identity" => some .verifyIdentity
  | _ => none

/-- What one parameter of the query sets; unknown ones are passed over. -/
def setParameter (o : ConnectOptions) (key value : String) : Option ConnectOptions :=
  match key with
  | "sslmode" | "ssl-mode" => (sslMode? value).map fun m => { o with sslMode := m }
  | "charset" => some { o with charset := value }
  | "collation" => some { o with collation := some value }
  | "socket" => some { o with socket := some value }
  | "statement-cache-capacity" =>
    if (Decimal.readU64 value).toOption.isSome then some o else none
  | _ => some o

/-- A part that is missing or empty leaves the option alone; one that is no text is refused. -/
def decoded (part : String) : Option (Option String) :=
  if part.isEmpty then some none else (Percent.decode part).map some

def ofUrl (u : Url) : Option ConnectOptions :=
  let fresh : ConnectOptions := {}
  match decoded u.user, u.password.mapM Percent.decode,
      decoded (String.ofList (u.path.toList.dropWhile (· == '/'))) with
  | some user, some password, some database =>
    (Percent.formPairs (u.query.getD "")).foldlM (fun o (k, v) => setParameter o k v)
      { fresh with
        host := u.host.getD fresh.host
        port := u.port.getD fresh.port
        user := user.getD fresh.user
        password := password
        database := database }
  | _, _, _ => none

/-- The options that a data source name stands for, if it is well-formed. -/
def parse (s : String) : Option ConnectOptions := (Url.parse s).bind ofUrl

end MysqlMetrics.Dsn
