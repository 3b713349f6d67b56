import MysqlMetrics.Connection.Options
import MysqlMetrics.Decimal.Whole
import MysqlMetrics.Environment
import MysqlMetrics.Text.Blank
import MysqlMetrics.Text.Split
/-!
# Option files

The `[client]` section of an option file says whom to connect to. Only its lines count; of two
lines for one key the later does, and `-` and `_` are the same in a key. Variables of the
environment fill what the file leaves open.
-/
namespace MysqlMetrics

structure ClientConfig where
  user : Option String := none
  password : Option String := none
  host : Option String := none
  port : Option Nat := none
  socket : Option String := none
  sslCa : Option String := none
  sslCert : Option String := none
  sslKey : Option String := none
deriving DecidableEq, Repr, Inhabited

/-- A port that is no number from 0 to 65535. -/
structure PortError where
  value : String
  cause : Decimal.WholeError
deriving DecidableEq, Repr

def PortError.message (e : PortError) : String := "invalid port in option file: " ++ e.value

namespace ClientConfig

/-! ## Lines -/

/-- The name in brackets that starts a section. -/
def header? (line : List Char) : Option (List Char) :=
  match line with
  | '[' :: rest =>
    match rest.reverse with
    | ']' :: name => some name.reverse
    | _ => none
  | _ => none

/-- Is it the header of the client section? Letter case and inner blanks do not matter. -/
def isClientHeader (name : List Char) : Bool :=
  Text.sameIgnoringCase (String.ofList (Text.trimList name)) "client"

def isComment : List Char → Bool
  | '#' :: _ => true
  | ';' :: _ => true
  | _ => false

/-- The lines of client sections, trimmed; blank lines and comments are left out. -/
def clientLines : Bool → List (List Char) → List (List Char)
  | _, [] => []
  | inside, line :: rest =>
    let line := Text.trimList line
    if line.isEmpty || isComment line then clientLines inside rest
    else
      match header? line with
      | some name => clientLines (isClientHeader name) rest
      | none => if inside then line :: clientLines inside rest else clientLines inside rest

/-- The text between two equal quotes of that sort. -/
def betweenQuotes (quote : Char) (cs : List Char) : Option (List Char) :=
  match cs with
  | c :: rest =>
    if c = quote then
      match rest.reverse with
      | d :: body => if d = quote then some body.reverse else none
      | [] => none
    else none
  | [] => none

def unquote (cs : List Char) : List Char :=
  ((betweenQuotes '"' cs).or (betweenQuotes '\'' cs)).getD cs

/-- The key of a line, with `-` for `_`, and its value without the quotes around it. -/
def assignment (line : List Char) : String × String :=
  let (key, value) := match Text.cutList '=' line with
    | some (k, v) => (Text.trimList k, unquote (Text.trimList v))
    | none => (line, [])
  (String.ofList (key.map fun c => if c = '_' then '-' else c), String.ofList value)

/-! ## Reading -/

/-- What one assignment sets. Keys of no concern are passed over. -/
def assign (c : ClientConfig) (key value : String) : Except PortError ClientConfig :=
  match key with
  | "user" => .ok { c with user := some value }
  | "password" => .ok { c with password := some value }
  | "host" => .ok { c with host := some value }
  | "port" =>
    match Decimal.readU16 value with
    | .ok n => .ok { c with port := some n }
    | .error e => .error ⟨value, e⟩
  | "socket" => .ok { c with socket := some value }
  | "ssl-ca" => .ok { c with sslCa := some value }
  | "ssl-cert" => .ok { c with sslCert := some value }
  | "ssl-key" => .ok { c with sslKey := some value }
  | _ => .ok c

def ofClientLines (lines : List (List Char)) : Except PortError ClientConfig :=
  lines.foldlM (fun c line => let (key, value) := assignment line; c.assign key value) {}

def parse (content : String) : Except PortError ClientConfig :=
  ofClientLines (clientLines false (Text.splitList (· == '\n') content.toList))

/-- Fills what is open from the variables that the clients of the server use. -/
def withEnvironment (env : Environment) (c : ClientConfig) : ClientConfig :=
  { c with
    user := c.user.or (env.get? "MYSQL_USER")
    password := c.password.or (env.get? "MYSQL_PWD")
    host := c.host.or (env.get? "MYSQL_HOST")
    port := c.port.or ((env.get? "MYSQL_TCP_PORT").bind fun p => (Decimal.readU16 p).toOption)
    socket := c.socket.or (env.get? "MYSQL_UNIX_PORT") }

/-- Nobody can log in without a user. -/
def isUsable (c : ClientConfig) : Bool := c.user.isSome

/-- A socket wins over host and port; an authority file asks for a verified certificate. -/
def connectOptions (c : ClientConfig) : ConnectOptions :=
  let place : ConnectOptions :=
    match c.socket with
    | some s => { socket := some s }
    | none => { host := c.host.getD "localhost", port := c.port.getD 3306 }
  { place with
    user := c.user.getD place.user
    password := c.password
    sslMode := if c.sslCa.isSome then .verifyCa else place.sslMode }

end ClientConfig
end MysqlMetrics
