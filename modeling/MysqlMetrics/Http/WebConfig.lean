import MysqlMetrics.Password.Bcrypt
import MysqlMetrics.Text.Blank
import MysqlMetrics.Text.Quoted
import MysqlMetrics.Yaml.Reading
/-!
# The web file

The file says who may ask and what headers every answer carries. It is refused as a whole: first
for asking for encryption, which is not served here, then for a password that is no hash, then for
a header that may not be set or not to this value.
-/
namespace MysqlMetrics

structure WebConfig where
  /-- The users with the hashes of their passwords. -/
  users : SortedTable String String := []
  headers : SortedTable String String := []
deriving DecidableEq, Repr, Inhabited

inductive WebError where
  /-- The text is not a document of the expected form. -/
  | malformed
  | tls
  | notHash (user : String)
  | header (name : String)
  | headerValue (name : String) (allowed : List String) (value : String)
  | unprintable
deriving DecidableEq, Repr

/-- The text of an error, less what the reader of the document or of the hash says. -/
def WebError.message : WebError → String
  | .malformed => "malformed document"
  | .tls => "tls_server_config is not supported, terminate TLS in front of the exporter"
  | .notHash user => "password of user " ++ Text.quoted user ++ " is not a bcrypt hash"
  | .header name => "HTTP header " ++ name ++ " can not be configured"
  | .headerValue name allowed value =>
    "invalid value for " ++ name ++ ", expected one of " ++ Text.quotedList allowed ++ ", got " ++
      value
  | .unprintable => "failed to parse header value"

namespace WebConfig

open Yaml (Node)

/-- The headers that may be set, and the values that each may have; none stands for any. -/
def allowedHeaders : List (String × List String) :=
  [("Strict-Transport-Security", []), ("X-Content-Type-Options", ["nosniff"]),
    ("X-Frame-Options", ["deny", "sameorigin"]), ("X-XSS-Protection", []),
    ("Content-Security-Policy", [])]

/-- A header holds no control character but the tab. -/
def isHeaderValue (value : String) : Bool :=
  value.toList.all fun c => c == '\t' || (32 ≤ c.toNat && c.toNat != 127)

def checkHeader (name value : String) : Except WebError Unit :=
  match allowedHeaders.find? fun h => Text.sameIgnoringCase h.1 name with
  | none => .error (.header name)
  | some (_, allowed) =>
    if !allowed.isEmpty && !allowed.any (Text.sameIgnoringCase · value) then
      .error (.headerValue name allowed value)
    else if !isHeaderValue value then .error .unprintable
    else .ok ()

/-- Checks users, then headers, each by name. -/
def check (c : WebConfig) : Except WebError WebConfig := do
  c.users.forM fun (user, hash) =>
    if (Bcrypt.Hash.parse? hash).isSome then pure () else throw (WebError.notHash user)
  c.headers.forM fun (name, value) => checkHeader name value
  return c

def headersOfNode? (n : Node) : Option (SortedTable String String) := do
  Node.field? (← n.record? ["headers"]) "headers" (Node.table? Node.text?) []

/-- The file of a node, and whether it asks for encryption. -/
def ofNode? (n : Node) : Option (WebConfig × Bool) := do
  let fields ← n.record? ["tls_server_config", "http_server_config", "basic_auth_users"]
  let tls ← Node.field? fields "tls_server_config" (Node.optional? Node.any?) none
  let headers ← Node.field? fields "http_server_config" headersOfNode? []
  let users ← Node.field? fields "basic_auth_users" (Node.table? Node.text?) []
  return (⟨users, headers⟩, tls.isSome)

/-- Reads and checks the text of a file; a blank one configures nothing. -/
def parse (s : String) : Except WebError WebConfig :=
  if (Text.trim s).isEmpty then .ok {}
  else
    match Node.readText? ofNode? s with
    | none => .error .malformed
    | some (_, true) => .error .tls
    | some (c, false) => c.check

def hasUsers (c : WebConfig) : Bool := !c.users.isEmpty

/-- The headers of every answer, in small letters; of two that differ in case the later holds. -/
def responseHeaders (c : WebConfig) : List (String × String) :=
  c.headers.foldl (fun hs (name, value) =>
    let name := Text.asciiLower name
    hs.filter (·.1 != name) ++ [(name, value)]) []

end WebConfig
end MysqlMetrics
