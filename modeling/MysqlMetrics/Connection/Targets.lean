import MysqlMetrics.Connection.Dsn
import MysqlMetrics.Yaml.Reading
/-!
# Files of targets

A file of targets names servers, each with its data source name and perhaps what it takes to trust
its certificate. A target that gives an authority is connected to only if the certificate proves
its name; one that waives the check is still encrypted.
-/
namespace MysqlMetrics

/-- What a target says about encryption. -/
structure TlsConfig where
  ca : Option String := none
  cert : Option String := none
  key : Option String := none
  insecureSkipVerify : Bool := false
deriving DecidableEq, Repr, Inhabited

structure Target where
  dsn : String
  tls : Option TlsConfig := none
deriving DecidableEq, Repr, Inhabited

inductive TargetsError where
  | unreadable (path reason : String)
  | malformed (path : String)
  | dsn (target : String)
  | emptyName
deriving DecidableEq, Repr

/-- The text of an error, less what the reader of the document or of the name says. -/
def TargetsError.message : TargetsError → String
  | .unreadable path reason => "failed to read config file " ++ path ++ ": " ++ reason
  | .malformed path => "invalid config file " ++ path
  | .dsn target => "instance " ++ target ++ ": invalid dsn"
  | .emptyName => "instance name must not be empty"

open Yaml (Node)

namespace TlsConfig

def ofNode? (n : Node) : Option TlsConfig := do
  let fields ← n.record? ["ca", "cert", "key", "insecure_skip_verify"]
  let path (name : String) := Node.field? fields name (Node.optional? Node.text?) none
  return ⟨← path "ca", ← path "cert", ← path "key",
    ← Node.field? fields "insecure_skip_verify" Node.switch? false⟩

/-- The mode of encryption that the section asks for, given that of the data source name. -/
def sslMode (t : TlsConfig) (named : SslMode) : SslMode :=
  if t.insecureSkipVerify then .required else if t.ca.isSome then .verifyIdentity else named

end TlsConfig

namespace Target

def ofNode? (n : Node) : Option Target := do
  let fields ← n.record? ["dsn", "tls_config"]
  let dsn ← (← fields.lookup "dsn").text?
  return ⟨dsn, ← Node.field? fields "tls_config" (Node.optional? TlsConfig.ofNode?) none⟩

def connectOptions? (t : Target) : Option ConnectOptions :=
  (Dsn.parse t.dsn).map fun o =>
    match t.tls with
    | none => o
    | some tls => { o with sslMode := tls.sslMode o.sslMode }

end Target

/-- The targets of a file, by name. -/
abbrev Targets := SortedTable String Target

namespace Targets

def ofNode? (n : Node) : Option Targets := do
  Node.field? (← n.record? ["instances"]) "instances" (Node.table? Target.ofNode?) []

def parse (path content : String) : Except TargetsError Targets :=
  match Node.readText? ofNode? content with
  | none => .error (.malformed path)
  | some targets => if targets.has "" then .error .emptyName else .ok targets

/-- The options of every target, or the first target by name whose data source name is not
well-formed. -/
def connectOptions (targets : Targets) : Except TargetsError (SortedTable String ConnectOptions) :=
  targets.mapM fun (name, t) =>
    match t.connectOptions? with
    | some o => .ok (name, o)
    | none => .error (.dsn name)

end Targets
end MysqlMetrics
