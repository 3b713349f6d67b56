import MysqlMetrics.Connection.Address
/-!
# Listen addresses

An address is a host and a port. A port alone, after a colon, means every interface, by IPv6 if
there is any. Only addresses of the machine itself can be listened on.
-/
namespace MysqlMetrics.Listen

inductive ListenError where
  | invalid (address : String)
  | cannotBind (address : String)
deriving DecidableEq, Repr

def ListenError.message : ListenError → String
  | .invalid address => "invalid listen address " ++ address
  | .cannotBind address => "Failed to bind to " ++ address

/-- Is it the name or the number of a loopback or of every interface? -/
def isLocal (host : String) : Bool :=
  host == "localhost" ||
    match Address.ipv4? host.toList with
    | some (first :: rest) => first == 127 || (first :: rest).all (· == 0)
    | _ =>
      match host.toList with
      | '[' :: body =>
        match (Address.ipv6? body.dropLast) with
        | some gs => body.getLast? == some ']' &&
            (gs.all (· == 0) || gs == [0, 0, 0, 0, 0, 0, 0, 1])
        | none => false
      | _ => false

/-- The host and port to listen on. -/
def resolve (address : String) : Except ListenError (String × Nat) :=
  match address.toList with
  | ':' :: port =>
    match Decimal.readU16 (String.ofList port) with
    | .ok p => .ok ("[::]", p)
    | .error _ => .error (.invalid address)
  | _ =>
    match Text.cutLast ':' address with
    | none => .error (.cannotBind address)
    | some (host, port) =>
      match Decimal.readU16 port with
      | .ok p => if isLocal host then .ok (host, p) else .error (.cannotBind address)
      | .error _ => .error (.cannotBind address)

end MysqlMetrics.Listen
