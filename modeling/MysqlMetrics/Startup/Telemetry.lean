import MysqlMetrics.Environment
import MysqlMetrics.SortedTable
import MysqlMetrics.Text.Base64
import MysqlMetrics.Text.Blank
import MysqlMetrics.Text.Split
/-!
# Export of spans

A variable of the environment names the endpoint that spans are sent to, and another the headers
that go with them, as pairs `key=value` between commas. Keys are brought to small letters. The value
of a key that ends in `-bin` is given in base 64; any other is text.
-/
namespace MysqlMetrics.Startup

/-- The pairs of a list of headers; a piece without `=` is passed over. -/
def headerPairs (s : String) : List (String × String) :=
  (Text.split ',' s).filterMap fun piece =>
    (Text.cut '=' piece).map fun (key, value) => (Text.trim key, Text.trim value)

/-- Of two pairs of one key the later holds. -/
def headerTable (s : String) : SortedTable String String := SortedTable.ofList (headerPairs s)

inductive TelemetryError where
  | base64 (key : String)
  | binaryKey (key : String)
  | textKey (key : String)
  | textValue (key : String)
  | endpoint (address reason : String)
  | transport
deriving DecidableEq, Repr

/-- The text of an error up to the key, or with the reason why an endpoint is none. -/
def TelemetryError.message : TelemetryError → String
  | .base64 key => "failed to base64-decode value for key " ++ key
  | .binaryKey key => "invalid binary metadata key " ++ key
  | .textKey key => "invalid ASCII metadata key " ++ key
  | .textValue key => "invalid ASCII metadata value for key " ++ key
  | .endpoint address reason => "invalid URI " ++ address ++ ". Reason " ++ reason
  | .transport => "Reason: transport error"

/-- A value of metadata. -/
inductive MetadataValue where
  | text (s : String)
  | binary (bytes : Bytes)
deriving DecidableEq, Repr

def isKeyChar (c : Char) : Bool := c.isAlphanum || "!#$%&'*+-.^_`|~".toList.contains c

/-- The greatest length that a name of metadata may have. -/
def maxKeyLength : Nat := 65535

def isKey (key : String) : Bool :=
  !key.isEmpty && key.toList.all isKeyChar && key.length ≤ maxKeyLength

/-- Text holds no control character but the tab. -/
def isTextValue (value : String) : Bool :=
  value.toList.all fun c => c == '\t' || (32 ≤ c.toNat && c.toNat != 127)

def metadataEntry (key value : String) : Except TelemetryError (String × MetadataValue) :=
  let key := Text.asciiLower key
  if key.endsWith "-bin" then
    match Base64.decode value with
    | none => .error (.base64 key)
    | some bytes => if isKey key then .ok (key, .binary bytes) else .error (.binaryKey key)
  else if !isKey key then .error (.textKey key)
  else if isTextValue value then .ok (key, .text value)
  else .error (.textValue key)

/-- The metadata of headers, taken in the order given: a later entry replaces one of its key. -/
def metadata (headers : List (String × String)) :
    Except TelemetryError (SortedTable String MetadataValue) :=
  headers.foldlM (fun table (key, value) =>
    (metadataEntry key value).map fun (k, v) => SortedTable.insert k v table) []

/-! ## Endpoints -/

/-- An endpoint without a scheme is an encrypted one. -/
def normalizeEndpoint (s : String) : String :=
  if s.startsWith "http://" || s.startsWith "https://" then s
  else "https://" ++ String.ofList (s.toList.reverse.dropWhile (· == '/')).reverse

/-- May the character stand in an address? -/
def isAddressChar (c : Char) : Bool :=
  let n := c.toNat
  n == 0x21 || n == 0x23 || (0x24 ≤ n && n ≤ 0x3B) || n == 0x3D || (0x3F ≤ n && n ≤ 0x5B) ||
  n == 0x5D || n == 0x5F || (0x61 ≤ n && n ≤ 0x7A) || n == 0x7E

/-- Why an endpoint with a scheme is no address, if it is none. -/
def endpointFault? (endpoint : String) : Option String :=
  let place := ((Text.cut '/' endpoint).bind fun p => Text.after? "/" p.2).getD ""
  let host := String.ofList (place.toList.takeWhile fun c => c != '/' && c != '?' && c != '#')
  if place.isEmpty || host.isEmpty then some "invalid format"
  else if !endpoint.toList.all isAddressChar then some "invalid uri character"
  else none

/-- May a certificate be issued for the name? Its labels hold letters, digits, hyphens, which do not
stand at an end, and underscores; a dot may stand behind the last. -/
def isServerName (name : String) : Bool :=
  let labels := Text.splitList (· == '.') name.toList
  let labels := if labels.getLast? == some [] then labels.dropLast else labels
  !labels.isEmpty && labels.all fun l =>
    !l.isEmpty && l.length ≤ 63 && l.all (fun c => c.isAlphanum || c == '-' || c == '_') &&
      l.head? != some '-' && l.getLast? != some '-'

/-- The name that the certificate of an encrypted endpoint is expected to have. -/
def serverName? (endpoint : String) : Option String :=
  (Text.after? "https://" endpoint).map fun place =>
    String.ofList (place.toList.takeWhile fun c => c != '/' && c != ':')

/-- Readies the export of spans, if an endpoint is named. -/
def telemetry (env : Environment) : Except TelemetryError Unit :=
  match env.get? "OTEL_EXPORTER_OTLP_ENDPOINT" with
  | none => .ok ()
  | some endpoint => do
    let endpoint := normalizeEndpoint endpoint
    discard (metadata (headerTable ((env.get? "OTEL_EXPORTER_OTLP_HEADERS").getD "")))
    match endpointFault? endpoint with
    | some reason => throw (TelemetryError.endpoint endpoint reason)
    | none =>
      if (serverName? endpoint).all isServerName then return ()
      else throw TelemetryError.transport

end MysqlMetrics.Startup
