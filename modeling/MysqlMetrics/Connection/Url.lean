import MysqlMetrics.Connection.Address
/-!
# Addresses of resources

A URL is taken apart by the rules of the URL standard: scheme, user and password, host and port,
path, query. Schemes such as `http` are special: their hosts are domains or addresses and a
backslash divides like a slash. Every other scheme has an opaque host. Escapes are left as they
are, except in the host.
-/
namespace MysqlMetrics

structure Url where
  scheme : String
  user : String
  password : Option String
  host : Option String
  port : Option Nat
  path : String
  query : Option String
deriving DecidableEq, Repr

namespace Url

/-! ## Parts of the text -/

/-- Without tabs and line ends, and without blanks and controls at both ends. -/
def clean (s : String) : List Char :=
  let edge (c : Char) : Bool := c.toNat ≤ 0x20
  let cs := s.toList.dropWhile edge
  ((cs.reverse.dropWhile edge).reverse).filter fun c => c != '\t' && c != '\n' && c != '\r'

def isSchemeChar (c : Char) : Bool :=
  c.isAlphanum || c == '+' || c == '-' || c == '.'

/-- The scheme in small letters and what follows its colon. -/
def takeScheme (cs : List Char) : Option (String × List Char) :=
  match cs.takeWhile isSchemeChar, cs.dropWhile isSchemeChar with
  | c :: word, ':' :: rest =>
    if c.isAlpha then some (String.ofList ((c :: word).map Char.toLower), rest) else none
  | _, _ => none

def isSpecial (scheme : String) : Bool :=
  ["http", "https", "ws", "wss", "ftp", "file"].contains scheme

def defaultPort (scheme : String) : Option Nat :=
  match scheme with
  | "http" | "ws" => some 80
  | "https" | "wss" => some 443
  | "ftp" => some 21
  | _ => none

/-- Ends the authority: a slash, a query or a fragment, and for special schemes a backslash. -/
def endsAuthority (special : Bool) (c : Char) : Bool :=
  c == '/' || c == '?' || c == '#' || (special && c == '\\')

/-! ## Host and port -/

/-- May not stand in an opaque host. -/
def isForbidden (c : Char) : Bool :=
  c.toNat == 0 || " #/:<>?@[\\]^|".toList.contains c

/-- May not stand in a domain: what is forbidden in any host, controls, percent and delete. -/
def isForbiddenInDomain (c : Char) : Bool :=
  isForbidden c || c.toNat ≤ 0x1F || c == '%' || c.toNat == 0x7F

/-- A byte as an escape. -/
def escapeByte (b : UInt8) : List Char :=
  let hex := (Nat.toDigits 16 b.toNat).map Char.toUpper
  '%' :: (if hex.length < 2 then '0' :: hex else hex)

/-- Controls and characters beyond ASCII as escapes. -/
def escapeControls (cs : List Char) : List Char :=
  cs.flatMap fun c =>
    if c.toNat < 0x20 || c.toNat ≥ 0x7F then (String.utf8EncodeChar c).flatMap escapeByte else [c]

/-- The text of a bracketed address. -/
def bracketed? (cs : List Char) : Option String :=
  match cs.reverse with
  | ']' :: body => (Address.ipv6? body.reverse).map Address.ipv6Text
  | _ => none

def opaqueHost? (cs : List Char) : Option String :=
  match cs with
  | '[' :: rest => bracketed? rest
  | _ => if cs.any isForbidden then none else some (String.ofList (escapeControls cs))

/-- A domain in small letters, or an address. Only ASCII domains are accepted. -/
def domainHost? (cs : List Char) : Option String :=
  match cs with
  | '[' :: rest => bracketed? rest
  | _ =>
    match Percent.decode (String.ofList cs) with
    | none => none
    | some s =>
      let domain := s.toList.map Char.toLower
      if domain.isEmpty || domain.any (fun c => isForbiddenInDomain c || c.toNat ≥ 0x80) then none
      else
        let labels := Text.splitList (· == '.') domain
        if Address.endsInNumber labels then Address.looseIpv4? labels
        else some (String.ofList domain)

/-- The host ends at a colon outside brackets or where the authority ends. -/
def hostLength (special : Bool) : Bool → List Char → Nat
  | _, [] => 0
  | inside, c :: cs =>
    if (c == ':' && !inside) || endsAuthority special c then 0
    else hostLength special (if c == '[' then true else if c == ']' then false else inside) cs + 1

/-- The digits of a port and what follows; no digits mean no port. -/
def takePort (cs : List Char) : Option (Option Nat × List Char) :=
  let digits := cs.takeWhile Char.isDigit
  let rest := cs.dropWhile Char.isDigit
  let n := digits.foldl (fun n c => 10 * n + (c.toNat - 48)) 0
  if n > Decimal.maxU16 then none
  else
    match rest with
    | c :: _ =>
      if c == '/' || c == '\\' || c == '?' || c == '#' then
        some (if digits.isEmpty then none else some n, rest)
      else none
    | [] => some (if digits.isEmpty then none else some n, rest)

/-! ## User and password -/

/-- The part of the authority before its last `@`, and what follows it. -/
def takeUserinfo (special : Bool) (cs : List Char) : Option (List Char) × List Char :=
  let authority := cs.takeWhile fun c => !endsAuthority special c
  match Text.cutList '@' authority.reverse with
  | none => (none, cs)
  | some (_, info) => (some info.reverse, cs.drop (info.length + 1))

/-- The user before the first colon; a password only if something follows it. -/
def splitUserinfo (info : List Char) : List Char × Option (List Char) :=
  match Text.cutList ':' info with
  | none => (info, none)
  | some (user, []) => (user, none)
  | some (user, password) => (user, some password)

/-! ## The path -/

/-- A segment that stands for the directory itself. -/
def isDot (seg : List Char) : Bool :=
  let s := (String.ofList (seg.map Char.toLower))
  s == "." || s == "%2e"

/-- A segment that stands for the directory above. -/
def isDotDot (seg : List Char) : Bool :=
  let s := (String.ofList (seg.map Char.toLower))
  s == ".." || s == "%2e." || s == ".%2e" || s == "%2e%2e"

/-- Resolves dots; `done` holds the segments so far in reverse. -/
def resolve : List (List Char) → List (List Char) → List (List Char)
  | done, [] => done.reverse
  | done, [seg] =>
    if isDotDot seg then (done.drop 1).reverse ++ [[]]
    else if isDot seg then done.reverse ++ [[]]
    else done.reverse ++ [seg]
  | done, seg :: rest =>
    if isDotDot seg then resolve (done.drop 1) rest
    else if isDot seg then resolve done rest
    else resolve (seg :: done) rest

/-- The absolute path of the text after its first slash. -/
def absolutePath (special : Bool) (cs : List Char) : String :=
  let segs := Text.splitList (fun c => c == '/' || (special && c == '\\')) cs
  String.ofList ((resolve [] segs).flatMap fun seg => '/' :: seg)

/-- The path up to a query or fragment, the query, and nothing of the fragment. -/
def cutTail (cs : List Char) : List Char × Option String :=
  let path := cs.takeWhile fun c => c != '?' && c != '#'
  match cs.drop path.length with
  | '?' :: rest => (path, some (String.ofList (rest.takeWhile (· != '#'))))
  | _ => (path, none)

/-- The path after an authority. -/
def pathAfterHost (special : Bool) (cs : List Char) : String :=
  match cs with
  | [] => if special then "/" else ""
  | c :: rest =>
    if c == '/' || (special && c == '\\') then absolutePath special rest
    else absolutePath special cs

/-! ## The whole -/

/-- The rest after the two slashes of an authority. -/
def afterSlashes (scheme : String) (cs : List Char) : Option Url :=
  let special := isSpecial scheme
  let (info, rest) := takeUserinfo special cs
  let (user, password) := splitUserinfo (info.getD [])
  let hostText := rest.take (hostLength special false rest)
  let rest := rest.drop hostText.length
  let hasUserinfo := !user.isEmpty || password.isSome
  let emptyInfo := info == some []
  -- an authority that names somebody, or a port, needs a host
  if hostText.isEmpty &&
      (hasUserinfo || special || rest.head? == some ':' || (emptyInfo && !rest.isEmpty)) then none
  else
    match (if special then domainHost? hostText else opaqueHost? hostText) with
    | none => if hostText.isEmpty then finish scheme user password none none rest else none
    | some host =>
      match rest with
      | ':' :: afterColon =>
        match takePort afterColon with
        | none => none
        | some (port, rest) =>
          finish scheme user password (some host)
            (port.filter fun p => some p != defaultPort scheme) rest
      | _ => finish scheme user password (if host.isEmpty then none else some host) none rest
where
  finish (scheme : String) (user : List Char) (password : Option (List Char))
      (host : Option String) (port : Option Nat) (rest : List Char) : Option Url :=
    let (path, query) := cutTail rest
    some ⟨scheme, String.ofList user, password.map String.ofList, host, port,
      pathAfterHost (isSpecial scheme) path, query⟩

/-- A URL without authority: its path is absolute after a slash and opaque otherwise. -/
def withoutAuthority (scheme : String) (cs : List Char) : Url :=
  let (path, query) := cutTail cs
  let text := match path with
    | '/' :: rest => absolutePath (isSpecial scheme) rest
    | _ => String.ofList path
  ⟨scheme, "", none, none, none, text, query⟩

def isSlash (c : Char) : Bool := c == '/' || c == '\\'

/-- Takes a text apart; one without scheme is no URL. -/
def parse (s : String) : Option Url :=
  match takeScheme (clean s) with
  | none => none
  | some (scheme, rest) =>
    if scheme == "file" then
      let body := rest.dropWhile isSlash
      let slashes := rest.length - body.length
      let (path, query) :=
        cutTail (if slashes = 2 then body.dropWhile fun c => !endsAuthority true c else body)
      let host := if slashes = 2 then body.takeWhile fun c => !endsAuthority true c else []
      let path := if slashes = 2 then path.drop 1 else path
      match (if host.isEmpty then some "" else domainHost? host) with
      | none => none
      | some h =>
        some ⟨scheme, "", none, if h.isEmpty || h == "localhost" then none else some h, none,
          absolutePath true path, query⟩
    else if isSpecial scheme then afterSlashes scheme (rest.dropWhile isSlash)
    else
      match rest with
      | '/' :: '/' :: authority => afterSlashes scheme authority
      | _ => some (withoutAuthority scheme rest)

end Url
end MysqlMetrics
