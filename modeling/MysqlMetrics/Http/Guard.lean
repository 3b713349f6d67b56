import MysqlMetrics.Http.Message
import MysqlMetrics.Http.WebConfig
/-!
# The guard before the routes

With users configured, a request must present a name and password that one of them has. What was
accepted once is remembered, because the check of a hash is slow. Every answer, also that of a
refusal, carries the configured headers.
-/
namespace MysqlMetrics

structure Guard where
  users : SortedTable String String
  headers : List (String × String)
  /-- The credentials that were accepted, as they were presented. -/
  verified : List String := []
deriving Repr, Inhabited

namespace Guard

def new (c : WebConfig) : Guard := { users := c.users, headers := c.responseHeaders }

/-- What the request presents after the word `Basic`. -/
def presented? (r : Request) : Option String :=
  (r.headerText? "authorization").bind (Text.after? "Basic ")

/-- The name and password in what is presented. -/
def credentials? (presented : String) : Option (String × String) :=
  ((Base64.decode (Text.trim presented)).bind Utf8.decode).bind (Text.cut ':')

/-- Does a user have the password presented with his name? -/
def accepts (g : Guard) (presented : String) : Bool :=
  match credentials? presented with
  | none => false
  | some (user, password) =>
    match SortedTable.find? user g.users with
    | none => false
    | some hash => Bcrypt.verify password hash

/-- May the request pass? The guard remembers what it accepts. -/
def authorize (g : Guard) (r : Request) : Bool × Guard :=
  if g.users.isEmpty then (true, g)
  else
    match presented? r with
    | none => (false, g)
    | some p =>
      if g.verified.contains p then (true, g)
      else if g.accepts p then (true, { g with verified := p :: g.verified })
      else (false, g)

/-- The answer to a request that may not pass. -/
def refusal : Response :=
  { status := 401
    headers := [("content-type", "text/plain; charset=utf-8"), ("www-authenticate", "Basic")]
    body := "Unauthorized\n" }

def addHeaders (g : Guard) (r : Response) : Response :=
  g.headers.foldl (fun r (name, value) => r.setHeader name value) r

end Guard
end MysqlMetrics
