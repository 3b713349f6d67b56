import MysqlMetrics.Text.Quoted
import MysqlMetrics.Text.Split
/-!
# Patterns of paths

A pattern is a path in which `{name}` at the end of a segment stands for any text without a slash,
and `{*name}` at the end of the pattern for any text at all, neither of them empty. A brace that
means itself is written twice. A segment may not start with `:` or `*`, the marks of an older form.
-/
namespace MysqlMetrics

inductive Piece where
  | char (c : Char)
  | segment
  | rest
deriving DecidableEq, Repr

inductive RouteError where
  | empty
  | noSlash
  | oldCapture
  | oldWildcard
  | invalidName (path : String)
  | invalidSegment (path : String)
  | invalidRest (path : String)
  | overlap (path : String)
deriving DecidableEq, Repr

namespace RouteError

def inPath (path reason : String) : String := "Invalid route " ++ Text.quoted path ++ ": " ++ reason

def message : RouteError → String
  | .empty => "Paths must start with a `/`. Use \"/\" for root routes"
  | .noSlash => "Paths must start with a `/`"
  | .oldCapture =>
    "Path segments must not start with `:`. For capture groups, use `\x7bcapture\x7d`. " ++
      "If you meant to literally match a segment starting with a colon, call " ++
      "`without_v07_checks` on the router."
  | .oldWildcard =>
    "Path segments must not start with `*`. For wildcard capture, use `\x7b*wildcard\x7d`. " ++
      "If you meant to literally match a segment starting with an asterisk, call " ++
      "`without_v07_checks` on the router."
  | .invalidName path => inPath path "Parameters must be registered with a valid name"
  | .invalidSegment path => inPath path "Only one parameter is allowed per path segment"
  | .invalidRest path => inPath path "Catch-all parameters are only allowed at the end of a route"
  | .overlap path => "Overlapping method route. Handler for `GET " ++ path ++ "` already exists"

end RouteError

namespace Route

/-- A character of a pattern, and whether it is a brace that was written twice. -/
abbrev Marked := Char × Bool

/-- Reads the braces that are written twice. -/
def unescape : List Char → List Marked
  | '\x7b' :: '\x7b' :: cs => ('\x7b', true) :: unescape cs
  | '\x7d' :: '\x7d' :: cs => ('\x7d', true) :: unescape cs
  | c :: cs => (c, false) :: unescape cs
  | [] => []

/-- What is wrong with the braces of a pattern. -/
inductive Fault where
  | name
  | segment
  | rest

/-- Where a pattern is being read: outside of braces, just after an opening one, within a name of
which the last character is given, or after the closing one. -/
inductive Spot where
  | outside
  | opened
  | named (isRest : Bool) (last : Char)
  | closed

/-- The pieces of a pattern. -/
def pieces : Spot → List Marked → Except Fault (List Piece)
  | .outside, [] => .ok []
  | .outside, (c, escaped) :: cs =>
    if c = '\x7d' ∧ !escaped then .error .name
    else if c = '\x7b' ∧ !escaped then pieces .opened cs
    else (pieces .outside cs).map (.char c :: ·)
  | .opened, [] => .error .name
  | .opened, (c, _) :: cs => if c = '\x7d' then .error .name else pieces (.named (c = '*') c) cs
  | .named _ _, [] => .error .name
  | .named isRest last, (c, escaped) :: cs =>
    if c = '\x7d' ∧ !escaped then
      if last = '*' then .error .name
      else if isRest then
        if cs.isEmpty then .ok [.rest] else (pieces .closed cs).bind fun _ => .error .rest
      else (pieces .closed cs).map (.segment :: ·)
    else if c = '*' ∨ c = '/' then .error .name
    else pieces (.named isRest c) cs
  | .closed, [] => .ok []
  | .closed, (c, _) :: cs =>
    if c = '/' then (pieces .outside cs).map (.char c :: ·) else .error .segment

@[simp] theorem unescape_nil : unescape [] = [] := by rw [unescape]

@[simp] theorem pieces_outside_nil : pieces .outside [] = .ok [] := by rw [pieces]

@[simp] theorem pieces_closed_nil : pieces .closed [] = .ok [] := by rw [pieces]

def parse (path : String) : Except RouteError (List Piece) :=
  if path.isEmpty then .error .empty
  else if !path.startsWith "/" then .error .noSlash
  else
    match (Text.split '/' path).find? fun s => s.startsWith ":" || s.startsWith "*" with
    | some s => .error (if s.startsWith ":" then .oldCapture else .oldWildcard)
    | none =>
      match pieces .outside (unescape path.toList) with
      | .ok ps => .ok ps
      | .error .name => .error (.invalidName path)
      | .error .segment => .error (.invalidSegment path)
      | .error .rest => .error (.invalidRest path)

/-- Does a path fit the pieces? A segment takes all up to the next slash. -/
def fits : List Piece → List Char → Bool
  | [], cs => cs.isEmpty
  | .char p :: ps, c :: cs => p == c && fits ps cs
  | .char _ :: _, [] => false
  | .segment :: ps, cs =>
    !(cs.takeWhile (· != '/')).isEmpty && fits ps (cs.dropWhile (· != '/'))
  | .rest :: ps, cs => !cs.isEmpty && ps.isEmpty

end Route
end MysqlMetrics
