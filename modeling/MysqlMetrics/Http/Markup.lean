/-!
# Markup as a browser reads it

A page is texts and tags. A tag begins with an angle bracket and a letter, a slash, an exclamation
or a question mark, and goes on to the next closing bracket that does not stand in a quoted value.
Entities stand for characters in texts and in values, and nowhere else. The reader takes one
character after the other (`step`); names are taken as they are written, and the contents of
comments and scripts are not told from the rest.
-/
namespace MysqlMetrics.Markup

/-- The name as it is written, with the slash of a closing tag, and the attributes with their
values. -/
structure Tag where
  name : String
  attributes : List (String × String) := []
deriving DecidableEq, Repr

inductive Token where
  | text (s : String)
  | tag (t : Tag)
deriving DecidableEq, Repr

/-- Undoes the entities of the characters that mean something to markup. -/
def unescape : List Char → List Char
  | '&' :: 'a' :: 'm' :: 'p' :: ';' :: rest => '&' :: unescape rest
  | '&' :: 'l' :: 't' :: ';' :: rest => '<' :: unescape rest
  | '&' :: 'g' :: 't' :: ';' :: rest => '>' :: unescape rest
  | '&' :: 'q' :: 'u' :: 'o' :: 't' :: ';' :: rest => '"' :: unescape rest
  | c :: rest => c :: unescape rest
  | [] => []

/-- Where the reader is, with what it has read there. -/
inductive Place where
  | text (read : List Char)
  /-- Behind an angle bracket that may open a tag, or belong to the text. -/
  | opened (text : List Char)
  | name (read : List Char)
  | between (tag : Tag)
  | key (tag : Tag) (read : List Char)
  /-- Behind the name of an attribute, which may have a value. -/
  | keyed (tag : Tag) (key : String)
  | assigned (tag : Tag) (key : String)
  | quoted (tag : Tag) (key : String) (mark : Char) (read : List Char)
  | bare (tag : Tag) (key : String) (read : List Char)
deriving DecidableEq, Repr

def isSpace (c : Char) : Bool := c = ' ' || c = '\t' || c = '\n' || c = '\r' || c = '\x0c'

/-- What may follow an angle bracket that opens a tag. -/
def beginsTag (c : Char) : Bool := c.isAlpha || c = '/' || c = '!' || c = '?'

def Tag.add (tag : Tag) (key : String) (value : List Char) : Tag :=
  { tag with attributes := tag.attributes ++ [(key, String.ofList (unescape value))] }

/-- The text that has been read, if any. -/
def textToken (read : List Char) : List Token :=
  if read.isEmpty then [] else [.text (String.ofList (unescape read))]

def closed (tag : Tag) : List Token × Place := ([.tag tag], .text [])

/-- What a character completes, and the place behind it. -/
def step : Place → Char → List Token × Place
  | .text read, c => ([], if c = '<' then .opened read else .text (read ++ [c]))
  | .opened text, c =>
    if beginsTag c then (textToken text, .name [c])
    else ([], if c = '<' then .opened (text ++ ['<']) else .text (text ++ ['<', c]))
  | .name read, c =>
    if c = '>' then closed ⟨String.ofList read, []⟩
    else
      ([], if isSpace c || c = '/' then .between ⟨String.ofList read, []⟩ else .name (read ++ [c]))
  | .between tag, c =>
    if c = '>' then closed tag
    else ([], if isSpace c || c = '/' then .between tag else .key tag [c])
  | .key tag read, c =>
    if c = '>' then closed (tag.add (String.ofList read) [])
    else if c = '=' then ([], .assigned tag (String.ofList read))
    else ([], if isSpace c || c = '/' then .keyed tag (String.ofList read)
      else .key tag (read ++ [c]))
  | .keyed tag key, c =>
    if c = '>' then closed (tag.add key [])
    else if c = '=' then ([], .assigned tag key)
    else ([], if isSpace c || c = '/' then .keyed tag key
      else .key (tag.add key []) [c])
  | .assigned tag key, c =>
    if c = '>' then closed (tag.add key [])
    else if c = '"' || c = '\'' then ([], .quoted tag key c [])
    else ([], if isSpace c then .assigned tag key else .bare tag key [c])
  | .quoted tag key mark read, c =>
    ([], if c = mark then .between (tag.add key read)
      else .quoted tag key mark (read ++ [c]))
  | .bare tag key read, c =>
    if c = '>' then closed (tag.add key read)
    else ([], if isSpace c then .between (tag.add key read)
      else .bare tag key (read ++ [c]))

theorem step_text (read : List Char) (c : Char) : step (.text read) c =
    ([], if c = '<' then .opened read else .text (read ++ [c])) := rfl

theorem step_opened (text : List Char) {c : Char} (h : beginsTag c = true) :
    step (.opened text) c = (textToken text, .name [c]) := if_pos h

theorem step_quoted (tag : Tag) (key : String) (mark : Char) (read : List Char) (c : Char) :
    step (.quoted tag key mark read) c = ([], if c = mark then .between (tag.add key read)
      else .quoted tag key mark (read ++ [c])) := rfl

theorem step_between_close (tag : Tag) : step (.between tag) '>' = closed tag := rfl

/-- What the end of the page completes; a tag that is not closed is none. -/
def finish : Place → List Token
  | .text read => textToken read
  | .opened text => textToken (text ++ ['<'])
  | _ => []

/-- What some characters complete, and the place behind them. -/
def scan : Place → List Char → List Token × Place
  | p, [] => ([], p)
  | p, c :: cs =>
    let (ts, p) := step p c
    let (more, p) := scan p cs
    (ts ++ more, p)

/-- The texts and tags of a page. -/
def tokens (page : String) : List Token :=
  let (ts, p) := scan (.text []) page.toList
  ts ++ finish p

/-- The tags of a page in order, each with the names of its attributes. -/
def outline (ts : List Token) : List (String × List String) :=
  ts.filterMap fun
    | .tag t => some (t.name, t.attributes.map (·.1))
    | .text _ => none

end MysqlMetrics.Markup
