import MysqlMetrics.Sql.Quote
/-!
# Tokens of a statement

How a server in its default mode takes a statement apart, one character after the other. Blanks and
comments stand between tokens. A text stands between apostrophes or between quotation marks: a
doubled mark stands for the mark, and a backslash escapes what follows. A name stands between grave
accents: a doubled accent stands for the accent, and nothing escapes. All else is words, which are
keywords, plain names and whole numbers, or signs of one character.

Some statements have no reading here: those with a comment that the server executes or takes for a
hint, and those with a letter right before an apostrophe that changes what the text means. Names are
read as they stand; which of them the server allows is not the matter of this module. So the
character zero in a name is read like any other, although a server breaks off at it.
-/
namespace MysqlMetrics.Sql

inductive Token where
  | word (s : String)
  | text (s : String)
  | name (s : String)
  | sign (c : Char)
deriving DecidableEq, Repr

/-- Where a reader stands, with what it has read of the token that it is in. -/
inductive Place where
  | between
  | word (read : List Char)
  /-- Behind the mark that begins a text or a name, and inside of it. -/
  | quoted (mark : Char) (read : List Char)
  /-- Behind a backslash in a text. -/
  | escape (mark : Char) (read : List Char)
  /-- Behind a mark that is the end, unless it is doubled. -/
  | marked (mark : Char) (read : List Char)
  | dash
  | twoDashes
  | slash
  /-- Behind the two characters that begin a comment of any length. -/
  | opened
  | comment
  /-- Behind an asterisk in such a comment. -/
  | asterisk
  /-- In a comment that ends with its line. -/
  | lineComment
deriving DecidableEq, Repr

/-! ## Characters -/

def isSpace (c : Char) : Bool := c == ' ' || (9 ≤ c.toNat && c.toNat ≤ 13)

def isControl (c : Char) : Bool := c.toNat < 32 || c.toNat == 127

def isWordChar (c : Char) : Bool := c.isAlphanum || c == '_' || c == '$' || 128 ≤ c.toNat

/-- What a character stands for behind a backslash. The two wildcards of patterns keep it. -/
def escaped (c : Char) : List Char :=
  match c with
  | '0' => ['\x00']
  | 'b' => ['\x08']
  | 'n' => ['\n']
  | 'r' => ['\r']
  | 't' => ['\t']
  | 'Z' => ['\x1a']
  | '%' => ['\\', '%']
  | '_' => ['\\', '_']
  | c => [c]

/-- A text right behind one of these letters is written in digits, or in another character set. -/
def isMarker (read : List Char) : Bool :=
  read.map Char.toLower == ['b'] || read.map Char.toLower == ['n'] || read.map Char.toLower == ['x']

/-! ## Reading -/

def quotedToken (mark : Char) (read : List Char) : Token :=
  if mark = accent then .name (String.ofList read) else .text (String.ofList read)

/-- A character between tokens: the sign that it is, or the place that it leads to. -/
def start (c : Char) : List Token × Place :=
  if isSpace c then ([], .between)
  else if isWordChar c then ([], .word [c])
  else if c = '\'' ∨ c = '"' ∨ c = accent then ([], .quoted c [])
  else if c = '#' then ([], .lineComment)
  else if c = '-' then ([], .dash)
  else if c = '/' then ([], .slash)
  else ([.sign c], .between)

/-- Tokens end before a character. -/
def closing (ts : List Token) (c : Char) : Option (List Token × Place) :=
  some (ts ++ (start c).1, (start c).2)

/-- What a character completes, and the place behind it. -/
def step : Place → Char → Option (List Token × Place)
  | .between, c => closing [] c
  | .word read, c =>
    if isWordChar c then some ([], .word (read ++ [c]))
    else if c = '\'' ∧ isMarker read then none
    else closing [.word (String.ofList read)] c
  | .quoted mark read, c =>
    if c = mark then some ([], .marked mark read)
    else if c = '\\' ∧ mark ≠ accent then some ([], .escape mark read)
    else some ([], .quoted mark (read ++ [c]))
  | .escape mark read, c => some ([], .quoted mark (read ++ escaped c))
  | .marked mark read, c =>
    if c = mark then some ([], .quoted mark (read ++ [c])) else closing [quotedToken mark read] c
  | .dash, c => if c = '-' then some ([], .twoDashes) else closing [.sign '-'] c
  | .twoDashes, c =>
    if c = '\n' then some ([], .between)
    else if isSpace c ∨ isControl c then some ([], .lineComment)
    else if c = '-' then some ([.sign '-'], .twoDashes)
    else closing [.sign '-', .sign '-'] c
  | .slash, c => if c = '*' then some ([], .opened) else closing [.sign '/'] c
  | .opened, c =>
    if c = '!' ∨ c = '+' then none else some ([], if c = '*' then .asterisk else .comment)
  | .comment, c => some ([], if c = '*' then .asterisk else .comment)
  | .asterisk, c =>
    some ([], if c = '/' then .between else if c = '*' then .asterisk else .comment)
  | .lineComment, c => some ([], if c = '\n' then .between else .lineComment)

/-- What the end of the statement completes. -/
def finish : Place → Option (List Token)
  | .between | .twoDashes | .lineComment => some []
  | .word read => some [.word (String.ofList read)]
  | .marked mark read => some [quotedToken mark read]
  | .dash => some [.sign '-']
  | .slash => some [.sign '/']
  | .quoted _ _ | .escape _ _ | .opened | .comment | .asterisk => none

/-- The tokens of some characters, and the place behind them. -/
def advance : Place → List Char → Option (List Token × Place)
  | p, [] => some ([], p)
  | p, c :: cs =>
    (step p c).bind fun (ts, p) => (advance p cs).map fun (more, p) => (ts ++ more, p)

/-- The tokens from a place on, if the statement can be taken apart to its end. -/
def tokensFrom (p : Place) (cs : List Char) : Option (List Token) :=
  (advance p cs).bind fun (ts, q) => (finish q).map (ts ++ ·)

def tokens (s : String) : Option (List Token) := tokensFrom .between s.toList

end MysqlMetrics.Sql
