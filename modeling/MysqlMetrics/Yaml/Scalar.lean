import MysqlMetrics.Yaml.Glyph
/-!
# Scalars

The four ways to write a scalar: plain, in single or double quotes, and as a block. In the first
three a single line break reads as a space and blank lines as breaks (`Gap.fold`).
-/
namespace MysqlMetrics.Yaml

/-- What stands between two words of a scalar. -/
inductive Gap where
  | none
  /-- Blanks on one line, last first. -/
  | blanks (chars : List Char)
  /-- A line break, or one that a backslash took away, then further ones, last first. -/
  | breaks (first : Option Char) (more : List Char)
deriving DecidableEq

namespace Gap

def isBroken : Gap → Bool
  | .breaks .. => true
  | _ => false

def isNone : Gap → Bool
  | .none => true
  | _ => false

/-- The gap with a blank more: blanks beside a break do not count. -/
def blank (c : Char) : Gap → Gap
  | .none => .blanks [c]
  | .blanks cs => .blanks (c :: cs)
  | g => g

def lineBreak (c : Char) : Gap → Gap
  | .breaks b more => .breaks b (c :: more)
  | _ => .breaks (some c) []

/-- What a gap stands for, last first: a lone line feed is a space. -/
def fold : Gap → List Char
  | .none => []
  | .blanks cs => cs
  | .breaks .none more => more
  | .breaks (.some b) more =>
    if b != '\n' then more ++ [b] else if more.isEmpty then [' '] else more

end Gap

/-- A scalar that was read, whether a line break ended it, and what follows. -/
structure ScalarText where
  text : String
  endsLine : Bool
  rest : List Glyph

/-- Reads a plain scalar. Outside of brackets it also ends at a line that stands left of `indent`.
`acc` holds what was read, last first. -/
def plainScalar (inFlow : Bool) (indent : Nat) : List Char → Gap → List Glyph → Option ScalarText
  | acc, gap, [] => some ⟨String.ofList acc.reverse, gap.isBroken, []⟩
  | acc, gap, g :: rest =>
    let stop := some ⟨String.ofList acc.reverse, gap.isBroken, g :: rest⟩
    if g.isBreak then plainScalar inFlow indent acc (gap.lineBreak g.char) rest
    else if g.isBlank then
      if gap.isBroken && g.column < indent && g.char == '\t' then none
      else plainScalar inFlow indent acc (gap.blank g.char) rest
    else if !gap.isNone && (g.char == '#' || (documentMark? (g :: rest)).isSome ||
        (gap.isBroken && !inFlow && g.column < indent)) then stop
    else if inFlow && g.char == ':' && nextIs [',', '?', '[', ']', '\x7b', '\x7d'] rest then none
    else if g.char == ':' && blankOrEnd rest then stop
    else if inFlow && [',', '[', ']', '\x7b', '\x7d'].contains g.char then stop
    else plainScalar inFlow indent (g.char :: (gap.fold ++ acc)) .none rest

/-- Reads what follows an opening single quote; the quote is written twice inside. -/
def singleQuoted : List Char → Gap → List Glyph → Option (String × List Glyph)
  | _, _, [] => none
  | acc, gap, g :: rest =>
    if (documentMark? (g :: rest)).isSome then none
    else if g.isBreak then singleQuoted acc (gap.lineBreak g.char) rest
    else if g.isBlank then singleQuoted acc (gap.blank g.char) rest
    else if g.char != '\'' then singleQuoted (g.char :: (gap.fold ++ acc)) .none rest
    else
      match rest with
      | g' :: rest' =>
        if g'.char == '\'' then singleQuoted ('\'' :: (gap.fold ++ acc)) .none rest'
        else some (String.ofList (gap.fold ++ acc).reverse, rest)
      | [] => some (String.ofList (gap.fold ++ acc).reverse, [])

/-- What a letter after a backslash stands for. -/
def escapedChar? (c : Char) : Option Char :=
  match c with
  | '0' => some '\x00'
  | 'a' => some '\x07'
  | 'b' => some '\x08'
  | 't' | '\t' => some '\t'
  | 'n' => some '\n'
  | 'v' => some '\x0b'
  | 'f' => some '\x0c'
  | 'r' => some '\r'
  | 'e' => some '\x1b'
  | ' ' => some ' '
  | '"' => some '"'
  | '/' => some '/'
  | '\\' => some '\\'
  | 'N' => some '\x85'
  | '_' => some '\xa0'
  | 'L' => some '\u2028'
  | 'P' => some '\u2029'
  | _ => none

/-- How many hexadecimal digits follow the letter of a numbered character. -/
def escapeDigits? (c : Char) : Option Nat :=
  match c with
  | 'x' => some 2
  | 'u' => some 4
  | 'U' => some 8
  | _ => none

def hexDigit? (c : Char) : Option Nat :=
  if c.isDigit then some (c.toNat - '0'.toNat)
  else if 'a' ≤ c && c ≤ 'f' then some (c.toNat - 'a'.toNat + 10)
  else if 'A' ≤ c && c ≤ 'F' then some (c.toNat - 'A'.toNat + 10)
  else none

/-- Where a double-quoted scalar stands: in its text, after a backslash, or within a number of
which so many digits are missing. -/
inductive QuotedState where
  | text
  | escape
  | number (missing value : Nat)

/-- Reads what follows an opening double quote. A backslash at the end of a line joins it to the
next. -/
def doubleQuoted : QuotedState → List Char → Gap → List Glyph → Option (String × List Glyph)
  | _, _, _, [] => none
  | .text, acc, gap, g :: rest =>
    if (documentMark? (g :: rest)).isSome then none
    else if g.isBreak then doubleQuoted .text acc (gap.lineBreak g.char) rest
    else if g.isBlank then doubleQuoted .text acc (gap.blank g.char) rest
    else if g.char == '"' then some (String.ofList (gap.fold ++ acc).reverse, rest)
    else if g.char == '\\' then doubleQuoted .escape (gap.fold ++ acc) .none rest
    else doubleQuoted .text (g.char :: (gap.fold ++ acc)) .none rest
  | .escape, acc, _, g :: rest =>
    if g.isBreak then doubleQuoted .text acc (.breaks Option.none []) rest
    else
      match escapeDigits? g.char, escapedChar? g.char with
      | some n, _ => doubleQuoted (.number n 0) acc .none rest
      | none, some c => doubleQuoted .text (c :: acc) .none rest
      | none, none => none
  | .number missing value, acc, _, g :: rest =>
    match hexDigit? g.char with
    | none => none
    | some d =>
      let value := value * 16 + d
      if 1 < missing then doubleQuoted (.number (missing - 1) value) acc .none rest
      else if value < 0xD800 || (0xDFFF < value && value ≤ 0x10FFFF) then
        doubleQuoted .text (Char.ofNat value :: acc) .none rest
      else none

/-! ## Blocks -/

/-- What a block does with the breaks at its end. -/
inductive Chomp where
  | strip
  | clip
  | keep
deriving DecidableEq

/-- Reads the header of a block: marks in either order, then blanks and a comment up to the end of
the line. Gives how it ends, its indentation if that is given, and the lines that follow. -/
def blockHeader (chomp : Option Chomp) (width : Option Nat) :
    List Glyph → Option (Chomp × Option Nat × List Glyph)
  | [] => some (chomp.getD .clip, width, [])
  | g :: rest =>
    if g.isBreak then some (chomp.getD .clip, width, rest)
    else if chomp.isNone && g.char == '+' then blockHeader (some .keep) width rest
    else if chomp.isNone && g.char == '-' then blockHeader (some .strip) width rest
    else if width.isNone && '1' ≤ g.char && g.char ≤ '9' then
      blockHeader chomp (some (g.char.toNat - '0'.toNat)) rest
    else if g.isBlank then
      match (rest.dropWhile Glyph.isBlank) with
      | [] => some (chomp.getD .clip, width, [])
      | h :: tail =>
        if h.char == '#' then
          some (chomp.getD .clip, width, (tail.dropWhile (fun x => !x.isBreak)).drop 1)
        else if h.isBreak then some (chomp.getD .clip, width, tail)
        else none
    else none

/-- The lines of a run of glyphs, each with its break. -/
def glyphLines (gs : List Glyph) : List (List Glyph) :=
  gs.foldr (fun g lines =>
    match lines with
    | [] => [[g]]
    | l :: ls => if g.isBreak then [g] :: l :: ls else (g :: l) :: ls) []

/-- The width of the leading spaces of the blank lines and of the first line with text, the
greatest of them; none if a tab stands among them. -/
def leadingWidth : Nat → List (List Glyph) → Option Nat
  | widest, [] => some widest
  | widest, l :: ls =>
    let spaces := l.takeWhile (·.char == ' ')
    let widest := max widest spaces.length
    match l.drop spaces.length with
    | [] => some widest
    | g :: _ =>
      if g.char == '\t' then none
      else if g.isBreak then leadingWidth widest ls
      else some widest

/-- What a block has read so far, last first: its text, the break that is still undecided, the
blank lines after it, and whether the last line began with a blank. -/
structure BlockText where
  text : List Char := []
  lineEnd : List Char := []
  blankLines : List Char := []
  afterBlank : Bool := false

/-- A line of text comes next. In a folded block the break between two lines that do not begin
with a blank is a space. -/
def BlockText.line (folded : Bool) (b : BlockText) (content : List Char) (lineEnd : List Char) :
    BlockText :=
  let startsBlank := match content with
    | c :: _ => c == ' ' || c == '\t'
    | [] => false
  let joined :=
    if folded && b.lineEnd == ['\n'] && !b.afterBlank && !startsBlank then
      if b.blankLines.isEmpty then [' '] else []
    else b.lineEnd
  { text := content.reverse ++ (b.blankLines ++ (joined ++ b.text))
    lineEnd := lineEnd
    blankLines := []
    afterBlank := startsBlank }

def BlockText.finish (b : BlockText) : Chomp → String
  | .strip => String.ofList b.text.reverse
  | .clip => String.ofList (b.lineEnd ++ b.text).reverse
  | .keep => String.ofList (b.blankLines ++ (b.lineEnd ++ b.text)).reverse

/-- Reads the lines of a block of the given indentation. Gives its text and what follows. -/
def blockLines (folded : Bool) (indent : Nat) (b : BlockText) :
    List (List Glyph) → Option (BlockText × List Glyph)
  | [] => some (b, [])
  | l :: ls =>
    let spaces := ((l.take indent).takeWhile (·.char == ' ')).length
    match l.drop spaces with
    | [] => some (b, [])
    | g :: content =>
      if spaces < indent && g.char == '\t' then none
      else if g.isBreak then
        blockLines folded indent { b with blankLines := g.char :: b.blankLines } ls
      else if spaces < indent then some (b, (g :: content) ++ ls.flatten)
      else
        let (text, tail) := (g :: content).span (fun x => !x.isBreak)
        blockLines folded indent (b.line folded (text.map (·.char)) (tail.map (·.char))) ls

/-- Reads a block after its mark. `outer` is one more than the indentation around it. -/
def blockScalar (folded : Bool) (outer : Nat) (gs : List Glyph) : Option (String × List Glyph) :=
  (blockHeader none none gs).bind fun (chomp, width, rest) =>
    let lines := glyphLines rest
    let indent := match width with
      | some w => some (outer - 1 + w)
      | none => (leadingWidth 0 lines).map fun n => max n (max outer 1)
    indent.bind fun n =>
      (blockLines folded n {} lines).map fun (b, rest) => (b.finish chomp, rest)

end MysqlMetrics.Yaml
