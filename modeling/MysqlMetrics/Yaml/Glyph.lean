/-!
# Placed characters

YAML gives meaning to where a character stands. A `Glyph` is a character with its place, so that a
run of them can be read by plain recursion on a list. Line breaks are already brought to one
character each.
-/
namespace MysqlMetrics.Yaml

/-- A character, the line and column it stands on, and its number in the text. -/
structure Glyph where
  char : Char
  line : Nat
  column : Nat
  index : Nat
deriving DecidableEq, Repr, Inhabited

def isBreakChar (c : Char) : Bool :=
  c == '\n' || c == '\r' || c == '\x85' || c == '\u2028' || c == '\u2029'

/-- What may stand in a document at all: no control character but tab and line breaks. -/
def isAllowed (c : Char) : Bool :=
  let n := c.toNat
  c == '\t' || c == '\n' || c == '\r' || (0x20 ≤ n && n ≤ 0x7E) || n == 0x85 ||
    (0xA0 ≤ n && n ≤ 0xFFFD && n != 0xFEFF) || 0x10000 ≤ n

namespace Glyph

def isBreak (g : Glyph) : Bool := isBreakChar g.char

def isBlank (g : Glyph) : Bool := g.char == ' ' || g.char == '\t'

/-- Gives each character its place; a carriage return with its line feed is one break. -/
def place (line column index : Nat) : List Char → List Glyph
  | [] => []
  | '\r' :: '\n' :: rest => ⟨'\n', line, column, index⟩ :: place (line + 1) 0 (index + 2) rest
  | c :: rest =>
    if isBreakChar c then
      let kept := if c == '\u2028' || c == '\u2029' then c else '\n'
      ⟨kept, line, column, index⟩ :: place (line + 1) 0 (index + 1) rest
    else ⟨c, line, column, index⟩ :: place line (column + 1) (index + 1) rest

/-- The glyphs of a text, less a mark of byte order at its start; none if it holds a character
that no document may hold. -/
def ofText? (s : String) : Option (List Glyph) :=
  let cs := match s.toList with
    | '\ufeff' :: rest => rest
    | cs => cs
  if cs.all isAllowed then some (place 0 0 0 cs) else none

end Glyph

/-- Does a blank, a break or the end come next? -/
def blankOrEnd (gs : List Glyph) : Bool :=
  match gs with
  | [] => true
  | g :: _ => g.isBlank || g.isBreak

def nextIs (cs : List Char) (gs : List Glyph) : Bool :=
  match gs with
  | [] => false
  | g :: _ => cs.contains g.char

/-- Does the line begin with `---` or `...`, standing alone? -/
def documentMark? (gs : List Glyph) : Option Char :=
  match gs with
  | a :: b :: c :: rest =>
    if a.column == 0 && (a.char == '-' || a.char == '.') && b.char == a.char && c.char == a.char &&
      blankOrEnd rest then some a.char
    else none
  | _ => none

end MysqlMetrics.Yaml
