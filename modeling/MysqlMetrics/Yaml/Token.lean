import MysqlMetrics.Yaml.Scalar
/-!
# Tokens

A document as a list of tokens. Indentation becomes tokens of its own: a deeper column opens a
block sequence or mapping and a shallower one closes it. That a scalar is a key is known only at
the colon after it, so the lexer remembers where such a key may have begun.
-/
namespace MysqlMetrics.Yaml

inductive Token where
  | directive (words : List String)
  | documentStart
  | documentEnd
  | blockSequence
  | blockMapping
  | blockEnd
  | flowSequence
  | flowSequenceEnd
  | flowMapping
  | flowMappingEnd
  /-- The dash before an item of a block sequence. -/
  | item
  | comma
  | key
  | value
  | alias (name : String)
  | anchor (name : String)
  | tag (name : String)
  | scalar (plain : Bool) (text : String)
deriving DecidableEq, Repr, Inhabited

/-- Where a key without mark may begin: the number of the token before which it stands, its place,
and whether nothing but a key may stand there. -/
structure PossibleKey where
  position : Nat
  place : Glyph
  required : Bool

/-- The state between two tokens. -/
structure Lexer where
  tokens : List Token := []
  /-- The columns of the open block collections, innermost first. -/
  indents : List Nat := []
  /-- The possible key of each open bracket, innermost first, and last that of the block. -/
  keys : List (Option PossibleKey) := [none]
  keyAllowed : Bool := true

namespace Lexer

def inFlow (l : Lexer) : Bool := 1 < l.keys.length

/-- One more than the column of the innermost block collection, zero if there is none. -/
def outer (l : Lexer) : Nat :=
  match l.indents with
  | [] => 0
  | n :: _ => n + 1

def push (l : Lexer) (t : Token) : Lexer := { l with tokens := l.tokens ++ [t] }

/-- Closes the block collections that stand right of a column. -/
def unroll (column : Nat) (l : Lexer) : Lexer :=
  if l.inFlow then l
  else
    let (closed, kept) := l.indents.span (column < ·)
    { l with tokens := l.tokens ++ closed.map (fun _ => .blockEnd), indents := kept }

def unrollAll (l : Lexer) : Lexer :=
  if l.inFlow then l
  else { l with tokens := l.tokens ++ l.indents.map (fun _ => .blockEnd), indents := [] }

/-- Opens a block collection at a column, before the token of the given number, unless one is open
there. -/
def roll (column position : Nat) (t : Token) (l : Lexer) : Lexer :=
  if l.inFlow || column < l.outer then l
  else { l with tokens := l.tokens.insertIdx position t, indents := column :: l.indents }

/-- Forgets the possible key; an error if a key had to stand there. -/
def dropKey (l : Lexer) : Option Lexer :=
  match l.keys with
  | some k :: rest => if k.required then none else some { l with keys := none :: rest }
  | _ => some l

/-- Remembers that the next token may be a key. -/
def saveKey (g : Glyph) (l : Lexer) : Option Lexer :=
  if l.keyAllowed then
    let required := !l.inFlow && l.outer == g.column + 1
    l.dropKey.map fun l => { l with keys := some ⟨l.tokens.length, g, required⟩ :: l.keys.drop 1 }
  else some l

/-- A key ends on its own line and within 1024 characters. -/
def PossibleKey.isStale (k : PossibleKey) (g : Glyph) : Bool :=
  k.place.line < g.line || k.place.index + 1024 < g.index

/-- Forgets the keys that can no longer be ones. -/
def dropStaleKeys (g : Glyph) (l : Lexer) : Option Lexer :=
  let stale (k : PossibleKey) : Bool := PossibleKey.isStale k g
  if l.keys.any (fun k => k.any fun k => stale k && k.required) then none
  else some { l with keys := l.keys.map fun k => k.filter fun k => !stale k }

def openFlow (g : Glyph) (t : Token) (l : Lexer) : Option Lexer :=
  (l.saveKey g).map fun l => { l.push t with keys := none :: l.keys, keyAllowed := true }

def closeFlow (t : Token) (l : Lexer) : Option Lexer :=
  l.dropKey.map fun l =>
    let keys := if l.inFlow then l.keys.drop 1 else l.keys
    { l.push t with keys := keys, keyAllowed := false }

def addItem (g : Glyph) (l : Lexer) : Option Lexer :=
  if l.inFlow then l.dropKey.map fun l => { l.push .item with keyAllowed := true }
  else if l.keyAllowed then
    (l.roll g.column l.tokens.length .blockSequence).dropKey.map fun l => l.push .item
  else none

def addKey (g : Glyph) (l : Lexer) : Option Lexer :=
  if l.inFlow then l.dropKey.map fun l => { l.push .key with keyAllowed := false }
  else if l.keyAllowed then
    (l.roll g.column l.tokens.length .blockMapping).dropKey.map fun l => l.push .key
  else none

/-- A colon: what stood where a key was possible becomes one. -/
def addValue (g : Glyph) (l : Lexer) : Option Lexer :=
  match l.keys with
  | some k :: rest =>
    let l := { l with tokens := l.tokens.insertIdx k.position .key, keys := none :: rest }
    some { (l.roll k.place.column k.position .blockMapping).push .value with keyAllowed := false }
  | _ =>
    if l.inFlow then some { l.push .value with keyAllowed := false }
    else if l.keyAllowed then some ((l.roll g.column l.tokens.length .blockMapping).push .value)
    else none

def addDocumentMark (t : Token) (l : Lexer) : Option Lexer :=
  l.unrollAll.dropKey.map fun l => { l.push t with keyAllowed := false }

end Lexer

/-- Passes over blanks, comments and line breaks. After a break a key may stand again. A tab is
blank only where no key may stand. -/
def skipBlank (inFlow : Bool) : Bool → Bool → List Glyph → Bool × List Glyph
  | keyAllowed, _, [] => (keyAllowed, [])
  | keyAllowed, inComment, g :: rest =>
    if g.isBreak then skipBlank inFlow (keyAllowed || !inFlow) false rest
    else if inComment || g.char == ' ' || (g.char == '\t' && (inFlow || !keyAllowed)) then
      skipBlank inFlow keyAllowed inComment rest
    else if g.char == '#' then skipBlank inFlow keyAllowed true rest
    else (keyAllowed, g :: rest)

def isNameChar (c : Char) : Bool := c.isAlphanum || c == '_' || c == '-'

/-- The name after `&` or `*`. -/
def anchorName (gs : List Glyph) : Option (String × List Glyph) :=
  let (name, rest) := gs.span fun g => isNameChar g.char
  if name.isEmpty then none
  else if blankOrEnd rest || nextIs ['?', ':', ',', ']', '\x7d', '%', '@', '\x60'] rest then
    some (String.ofList (name.map (·.char)), rest)
  else none

def isTagChar (inFlow : Bool) (c : Char) : Bool :=
  isNameChar c || [';', '/', '?', ':', '@', '&', '=', '+', '$', '.', '!', '~', '*', '\'', '(', ')',
    '%'].contains c || (!inFlow && [',', '[', ']'].contains c)

/-- The tag after `!`, with the mark it began with. -/
def tagName (inFlow : Bool) (gs : List Glyph) : Option (String × List Glyph) :=
  let (name, rest) :=
    if nextIs ['<'] gs then
      let (inside, rest) := gs.span fun g => g.char != '>' && !g.isBlank && !g.isBreak
      (inside ++ rest.take 1, rest.drop 1)
    else gs.span fun g => isTagChar inFlow g.char
  let text := name.map (·.char)
  if text.head? == some '<' && text.getLast? != some '>' then none
  else if blankOrEnd rest || (inFlow && nextIs [','] rest) then
    some (String.ofList ('!' :: text), rest)
  else none

/-- The words of a directive, up to a comment or the end of the line. -/
def directiveWords (gs : List Glyph) : List String × List Glyph :=
  let (line, rest) := gs.span fun g => !g.isBreak
  let words := (line.map (·.char)).splitBy fun a b =>
    !(a == ' ' || a == '\t') && !(b == ' ' || b == '\t')
  let words := words.filter fun w => w != [' '] && w != ['\t']
  ((words.takeWhile fun w => w.head? != some '#').map String.ofList, rest)

/-- May a plain scalar begin here? -/
def startsPlain (inFlow : Bool) (g : Glyph) (rest : List Glyph) : Bool :=
  let dash := g.char == '-' && !(nextIs [' ', '\t'] rest)
  let mark := !inFlow && (g.char == '?' || g.char == ':') && !blankOrEnd rest
  let indicators := ['-', '?', ':', ',', '[', ']', '\x7b', '\x7d', '#', '&', '*', '!', '|', '>',
    '\'', '"', '%', '@', '\x60']
  dash || mark || !indicators.contains g.char

/-- Reads one token, which begins at `g`. -/
def Lexer.step (l : Lexer) (g : Glyph) (rest : List Glyph) : Option (Lexer × List Glyph) :=
  let keep (rest : List Glyph) (l : Option Lexer) : Option (Lexer × List Glyph) :=
    l.map fun l => (l, rest)
  /- a token that may be a key, and after which none may stand on the line -/
  let word (t : Token) (rest : List Glyph) : Option (Lexer × List Glyph) :=
    keep rest ((l.saveKey g).map fun l => { l.push t with keyAllowed := false })
  let isMark := l.inFlow || blankOrEnd rest
  match documentMark? (g :: rest) with
  | some c =>
    keep (rest.drop 2) (l.addDocumentMark (if c == '-' then .documentStart else .documentEnd))
  | none =>
    if g.column == 0 && g.char == '%' then
      let (words, rest) := directiveWords rest
      keep rest (l.addDocumentMark (.directive words))
    else if g.char == '[' then keep rest (l.openFlow g .flowSequence)
    else if g.char == '\x7b' then keep rest (l.openFlow g .flowMapping)
    else if g.char == ']' then keep rest (l.closeFlow .flowSequenceEnd)
    else if g.char == '\x7d' then keep rest (l.closeFlow .flowMappingEnd)
    else if g.char == ',' then
      keep rest (l.dropKey.map fun l => { l.push .comma with keyAllowed := true })
    else if g.char == '-' && blankOrEnd rest then keep rest (l.addItem g)
    else if g.char == '?' && isMark then keep rest (l.addKey g)
    else if g.char == ':' && isMark then keep rest (l.addValue g)
    else if g.char == '*' then (anchorName rest).bind fun (n, rest) => word (.alias n) rest
    else if g.char == '&' then (anchorName rest).bind fun (n, rest) => word (.anchor n) rest
    else if g.char == '!' then (tagName l.inFlow rest).bind fun (n, rest) => word (.tag n) rest
    else if (g.char == '|' || g.char == '>') && !l.inFlow then
      (blockScalar (g.char == '>') l.outer rest).bind fun (s, rest) =>
        keep rest (l.dropKey.map fun l => { l.push (.scalar false s) with keyAllowed := true })
    else if g.char == '\'' then
      (singleQuoted [] .none rest).bind fun (s, rest) => word (.scalar false s) rest
    else if g.char == '"' then
      (doubleQuoted .text [] .none rest).bind fun (s, rest) => word (.scalar false s) rest
    else if startsPlain l.inFlow g rest then
      (plainScalar l.inFlow l.outer [] .none (g :: rest)).bind fun s =>
        (word (.scalar true s.text) s.rest).map fun (l, rest) =>
          ({ l with keyAllowed := s.endsLine }, rest)
    else none

/-- Reads the tokens of the rest; every step takes at least one glyph, so as many steps as there
are glyphs are enough. -/
def Lexer.run : Nat → Lexer → List Glyph → Option (List Token)
  | 0, _, _ => none
  | fuel + 1, l, gs =>
    let (keyAllowed, gs) := skipBlank l.inFlow l.keyAllowed false gs
    let l := { l with keyAllowed := keyAllowed }
    match gs with
    | [] => l.unrollAll.dropKey.map (·.tokens)
    | g :: rest =>
      ((l.dropStaleKeys g).bind fun l => (l.unroll g.column).step g rest).bind
        fun (l, rest) => Lexer.run fuel l rest

/-- The tokens of a text, unless it is not well-formed. -/
def Token.ofText? (s : String) : Option (List Token) :=
  (Glyph.ofText? s).bind fun gs => Lexer.run (gs.length + 1) {} gs

end MysqlMetrics.Yaml
