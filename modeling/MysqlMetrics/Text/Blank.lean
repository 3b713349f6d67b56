/-!
# Blanks

The white space of Unicode: the 25 code points with the property `White_Space`. Trimming and
splitting into words both go by it; U+200B, U+180E and U+FEFF are not blank.
-/
namespace MysqlMetrics.Text

/-- The code points with the Unicode property `White_Space`. -/
def isBlank (c : Char) : Bool :=
  let n := c.toNat
  (9 ≤ n && n ≤ 13) || n == 0x20 || n == 0x85 || n == 0xA0 || n == 0x1680 ||
    (0x2000 ≤ n && n ≤ 0x200A) || n == 0x2028 || n == 0x2029 || n == 0x202F || n == 0x205F ||
    n == 0x3000

/-! ## Trimming -/

def dropBlankStart (cs : List Char) : List Char := cs.dropWhile isBlank

def dropBlankEnd (cs : List Char) : List Char := (cs.reverse.dropWhile isBlank).reverse

def trimList (cs : List Char) : List Char := dropBlankEnd (dropBlankStart cs)

/-- The text without the blanks at its two ends. -/
def trim (s : String) : String := String.ofList (trimList s.toList)

/-! ## Words -/

/-- The maximal runs without a blank; `word` is the run being read, in reverse. -/
def wordsFrom : List Char → List Char → List (List Char)
  | [], word => if word.isEmpty then [] else [word.reverse]
  | c :: cs, word =>
    if isBlank c then
      if word.isEmpty then wordsFrom cs [] else word.reverse :: wordsFrom cs []
    else wordsFrom cs (c :: word)

def words (s : String) : List String := (wordsFrom s.toList []).map String.ofList

/-- Every run of blanks becomes one space, and the ends lose theirs. -/
def collapse (s : String) : String := " ".intercalate (words s)

end MysqlMetrics.Text
