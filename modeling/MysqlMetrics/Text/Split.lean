/-!
# Cutting text at a character

`splitList` cuts at every separator and always gives at least one piece; `cut` divides at the
first separator only.
-/
namespace MysqlMetrics.Text

/-- The pieces between the characters that `p` accepts: one more piece than separators. -/
def splitList (p : Char → Bool) : List Char → List (List Char)
  | [] => [[]]
  | c :: cs =>
    match splitList p cs with
    | [] => [[c]]
    | piece :: pieces => if p c then [] :: piece :: pieces else (c :: piece) :: pieces

def split (sep : Char) (s : String) : List String :=
  (splitList (· == sep) s.toList).map String.ofList

/-- What stands before and after the first separator, if there is one. -/
def cutList (sep : Char) : List Char → Option (List Char × List Char)
  | [] => none
  | c :: cs =>
    if c = sep then some ([], cs)
    else (cutList sep cs).map fun (before, after) => (c :: before, after)

def cut (sep : Char) (s : String) : Option (String × String) :=
  (cutList sep s.toList).map fun (before, after) => (String.ofList before, String.ofList after)

/-- What stands before and after the last separator, if there is one. -/
def cutLast (sep : Char) (s : String) : Option (String × String) :=
  (cutList sep s.toList.reverse).map fun (after, before) =>
    (String.ofList before.reverse, String.ofList after.reverse)

/-- The text after `start`, if the list begins with it. -/
def afterList : List Char → List Char → Option (List Char)
  | [], cs => some cs
  | _ :: _, [] => none
  | p :: ps, c :: cs => if p = c then afterList ps cs else none

/-- The rest of `s` after `start`, if `s` begins with it. -/
def after? (start s : String) : Option String :=
  (afterList start.toList s.toList).map String.ofList

/-- Does `needle` occur in the list? -/
def occursIn (needle : List Char) : List Char → Bool
  | [] => needle.isEmpty
  | c :: cs => (afterList needle (c :: cs)).isSome || occursIn needle cs

def contains (s needle : String) : Bool := occursIn needle.toList s.toList

/-! ## Letter case, ASCII only -/

def asciiLower (s : String) : String := String.ofList (s.toList.map Char.toLower)

/-- Equal up to the case of ASCII letters. -/
def sameIgnoringCase (a b : String) : Bool := asciiLower a == asciiLower b

end MysqlMetrics.Text
