import MysqlMetrics.Sql.Token
import MysqlMetrics.Text.Split
/-!
# Selections

The part of the server's grammar that the queries are written in, over the tokens of a statement:
items from a table, with a filter that compares an expression with a list, or without one. An
expression is a name, a text or a call. A call may be without arguments; a list may not be empty.
-/
namespace MysqlMetrics.Sql

/-- The words that a selection is built with. None of them is a name. -/
def keywords : List String := ["select", "as", "from", "where", "not", "in"]

/-- The case of letters does not matter. -/
def Token.isKeyword (keyword : String) : Token → Bool
  | .word s => Text.asciiLower s == keyword
  | _ => false

/-- A name, which may be written without accents if it is no keyword. -/
def Token.isName : Token → Bool
  | .word s => !keywords.contains (Text.asciiLower s)
  | .name _ => true
  | _ => false

/-- Parts with commas between them. -/
def commas (parts : List (List Token)) : List Token := [.sign ','].intercalate parts

inductive IsExpr : List Token → Prop
  | text (s : String) : IsExpr [.text s]
  | name {t : Token} (ht : t.isName = true) : IsExpr [t]
  | call {f : String} {args : List (List Token)} (hf : (Token.word f).isName = true)
      (hargs : ∀ e ∈ args, IsExpr e) : IsExpr (.word f :: .sign '(' :: commas args ++ [.sign ')'])

/-- What is selected: an expression, which may be given a name. -/
inductive IsItem : List Token → Prop
  | plain {e : List Token} (he : IsExpr e) : IsItem e
  | named {e : List Token} {k n : Token} (he : IsExpr e) (hk : k.isKeyword "as" = true)
      (hn : n.isName = true) : IsItem (e ++ [k, n])

/-- A table by its name, in the database that is chosen or in another. -/
inductive IsTable : List Token → Prop
  | plain {t : Token} (ht : t.isName = true) : IsTable [t]
  | within {d t : Token} (hd : d.isName = true) (ht : t.isName = true) : IsTable [d, .sign '.', t]

/-- The expressions that another is compared with: at least one. -/
inductive IsList : List Token → Prop
  | mk {es : List (List Token)} (hne : es ≠ []) (hes : ∀ e ∈ es, IsExpr e) :
      IsList (.sign '(' :: commas es ++ [.sign ')'])

inductive IsFilter : List Token → Prop
  | within {e list : List Token} {k : Token} (he : IsExpr e) (hk : k.isKeyword "in" = true)
      (hlist : IsList list) : IsFilter (e ++ k :: list)
  | without {e list : List Token} {n k : Token} (he : IsExpr e) (hn : n.isKeyword "not" = true)
      (hk : k.isKeyword "in" = true) (hlist : IsList list) : IsFilter (e ++ n :: k :: list)

/-- Items from a table. -/
inductive IsSource : List Token → Prop
  | mk {s f : Token} {items : List (List Token)} {table : List Token}
      (hs : s.isKeyword "select" = true) (hne : items ≠ []) (hitems : ∀ i ∈ items, IsItem i)
      (hf : f.isKeyword "from" = true) (htable : IsTable table) :
      IsSource (s :: commas items ++ f :: table)

/-- Items from all rows of a table, or from those that a filter lets through. -/
inductive IsSelection : List Token → Prop
  | all {source : List Token} (hsource : IsSource source) : IsSelection source
  | filtered {source filter : List Token} {w : Token} (hsource : IsSource source)
      (hw : w.isKeyword "where" = true) (hfilter : IsFilter filter) :
      IsSelection (source ++ w :: filter)

/-- A text that can be taken apart to its end, into a selection. -/
def IsStatement (s : String) : Prop := ∃ ts, tokens s = some ts ∧ IsSelection ts

end MysqlMetrics.Sql
