import MysqlMetrics.Http.Landing
import MysqlMetrics.Http.Markup
import MysqlMetrics.Proofs.Registry.Flags
/-!
# The landing page as markup

The landing page takes a path and the names of scrapers into markup. The path is escaped: its four
replacements come to one entity for each character (`toList_escape`), so that the path can be read
back from them and ends no value. The names are not escaped, but a registry that can come about has
none with a character that means something to markup. What is read from the page is therefore the
same up to the path and the rows (`tokens_page`), and its tags are those of the frame with one row
for each scraper (`page_markup`).
-/
namespace MysqlMetrics

namespace Markup

/-! ## Reading piece by piece -/

/-- Some characters complete these tokens, and lead from one place to another. -/
structure Scans (p : Place) (cs : List Char) (ts : List Token) (q : Place) : Prop where
  scan_eq : scan p cs = (ts, q)

variable {p q r : Place} {cs ds : List Char} {ts us : List Token}

instance : Decidable (Scans p cs ts q) :=
  decidable_of_iff (scan p cs = (ts, q)) ⟨.mk, Scans.scan_eq⟩

theorem Scans.append (h : Scans p cs ts q) (h' : Scans q ds us r) :
    Scans p (cs ++ ds) (ts ++ us) r := by
  obtain ⟨h⟩ := h
  induction cs generalizing p ts with
  | nil =>
    cases h
    exact h'
  | cons c cs ih =>
    rcases hc : step p c with ⟨first, place⟩
    rcases hcs : scan place cs with ⟨more, place'⟩
    simp only [scan, hc, hcs] at h
    cases h
    obtain ⟨happend⟩ := ih hcs
    refine ⟨?_⟩
    rw [List.cons_append, scan]
    simp only [hc, happend, List.append_assoc]

theorem Scans.flatMap {α : Type} {xs : List α} {f : α → List Char} {g : α → List Token}
    (h : ∀ x ∈ xs, Scans p (f x) (g x) p) : Scans p (xs.flatMap f) (xs.flatMap g) p := by
  induction xs with
  | nil => exact ⟨rfl⟩
  | cons x xs ih =>
    rw [List.flatMap_cons, List.flatMap_cons]
    refine Scans.append (h x List.mem_cons_self) (ih ?_)
    intro y hy
    exact h y (List.mem_cons_of_mem x hy)

theorem scans_text {read : List Char} (h : '<' ∉ cs) :
    Scans (.text read) cs [] (.text (read ++ cs)) := by
  refine ⟨?_⟩
  induction cs generalizing read with
  | nil => simp [scan]
  | cons c cs ih =>
    simp only [List.mem_cons, not_or] at h
    rw [scan, step_text, if_neg (Ne.symm h.1)]
    simp [ih h.2]

theorem scans_quoted {tag : Tag} {key : String} {mark : Char} (read : List Char) (h : mark ∉ cs) :
    Scans (.quoted tag key mark read) cs [] (.quoted tag key mark (read ++ cs)) := by
  refine ⟨?_⟩
  induction cs generalizing read with
  | nil => simp [scan]
  | cons c cs ih =>
    simp only [List.mem_cons, not_or] at h
    rw [scan, step_quoted, if_neg (Ne.symm h.1)]
    simp [ih (read ++ [c]) h.2]

/-- A tag ends the text before it. -/
theorem scans_bracket {read : List Char} {c : Char} (h : beginsTag c = true) :
    Scans (.text read) ['<', c] (textToken read) (.name [c]) :=
  ⟨by simp [scan, step_text, step_opened read h]⟩

/-- The mark ends a value, and an angle bracket behind it the tag. -/
theorem scans_value_end {tag : Tag} {key : String} {mark : Char} {read : List Char} :
    Scans (.quoted tag key mark read) [mark, '>'] [.tag (tag.add key read)] (.text []) :=
  ⟨by simp [scan, step_quoted, step_between_close, closed]⟩

theorem tokens_of_scans {page : String} (h : Scans (.text []) page.toList ts q) :
    tokens page = ts ++ finish q := by
  unfold tokens
  rw [h.scan_eq]

theorem outline_append (ts us : List Token) : outline (ts ++ us) = outline ts ++ outline us :=
  List.filterMap_append

/-! ## Entities -/

theorem unescape_cons {c : Char} (h : c ≠ '&') (rest : List Char) :
    unescape (c :: rest) = c :: unescape rest := by
  rw [unescape]
  all_goals
    intro _ hc
    exact absurd hc h

theorem unescape_of_not_mem (h : '&' ∉ cs) : unescape cs = cs := by
  induction cs with
  | nil => rfl
  | cons c cs ih =>
    simp only [List.mem_cons, not_or] at h
    rw [unescape_cons (Ne.symm h.1), ih h.2]

end Markup

namespace Landing

open Markup

/-! ## The path -/

/-- What a character of the path is written as. -/
def escapeChar (c : Char) : List Char :=
  match c with
  | '&' => "&amp;".toList
  | '<' => "&lt;".toList
  | '>' => "&gt;".toList
  | '"' => "&quot;".toList
  | c => [c]

theorem escapeChar_of_ne {c : Char} (hamp : c ≠ '&') (hlt : c ≠ '<') (hgt : c ≠ '>')
    (hquot : c ≠ '"') : escapeChar c = [c] := by
  unfold escapeChar
  split
  · exact absurd rfl hamp
  · exact absurd rfl hlt
  · exact absurd rfl hgt
  · exact absurd rfl hquot
  · rfl

theorem toList_replace (c : Char) (entity s : String) : (replace c entity s).toList =
    s.toList.flatMap fun d => if d = c then entity.toList else [d] :=
  String.toList_ofList

/-- No replacement touches what an earlier one has brought. -/
theorem toList_escape (s : String) : (escape s).toList = s.toList.flatMap escapeChar := by
  unfold escape
  simp only [toList_replace, List.flatMap_assoc]
  congr 1
  funext c
  by_cases hamp : c = '&'
  · subst hamp; rfl
  by_cases hlt : c = '<'
  · subst hlt; rfl
  by_cases hgt : c = '>'
  · subst hgt; rfl
  by_cases hquot : c = '"'
  · subst hquot; rfl
  rw [escapeChar_of_ne hamp hlt hgt hquot, if_neg hamp, List.flatMap_singleton, if_neg hlt,
    List.flatMap_singleton, if_neg hgt, List.flatMap_singleton, if_neg hquot]

theorem unescape_escapeChar (c : Char) (rest : List Char) :
    unescape (escapeChar c ++ rest) = c :: unescape rest := by
  unfold escapeChar
  split
  · rfl
  · rfl
  · rfl
  · rfl
  · rename_i hamp _ _ _
    exact unescape_cons hamp rest

theorem unescape_escape (s : String) : unescape (escape s).toList = s.toList := by
  rw [toList_escape]
  induction s.toList with
  | nil => rfl
  | cons c cs ih => rw [List.flatMap_cons, unescape_escapeChar, ih]

/-- A character that ends neither a text nor a quoted value. -/
def isHarmless (c : Char) : Bool := c != '<' && c != '>' && c != '"'

theorem all_escapeChar (c : Char) : (escapeChar c).all isHarmless = true := by
  unfold escapeChar
  split
  · decide
  · decide
  · decide
  · decide
  · rename_i hlt hgt hquot
    simpa [isHarmless] using And.intro (And.intro hlt hgt) hquot

theorem ne_of_mem_escape {s : String} {c : Char} (h : c ∈ (escape s).toList) :
    c ≠ '<' ∧ c ≠ '>' ∧ c ≠ '"' := by
  rw [toList_escape] at h
  obtain ⟨d, -, hc⟩ := List.mem_flatMap.1 h
  have hharmless := List.all_eq_true.1 (all_escapeChar d) c hc
  simpa [isHarmless, and_assoc] using hharmless

/-! ## The names -/

/-- The characters that mean something to markup. -/
def special : List Char := ['&', '<', '>', '"', '\'']

theorem not_special_of_isName {name : String} (h : Registry.IsName name) {c : Char}
    (hc : c ∈ name.toList) : c ∉ special := by
  have hnone : special.all (fun c => !Registry.isNameChar c) = true := by decide
  intro hspecial
  have hno := List.all_eq_true.1 hnone c hspecial
  rw [Registry.isNameChar_iff.2 (h.2 c hc)] at hno
  cases hno

variable {allowed : Scraper → Prop} {r : Registry}

theorem isName_of_mem_describe (h : Registry.Reachable allowed r) {p : String × Bool × Bool}
    (hp : p ∈ r.describe) : Registry.IsName p.1 := by
  obtain ⟨⟨name, e⟩, he, rfl⟩ := List.mem_map.1 hp
  have hw := h.registrable.wellFormed
  have hmem : (name, e.scraper) ∈ r.scrapers := List.mem_map_of_mem he
  have hname : e.scraper.name = name := hw.named _ hmem
  exact hname ▸ (hw.allowed _ hmem).2.named

/-! ## The page -/

/-- A tag without attributes, opening or closing. -/
def bareTag (name : String) : Token := .tag ⟨name, []⟩

/-- What is read up to the link. -/
def topTokens : List Token :=
  [.tag ⟨"!DOCTYPE", [("html", "")]⟩, .text "\n", bareTag "html", .text "\n", bareTag "head",
    bareTag "title", .text "MySQLd Exporter", bareTag "/title", bareTag "/head", .text "\n",
    bareTag "body", .text "\n", bareTag "h1", .text "MySQLd Exporter", bareTag "/h1", .text "\n",
    bareTag "p", .text (Program.name ++ " " ++ Program.version), bareTag "/p"]

/-- What is read from the link to the table. -/
def linkTokens (path : String) : List Token :=
  [.text "\n", bareTag "p", .tag ⟨"a", [("href", path)]⟩, .text "Metrics", bareTag "/a",
    bareTag "/p",
    .text "\n", bareTag "h2", .text "Collectors", bareTag "/h2", .text "\n", bareTag "table"]

def headingTokens : List Token :=
  [.text "\n", bareTag "tr", bareTag "th", .text "Name", bareTag "/th", bareTag "th",
    .text "Default", bareTag "/th", bareTag "th", .text "Enabled", bareTag "/th", bareTag "/tr"]

def rowTokens (scraper : String × Bool × Bool) : List Token :=
  [.text "\n", bareTag "tr", bareTag "td", .text scraper.1, bareTag "/td", bareTag "td",
    .text (if scraper.2.1 then "enabled" else "disabled"), bareTag "/td", bareTag "td",
    .text (if scraper.2.2 then "yes" else "no"), bareTag "/td", bareTag "/tr"]

def bottomTokens : List Token :=
  [.text "\n", bareTag "/table", .text "\n", bareTag "/body", .text "\n", bareTag "/html"]

/-- What is read from a page. -/
def pageTokens (path : String) (scrapers : List (String × Bool × Bool)) : List Token :=
  topTokens ++ linkTokens path ++ headingTokens ++ scrapers.flatMap rowTokens ++ bottomTokens ++
    [.text "\n"]

theorem scans_top : Scans (.text [])
    ("<!DOCTYPE html>\n<html>\n<head><title>MySQLd Exporter</title></head>\n<body>\n" ++
      "<h1>MySQLd Exporter</h1>\n<p>" ++ Program.name ++ " " ++ Program.version ++ "</p>\n").toList
    topTokens (.text ['\n']) := by
  decide +kernel

theorem scans_link (path : String) : Scans (.text ['\n'])
    ("<p><a href=\"" ++ escape path ++
      "\">Metrics</a></p>\n<h2>Collectors</h2>\n<table>\n").toList
    (linkTokens path) (.text ['\n']) := by
  have hquote : '"' ∉ (escape path).toList := by
    intro hmem
    exact (ne_of_mem_escape hmem).2.2 rfl
  have hopen : Scans (.text ['\n']) "<p><a href=\"".toList [.text "\n", bareTag "p"]
    (.quoted ⟨"a", []⟩ "href" '"' []) := by decide +kernel
  have hpath : Scans (.quoted ⟨"a", []⟩ "href" '"' []) (escape path).toList []
      (.quoted ⟨"a", []⟩ "href" '"' (escape path).toList) := by
    simpa only [List.nil_append] using scans_quoted [] hquote
  have hvalue : Tag.add ⟨"a", []⟩ "href" (escape path).toList = ⟨"a", [("href", path)]⟩ := by
    simp [Tag.add, unescape_escape]
  have hend : Scans (.quoted ⟨"a", []⟩ "href" '"' (escape path).toList) ['"', '>']
    [.tag ⟨"a", [("href", path)]⟩] (.text []) := hvalue ▸ scans_value_end
  have hrest : Scans (.text []) "Metrics</a></p>\n<h2>Collectors</h2>\n<table>\n".toList
      [.text "Metrics", bareTag "/a", bareTag "/p", .text "\n", bareTag "h2", .text "Collectors",
        bareTag "/h2", .text "\n", bareTag "table"] (.text ['\n']) := by
    decide +kernel
  have hsplit : "\">Metrics</a></p>\n<h2>Collectors</h2>\n<table>\n".toList =
      ['"', '>'] ++ "Metrics</a></p>\n<h2>Collectors</h2>\n<table>\n".toList := by
    decide +kernel
  rw [String.toList_append, String.toList_append, List.append_assoc, hsplit]
  exact hopen.append (hpath.append (hend.append hrest))

theorem scans_heading : Scans (.text ['\n'])
    "<tr><th>Name</th><th>Default</th><th>Enabled</th></tr>\n".toList headingTokens
    (.text ['\n']) := by
  decide +kernel

theorem textToken_of_isName {name : String} (h : Registry.IsName name) :
    textToken name.toList = [.text name] := by
  have hamp : '&' ∉ name.toList := by
    intro hmem
    exact not_special_of_isName h hmem (by decide)
  have hsome : name.toList.isEmpty = false := by
    have hne : name ≠ "" := h.1
    simpa using hne
  simp [textToken, hsome, unescape_of_not_mem hamp]

theorem scans_row {scraper : String × Bool × Bool} (h : Registry.IsName scraper.1) :
    Scans (.text ['\n']) (row scraper).toList (rowTokens scraper) (.text ['\n']) := by
  obtain ⟨name, default, enabled⟩ := scraper
  have hbracket : '<' ∉ name.toList := by
    intro hmem
    exact not_special_of_isName h hmem (by decide)
  have hopen : Scans (.text ['\n']) "<tr><td>".toList [.text "\n", bareTag "tr", bareTag "td"]
    (.text []) := by decide +kernel
  have hname : Scans (.text []) name.toList [] (.text name.toList) := scans_text hbracket
  have hend : Scans (.text name.toList) ['<', '/'] [.text name] (.name ['/']) :=
    textToken_of_isName h ▸ scans_bracket (by decide)
  have hrest : Scans (.name ['/'])
      ("td><td>" ++ (if default then "enabled" else "disabled") ++ "</td><td>" ++
        (if enabled then "yes" else "no") ++ "</td></tr>\n").toList
      [bareTag "/td", bareTag "td", .text (if default then "enabled" else "disabled"),
        bareTag "/td", bareTag "td", .text (if enabled then "yes" else "no"), bareTag "/td",
        bareTag "/tr"] (.text ['\n']) := by
    cases default <;> cases enabled <;> decide +kernel
  have hsplit : "</td><td>".toList = ['<', '/'] ++ "td><td>".toList := by decide +kernel
  have hrow := hopen.append (hname.append (hend.append hrest))
  unfold row
  simp only [String.toList_append, List.append_assoc, hsplit] at hrow ⊢
  exact hrow

theorem scans_bottom : Scans (.text ['\n']) "</table>\n</body>\n</html>\n".toList bottomTokens
    (.text ['\n']) := by
  decide +kernel

/-- A page is read as its frame around the path and the rows. -/
theorem tokens_page {scrapers : List (String × Bool × Bool)} (path : String)
    (h : ∀ p ∈ scrapers, Registry.IsName p.1) :
    tokens (page path scrapers) = pageTokens path scrapers := by
  have hrows : Scans (.text ['\n']) (String.join (scrapers.map row)).toList
      (scrapers.flatMap rowTokens) (.text ['\n']) := by
    rw [String.toList_join, List.flatMap_map]
    refine Scans.flatMap ?_
    intro p hp
    exact scans_row (h p hp)
  have hpage : Scans (.text []) (page path scrapers).toList
      (topTokens ++ (linkTokens path ++ (headingTokens ++ (scrapers.flatMap rowTokens ++
        bottomTokens)))) (.text ['\n']) := by
    have hall := scans_top.append ((scans_link path).append (scans_heading.append
      (hrows.append scans_bottom)))
    unfold page
    simp only [String.toList_append, List.append_assoc] at hall ⊢
    exact hall
  rw [tokens_of_scans hpage, pageTokens]
  simp only [List.append_assoc]
  rfl

/-! ## The tags -/

/-- The tags of a row. -/
def rowOutline : List (String × List String) :=
  [("tr", []), ("td", []), ("/td", []), ("td", []), ("/td", []), ("td", []), ("/td", []),
    ("/tr", [])]

/-- The tags before the rows. -/
def topOutline : List (String × List String) :=
  [("!DOCTYPE", ["html"]), ("html", []), ("head", []), ("title", []), ("/title", []), ("/head", []),
    ("body", []), ("h1", []), ("/h1", []), ("p", []), ("/p", []), ("p", []), ("a", ["href"]),
    ("/a", []), ("/p", []), ("h2", []), ("/h2", []), ("table", []), ("tr", []), ("th", []),
    ("/th", []), ("th", []), ("/th", []), ("th", []), ("/th", []), ("/tr", [])]

def bottomOutline : List (String × List String) := [("/table", []), ("/body", []), ("/html", [])]

/-- The tags of a page with so many rows. -/
def pageOutline (rows : Nat) : List (String × List String) :=
  topOutline ++ (List.replicate rows rowOutline).flatten ++ bottomOutline

theorem outline_rows (scrapers : List (String × Bool × Bool)) :
    outline (scrapers.flatMap rowTokens) = (List.replicate scrapers.length rowOutline).flatten := by
  induction scrapers with
  | nil => rfl
  | cons scraper rest ih =>
    have hrow : outline (rowTokens scraper) = rowOutline := rfl
    rw [List.flatMap_cons, outline_append, hrow, ih, List.length_cons, List.replicate_succ,
      List.flatten_cons]

theorem outline_pageTokens (path : String) (scrapers : List (String × Bool × Bool)) :
    outline (pageTokens path scrapers) = pageOutline scrapers.length := by
  have htop : outline (topTokens ++ linkTokens path ++ headingTokens) = topOutline := rfl
  have hbottom : outline (bottomTokens ++ [.text "\n"]) = bottomOutline := rfl
  rw [pageTokens, List.append_assoc, outline_append, outline_append, htop, outline_rows, hbottom]
  rfl

/-- Whatever the path and the registry are, the page is its frame with the path as the value of the
link and one row for each scraper: its tags depend on nothing but the number of scrapers. The
escaped path can be read back, and neither it nor any name has a character that could end a text or
a value. -/
theorem page_markup {r : Registry} (h : Registry.Reachable allowed r) (path : String) :
    (∀ s : String, unescape (escape s).toList = s.toList) ∧
      (∀ s : String, ∀ c ∈ (escape s).toList, c ≠ '<' ∧ c ≠ '>' ∧ c ≠ '"') ∧
      (∀ p ∈ r.describe, ∀ c ∈ p.1.toList, c ∉ special) ∧
      tokens (page path r.describe) = pageTokens path r.describe ∧
      outline (tokens (page path r.describe)) = pageOutline r.describe.length := by
  have hnames : ∀ p ∈ r.describe, Registry.IsName p.1 := by
    intro p hp
    exact isName_of_mem_describe h hp
  refine ⟨unescape_escape, ?_, ?_, ?_, ?_⟩
  · intro s c hc
    exact ne_of_mem_escape hc
  · intro p hp c hc
    exact not_special_of_isName (hnames p hp) hc
  · exact tokens_page path hnames
  · rw [tokens_page path hnames]
    exact outline_pageTokens path r.describe

/-- A path that looks like markup leaves the page with the two rows of its scrapers. -/
theorem page_markup_dotted : Registry.Reachable (fun _ => True) Registry.dotted ∧
    tokens (page "/\"><b>&amp;" Registry.dotted.describe) =
      pageTokens "/\"><b>&amp;" [("a", true, true), ("a.b", false, false)] ∧
    outline (tokens (page "/\"><b>&amp;" Registry.dotted.describe)) = pageOutline 2 := by
  have hreach : Registry.Reachable (fun _ => True) Registry.dotted :=
    Registry.reachable_registryOf fun _ _ => trivial
  obtain ⟨-, -, -, htokens, houtline⟩ := page_markup hreach "/\"><b>&amp;"
  have hdescribe : Registry.dotted.describe = [("a", true, true), ("a.b", false, false)] := rfl
  rw [hdescribe] at htokens houtline ⊢
  exact ⟨hreach, htokens, houtline⟩

end Landing
end MysqlMetrics
