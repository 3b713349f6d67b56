import MysqlMetrics.Sql.Token
/-!
# Quoted text is read as one token

A statement is read piece by piece (`tokensFrom_append`), and a character that does not belong to a
token is read as if the statement began with it (`tokensFrom_closing`). So whatever is put between
marks in such a way that each of its characters is read back (`tokensFrom_quoted`) is one token, and
the statement goes on behind it as before. That holds of literals and of identifiers.
-/
namespace MysqlMetrics.Sql

variable {p q : Place} {c mark : Char} {cs read rest : List Char} {ts : List Token}

/-! ## Piece by piece -/

theorem advance_append (xs ys : List Char) : advance p (xs ++ ys) =
    (advance p xs).bind fun (ts, q) => (advance q ys).map fun (more, q) => (ts ++ more, q) := by
  induction xs generalizing p with
  | nil => simp [advance]
  | cons x xs ih =>
    simp only [List.cons_append, advance, ih]
    cases step p x with
    | none => rfl
    | some r =>
      obtain ⟨ts, q⟩ := r
      simp only [Option.bind_some]
      cases advance q xs with
      | none => rfl
      | some r => cases advance r.2 ys <;> simp [Function.comp_def]

theorem tokensFrom_append (h : advance p cs = some (ts, q)) (rest : List Char) :
    tokensFrom p (cs ++ rest) = (tokensFrom q rest).map (ts ++ ·) := by
  unfold tokensFrom
  rw [advance_append, h]
  simp only [Option.bind_some]
  cases advance q rest with
  | none => rfl
  | some r =>
    obtain ⟨more, r⟩ := r
    cases finish r <;> simp [Function.comp_def]

/-- Tokens that end before a character: what follows is read as if the statement began there. -/
theorem tokensFrom_closing (h : step p c = closing ts c) (cs : List Char) :
    tokensFrom p (c :: cs) = (tokensFrom .between (c :: cs)).map (ts ++ ·) := by
  have hc : advance .between [c] = some ((start c).1, (start c).2) := by
    simp [advance, step, closing]
  have hp : advance p [c] = some (ts ++ (start c).1, (start c).2) := by simp [advance, h, closing]
  rw [← List.singleton_append, tokensFrom_append hp, tokensFrom_append hc, Option.map_map]
  simp [Function.comp_def]

/-! ## Between marks -/

theorem tokensFrom_marked (h : rest.head? ≠ some mark) : tokensFrom (.marked mark read) rest =
    (tokensFrom .between rest).map (quotedToken mark read :: ·) := by
  cases rest with
  | nil => simp [tokensFrom, advance, finish]
  | cons c cs =>
    have hc : ¬ c = mark := by simpa using h
    have hstep : step (.marked mark read) c = closing [quotedToken mark read] c := if_neg hc
    exact tokensFrom_closing hstep cs

/-- Each character is read back from what is written for it. -/
def ReadBack (mark : Char) (written : Char → List Char) : Prop := ∀ c read,
  advance (.quoted mark read) (written c) = some ([], .quoted mark (read ++ [c]))

variable {written : Char → List Char}

theorem ReadBack.flatMap (h : ReadBack mark written) (cs read : List Char) :
    advance (.quoted mark read) (cs.flatMap written) = some ([], .quoted mark (read ++ cs)) := by
  induction cs generalizing read with
  | nil => simp [advance]
  | cons c cs ih =>
    rw [List.flatMap_cons, advance_append, h c read]
    simp [ih]

/-- Whatever stands between marks and is read back is one token, unless a mark follows. -/
theorem tokensFrom_quoted (hw : ReadBack mark written) (hm : start mark = ([], .quoted mark []))
    (h : rest.head? ≠ some mark) (cs : List Char) :
    tokensFrom .between (mark :: cs.flatMap written ++ [mark] ++ rest) =
      (tokensFrom .between rest).map (quotedToken mark cs :: ·) := by
  have hopen : advance .between [mark] = some ([], .quoted mark []) := by
    simp [advance, step, closing, hm]
  have hclose : advance (.quoted mark cs) [mark] = some ([], .marked mark cs) := by
    simp [advance, step]
  have hwhole : advance .between (mark :: cs.flatMap written ++ [mark]) =
      some ([], .marked mark cs) := by
    rw [← List.singleton_append, advance_append, advance_append, hopen]
    simp [hw.flatMap, hclose]
  rw [tokensFrom_append hwhole, tokensFrom_marked h]
  simp [Function.comp_def]

/-! ## Literals and identifiers -/

theorem readBack_literal : ReadBack '\'' literalChar := by
  intro c read
  have hmark : '\'' ≠ accent := by decide
  unfold literalChar
  by_cases hc : c = '\''
  · simp [hc, advance, step]
  · by_cases hs : c = '\\'
    · simp [hs, advance, step, escaped, hmark]
    · simp [hc, hs, advance, step]

theorem readBack_identifier : ReadBack accent identifierChar := by
  intro c read
  unfold identifierChar
  by_cases hc : c = accent
  · simp [hc, advance, step]
  · simp [hc, advance, step]

theorem tokensFrom_literal (s : String) (h : rest.head? ≠ some '\'') :
    tokensFrom .between ((quoteLiteral s).toList ++ rest) =
      (tokensFrom .between rest).map (.text s :: ·) := by
  have hread := tokensFrom_quoted readBack_literal (by decide) h s.toList
  have htoken : quotedToken '\'' s.toList = .text s := by
    rw [quotedToken, if_neg (by decide), String.ofList_toList]
  rw [quoteLiteral, String.toList_ofList, hread, htoken]

theorem tokensFrom_identifier (s : String) (h : rest.head? ≠ some accent) :
    tokensFrom .between ((quoteIdentifier s).toList ++ rest) =
      (tokensFrom .between rest).map (.name s :: ·) := by
  have hread := tokensFrom_quoted readBack_identifier (by decide) h s.toList
  have htoken : quotedToken accent s.toList = .name s := by
    rw [quotedToken, if_pos rfl, String.ofList_toList]
  rw [quoteIdentifier, String.toList_ofList, hread, htoken]

theorem tokens_quoteLiteral (s : String) : tokens (quoteLiteral s) = some [.text s] := by
  have h : tokensFrom .between ((quoteLiteral s).toList ++ []) = _ := tokensFrom_literal s (by simp)
  rw [List.append_nil] at h
  rw [tokens, h]
  rfl

theorem tokens_quoteIdentifier (s : String) : tokens (quoteIdentifier s) = some [.name s] := by
  have h : tokensFrom .between ((quoteIdentifier s).toList ++ []) = _ :=
    tokensFrom_identifier s (by simp)
  rw [List.append_nil] at h
  rw [tokens, h]
  rfl

/-- What follows a literal is no part of it, even a comment. -/
example : tokens (quoteLiteral "it's \\" ++ " -- '") = some [.text "it's \\"] := by decide

/-- Without its marks doubled, a text could end before its end. -/
example : tokens "'it's'" = none := by decide

end MysqlMetrics.Sql
