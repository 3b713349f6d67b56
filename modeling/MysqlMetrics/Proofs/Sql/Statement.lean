import MysqlMetrics.Proofs.Sql.Quoting
import MysqlMetrics.Sql.Statement
/-!
# How selections end

No expression ends with an opening parenthesis, so no list of them does (`endsIn_commas`). Hence no
selection ends with a pair of parentheses that holds nothing, whatever stands before it
(`not_isSelection_empty`): where a list is, something is in it.
-/
namespace MysqlMetrics.Sql

variable {p : Token → Prop} {ts front list : List Token} {parts : List (List Token)} {t u : Token}

theorem commas_cons (e : List Token) (hne : parts ≠ []) :
    commas (e :: parts) = e ++ .sign ',' :: commas parts := by
  cases parts with
  | nil => exact absurd rfl hne
  | cons e' parts =>
    rw [commas, List.intercalate_cons_cons, List.append_assoc]
    rfl

/-- Parts of one token each. -/
theorem commas_singletons (ts : List Token) :
    commas (ts.map ([·])) = ts.intersperse (.sign ',') := by
  induction ts with
  | nil => rfl
  | cons t ts ih =>
    cases ts with
    | nil => rfl
    | cons u ts =>
      rw [List.map_cons, commas_cons _ (by simp), ih]
      rfl

theorem IsExpr.call_one {f : String} {e : List Token} (hf : (Token.word f).isName = true)
    (he : IsExpr e) : IsExpr (.word f :: .sign '(' :: e ++ [.sign ')']) := by
  simpa [commas] using IsExpr.call hf (List.forall_mem_singleton.2 he)

/-! ## The last token -/

def EndsIn (p : Token → Prop) (ts : List Token) : Prop := ∃ front t, ts = front ++ [t] ∧ p t

theorem EndsIn.append (h : EndsIn p ts) (front : List Token) : EndsIn p (front ++ ts) := by
  obtain ⟨before, t, rfl, ht⟩ := h
  exact ⟨front ++ before, t, (List.append_assoc ..).symm, ht⟩

theorem EndsIn.cons (h : EndsIn p ts) (t : Token) : EndsIn p (t :: ts) := h.append [t]

theorem endsIn_append_singleton : EndsIn p (front ++ [t]) ↔ p t := by
  constructor
  · rintro ⟨before, u, heq, hu⟩
    obtain ⟨-, ht⟩ := List.append_inj' heq rfl
    cases ht
    exact hu
  · exact fun ht => ⟨front, t, rfl, ht⟩

/-- A list may go on behind such a token, or end there. -/
def NotOpening (t : Token) : Prop := t ≠ .sign '('

theorem IsExpr.endsIn (h : IsExpr ts) : EndsIn NotOpening ts := by
  cases h with
  | text s => exact ⟨[], .text s, rfl, by simp [NotOpening]⟩
  | @name t ht =>
    refine ⟨[], t, rfl, ?_⟩
    rintro rfl
    cases ht
  | call hf hargs => exact endsIn_append_singleton.2 (by simp [NotOpening])

theorem endsIn_commas (hne : parts ≠ []) (h : ∀ e ∈ parts, IsExpr e) :
    EndsIn NotOpening (commas parts) := by
  induction parts with
  | nil => exact absurd rfl hne
  | cons e parts ih =>
    obtain ⟨he, hparts⟩ := List.forall_mem_cons.1 h
    by_cases hlast : parts = []
    · subst hlast
      simpa [commas] using he.endsIn
    · rw [commas_cons e hlast]
      exact ((ih hlast hparts).cons (.sign ',')).append e

theorem IsTable.endsIn (h : IsTable ts) : EndsIn (·.isName = true) ts := by
  cases h with
  | @plain t ht => exact ⟨[], t, rfl, ht⟩
  | @within d t hd ht => exact ⟨[d, .sign '.'], t, rfl, ht⟩

theorem IsSource.endsIn (h : IsSource ts) : EndsIn (·.isName = true) ts := by
  cases h with
  | mk hs hne hitems hf htable => exact (htable.endsIn.cons _).append (_ :: commas _)

/-- Something stands before the closing parenthesis of a list. -/
theorem IsList.exists_front (h : IsList ts) :
    ∃ front, ts = front ++ [.sign ')'] ∧ EndsIn NotOpening front := by
  cases h with
  | @mk es hne hes => exact ⟨.sign '(' :: commas es, rfl, (endsIn_commas hne hes).cons _⟩

theorem IsFilter.exists_front (h : IsFilter ts) :
    ∃ front, ts = front ++ [.sign ')'] ∧ EndsIn NotOpening front := by
  cases h with
  | @within e list k he hk hlist =>
    obtain ⟨front, rfl, hfront⟩ := hlist.exists_front
    exact ⟨e ++ k :: front, by simp, (hfront.cons k).append e⟩
  | @without e list n k he hn hk hlist =>
    obtain ⟨front, rfl, hfront⟩ := hlist.exists_front
    exact ⟨e ++ n :: k :: front, by simp, ((hfront.cons k).cons n).append e⟩

/-- A selection does not end with an empty pair of parentheses. -/
theorem not_isSelection_empty (ts : List Token) :
    ¬ IsSelection (ts ++ [.sign '(', .sign ')']) := by
  have hsplit : ts ++ [.sign '(', .sign ')'] = (ts ++ [.sign '(']) ++ [.sign ')'] := by simp
  rw [hsplit]
  generalize hwhole : (ts ++ [Token.sign '(']) ++ [Token.sign ')'] = whole
  rintro (hsource | @⟨source, filter, w, hsource, hw, hfilter⟩)
  · rw [← hwhole] at hsource
    exact absurd (endsIn_append_singleton.1 hsource.endsIn) (by simp [Token.isName])
  · obtain ⟨front, rfl, hfront⟩ := hfilter.exists_front
    have hends : (ts ++ [Token.sign '(']) ++ [Token.sign ')'] =
        (source ++ w :: front) ++ [Token.sign ')'] := by simpa using hwhole
    have hopening : ts ++ [Token.sign '('] = source ++ w :: front := (List.append_inj' hends rfl).1
    have hend := (hfront.cons w).append source
    rw [← hopening] at hend
    exact endsIn_append_singleton.1 hend rfl

theorem isStatement_iff {s : String} (h : tokens s = some ts) : IsStatement s ↔ IsSelection ts := by
  simp [IsStatement, h]

end MysqlMetrics.Sql
