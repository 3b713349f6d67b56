import MysqlMetrics.Http.Service
import MysqlMetrics.Proofs.Results
/-!
# Responses and their headers

What a response is given at last changes neither its status nor, but for `HEAD`, its body. Headers
that are set in turn end with the last value of each name; so a response from behind a guard carries
every header of the web file (`WebConfig.carriedBy_complete`), and none of these takes the place of
the challenge of a refusal (`has_challenge`).
-/
namespace MysqlMetrics

/-! ## Setting headers -/

/-- Headers with one set in place of any of its name. -/
def replaceHeader (hs : List (String × String)) (name value : String) : List (String × String) :=
  hs.filter (·.1 != name) ++ [(name, value)]

section Replace

variable {f : String → String} {hs ps : List (String × String)} {name value : String}

theorem filter_replaceHeader_self :
    (replaceHeader hs name value).filter (·.1 == name) = [(name, value)] := by
  have hnone : (hs.filter (·.1 != name)).filter (·.1 == name) = [] := by
    refine List.filter_eq_nil_iff.2 fun p hp hn => ?_
    have := (List.mem_filter.1 hp).2
    simp_all
  simp [replaceHeader, hnone]

theorem filter_replaceHeader_ne {other : String} (h : other ≠ name) :
    (replaceHeader hs other value).filter (·.1 == name) = hs.filter (·.1 == name) := by
  simp only [replaceHeader, List.filter_append, List.filter_filter]
  have hone : [(other, value)].filter (·.1 == name) = [] := by simp [h]
  rw [hone, List.append_nil]
  refine List.filter_congr fun p _ => ?_
  by_cases hp : p.1 = name
  · have : ¬ p.1 = other := fun e => h (e.symm.trans hp)
    simp [hp, Ne.symm h]
  · simp [hp]

theorem filter_replace_others (h : ∀ p ∈ ps, f p.1 ≠ name) :
    (ps.foldl (fun hs p => replaceHeader hs (f p.1) p.2) hs).filter (·.1 == name) =
      hs.filter (·.1 == name) := by
  induction ps generalizing hs with
  | nil => rfl
  | cons p ps ih =>
    rw [List.foldl_cons, ih fun q hq => h q (List.mem_cons_of_mem _ hq),
      filter_replaceHeader_ne (h p List.mem_cons_self)]

/-- Of the headers of one name that are set in turn, the last is there. -/
theorem filter_replace_last {before after : List (String × String)} {p : String × String}
    (h : ∀ q ∈ after, f q.1 ≠ f p.1) :
    ((before ++ p :: after).foldl (fun hs p => replaceHeader hs (f p.1) p.2) hs).filter
      (·.1 == f p.1) = [(f p.1, p.2)] := by
  rw [List.foldl_append, List.foldl_cons, filter_replace_others h, filter_replaceHeader_self]

theorem mem_replace {x : String × String}
    (h : x ∈ ps.foldl (fun hs p => replaceHeader hs (f p.1) p.2) hs) :
    x ∈ hs ∨ ∃ p ∈ ps, x = (f p.1, p.2) := by
  induction ps generalizing hs with
  | nil => exact .inl h
  | cons p ps ih =>
    rcases ih h with h | ⟨q, hq, rfl⟩
    · rcases List.mem_append.1 h with h | h
      · exact .inl (List.mem_filter.1 h).1
      · exact .inr ⟨p, List.mem_cons_self, List.mem_singleton.1 h⟩
    · exact .inr ⟨q, List.mem_cons_of_mem _ hq, rfl⟩

end Replace

namespace Response

/-- There is one header of the name, and it has the value. -/
def Has (resp : Response) (name value : String) : Prop :=
  resp.headers.filter (·.1 == name) = [(name, value)]

variable {resp : Response} {name value : String}

theorem Has.withBody (h : resp.Has name value) (body : String) :
    Response.Has { resp with body := body } name value := h

theorem Has.setHeaderIfNone (h : resp.Has name value) (other : String) (x : String) :
    (resp.setHeaderIfNone other x).Has name value := by
  unfold Response.setHeaderIfNone
  split
  · exact h
  · rename_i hnone
    -- the name is there, so it is not the one that is missing
    have hne : other ≠ name := by
      rintro rfl
      have hmem : (other, value) ∈ resp.headers.filter (·.1 == other) := by
        rw [show resp.headers.filter (·.1 == other) = _ from h]
        exact List.mem_singleton_self _
      exact hnone (List.any_eq_true.2 ⟨_, (List.mem_filter.1 hmem).1, by simp⟩)
    have hone : [(other, x)].filter (·.1 == name) = [] := by simp [hne]
    rw [Has, List.filter_append, hone, List.append_nil]
    exact h

end Response

section AddHeaders

variable {g : Guard} {resp : Response} {name value : String}

theorem Guard.headers_addHeaders (g : Guard) (resp : Response) : (g.addHeaders resp).headers =
    g.headers.foldl (fun hs p => replaceHeader hs (id p.1) p.2) resp.headers := by
  unfold Guard.addHeaders
  generalize g.headers = ps
  induction ps generalizing resp with
  | nil => rfl
  | cons p ps ih => exact ih (resp.setHeader p.1 p.2)

theorem Guard.has_addHeaders (h : g.headers.filter (·.1 == name) = [(name, value)]) :
    (g.addHeaders resp).Has name value := by
  obtain ⟨before, after, hs, -, -, hafter⟩ := List.filter_eq_cons_iff.1 h
  rw [Response.Has, Guard.headers_addHeaders, hs]
  refine filter_replace_last (f := id) (p := (name, value)) fun q hq he => ?_
  exact List.filter_eq_nil_iff.1 hafter q hq (beq_iff_eq.2 he)

theorem Response.Has.addHeaders (h : resp.Has name value) (hn : ∀ p ∈ g.headers, p.1 ≠ name) :
    (g.addHeaders resp).Has name value := by
  rw [Response.Has, Guard.headers_addHeaders, filter_replace_others hn]
  exact h

end AddHeaders

/-! ## What a response is given at last -/

namespace Service

variable {r : Request}

theorem setHeaderIfNone_spec (resp : Response) (name value : String) :
    (resp.setHeaderIfNone name value).status = resp.status ∧
      (resp.setHeaderIfNone name value).body = resp.body := by
  unfold Response.setHeaderIfNone
  split <;> exact ⟨rfl, rfl⟩

theorem addHeaders_spec (g : Guard) (resp : Response) :
    (g.addHeaders resp).status = resp.status ∧ (g.addHeaders resp).body = resp.body :=
  List.foldlRecOn g.headers _
    (motive := fun x : Response => x.status = resp.status ∧ x.body = resp.body) ⟨rfl, rfl⟩
    fun _ h _ _ => h

theorem complete_spec (d : Destination) (freshId : String) (resp : Response) :
    (complete r d freshId resp).status = resp.status ∧
      (r.method ≠ "HEAD" → (complete r d freshId resp).body = resp.body) := by
  unfold complete
  dsimp only
  rw [(setHeaderIfNone_spec _ _ _).1, (setHeaderIfNone_spec _ _ _).2]
  cases d with
  | wrongMethod allowed =>
    obtain ⟨hs, hb⟩ := setHeaderIfNone_spec resp "allow" allowed
    by_cases hm : r.method = "HEAD"
    · simp [hm, hs]
    · simp [hm, hs, hb]
  | handler | nowhere =>
    by_cases hm : r.method = "HEAD"
    · simp [hm]
    · simp [hm]

theorem has_complete {resp : Response} {name value : String} (h : resp.Has name value)
    (d : Destination) (freshId : String) : (complete r d freshId resp).Has name value := by
  have hrest : ∀ (resp : Response) (id : String), resp.Has name value →
      ((if r.method = "HEAD" then { resp with body := "" } else resp).setHeaderIfNone
        "x-request-id" id).Has name value := by
    intro resp id h
    split
    · exact (h.withBody "").setHeaderIfNone _ _
    · exact h.setHeaderIfNone _ _
  unfold complete
  cases d with
  | wrongMethod allowed => exact hrest _ _ (h.setHeaderIfNone _ _)
  | _ => exact hrest _ _ h

end Service

/-! ## The headers of the web file -/

namespace WebConfig

variable {c c' : WebConfig} {resp : Response}

/-- The response has every header of the file, under its name in small letters. Of two names that
differ in case only the later one counts. -/
def CarriedBy (c : WebConfig) (resp : Response) : Prop :=
  ∀ (before after : List (String × String)) (name value : String),
    c.headers = before ++ (name, value) :: after →
    (∀ p ∈ after, Text.asciiLower p.1 ≠ Text.asciiLower name) →
      resp.Has (Text.asciiLower name) value

theorem responseHeaders_eq (c : WebConfig) : c.responseHeaders =
    c.headers.foldl (fun hs p => replaceHeader hs (Text.asciiLower p.1) p.2) [] := rfl

theorem carriedBy_addHeaders {g : Guard} (hg : g.headers = c.responseHeaders) (resp : Response) :
    c.CarriedBy (g.addHeaders resp) := by
  intro before after name value hs hn
  refine Guard.has_addHeaders ?_
  rw [hg, responseHeaders_eq, hs]
  exact filter_replace_last (f := Text.asciiLower) (p := (name, value)) hn

theorem carriedBy_complete {g : Guard} (hg : g.headers = c.responseHeaders) (r : Request)
    (d : Destination) (freshId : String) (resp : Response) :
    c.CarriedBy (Service.complete r d freshId (g.addHeaders resp)) :=
  fun before after name value hs hn =>
    Service.has_complete (carriedBy_addHeaders hg resp before after name value hs hn) d freshId

/-- Only the headers that may be set can be in a file. -/
theorem allowed_of_check (h : c.check = .ok c') : ∀ p ∈ c.headers,
    Text.asciiLower p.1 ∈ allowedHeaders.map fun h => Text.asciiLower h.1 := by
  obtain ⟨-, -, h⟩ := bind_eq_ok.1 h
  obtain ⟨⟨⟩, hs, -⟩ := bind_eq_ok.1 h
  intro p hp
  have hp := forM_eq_ok.1 hs p hp
  simp only [checkHeader] at hp
  split at hp
  · cases hp
  · rename_i x hf
    have hsame := List.find?_some hf
    exact List.mem_map.2
      ⟨_, List.mem_of_find?_eq_some hf, by simpa [Text.sameIgnoringCase] using hsame⟩

/-- No header of a file takes the place of the challenge. -/
theorem has_challenge (h : c.check = .ok c') {g : Guard} (hg : g.headers = c.responseHeaders)
    (r : Request) (d : Destination) (freshId : String) :
    (Service.complete r d freshId (g.addHeaders Guard.refusal)).Has "www-authenticate" "Basic" := by
  have hchallenge : Guard.refusal.Has "www-authenticate" "Basic" := rfl
  refine Service.has_complete (hchallenge.addHeaders fun p hp hn => ?_) d freshId
  rw [hg, responseHeaders_eq] at hp
  rcases mem_replace hp with hp | ⟨q, hq, rfl⟩
  · cases hp
  · have hnot : "www-authenticate" ∉ allowedHeaders.map fun h => Text.asciiLower h.1 := by decide
    exact hnot (hn ▸ allowed_of_check h q hq)

end WebConfig
end MysqlMetrics
