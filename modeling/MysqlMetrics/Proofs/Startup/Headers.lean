import Mathlib.Data.List.Induction
import MysqlMetrics.Proofs.Results
import MysqlMetrics.Proofs.Table
import MysqlMetrics.Proofs.Text
import MysqlMetrics.Startup.Telemetry
/-!
# Headers of exported spans

The headers stand in a table that is gone through in no order of its own, and the case of a key is
dropped only then. So whether there is metadata at all is settled by the text, but which of two
headers holds that differ in letter case is not: `IsSettled` and `LastHolds` are what one would
expect of every text, and `metadata_headers` says of which texts they are true.
-/
namespace MysqlMetrics.Startup

open SortedTable Text

variable {hs hs' : List (String × String)} {p q : String × String}
  {t t' : SortedTable String MetadataValue} {s : String}

/-! ## One header -/

/-- The name that a header has as metadata. -/
def nameOf (p : String × String) : String := asciiLower p.1

/-- The value that a header has as metadata, if it can have one. -/
def valueOf? (p : String × String) : Option MetadataValue :=
  (metadataEntry p.1 p.2).toOption.map (·.2)

theorem metadataEntry_eq_ok {e : String × MetadataValue} :
    metadataEntry p.1 p.2 = .ok e ↔ e.1 = nameOf p ∧ valueOf? p = some e.2 := by
  obtain ⟨name, value⟩ := e
  have hname : ∀ {e : String × MetadataValue}, metadataEntry p.1 p.2 = .ok e → e.1 = nameOf p := by
    intro e h
    unfold metadataEntry at h
    dsimp only at h
    split at h
    · split at h
      · cases h
      · split at h
        · cases h; rfl
        · cases h
    · split at h
      · cases h
      · split at h
        · cases h; rfl
        · cases h
  unfold valueOf?
  cases he : metadataEntry p.1 p.2 with
  | error err => simp [Except.toOption]
  | ok e =>
    have := hname he
    obtain ⟨name', value'⟩ := e
    simp only [Except.toOption, Option.map_some, Option.some.injEq, Except.ok.injEq, Prod.mk.injEq]
    constructor
    · rintro ⟨rfl, rfl⟩
      exact ⟨this, rfl⟩
    · rintro ⟨rfl, rfl⟩
      exact ⟨this, rfl⟩

theorem metadataEntry_eq_error :
    (∃ err, metadataEntry p.1 p.2 = .error err) ↔ valueOf? p = none := by
  unfold valueOf?
  cases metadataEntry p.1 p.2 <;> simp [Except.toOption]

/-- The letter case of a key does not matter to its header. -/
theorem valueOf?_congr (hn : nameOf p = nameOf q) (hv : p.2 = q.2) : valueOf? p = valueOf? q := by
  have hn : asciiLower p.1 = asciiLower q.1 := hn
  simp only [valueOf?, metadataEntry, hn, hv]

/-! ## Headers in the order in which they are gone through -/

theorem metadata_append_one (hs : List (String × String)) (p : String × String) :
    metadata (hs ++ [p]) = (metadata hs).bind fun t =>
      (metadataEntry p.1 p.2).map fun e => SortedTable.insert e.1 e.2 t := by
  unfold metadata
  rw [List.foldlM_append]
  show (_ >>= fun t => _ >>= pure) = _
  simp only [bind_pure]
  rfl

/-- One header that has no value is enough, wherever it stands. -/
theorem exists_metadata_iff :
    (∃ t, metadata hs = .ok t) ↔ ∀ p ∈ hs, ∃ v, valueOf? p = some v := by
  have hfail : (∃ err, metadata hs = .error err) ↔ ∃ p ∈ hs, valueOf? p = none := by
    refine exists_foldlM_eq_error fun t p => ?_
    rw [← metadataEntry_eq_error]
    dsimp only
    cases metadataEntry p.1 p.2 <;> simp [Except.map]
  have hsome : (∃ t, metadata hs = .ok t) ↔ ¬ ∃ err, metadata hs = .error err := by
    cases metadata hs <;> simp
  rw [hsome, hfail]
  simp only [not_exists, not_and, ← ne_eq, Option.ne_none_iff_exists']

/-- The header of a name that is met last. -/
def lastNamed? (name : String) (hs : List (String × String)) : Option (String × String) :=
  hs.reverse.find? fun p => nameOf p == name

theorem lastNamed?_append_one (name : String) (hs : List (String × String)) (p : String × String) :
    lastNamed? name (hs ++ [p]) = if nameOf p = name then some p else lastNamed? name hs := by
  unfold lastNamed?
  rw [List.reverse_append, List.reverse_singleton, List.singleton_append, List.find?_cons]
  by_cases h : nameOf p = name
  · simp [h]
  · have hne : (nameOf p == name) = false := by simpa using h
    rw [hne, if_neg h]

/-- Under each name stands the value of the header that is met last. -/
theorem find?_metadata : ∀ {t : SortedTable String MetadataValue}, metadata hs = .ok t →
    Ascending t ∧ ∀ name, find? name t = (lastNamed? name hs).bind valueOf? := by
  induction hs using List.reverseRecOn with
  | nil =>
    intro t h
    cases h
    exact ⟨.nil, fun name => rfl⟩
  | append_singleton hs p ih =>
    intro t' h
    rw [metadata_append_one] at h
    obtain ⟨t, ht, h⟩ := bind_eq_ok.1 h
    obtain ⟨⟨name, value⟩, he, rfl⟩ := map_eq_ok.1 h
    obtain ⟨ha, hfind⟩ := ih ht
    obtain ⟨rfl, hvalue⟩ := metadataEntry_eq_ok.1 he
    refine ⟨ha.insert, fun name => ?_⟩
    rw [find?_insert ha, lastNamed?_append_one, hfind]
    by_cases hn : nameOf p = name
    · simp [hn, hvalue]
    · simp [hn, Ne.symm hn]

/-- Headers of one name that agree in their value leave that value. -/
theorem find?_metadata_of_agree (h : metadata hs = .ok t) (hp : p ∈ hs)
    (hagree : ∀ q ∈ hs, nameOf q = nameOf p → valueOf? q = valueOf? p) :
    find? (nameOf p) t = valueOf? p := by
  rw [(find?_metadata h).2]
  cases hl : lastNamed? (nameOf p) hs with
  | none =>
    have hnone := List.find?_eq_none.1 hl p (List.mem_reverse.2 hp)
    simp at hnone
  | some q =>
    have hname : nameOf q = nameOf p := by simpa using List.find?_some hl
    exact hagree q (List.mem_reverse.1 (List.mem_of_find?_eq_some hl)) hname

/-- The header that is gone through last holds. -/
theorem find?_metadata_last (h : metadata (hs ++ [p]) = .ok t) :
    find? (nameOf p) t = valueOf? p := by
  rw [(find?_metadata h).2, lastNamed?_append_one, if_pos rfl]
  rfl

theorem metadata_eq_none (hp : p ∈ hs) (hnone : valueOf? p = none) :
    (metadata hs).toOption = none := by
  cases hm : metadata hs with
  | error err => rfl
  | ok t =>
    obtain ⟨v, hv⟩ := exists_metadata_iff.1 ⟨t, hm⟩ p hp
    rw [hnone] at hv
    cases hv

theorem exists_none_or (hs : List (String × String)) :
    (∃ p ∈ hs, valueOf? p = none) ∨ ∃ t, metadata hs = .ok t := by
  rw [exists_metadata_iff]
  by_cases h : ∃ p ∈ hs, valueOf? p = none
  · exact .inl h
  · refine .inr fun p hp => ?_
    cases hv : valueOf? p with
    | none => exact absurd ⟨p, hp, hv⟩ h
    | some v => exact ⟨v, rfl⟩

/-- Headers that agree name by name make the same metadata, or both none. -/
theorem metadata_congr (hto : ∀ p ∈ hs, ∃ q ∈ hs', nameOf q = nameOf p)
    (hfrom : ∀ q ∈ hs', ∃ p ∈ hs, nameOf p = nameOf q)
    (hagree : ∀ p ∈ hs, ∀ q ∈ hs', nameOf p = nameOf q → valueOf? p = valueOf? q) :
    (metadata hs).toOption = (metadata hs').toOption := by
  rcases exists_none_or hs with ⟨p, hp, hnone⟩ | ⟨t, h⟩
  · obtain ⟨q, hq, hname⟩ := hto p hp
    rw [metadata_eq_none hp hnone,
      metadata_eq_none hq ((hagree p hp q hq hname.symm).symm.trans hnone)]
  rcases exists_none_or hs' with ⟨q, hq, hnone⟩ | ⟨t', h'⟩
  · obtain ⟨p, hp, hname⟩ := hfrom q hq
    rw [metadata_eq_none hp ((hagree p hp q hq hname).trans hnone), metadata_eq_none hq hnone]
  obtain ⟨ha, hfind⟩ := find?_metadata h
  obtain ⟨ha', hfind'⟩ := find?_metadata h'
  rw [h, h']
  refine congrArg some (eq_of_find? ha ha' fun name => ?_)
  by_cases hex : ∃ q ∈ hs', nameOf q = name
  · obtain ⟨q, hq, rfl⟩ := hex
    obtain ⟨p, hp, hname⟩ := hfrom q hq
    -- on each side all headers of the name have one value
    have hothers : ∀ x ∈ hs', nameOf x = nameOf q → valueOf? x = valueOf? q := by
      intro x hx hxq
      rw [← hagree p hp x hx (hname.trans hxq.symm), hagree p hp q hq hname]
    have hones : ∀ x ∈ hs, nameOf x = nameOf p → valueOf? x = valueOf? p := by
      intro x hx hxp
      rw [hagree x hx q hq (hxp.trans hname), hagree p hp q hq hname]
    rw [find?_metadata_of_agree h' hq hothers, ← hname, find?_metadata_of_agree h hp hones]
    exact hagree p hp q hq hname
  · have hnone' : lastNamed? name hs' = none := by
      refine List.find?_eq_none.2 fun q hq heq => hex ⟨q, List.mem_reverse.1 hq, by simpa using heq⟩
    have hnone : lastNamed? name hs = none := by
      refine List.find?_eq_none.2 fun p hp heq => ?_
      obtain ⟨q, hq, hname⟩ := hto p (List.mem_reverse.1 hp)
      exact hex ⟨q, hq, hname.trans (by simpa using heq)⟩
    rw [hfind, hfind', hnone, hnone']

/-! ## The table of a text -/

/-- The headers with their names in small letters, so that the last of a name stands for all. -/
def lastHeaders (s : String) : SortedTable String String :=
  SortedTable.ofList ((headerPairs s).map fun p => (nameOf p, p.2))

/-- The metadata is the same in whatever order the table is gone through. -/
def IsSettled (s : String) : Prop :=
  ∀ hs hs', hs.Perm (headerTable s) → hs'.Perm (headerTable s) →
    (metadata hs).toOption = (metadata hs').toOption

/-- The metadata is always that of the last header of each name, in whatever letter case. -/
def LastHolds (s : String) : Prop :=
  ∀ hs, hs.Perm (headerTable s) → (metadata hs).toOption = (metadata (lastHeaders s)).toOption

/-- The last header of a name is the last of its own spelling too. -/
theorem exists_find?_ofList (pairs : List (String × String)) {name value : String}
    (h : find? name (ofList (pairs.map fun p => (nameOf p, p.2))) = some value) :
    ∃ key, asciiLower key = name ∧ find? key (ofList pairs) = some value := by
  induction pairs using List.reverseRecOn with
  | nil => simp [ofList] at h
  | append_singleton pairs p ih =>
    have ha := (ofList_spec pairs).1
    have ha' := (ofList_spec (pairs.map fun p => (nameOf p, p.2))).1
    have hstep : ofList (pairs ++ [p]) = SortedTable.insert p.1 p.2 (ofList pairs) := by
      simp [ofList, List.foldl_append]
    have hstep' : ofList ((pairs ++ [p]).map fun p => (nameOf p, p.2)) =
        SortedTable.insert (nameOf p) p.2 (ofList (pairs.map fun p => (nameOf p, p.2))) := by
      simp [ofList, List.foldl_append]
    rw [hstep', find?_insert ha'] at h
    rw [hstep]
    by_cases hn : name = nameOf p
    · rw [if_pos hn] at h
      exact ⟨p.1, hn.symm, by rw [find?_insert ha, if_pos rfl, h]⟩
    · rw [if_neg hn] at h
      obtain ⟨key, hkey, hfind⟩ := ih h
      refine ⟨key, hkey, ?_⟩
      rw [find?_insert ha, if_neg, hfind]
      rintro rfl
      exact hn hkey.symm

theorem nameOf_lastHeaders (hq : q ∈ lastHeaders s) : nameOf q = q.1 := by
  obtain ⟨p, -, rfl⟩ := List.mem_map.1 ((ofList_spec _).2 q hq)
  exact asciiLower_asciiLower p.1

/-- What is last of its name stands in the table. -/
theorem exists_mem_headerTable (hq : q ∈ lastHeaders s) :
    ∃ p ∈ headerTable s, nameOf p = nameOf q ∧ p.2 = q.2 := by
  have hfind : find? q.1 (lastHeaders s) = some q.2 := (ofList_spec _).1.find? hq
  obtain ⟨key, hkey, h⟩ := exists_find?_ofList (headerPairs s) hfind
  exact ⟨(key, q.2), mem_of_find? h, hkey.trans (nameOf_lastHeaders hq).symm, rfl⟩

/-- The name of what stands in the table has a last header. -/
theorem exists_mem_lastHeaders (hp : p ∈ headerTable s) :
    ∃ q ∈ lastHeaders s, nameOf q = nameOf p := by
  have hpair : p ∈ headerPairs s := (ofList_spec _).2 p hp
  have hkey : nameOf p ∈ keys (lastHeaders s) := by
    refine mem_keys_ofList.2 (List.mem_map.2 ⟨(nameOf p, p.2), ?_, rfl⟩)
    exact List.mem_map.2 ⟨p, hpair, rfl⟩
  obtain ⟨q, hq, hname⟩ := List.mem_map.1 hkey
  exact ⟨q, hq, (nameOf_lastHeaders hq).trans hname⟩

/-- Any header may be gone through last. -/
theorem exists_perm_last (hp : p ∈ headerTable s) : ∃ hs, (hs ++ [p]).Perm (headerTable s) :=
  ⟨(headerTable s).erase p, (List.perm_append_singleton _ _).trans (List.perm_cons_erase hp).symm⟩

theorem eq_of_mem_lastHeaders (hp : p ∈ lastHeaders s) (hq : q ∈ lastHeaders s)
    (hname : nameOf p = nameOf q) : p = q := by
  have ha := (ofList_spec ((headerPairs s).map fun p => (nameOf p, p.2))).1
  rw [nameOf_lastHeaders hp, nameOf_lastHeaders hq] at hname
  have hvalue : some p.2 = some q.2 := by
    rw [← ha.find? hp, ← ha.find? hq, hname]
  exact Prod.ext hname (Option.some.inj hvalue)

/-- The order does not matter where headers of one name agree, or if nothing comes of them at
all. -/
theorem isSettled_iff : IsSettled s ↔ (∃ p ∈ headerTable s, valueOf? p = none) ∨
    ∀ p ∈ headerTable s, ∀ q ∈ headerTable s, nameOf p = nameOf q → valueOf? p = valueOf? q := by
  constructor
  · intro h
    rcases exists_none_or (headerTable s) with hnone | hsome
    · exact .inl hnone
    · refine .inr fun p hp q hq hname => ?_
      -- each of the two may be the one that is gone through last
      obtain ⟨hs, hperm⟩ := exists_perm_last hp
      obtain ⟨hs', hperm'⟩ := exists_perm_last hq
      have hall := exists_metadata_iff.1 hsome
      obtain ⟨t, ht⟩ := exists_metadata_iff.2 fun x hx => hall x (hperm.mem_iff.1 hx)
      obtain ⟨t', ht'⟩ := exists_metadata_iff.2 fun x hx => hall x (hperm'.mem_iff.1 hx)
      have heq := h _ _ hperm hperm'
      rw [ht, ht'] at heq
      obtain rfl : t = t' := Option.some.inj heq
      rw [← find?_metadata_last ht, hname, find?_metadata_last ht']
  · rintro (⟨p, hp, hnone⟩ | hagree) hs hs' hperm hperm'
    · rw [metadata_eq_none (hperm.mem_iff.2 hp) hnone, metadata_eq_none (hperm'.mem_iff.2 hp) hnone]
    · have hboth : hs.Perm hs' := hperm.trans hperm'.symm
      apply metadata_congr
      · intro p hp
        exact ⟨p, hboth.mem_iff.1 hp, rfl⟩
      · intro q hq
        exact ⟨q, hboth.mem_iff.2 hq, rfl⟩
      · intro p hp q hq
        exact hagree p (hperm.mem_iff.1 hp) q (hperm'.mem_iff.1 hq)

/-- The last header of each name holds if all that it stands for agree with it, or if the last one
of some name has no value, as then nothing comes of the headers. -/
theorem lastHolds_iff : LastHolds s ↔ (∃ q ∈ lastHeaders s, valueOf? q = none) ∨
    ∀ p ∈ headerTable s, ∀ q ∈ lastHeaders s, nameOf p = nameOf q → valueOf? p = valueOf? q := by
  constructor
  · intro h
    rcases exists_none_or (lastHeaders s) with hnone | ⟨t', ht'⟩
    · exact .inl hnone
    · refine .inr fun p hp q hq hname => ?_
      obtain ⟨hs, hperm⟩ := exists_perm_last hp
      have heq := h _ hperm
      rw [ht'] at heq
      cases ht : metadata (hs ++ [p]) with
      | error err => rw [ht] at heq; cases heq
      | ok t =>
        rw [ht] at heq
        obtain rfl : t = t' := Option.some.inj heq
        have honly : ∀ x ∈ lastHeaders s, nameOf x = nameOf q → valueOf? x = valueOf? q := by
          intro x hx hxq
          rw [eq_of_mem_lastHeaders hx hq hxq]
        rw [← find?_metadata_last ht, hname, find?_metadata_of_agree ht' hq honly]
  · rintro (⟨q, hq, hnone⟩ | hagree) hs hperm
    · obtain ⟨p, hp, hname, hvalue⟩ := exists_mem_headerTable hq
      have hnone' : valueOf? p = none := (valueOf?_congr hname hvalue).trans hnone
      rw [metadata_eq_none (hperm.mem_iff.2 hp) hnone', metadata_eq_none hq hnone]
    · apply metadata_congr
      · intro p hp
        exact exists_mem_lastHeaders (hperm.mem_iff.1 hp)
      · intro q hq
        obtain ⟨p, hp, hname, -⟩ := exists_mem_headerTable hq
        exact ⟨p, hperm.mem_iff.2 hp, hname⟩
      · intro p hp
        exact hagree p (hperm.mem_iff.1 hp)

/-- **Headers that differ in letter case.** Whether metadata comes of a text is settled by the text:
every header of the table must have a value, those also that a later one of the name should replace.
If it does, each name has the value of the header that happens to be gone through last. So the
metadata is settled if and only if headers of one name agree in their values, or nothing comes of
them; and it is what the last header of each name says if and only if all others of the name agree
with that one, or it has no value itself. -/
theorem metadata_headers (s : String) :
    (∀ hs, hs.Perm (headerTable s) →
      ((∃ t, metadata hs = .ok t) ↔ ∀ p ∈ headerTable s, ∃ v, valueOf? p = some v) ∧
      ∀ t, metadata hs = .ok t → ∀ name, find? name t = (lastNamed? name hs).bind valueOf?) ∧
    (IsSettled s ↔ (∃ p ∈ headerTable s, valueOf? p = none) ∨
      ∀ p ∈ headerTable s, ∀ q ∈ headerTable s, nameOf p = nameOf q → valueOf? p = valueOf? q) ∧
    (LastHolds s ↔ (∃ q ∈ lastHeaders s, valueOf? q = none) ∨
      ∀ p ∈ headerTable s, ∀ q ∈ lastHeaders s, nameOf p = nameOf q → valueOf? p = valueOf? q) := by
  refine ⟨fun hs hperm => ⟨?_, fun t ht => (find?_metadata ht).2⟩, isSettled_iff, lastHolds_iff⟩
  rw [exists_metadata_iff]
  simp only [hperm.mem_iff]

/-- Two spellings of a key make its value a matter of chance, and a value that was replaced stands
in the way of all. -/
theorem headers_twoSpellings : ¬ IsSettled "k=1,K=2" ∧ ¬ LastHolds "k=\x01,K=v" := by
  obtain ⟨-, hsettled, -⟩ := metadata_headers "k=1,K=2"
  obtain ⟨-, -, hlast⟩ := metadata_headers "k=\x01,K=v"
  have htable : headerTable "k=1,K=2" = [("K", "2"), ("k", "1")] := by decide +kernel
  have htable' : headerTable "k=\x01,K=v" = [("K", "v"), ("k", "\x01")] := by decide +kernel
  have hlasts : lastHeaders "k=\x01,K=v" = [("k", "v")] := by decide +kernel
  rw [hsettled, hlast, htable, htable', hlasts]
  decide +kernel

end MysqlMetrics.Startup
