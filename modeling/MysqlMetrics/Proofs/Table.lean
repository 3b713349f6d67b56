import MysqlMetrics.SortedTable
/-!
# Sorted tables as maps

The keys of a table ascend (`Ascending`), and every operation keeps that. So a key is found where it
stands (`find?_eq_some`), a change touches one key only (`find?_upsert`), and a table is known by
what is found in it (`eq_of_find?`).
-/
namespace MysqlMetrics

open Std

theorem compare_texts (a b : List String) : compare a b = compareOfLessAndEq a b := rfl

-- the order of lists is named, as libraries know more than one
instance transOrd_texts : TransOrd (List String) :=
  letI : LE (List String) := List.instLE
  TransOrd.compareOfLessAndEq_of_antisymm_of_trans_of_total_of_not_le
    List.le_antisymm List.le_trans List.le_total List.not_le

instance lawfulEqOrd_texts : LawfulEqOrd (List String) where
  compare_self := by simp
  eq_of_compare h := by
    let _ : LE (List String) := List.instLE
    rw [compare_texts, compareOfLessAndEq_eq_eq List.le_refl List.not_le] at h
    exact h

namespace SortedTable

variable {α β γ : Type} [Ord α] {t : SortedTable α β} {k k' : α} {v : β}

/-! ## Looking up -/

@[simp] theorem find?_nil : find? k ([] : SortedTable α β) = none := rfl

theorem mem_of_find? [LawfulEqOrd α] : ∀ {t : SortedTable α β}, find? k t = some v → (k, v) ∈ t
  | [], h => by simp at h
  | (k', w) :: t, h => by
    unfold find? at h
    split at h
    · rename_i hk
      have hk : k = k' := by simpa using hk
      cases h
      simp [hk]
    · exact List.mem_cons_of_mem _ (mem_of_find? h)

theorem find?_eq_none [LawfulEqOrd α] : ∀ {t : SortedTable α β},
    find? k t = none ↔ ∀ p ∈ t, p.1 ≠ k
  | [] => by simp
  | (k', w) :: t => by
    have ih := find?_eq_none (t := t)
    unfold find?
    by_cases hk : k = k'
    · simp [hk]
    · have : ¬ k' = k := fun e => hk e.symm
      simp [hk, this, ih]

/-! ## Ascending keys -/

def Ascending (t : SortedTable α β) : Prop := t.Pairwise fun p q => compare p.1 q.1 = .lt

theorem Ascending.nil : Ascending ([] : SortedTable α β) := List.Pairwise.nil

theorem Ascending.sublist {s : SortedTable α β} (h : Ascending t) (hs : s.Sublist t) :
    Ascending s :=
  List.Pairwise.sublist hs h

theorem Ascending.find? [TransOrd α] [LawfulEqOrd α] : ∀ {t : SortedTable α β}, Ascending t →
    (k, v) ∈ t → find? k t = some v
  | [], _, h => by simp at h
  | (k', w) :: t, ha, h => by
    have hlt := (List.pairwise_cons.1 ha).1
    unfold SortedTable.find?
    rcases List.mem_cons.1 h with h | h
    · cases h; simp
    · have := hlt _ h
      have hne : k ≠ k' := by rintro rfl; simp at this
      simpa [hne] using Ascending.find? (List.pairwise_cons.1 ha).2 h

theorem find?_eq_some [TransOrd α] [LawfulEqOrd α] (ha : Ascending t) :
    find? k t = some v ↔ (k, v) ∈ t :=
  ⟨mem_of_find?, ha.find?⟩

theorem find?_map (f : β → γ) : ∀ t : SortedTable α β,
    find? k (t.map fun p => (p.1, f p.2)) = (find? k t).map f
  | [] => rfl
  | (k', w) :: t => by
    have ih := find?_map f t
    simp only [List.map_cons, find?, ih]
    split <;> rfl

/-- Pairs may be left out, as each key stands once. -/
theorem find?_filterMap [TransOrd α] [LawfulEqOrd α] {g : α × β → Option (α × γ)}
    (hg : ∀ p q, g p = some q → q.1 = p.1) : ∀ {t : SortedTable α β}, Ascending t →
      find? k (t.filterMap g) = (find? k t).bind fun v => (g (k, v)).map (·.2)
  | [], _ => rfl
  | (k', w) :: t, ha => by
    have hc := List.pairwise_cons.1 ha
    have ih := find?_filterMap hg hc.2
    by_cases hk : k = k'
    · subst hk
      have hnone : find? k t = none := find?_eq_none.2 fun p hp heq => by
        have hlt := hc.1 p hp
        simp [heq] at hlt
      rw [hnone] at ih
      cases hgk : g (k, w) with
      | none => simpa [List.filterMap_cons, hgk, find?] using ih
      | some q => simp [hgk, find?, hg _ _ hgk]
    · cases hgk : g (k', w) with
      | none => simpa [List.filterMap_cons, hgk, find?, hk] using ih
      | some q =>
        obtain ⟨k'', z⟩ := q
        obtain rfl : k'' = k' := hg _ _ hgk
        simpa [List.filterMap_cons, hgk, find?, hk] using ih

/-- What only pairs of one key satisfy is satisfied by one pair at most. -/
theorem filter_of_key [TransOrd α] [LawfulEqOrd α] {q : α × β → Bool} (ha : Ascending t)
    (hq : ∀ p ∈ t, q p = true → p.1 = k) :
    t.filter q = ((find? k t).map fun v => (k, v)).toList.filter q := by
  induction t with
  | nil => rfl
  | cons x t ih =>
    obtain ⟨k', w⟩ := x
    have hc := List.pairwise_cons.1 ha
    have ih := ih hc.2 fun p hp => hq p (List.mem_cons_of_mem _ hp)
    by_cases hk : k = k'
    · subst hk
      have hnone : t.filter q = [] := by
        refine List.filter_eq_nil_iff.2 fun p hp hqp => ?_
        have hlt := hc.1 p hp
        rw [hq p (List.mem_cons_of_mem _ hp) hqp] at hlt
        simp at hlt
      simp [find?, List.filter_cons, hnone]
    · have hw : ¬ q (k', w) = true := fun h => hk (hq (k', w) (by simp) h).symm
      simp [find?, hk, hw, ih]

/-- What is found in a table makes the table. -/
theorem eq_of_find? [TransOrd α] [LawfulEqOrd α] : ∀ {s t : SortedTable α β}, Ascending s →
    Ascending t → (∀ k, find? k s = find? k t) → s = t
  | [], [], _, _, _ => rfl
  | [], (k, w) :: t, _, _, h => by have := h k; simp [find?] at this
  | (k, v) :: s, [], _, _, h => by have := h k; simp [find?] at this
  | (k, v) :: s, (k', w) :: t, hs, ht, h => by
    have hs' := List.pairwise_cons.1 hs
    have ht' := List.pairwise_cons.1 ht
    have hk : k = k' := by
      have h1 : (k, v) ∈ (k', w) :: t := mem_of_find? (by rw [← h]; simp [find?])
      have h2 : (k', w) ∈ (k, v) :: s := mem_of_find? (by rw [h]; simp [find?])
      rcases List.mem_cons.1 h1 with h1 | h1
      · exact congrArg Prod.fst h1
      · rcases List.mem_cons.1 h2 with h2 | h2
        · exact (congrArg Prod.fst h2).symm
        · have := TransCmp.lt_trans (ht'.1 _ h1) (hs'.1 _ h2)
          simp at this
    subst hk
    have hv : v = w := by have := h k; simpa [find?] using this
    subst hv
    congr 1
    refine eq_of_find? hs'.2 ht'.2 fun x => ?_
    by_cases hx : x = k
    · subst hx
      rw [find?_eq_none.2 fun p hp => ?_, find?_eq_none.2 fun p hp => ?_]
      · rintro rfl; have := ht'.1 p hp; simp at this
      · rintro rfl; have := hs'.1 p hp; simp at this
    · simpa [find?, hx] using h x

/-! ## Changing a key -/

theorem mem_upsert {f : Option β → β} {p : α × β} (h : p ∈ upsert k f t) :
    (∃ o, p = (k, f o)) ∨ p ∈ t := by
  induction t with
  | nil => exact .inl ⟨none, by simpa [upsert] using h⟩
  | cons x t ih =>
    obtain ⟨k', w⟩ := x
    unfold upsert at h
    split at h
    · rcases List.mem_cons.1 h with h | h
      · exact .inl ⟨none, h⟩
      · exact .inr h
    · rcases List.mem_cons.1 h with h | h
      · exact .inl ⟨some w, h⟩
      · exact .inr (List.mem_cons_of_mem _ h)
    · rcases List.mem_cons.1 h with rfl | h
      · exact .inr List.mem_cons_self
      · exact (ih h).imp id (List.mem_cons_of_mem _)

theorem mem_insert {p : α × β} (h : p ∈ insert k v t) : p = (k, v) ∨ p ∈ t :=
  (mem_upsert h).imp (fun ⟨_, h⟩ => h) id

theorem insert_ne_nil : insert k v t ≠ [] := by
  cases t with
  | nil => simp [SortedTable.insert, SortedTable.upsert]
  | cons p t =>
    simp only [SortedTable.insert, SortedTable.upsert]
    split <;> simp

theorem Ascending.upsert [TransOrd α] [LawfulEqOrd α] {f : Option β → β} (h : Ascending t) :
    Ascending (upsert k f t) := by
  induction t with
  | nil => exact List.pairwise_singleton _ _
  | cons x t ih =>
    obtain ⟨k', w⟩ := x
    have hc := List.pairwise_cons.1 h
    unfold SortedTable.upsert
    split
    · rename_i hlt
      refine List.pairwise_cons.2 ⟨fun p hp => ?_, h⟩
      rcases List.mem_cons.1 hp with rfl | hp
      · exact hlt
      · exact TransCmp.lt_trans hlt (hc.1 p hp)
    · rename_i heq
      have heq : k = k' := by simpa using heq
      exact List.pairwise_cons.2 ⟨fun p hp => heq ▸ hc.1 p hp, hc.2⟩
    · rename_i hgt
      have hgt := OrientedCmp.gt_iff_lt.1 hgt
      refine List.pairwise_cons.2 ⟨fun p hp => ?_, ih hc.2⟩
      rcases mem_upsert hp with ⟨o, rfl⟩ | hp
      · exact hgt
      · exact hc.1 p hp

theorem find?_upsert_ne [LawfulEqOrd α] {f : Option β → β} (h : k' ≠ k) (t : SortedTable α β) :
    find? k' (upsert k f t) = find? k' t := by
  induction t with
  | nil => simp [upsert, find?, h]
  | cons p t ih =>
    obtain ⟨x, w⟩ := p
    unfold upsert
    split
    · simp [find?, h]
    · rename_i heq
      have heq : k = x := by simpa using heq
      simp [find?, h, ← heq]
    · unfold find?
      rw [ih]

theorem find?_upsert_self [TransOrd α] [LawfulEqOrd α] {f : Option β → β} (ha : Ascending t) :
    find? k (upsert k f t) = some (f (find? k t)) := by
  induction t with
  | nil => simp [upsert, find?]
  | cons p t ih =>
    obtain ⟨x, w⟩ := p
    have hc := List.pairwise_cons.1 ha
    have ih := ih hc.2
    unfold upsert
    split
    · rename_i hlt
      have hnone : find? k ((x, w) :: t) = none := by
        refine find?_eq_none.2 fun p hp => ?_
        rintro rfl
        rcases List.mem_cons.1 hp with rfl | hp
        · simp at hlt
        · have := TransCmp.lt_trans hlt (hc.1 p hp); simp at this
      rw [hnone]
      simp [find?]
    · rename_i heq
      have heq : k = x := by simpa using heq
      simp [find?, heq]
    · rename_i hgt
      have hne : k ≠ x := by rintro rfl; simp at hgt
      simpa [find?, hne] using ih

theorem find?_upsert [TransOrd α] [LawfulEqOrd α] [DecidableEq α] {f : Option β → β}
    (h : Ascending t) :
    find? k' (upsert k f t) = if k' = k then some (f (find? k t)) else find? k' t := by
  split
  · rename_i hk; subst hk; exact find?_upsert_self h
  · rename_i hk; exact find?_upsert_ne hk t

theorem Ascending.insert [TransOrd α] [LawfulEqOrd α] (h : Ascending t) :
    Ascending (insert k v t) :=
  h.upsert

theorem find?_insert [TransOrd α] [LawfulEqOrd α] [DecidableEq α] (h : Ascending t) :
    find? k' (insert k v t) = if k' = k then some v else find? k' t :=
  find?_upsert h

/-- A change that agrees with a map of the values can be made before or after it. -/
theorem upsert_map (f : β → γ) {u : Option β → β} {w : Option γ → γ} (hnew : f (u none) = w none)
    (hold : ∀ p ∈ t, f (u (some p.2)) = w (some (f p.2))) :
    (upsert k u t).map (fun p => (p.1, f p.2)) = upsert k w (t.map fun p => (p.1, f p.2)) := by
  induction t with
  | nil => simp [upsert, hnew]
  | cons p t ih =>
    have ih := ih fun q hq => hold q (List.mem_cons_of_mem _ hq)
    have hp := hold p List.mem_cons_self
    simp only [upsert, List.map_cons] at ih ⊢
    split
    · simp [hnew]
    · simp [hp]
    · rw [List.map_cons, ih]

theorem insert_map (f : β → γ) (t : SortedTable α β) :
    (insert k v t).map (fun p => (p.1, f p.2)) = insert k (f v) (t.map fun p => (p.1, f p.2)) :=
  upsert_map f rfl fun _ _ => rfl

theorem mem_keys_upsert [LawfulEqOrd α] {f : Option β → β} :
    k' ∈ (upsert k f t).keys ↔ k' = k ∨ k' ∈ t.keys := by
  induction t with
  | nil => simp [upsert, keys]
  | cons p t ih =>
    obtain ⟨x, w⟩ := p
    simp only [keys, List.map_cons, List.mem_cons] at ih ⊢
    unfold upsert
    split
    · simp
    · rename_i heq
      have heq : k = x := by simpa using heq
      simp [heq]
    · rw [List.map_cons, List.mem_cons, ih]
      exact or_left_comm

theorem mem_keys_insert [LawfulEqOrd α] : k' ∈ (insert k v t).keys ↔ k' = k ∨ k' ∈ t.keys :=
  mem_keys_upsert

/-- What is held does not matter to the keys. -/
theorem keys_upsert_congr {f : Option β → β} {g : Option γ → γ} : ∀ {t : SortedTable α β}
    {s : SortedTable α γ}, t.keys = s.keys → (upsert k f t).keys = (upsert k g s).keys
  | [], [], _ => rfl
  | [], _ :: _, h => by cases h
  | _ :: _, [], h => by cases h
  | (x, v) :: t, (y, w) :: s, h => by
    obtain ⟨rfl, hrest⟩ := List.cons.inj h
    have ih := keys_upsert_congr (f := f) (g := g) hrest
    simp only [upsert]
    cases compare k x with
    | lt => exact congrArg (k :: ·) h
    | eq => exact congrArg (k :: ·) hrest
    | gt => exact congrArg (x :: ·) ih

/-- No key of the pairs is lost in their table. -/
theorem mem_keys_ofList [LawfulEqOrd α] {pairs : List (α × β)} :
    k ∈ (ofList pairs).keys ↔ k ∈ keys pairs := by
  have hfold : ∀ t : SortedTable α β,
      k ∈ keys (pairs.foldl (fun t p => insert p.1 p.2 t) t) ↔ k ∈ keys t ∨ k ∈ keys pairs := by
    induction pairs with
    | nil => simp [keys]
    | cons p pairs ih =>
      intro t
      rw [List.foldl_cons, ih, mem_keys_insert]
      simp only [keys, List.map_cons, List.mem_cons]
      rw [or_assoc, or_left_comm]
  refine (hfold []).trans ?_
  simp [keys]

/-- A table of pairs ascends, and holds nothing but the pairs. -/
theorem ofList_spec [TransOrd α] [LawfulEqOrd α] (pairs : List (α × β)) :
    Ascending (ofList pairs) ∧ ∀ p ∈ ofList pairs, p ∈ pairs := by
  refine List.foldlRecOn pairs _ (motive := fun t => Ascending t ∧ ∀ p ∈ t, p ∈ pairs)
    ⟨.nil, by simp⟩ fun t h q hq => ⟨h.1.insert, fun p hp => ?_⟩
  rcases mem_insert hp with rfl | hp
  · exact hq
  · exact h.2 p hp

/-- A new key makes one more pair. -/
theorem upsert_perm [LawfulEqOrd α] {f : Option β → β} (h : find? k t = none) :
    (upsert k f t).Perm ((k, f none) :: t) := by
  induction t with
  | nil => exact .refl _
  | cons p t ih =>
    obtain ⟨x, w⟩ := p
    have hne : x ≠ k := find?_eq_none.1 h _ List.mem_cons_self
    have hrest : find? k t = none :=
      find?_eq_none.2 fun q hq => find?_eq_none.1 h q (List.mem_cons_of_mem _ hq)
    unfold upsert
    split
    · exact .refl _
    · rename_i heq
      have heq : k = x := by simpa using heq
      exact absurd heq.symm hne
    · exact ((ih hrest).cons _).trans (.swap _ _ _)

/-- A key that is there keeps its place. -/
theorem exists_split_of_find? [TransOrd α] [LawfulEqOrd α] (ha : Ascending t)
    (h : find? k t = some v) : ∃ pre post, t = pre ++ (k, v) :: post ∧
      ∀ f, upsert k f t = pre ++ (k, f (some v)) :: post := by
  induction t with
  | nil => simp at h
  | cons p t ih =>
    obtain ⟨x, w⟩ := p
    have hc := List.pairwise_cons.1 ha
    by_cases hk : k = x
    · subst hk
      obtain rfl : w = v := by simpa [find?] using h
      exact ⟨[], t, rfl, fun f => by simp [upsert]⟩
    · have hrest : find? k t = some v := by simpa [find?, hk] using h
      obtain ⟨pre, post, rfl, hup⟩ := ih hc.2 hrest
      have hgt : compare k x = .gt := OrientedCmp.gt_iff_lt.2 (hc.1 (k, v) (by simp))
      exact ⟨(x, w) :: pre, post, rfl, fun f => by simp [upsert, hgt, hup]⟩

theorem Ascending.nodup_keys [TransOrd α] (h : Ascending t) : t.keys.Nodup := by
  refine List.pairwise_map.2 (h.imp fun {p q} hlt => ?_)
  intro he
  simp [he] at hlt

end SortedTable
end MysqlMetrics
