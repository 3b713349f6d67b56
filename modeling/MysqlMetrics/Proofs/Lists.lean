import Mathlib.Algebra.Order.BigOperators.Group.List
import Mathlib.Algebra.Order.Ring.Nat
/-!
# Items of a list

Workers of a scrape and requests on their way stand in lists, and a step puts one of them in its own
place again, changed. The others are as they were (`getElem?_set_cases`), and so is what a change
has left alone (`map_set_eq`). What is picked out of a list comes of positions in it
(`exists_positions`).
-/
namespace MysqlMetrics

variable {α β : Type} {xs : List α} {i j : Nat} {x y z : α}

theorem getElem?_set_cases (hx : xs[i]? = some x) (h : (xs.set i y)[j]? = some z) :
    j = i ∧ z = y ∨ j ≠ i ∧ xs[j]? = some z := by
  by_cases hij : i = j
  · subst hij
    rw [List.getElem?_set_self (List.getElem?_eq_some_iff.1 hx).1] at h
    cases h
    exact .inl ⟨rfl, rfl⟩
  · rw [List.getElem?_set_ne hij] at h
    exact .inr ⟨Ne.symm hij, h⟩

theorem map_set_eq {f : α → β} (hx : xs[i]? = some x) (h : f y = f x) :
    (xs.set i y).map f = xs.map f := by
  obtain ⟨hi, rfl⟩ := List.getElem?_eq_some_iff.1 hx
  rw [List.map_set, h, ← List.getElem_map f, List.set_getElem_self]
  simpa using hi

theorem set_eq_self (hx : xs[i]? = some x) : xs.set i x = xs := by
  simpa using map_set_eq (f := id) hx rfl

/-- What stands before and after an item stays when the item changes. -/
theorem exists_split_of_getElem? : ∀ {xs : List α} {i : Nat}, xs[i]? = some x →
    ∃ pre post, xs = pre ++ x :: post ∧ ∀ y, xs.set i y = pre ++ y :: post
  | [], _, h => by simp at h
  | z :: xs, 0, h => by
    have hz : z = x := by simpa using h
    subst hz
    exact ⟨[], xs, rfl, fun _ => rfl⟩
  | z :: xs, i + 1, h => by
    have h : xs[i]? = some x := by simpa using h
    obtain ⟨pre, post, rfl, hset⟩ := exists_split_of_getElem? h
    exact ⟨z :: pre, post, rfl, fun y => congrArg (z :: ·) (hset y)⟩

theorem sum_set_lt {f : α → Nat} : ∀ {xs : List α} {i : Nat}, xs[i]? = some x → f y < f x →
    ((xs.set i y).map f).sum < (xs.map f).sum
  | [], _, h, _ => by simp at h
  | z :: xs, 0, h, hlt => by
    have hz : z = x := by simpa using h
    subst hz
    simpa using hlt
  | z :: xs, i + 1, h, hlt => by
    have h : xs[i]? = some x := by simpa using h
    have ih := sum_set_lt h hlt
    simpa using ih

theorem sum_eq_countP {f : α → Nat} {p : α → Bool} (h : ∀ x ∈ xs, f x = (p x).toNat) :
    (xs.map f).sum = xs.countP p := by
  induction xs with
  | nil => rfl
  | cons z xs ih =>
    have hz := h z List.mem_cons_self
    have hrest := ih fun x hx => h x (List.mem_cons_of_mem z hx)
    rw [List.map_cons, List.sum_cons, List.countP_cons, hz, hrest, Nat.add_comm]
    cases p z <;> rfl

/-- What is picked out of a list can be told from where it was picked. -/
theorem map_filterMap_eq {γ : Type} {f : α → Option β} {g : β → γ} {k : α → γ} :
    ∀ {xs : List α}, (∀ x ∈ xs, ∀ y, f x = some y → g y = k x) →
      (xs.filterMap f).map g = (xs.filter fun x => (f x).isSome).map k
  | [], _ => rfl
  | x :: xs, h => by
    have ih := map_filterMap_eq fun z hz => h z (List.mem_cons_of_mem _ hz)
    cases hx : f x with
    | none => simp [hx, ih]
    | some y => simp [hx, ih, h x List.mem_cons_self y hx]

/-- What is picked out of a list comes of ascending positions, and of all from which something can
be picked. -/
theorem exists_positions (f : α → Option β) : ∀ xs : List α, ∃ positions : List Nat,
    positions.Pairwise (· < ·) ∧
    (∀ i, i ∈ positions ↔ ∃ x y, xs[i]? = some x ∧ f x = some y) ∧
    List.Forall₂ (fun i y => ∃ x, xs[i]? = some x ∧ f x = some y) positions (xs.filterMap f)
  | [] => ⟨[], .nil, by simp, .nil⟩
  | x :: xs => by
    obtain ⟨positions, hasc, hmem, hpicked⟩ := exists_positions f xs
    have hasc : (positions.map (· + 1)).Pairwise (· < ·) :=
      List.pairwise_map.2 (hasc.imp Nat.succ_lt_succ)
    have hpicked : List.Forall₂ (fun i y => ∃ z, (x :: xs)[i]? = some z ∧ f z = some y)
        (positions.map (· + 1)) (xs.filterMap f) :=
      List.forall₂_map_left_iff.2 (hpicked.imp fun i y h => by simpa using h)
    have hlater : ∀ i, i + 1 ∈ positions.map (· + 1) ↔
        ∃ z y, (x :: xs)[i + 1]? = some z ∧ f z = some y := fun i => by simpa using hmem i
    cases hx : f x with
    | none =>
      refine ⟨_, hasc, fun i => ?_, by rwa [List.filterMap_cons_none hx]⟩
      cases i with
      | zero => simp [hx]
      | succ i => exact hlater i
    | some y =>
      refine ⟨0 :: positions.map (· + 1), List.pairwise_cons.2 ⟨by simp, hasc⟩, fun i => ?_, ?_⟩
      · cases i with
        | zero => simp [hx]
        | succ i => simpa using hlater i
      · rw [List.filterMap_cons_some hx]
        exact .cons ⟨x, rfl, hx⟩ hpicked

/-- A way there and back for every item is one for the list. -/
theorem map_back {f : α → β} {g : β → α} (h : ∀ x ∈ xs, g (f x) = x) : (xs.map f).map g = xs := by
  rw [List.map_map]
  exact (List.map_congr_left h).trans (List.map_id xs)

/-- What one thing comes of, if no two things are the same, is one thing too. -/
theorem eq_of_nodup_filterMap {f : α → Option β} {b : β} (h : (xs.filterMap f).Nodup) (hx : x ∈ xs)
    (hy : y ∈ xs) (hfx : f x = some b) (hfy : f y = some b) : x = y := by
  induction xs with
  | nil => cases hx
  | cons z xs ih =>
    have hrest : (xs.filterMap f).Nodup := h.sublist ((List.sublist_cons_self z xs).filterMap f)
    have hz : f z = some b → ∀ w ∈ xs, f w ≠ some b := fun hfz w hw hfw => by
      rw [List.filterMap_cons_some hfz] at h
      exact (List.nodup_cons.1 h).1 (List.mem_filterMap.2 ⟨w, hw, hfw⟩)
    rcases List.mem_cons.1 hx with rfl | hx'
    · rcases List.mem_cons.1 hy with rfl | hy'
      · rfl
      · exact absurd hfy (hz hfx y hy')
    · rcases List.mem_cons.1 hy with rfl | hy'
      · exact absurd hfx (hz hfy x hx')
      · exact ih hrest hx' hy'

/-! ## Runs of items -/

variable {w ys : List α}

/-- A run that shares no item with the start of a list is found behind it. -/
theorem infix_append_left (hne : w ≠ []) (h : ∀ x ∈ w, x ∉ xs) (ys : List α) :
    w <:+: xs ++ ys ↔ w <:+: ys := by
  rw [List.infix_append_iff]
  constructor
  · rintro (hw | hw | ⟨start, rest, rfl, hstart, hrest⟩)
    · obtain ⟨x, hx⟩ := List.exists_mem_of_ne_nil w hne
      exact absurd (hw.subset hx) (h x hx)
    · exact hw
    · cases start with
      | nil => exact hrest.isInfix
      | cons x start => exact absurd (hstart.subset List.mem_cons_self) (h x (by simp))
  · exact fun hw => .inr (.inl hw)

theorem infix_append_right (hne : w ≠ []) (h : ∀ x ∈ w, x ∉ ys) (xs : List α) :
    w <:+: xs ++ ys ↔ w <:+: xs := by
  rw [← List.reverse_infix, List.reverse_append,
    infix_append_left (by simpa using hne) (by simpa using h), List.reverse_infix]

end MysqlMetrics
