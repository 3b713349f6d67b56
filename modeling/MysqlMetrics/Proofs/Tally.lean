import Mathlib
import MysqlMetrics.Proofs.Table
/-!
# Sums by key

A measure of some items is added up by the keys of the items (`tally`). Each key of an item stands
in the table once, with the sum over the items of this key (`find?_tally`), so all sums together are
the sum over all items (`sum_tally`) and the order of the items does not matter (`tally_perm`).
-/
namespace MysqlMetrics.SortedTable

open Std

variable {α ι M : Type} [Ord α] [AddCommMonoid M] {t : SortedTable α M} {k : α} {x : M}
  {key : ι → α} {measure : ι → M} {items items' : List ι}

/-- Adds to what is held under a key, which is nothing at first. -/
def add (k : α) (x : M) (t : SortedTable α M) : SortedTable α M :=
  upsert k (fun old => old.getD 0 + x) t

/-- The sum of a measure over the items with the same key, by key. -/
def tally (key : ι → α) (measure : ι → M) (items : List ι) : SortedTable α M :=
  items.foldl (fun t i => add (key i) (measure i) t) []

theorem tally_append_one (i : ι) :
    tally key measure (items ++ [i]) = add (key i) (measure i) (tally key measure items) :=
  List.foldl_append

theorem sum_add : (add k x t).values.sum = t.values.sum + x := by
  induction t with
  | nil => simp [add, upsert, values]
  | cons p t ih =>
    obtain ⟨k', y⟩ := p
    simp only [add, values, List.map_cons, List.sum_cons] at ih ⊢
    unfold upsert
    split
    · simp [add_comm]
    · simp [add_assoc, add_comm x]
    · rw [List.map_cons, List.sum_cons, ih, add_assoc]

/-- Nothing is lost and nothing is counted twice. -/
theorem sum_tally (key : ι → α) (measure : ι → M) (items : List ι) :
    (tally key measure items).values.sum = (items.map measure).sum := by
  induction items using List.reverseRecOn with
  | nil => rfl
  | append_singleton items i ih => simp [tally_append_one, sum_add, ih]

theorem ascending_tally [TransOrd α] [LawfulEqOrd α] (key : ι → α) (measure : ι → M)
    (items : List ι) : (tally key measure items).Ascending :=
  List.foldlRecOn items _ .nil fun _ h _ _ => h.upsert

/-- The items with a key. -/
def sharing [DecidableEq α] (key : ι → α) (k : α) (items : List ι) : List ι :=
  items.filter fun i => key i = k

variable [TransOrd α] [LawfulEqOrd α] [DecidableEq α]

theorem find?_tally (key : ι → α) (measure : ι → M) (items : List ι) (k : α) :
    find? k (tally key measure items) = if sharing key k items = [] then none
      else some ((sharing key k items).map measure).sum := by
  induction items using List.reverseRecOn with
  | nil => rfl
  | append_singleton items i ih =>
    have hsum : (find? k (tally key measure items)).getD 0 =
        ((sharing key k items).map measure).sum := by
      rw [ih]
      split
      · rename_i hnil
        simp [hnil]
      · rfl
    rw [tally_append_one, add, find?_upsert (ascending_tally key measure items)]
    by_cases hk : key i = k
    · have happend : sharing key k (items ++ [i]) = sharing key k items ++ [i] := by
        simp [sharing, hk]
      rw [if_pos hk.symm, happend, if_neg (by simp), hk, hsum]
      simp
    · have hsame : sharing key k (items ++ [i]) = sharing key k items := by
        simp [sharing, hk]
      rw [if_neg (Ne.symm hk), hsame, ih]

/-- No key stands in the table that no item has. -/
theorem exists_of_mem_tally {p : α × M} (hp : p ∈ tally key measure items) :
    ∃ i ∈ items, key i = p.1 := by
  have hfind := (ascending_tally key measure items).find? hp
  rw [find?_tally] at hfind
  split at hfind
  · cases hfind
  · rename_i hne
    obtain ⟨i, hi⟩ := List.exists_mem_of_ne_nil _ hne
    obtain ⟨hmem, hk⟩ := List.mem_filter.1 hi
    exact ⟨i, hmem, of_decide_eq_true hk⟩

theorem tally_perm (h : items.Perm items') :
    tally key measure items = tally key measure items' := by
  refine eq_of_find? (ascending_tally ..) (ascending_tally ..) fun k => ?_
  have hsharing : (sharing key k items).Perm (sharing key k items') := h.filter _
  have hnil : sharing key k items = [] ↔ sharing key k items' = [] :=
    ⟨fun he => (he ▸ hsharing).nil_eq.symm, fun he => (he ▸ hsharing).eq_nil⟩
  rw [find?_tally, find?_tally, (hsharing.map measure).sum_eq]
  simp only [hnil]

end MysqlMetrics.SortedTable
