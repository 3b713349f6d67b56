import MysqlMetrics.Metric.Exposition
import MysqlMetrics.Proofs.Results
/-!
# What can be written

Families with a name and metrics are written, unless one of them is untyped.
-/
namespace MysqlMetrics.Exposition

/-- A family has a name and metrics. -/
def Filled (f : Family) : Prop := f.name ≠ "" ∧ f.metrics ≠ []

theorem family_of_filled {f : Family} (h : Filled f) :
    (f.kind = .untyped ∧ family f = .error .unsupported) ∨
      (f.kind ≠ .untyped ∧ ∃ text, family f = .ok text) := by
  have hc : (f.metrics.isEmpty || f.name.isEmpty) = false := by simp [h.1, h.2]
  by_cases hk : f.kind = .untyped
  · exact .inl ⟨hk, by simp [family, hc, hk]⟩
  · exact .inr ⟨hk, _, by simp only [family, hc, hk, Bool.false_eq_true, if_false]; rfl⟩

theorem render_of_untyped : ∀ {fs : List Family}, (∀ f ∈ fs, Filled f) →
    (∃ f ∈ fs, f.kind = .untyped) → render fs = .error .unsupported
  | [], _, h => by simp at h
  | f :: fs, hf, h => by
    rcases family_of_filled (hf f (by simp)) with ⟨-, he⟩ | ⟨hk, text, ht⟩
    · simp [render, he, bind, Except.bind, Except.map]
    · have hrest : ∃ g ∈ fs, g.kind = .untyped := by
        obtain ⟨g, hg, hu⟩ := h
        rcases List.mem_cons.1 hg with rfl | hg
        · exact absurd hu hk
        · exact ⟨g, hg, hu⟩
      have ih := render_of_untyped (fun g hg => hf g (List.mem_cons_of_mem _ hg)) hrest
      unfold render at ih ⊢
      cases hm : fs.mapM family with
      | ok texts => rw [hm] at ih; cases ih
      | error e =>
        rw [hm] at ih
        simp [ht, hm, bind, Except.bind, Except.map] at ih ⊢
        exact ih

theorem exists_render {fs : List Family} (hf : ∀ f ∈ fs, Filled f)
    (h : ∀ f ∈ fs, f.kind ≠ .untyped) : ∃ text, render fs = .ok text := by
  obtain ⟨texts, ht⟩ := exists_mapM_eq_ok (f := family) fun f hmem =>
    ((family_of_filled (hf f hmem)).resolve_left fun ⟨hk, _⟩ => h f hmem hk).2
  exact ⟨String.join texts, by simp [render, ht, Except.map]⟩

end MysqlMetrics.Exposition
