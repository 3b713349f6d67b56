import Mathlib.Data.List.Forall2
/-!
# Results

A result comes of the results before it, and a list of steps is done when every step is.
-/
namespace MysqlMetrics

variable {ε α β : Type} {f : α → Except ε β}

theorem bind_eq_ok {x : Except ε α} {y : β} : (x >>= f) = .ok y ↔ ∃ a, x = .ok a ∧ f a = .ok y := by
  cases x <;> simp [bind, Except.bind]

theorem map_eq_ok {g : α → β} {x : Except ε α} {y : β} :
    x.map g = .ok y ↔ ∃ a, x = .ok a ∧ g a = y := by
  cases x <;> simp [Except.map]

theorem forM_eq_ok {g : α → Except ε PUnit} {xs : List α} :
    xs.forM g = .ok ⟨⟩ ↔ ∀ x ∈ xs, g x = .ok ⟨⟩ := by
  induction xs with
  | nil => simp [pure, Except.pure]
  | cons x xs ih =>
    rw [List.forall_mem_cons, ← ih, show (x :: xs).forM g = (g x >>= fun _ => xs.forM g) from rfl]
    cases g x <;> simp [bind, Except.bind]

/-- The first step that fails ends it. -/
theorem forM_eq_error {g : α → Except ε PUnit} {xs : List α} {err : ε} : xs.forM g = .error err ↔
    ∃ pre x post, xs = pre ++ x :: post ∧ (∀ y ∈ pre, g y = .ok ⟨⟩) ∧ g x = .error err := by
  induction xs with
  | nil => simp [pure, Except.pure]
  | cons x xs ih =>
    rw [show (x :: xs).forM g = (g x >>= fun _ => xs.forM g) from rfl]
    constructor
    · intro h
      cases hx : g x with
      | error err' =>
        rw [hx] at h
        cases h
        exact ⟨[], x, xs, rfl, by simp, hx⟩
      | ok u =>
        rw [hx] at h
        obtain ⟨pre, y, post, rfl, hpre, hy⟩ := ih.1 h
        exact ⟨x :: pre, y, post, rfl, List.forall_mem_cons.2 ⟨hx, hpre⟩, hy⟩
    · rintro ⟨pre, y, post, heq, hpre, hy⟩
      cases pre with
      | nil =>
        obtain ⟨rfl, rfl⟩ := List.cons.inj heq
        rw [hy]
        rfl
      | cons z pre =>
        obtain ⟨rfl, rfl⟩ := List.cons.inj heq
        obtain ⟨hz, hpre⟩ := List.forall_mem_cons.1 hpre
        rw [hz]
        exact ih.2 ⟨pre, y, post, rfl, hpre, hy⟩

theorem mapM_eq_ok {xs : List α} {ys : List β} :
    xs.mapM f = .ok ys ↔ xs.map f = ys.map Except.ok := by
  induction xs generalizing ys with
  | nil =>
    cases ys with
    | nil => simp [pure, Except.pure]
    | cons y ys => simp [pure, Except.pure]
  | cons x xs ih =>
    rw [List.mapM_cons]
    cases hx : f x with
    | error e => cases ys <;> simp [hx, bind, Except.bind]
    | ok y =>
      cases hs : xs.mapM f with
      | error e =>
        cases ys with
        | nil => simp [bind, Except.bind]
        | cons z zs =>
          have : ¬ xs.map f = zs.map Except.ok := fun h => by
            rw [← ih, hs] at h; cases h
          simp [bind, Except.bind, this]
      | ok zs =>
        have hmap := ih.1 hs
        cases ys with
        | nil => simp [bind, Except.bind, pure, Except.pure]
        | cons w ws =>
          have hinj : zs.map (Except.ok (ε := ε)) = ws.map Except.ok ↔ zs = ws :=
            List.map_inj_right fun a b => Except.ok.inj
          simp [bind, Except.bind, pure, Except.pure, hx, hmap, hinj]

theorem exists_of_mem_mapM {xs : List α} {ys : List β} (h : xs.mapM f = .ok ys) {y : β}
    (hy : y ∈ ys) : ∃ x ∈ xs, f x = .ok y := by
  have : Except.ok y ∈ xs.map f := by rw [mapM_eq_ok.1 h]; exact List.mem_map_of_mem hy
  simpa using this

theorem exists_of_mapM_eq_ok {xs : List α} {ys : List β} (h : xs.mapM f = .ok ys) {x : α}
    (hx : x ∈ xs) : ∃ y ∈ ys, f x = .ok y := by
  have : f x ∈ ys.map Except.ok := by rw [← mapM_eq_ok.1 h]; exact List.mem_map_of_mem hx
  obtain ⟨y, hy, he⟩ := List.mem_map.1 this
  exact ⟨y, hy, he.symm⟩

theorem exists_mapM_eq_ok {xs : List α} (h : ∀ x ∈ xs, ∃ y, f x = .ok y) :
    ∃ ys, xs.mapM f = .ok ys := by
  induction xs with
  | nil => exact ⟨[], rfl⟩
  | cons x xs ih =>
    obtain ⟨y, hy⟩ := h x (by simp)
    obtain ⟨ys, hys⟩ := ih fun z hz => h z (List.mem_cons_of_mem _ hz)
    exact ⟨y :: ys, mapM_eq_ok.2 (by simp [hy, mapM_eq_ok.1 hys])⟩

/-- Results that are all there make a list. -/
theorem exists_of_forall₂_ok {γ : Type} {R : γ → α → Prop} {zs : List γ} {rs : List (Except ε α)}
    (h : List.Forall₂ (fun z r => ∃ x, r = .ok x ∧ R z x) zs rs) :
    ∃ xs, rs = xs.map .ok ∧ List.Forall₂ R zs xs := by
  induction h with
  | nil => exact ⟨[], rfl, .nil⟩
  | cons hr _ ih =>
    obtain ⟨x, rfl, hx⟩ := hr
    obtain ⟨xs, rfl, hxs⟩ := ih
    exact ⟨x :: xs, rfl, .cons hx hxs⟩

/-- The first step that fails decides. -/
theorem mapM_eq_error {xs : List α} {err : ε} : xs.mapM f = .error err ↔
    ∃ x, xs.find? (fun x => !(f x).isOk) = some x ∧ f x = .error err := by
  induction xs with
  | nil => simp [pure, Except.pure]
  | cons x xs ih =>
    rw [List.mapM_cons]
    cases hx : f x with
    | error e => simp [hx, bind, Except.bind, Except.isOk, Except.toBool]
    | ok y =>
      have hrest : (Except.ok y >>= fun y => xs.mapM f >>= fun ys => pure (y :: ys)) = .error err ↔
          xs.mapM f = .error err := by
        cases xs.mapM f <;> simp [bind, Except.bind, pure, Except.pure]
      rw [hrest, ih]
      simp [hx, Except.isOk, Except.toBool]

theorem exists_mapM_eq_error {xs : List α} {x : α} (hx : x ∈ xs) {err : ε} (h : f x = .error err) :
    ∃ err', xs.mapM f = .error err' := by
  cases hs : xs.mapM f with
  | error err' => exact ⟨err', rfl⟩
  | ok ys =>
    obtain ⟨y, -, hy⟩ := exists_of_mapM_eq_ok hs hx
    rw [h] at hy
    cases hy

/-- Where it is for an item alone to make a step fail, steps fail if there is such an item. -/
theorem exists_foldlM_eq_error {σ : Type} {step : σ → α → Except ε σ} {Fails : α → Prop}
    (h : ∀ s x, (∃ err, step s x = .error err) ↔ Fails x) : ∀ {xs : List α} {s : σ},
      (∃ err, xs.foldlM step s = .error err) ↔ ∃ x ∈ xs, Fails x
  | [], s => by simp [pure, Except.pure]
  | x :: xs, s => by
    rw [List.foldlM_cons]
    simp only [List.mem_cons, exists_eq_or_imp]
    cases hs : step s x with
    | error err =>
      have hfails : Fails x := (h s x).1 ⟨err, hs⟩
      simp [bind, Except.bind, hfails]
    | ok next =>
      have hnot : ¬ Fails x := fun hfails => by
        obtain ⟨err, herr⟩ := (h s x).2 hfails
        rw [hs] at herr
        cases herr
      have ih : (∃ err, xs.foldlM step next = .error err) ↔ ∃ x ∈ xs, Fails x :=
        exists_foldlM_eq_error h
      simpa [bind, Except.bind, hnot] using ih

end MysqlMetrics
