import Mathlib.Data.List.Forall2

/-! Actions that change a state and can fail. What they do is told by the
result and the state that they leave, one step after the other. -/

namespace PoolLogin.Action

variable {ε σ α β : Type}

theorem run_get (s : σ) : (get : ExceptT ε (StateM σ) σ).run s = (.ok s, s) := rfl

theorem run_set (s t : σ) : (set t : ExceptT ε (StateM σ) PUnit).run s = (.ok ⟨⟩, t) := rfl

theorem run_ofExcept (x : Except ε α) (s : σ) :
    (ofExcept x : ExceptT ε (StateM σ) α).run s = (x, s) := by
  cases x <;> rfl

/-- The second action starts where the first one ends, unless that fails. -/
theorem run_bind (x : ExceptT ε (StateM σ) α) (f : α → ExceptT ε (StateM σ) β) (s : σ) :
    (x >>= f).run s = match x.run s with
      | (.ok a, t) => (f a).run t
      | (.error e, t) => (.error e, t) := by
  change (match x.run s with | (r, t) => (ExceptT.bindCont f r).run t) = _
  cases x.run s with
  | mk r t => cases r <;> rfl

/-- Actions that succeed one after the other have both succeeded. -/
theorem exists_of_run_bind {x : ExceptT ε (StateM σ) α} {f : α → ExceptT ε (StateM σ) β} {s t : σ}
    {b : β} (h : (x >>= f).run s = (.ok b, t)) :
    ∃ a middle, x.run s = (.ok a, middle) ∧ (f a).run middle = (.ok b, t) := by
  rw [run_bind] at h
  split at h
  · next a middle hFirst => exact ⟨a, middle, hFirst, h⟩
  · cases h

/-- A handler starts where the action has failed. -/
theorem run_tryCatch (x : ExceptT ε (StateM σ) α) (f : ε → ExceptT ε (StateM σ) α) (s : σ) :
    (tryCatch x f).run s = match x.run s with
      | (.ok a, t) => (.ok a, t)
      | (.error e, t) => (f e).run t := by
  change (match x.run s with
    | (r, t) => (match r with
      | .ok a => (pure (.ok a) : StateM σ (Except ε α))
      | .error e => (f e).run) t) = _
  cases x.run s with
  | mk r t => cases r <;> rfl

/-- Steps that do the same one by one do the same one after another. -/
theorem run_forM_congr {γ δ : Type} {f : γ → ExceptT ε (StateM σ) PUnit}
    {g : δ → ExceptT ε (StateM σ) PUnit} {k : γ → δ}
    (h : ∀ a s, (f a).run s = (g (k a)).run s) (items : List γ) (s : σ) :
    (items.forM f).run s = ((items.map k).forM g).run s := by
  induction items generalizing s with
  | nil => rfl
  | cons a items ih =>
      rw [List.map_cons, List.forM, List.forM, run_bind, run_bind, h]
      cases (g (k a)).run s with
      | mk result t =>
          cases result with
          | error e => rfl
          | ok _ => exact ih t

/-- A computation that succeeds has succeeded in its first step. -/
theorem exists_of_bind_ok {x : Except ε α} {f : α → Except ε β} {b : β}
    (h : (x >>= f) = .ok b) : ∃ a, x = .ok a ∧ f a = .ok b := by
  cases x with
  | error e => cases h
  | ok a => exact ⟨a, rfl, h⟩

theorem mapError_eq_ok_iff {δ : Type} {x : Except ε α} {f : ε → δ} {a : α} :
    x.mapError f = .ok a ↔ x = .ok a := by
  cases x <;> simp [Except.mapError]

theorem mapError_eq_error_iff {δ : Type} {x : Except ε α} {f : ε → δ} {e : δ} :
    x.mapError f = .error e ↔ ∃ fault, x = .error fault ∧ f fault = e := by
  cases x <;> simp [Except.mapError]

/-- A computation fails in its first step or in what follows it. -/
theorem bind_eq_error_cases {x : Except ε α} {f : α → Except ε β} {e : ε}
    (h : (x >>= f) = .error e) : x = .error e ∨ ∃ a, x = .ok a ∧ f a = .error e := by
  cases x with
  | error fault => exact Or.inl (congrArg Except.error (Except.error.inj h))
  | ok a => exact Or.inr ⟨a, rfl, h⟩

/-- The results of steps are those of each of them. -/
theorem mapM_eq_ok_iff {f : α → Except ε β} {items : List α} {results : List β} :
    items.mapM f = .ok results ↔ List.Forall₂ (fun a b => f a = .ok b) items results := by
  induction items generalizing results with
  | nil =>
      rw [List.forall₂_nil_left_iff]
      exact ⟨fun h => (Except.ok.inj h).symm, fun h => by rw [h]; rfl⟩
  | cons a items ih =>
      rw [List.mapM_cons, List.forall₂_cons_left_iff]
      constructor
      · intro h
        obtain ⟨b, hb, h⟩ := exists_of_bind_ok h
        obtain ⟨others, hOthers, h⟩ := exists_of_bind_ok h
        cases h
        exact ⟨b, others, hb, ih.mp hOthers, rfl⟩
      · rintro ⟨b, others, hb, hOthers, rfl⟩
        rw [hb, ih.mpr hOthers]
        rfl

/-- Steps that all succeed give the list of their results. -/
theorem mapM_ok {f : α → Except ε β} {g : α → β} {items : List α}
    (h : ∀ a ∈ items, f a = .ok (g a)) : items.mapM f = .ok (items.map g) := by
  rw [mapM_eq_ok_iff, List.forall₂_map_right_iff, List.forall₂_same]
  exact h

/-- If steps fail, one of them does. -/
theorem exists_of_mapM_error {f : α → Except ε β} {items : List α} {e : ε}
    (h : items.mapM f = .error e) : ∃ a ∈ items, f a = .error e := by
  induction items with
  | nil => cases h
  | cons a items ih =>
      rw [List.mapM_cons] at h
      rcases bind_eq_error_cases h with hFirst | ⟨b, _, h⟩
      · exact ⟨a, List.mem_cons_self, hFirst⟩
      · rcases bind_eq_error_cases h with hRest | ⟨others, _, h⟩
        · obtain ⟨c, hc, hFault⟩ := ih hRest
          exact ⟨c, List.mem_cons_of_mem a hc, hFault⟩
        · cases h

/-- If no step can fail, there is a result for each of them. -/
theorem exists_mapM_ok {f : α → Except ε β} {items : List α}
    (h : ∀ a ∈ items, ∃ b, f a = .ok b) : ∃ results, items.mapM f = .ok results := by
  cases hRun : items.mapM f with
  | ok results => exact ⟨results, rfl⟩
  | error e =>
      obtain ⟨a, ha, hFault⟩ := exists_of_mapM_error hRun
      obtain ⟨b, hb⟩ := h a ha
      cases hb.symm.trans hFault

/-- What a computation gives is seen without its error. -/
theorem eq_ok_of_toOption {result : Except ε α} {a : α}
    (h : result.toOption = some a) : result = .ok a := by
  cases result with
  | error e => cases h
  | ok b =>
      cases h
      rfl

/-! ### Options -/

/-- What undoes a step undoes it one by one. -/
theorem mapM_map_of_forall {f : α → β} {g : β → Option α} {items : List α}
    (h : ∀ a ∈ items, g (f a) = some a) : (items.map f).mapM g = some items := by
  induction items with
  | nil => rfl
  | cons a items ih =>
      rw [List.map_cons, List.mapM_cons, h a List.mem_cons_self,
        ih fun b hb => h b (List.mem_cons_of_mem a hb)]
      rfl

theorem length_of_mapM_some {f : α → Option β} {items : List α} {results : List β}
    (h : items.mapM f = some results) : results.length = items.length := by
  induction items generalizing results with
  | nil =>
      cases h
      rfl
  | cons a items ih =>
      rw [List.mapM_cons] at h
      obtain ⟨b, _, h⟩ := Option.bind_eq_some_iff.mp h
      obtain ⟨others, hOthers, h⟩ := Option.bind_eq_some_iff.mp h
      cases h
      rw [List.length_cons, List.length_cons, ih hOthers]

end PoolLogin.Action
