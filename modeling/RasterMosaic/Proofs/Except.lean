import Mathlib.Data.List.Forall2

/-!
When a chain of checks succeeds: each of its steps did, and its value is the last one's. A chain
that fails, and a traversal of a list, has the error of the first step that failed.
-/

namespace RasterMosaic

variable {α β ε δ : Type}

theorem bind_eq_ok_iff {x : Except ε α} {f : α → Except ε β} {b : β} :
    x >>= f = .ok b ↔ ∃ a, x = .ok a ∧ f a = .ok b := by
  constructor
  · intro h
    cases x with
    | error failure => cases h
    | ok a => exact ⟨a, rfl, h⟩
  · rintro ⟨a, rfl, h⟩
    exact h

theorem map_eq_ok_iff {x : Except ε α} {f : α → β} {b : β} :
    x.map f = .ok b ↔ ∃ a, x = .ok a ∧ f a = b := by
  constructor
  · intro h
    cases x with
    | error failure => cases h
    | ok a => exact ⟨a, rfl, Except.ok.inj h⟩
  · rintro ⟨a, rfl, rfl⟩
    rfl

theorem mapError_eq_ok_iff {x : Except ε α} {f : ε → δ} {a : α} :
    x.mapError f = .ok a ↔ x = .ok a := by
  cases x with
  | error failure => exact iff_of_false nofun nofun
  | ok value =>
      constructor
      · intro h
        exact congrArg Except.ok (Except.ok.inj h)
      · intro h
        exact congrArg Except.ok (Except.ok.inj h)

theorem bind_eq_error_iff {x : Except ε α} {f : α → Except ε β} {e : ε} :
    x >>= f = .error e ↔ x = .error e ∨ ∃ a, x = .ok a ∧ f a = .error e := by
  cases x with
  | error cause =>
      constructor
      · intro h
        cases h
        exact .inl rfl
      · rintro (h | ⟨_, h, _⟩) <;> cases h
        rfl
  | ok a =>
      constructor
      · intro h
        exact .inr ⟨a, rfl, h⟩
      · rintro (h | ⟨_, h, later⟩) <;> cases h
        exact later

theorem map_eq_error_iff {x : Except ε α} {f : α → β} {e : ε} :
    x.map f = .error e ↔ x = .error e := by
  cases x with
  | ok value => exact iff_of_false nofun nofun
  | error cause =>
      constructor
      · intro h
        exact congrArg Except.error (Except.error.inj h)
      · intro h
        exact congrArg Except.error (Except.error.inj h)

theorem mapError_eq_error_iff {x : Except ε α} {f : ε → δ} {e : δ} :
    x.mapError f = .error e ↔ ∃ cause, x = .error cause ∧ f cause = e := by
  cases x with
  | ok value => exact iff_of_false nofun nofun
  | error cause =>
      constructor
      · intro h
        exact ⟨cause, rfl, Except.error.inj h⟩
      · rintro ⟨_, h, rfl⟩
        cases h
        rfl

theorem toOption_eq_some_iff {x : Except ε α} {a : α} : x.toOption = some a ↔ x = .ok a := by
  cases x with
  | error cause => exact iff_of_false nofun nofun
  | ok value =>
      constructor
      · intro h
        exact congrArg Except.ok (Option.some.inj h)
      · intro h
        exact congrArg some (Except.ok.inj h)

section Traversal
variable {f : α → Except ε β} {xs : List α}

theorem mapM_eq_ok_iff {ys : List β} :
    xs.mapM f = .ok ys ↔ List.Forall₂ (fun x y => f x = .ok y) xs ys := by
  induction xs generalizing ys with
  | nil =>
      rw [List.forall₂_nil_left_iff]
      exact ⟨fun h => (Except.ok.inj h).symm, fun h => congrArg Except.ok h.symm⟩
  | cons x rest ih =>
      rw [List.mapM_cons, bind_eq_ok_iff, List.forall₂_cons_left_iff]
      refine exists_congr fun y => ?_
      rw [bind_eq_ok_iff]
      constructor
      · rintro ⟨head, others, tail, h⟩
        cases h
        exact ⟨others, head, ih.mp tail, rfl⟩
      · rintro ⟨others, head, tail, rfl⟩
        exact ⟨head, others, ih.mpr tail, rfl⟩

theorem map_ok_of_mapM_eq_ok {ys : List β} (h : xs.mapM f = .ok ys) :
    ys.map .ok = xs.map f := by
  rw [← List.forall₂_eq_eq_eq, List.forall₂_map_left_iff, List.forall₂_map_right_iff]
  exact (mapM_eq_ok_iff.mp h).flip.imp fun y x made => made.symm

theorem mapM_cons_eq_error_iff {x : α} {e : ε} :
    (x :: xs).mapM f = .error e ↔
      f x = .error e ∨ (∃ y, f x = .ok y) ∧ xs.mapM f = .error e := by
  have tail : ∀ y, (xs.mapM f >>= fun ys => pure (y :: ys)) = .error e ↔
      xs.mapM f = .error e := fun y => by simp [bind_eq_error_iff, pure, Except.pure]
  rw [List.mapM_cons, bind_eq_error_iff]
  simp only [tail, exists_and_right]

/-- A traversal fails with the error of the first element that has one. -/
theorem mapM_eq_error_iff {e : ε} :
    xs.mapM f = .error e ↔
      ∃ before x after, xs = before ++ x :: after ∧ (∀ y ∈ before, ∃ b, f y = .ok b) ∧
        f x = .error e := by
  induction xs with
  | nil =>
      refine iff_of_false nofun ?_
      rintro ⟨before, x, after, split, _⟩
      simp at split
  | cons x rest ih =>
      rw [mapM_cons_eq_error_iff, ih]
      constructor
      · rintro (failed | ⟨passed, before, y, after, rfl, others, failed⟩)
        · exact ⟨[], x, rest, rfl, nofun, failed⟩
        · exact ⟨x :: before, y, after, rfl, List.forall_mem_cons.mpr ⟨passed, others⟩, failed⟩
      · rintro ⟨before, y, after, split, others, failed⟩
        cases before with
        | nil =>
            cases split
            exact .inl failed
        | cons z before =>
            cases split
            obtain ⟨passed, others⟩ := List.forall_mem_cons.mp others
            exact .inr ⟨passed, before, y, after, rfl, others, failed⟩

end Traversal

theorem getElem?_of_forall₂ {R : α → β → Prop} {xs : List α} {ys : List β}
    (h : List.Forall₂ R xs ys) {i : Nat} {x : α} (found : xs[i]? = some x) :
    ∃ y, ys[i]? = some y ∧ R x y := by
  obtain ⟨hx, rfl⟩ := List.getElem?_eq_some_iff.mp found
  have hy : i < ys.length := h.length_eq ▸ hx
  exact ⟨ys[i], List.getElem?_eq_getElem hy, h.get hx hy⟩

theorem exists_of_mem_forall₂ {R : α → β → Prop} {xs : List α} {ys : List β}
    (h : List.Forall₂ R xs ys) {x : α} (hx : x ∈ xs) : ∃ y ∈ ys, R x y := by
  obtain ⟨i, found⟩ := List.mem_iff_getElem?.mp hx
  obtain ⟨y, there, related⟩ := getElem?_of_forall₂ h found
  exact ⟨y, List.mem_of_getElem? there, related⟩

end RasterMosaic
