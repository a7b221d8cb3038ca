/-!
Traversals of a list that find a value for each of its elements.
-/

namespace RasterMosaic

theorem mapM_eq_some {α β : Type} {f : α → Option β} {xs : List α} {ys : List β}
    (h : xs.map f = ys.map some) : xs.mapM f = some ys := by
  induction xs generalizing ys with
  | nil =>
      obtain rfl := List.map_eq_nil_iff.mp h.symm
      rfl
  | cons x rest ih =>
      cases ys with
      | nil => cases h
      | cons y others =>
          obtain ⟨head, tail⟩ := List.cons.inj h
          rw [List.mapM_cons, head, ih tail]
          rfl

end RasterMosaic
