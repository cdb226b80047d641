import Mathlib.Data.List.Nodup

namespace KeyedLoops

variable {σ κ β : Type*} {I : σ → Prop} {get : σ → κ → β} {body : σ → κ → σ}
  {R : κ → β → β → Prop}

/-- The body keeps `I` and changes, at each key, no reading but that key's own. -/
structure Own (I : σ → Prop) (get : σ → κ → β) (body : σ → κ → σ) : Prop where
  keep : ∀ s i, I s → I (body s i)
  other : ∀ s i j, I s → j ≠ i → get (body s i) j = get s j

theorem Own.foldl_keep (h : Own I get body) (keys : List κ) {s : σ} (hs : I s) :
    I (keys.foldl body s) := by
  induction keys generalizing s with
  | nil => exact hs
  | cons i keys ih => exact ih (h.keep s i hs)

theorem Own.foldl_of_notMem (h : Own I get body) {keys : List κ} {s : σ} (hs : I s) {j : κ}
    (hj : j ∉ keys) : get (keys.foldl body s) j = get s j := by
  induction keys generalizing s with
  | nil => rfl
  | cons i keys ih =>
    rw [List.mem_cons, not_or] at hj
    rw [List.foldl_cons, ih (h.keep s i hs) hj.2, h.other s i j hs hj.1]

theorem Own.foldl_of_mem (h : Own I get body) (hbody : ∀ s i, I s → R i (get s i) (get (body s i) i))
    {keys : List κ} (hkeys : keys.Nodup) {s : σ} (hs : I s) {j : κ} (hj : j ∈ keys) :
    R j (get s j) (get (keys.foldl body s) j) := by
  induction keys generalizing s with
  | nil => cases hj
  | cons i keys ih =>
    obtain ⟨hi, hkeys⟩ := List.nodup_cons.mp hkeys
    rw [List.foldl_cons]
    rcases List.mem_cons.mp hj with rfl | hrest
    · rw [h.foldl_of_notMem (h.keep s j hs) hi]
      exact hbody s j hs
    · have hne : j ≠ i := by
        rintro rfl
        exact hi hrest
      have hchange := ih hkeys (h.keep s i hs) hrest
      rwa [h.other s i j hs hne] at hchange

end KeyedLoops
