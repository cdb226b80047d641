import Mathlib.Data.List.Basic

namespace AppendLoop

variable {α β ε : Type} {f : α → Except ε (Option β)} {g : α → Option β}

/-- One turn of a loop that raises, skips the element, or appends what it makes of it. -/
def step (f : α → Except ε (Option β)) (acc : List β) (x : α) : Except ε (List β) :=
  match f x with
  | .error e => .error e
  | .ok found => .ok (acc ++ found.toList)

theorem step_eq_bind (acc : List β) (x : α) :
    step f acc x = f x >>= fun found => .ok (acc ++ found.toList) := by
  unfold step
  cases f x with
  | error e => rfl
  | ok found => rfl

theorem loop_cons {x : α} {xs : List α} {acc ys : List β} :
    (x :: xs).foldlM (step f) acc = .ok ys ↔
      ∃ found, f x = .ok found ∧ xs.foldlM (step f) (acc ++ found.toList) = .ok ys := by
  rw [List.foldlM_cons]
  cases hfound : f x with
  | error e => simp [step, hfound, bind, Except.bind]
  | ok found => simp [step, hfound, bind, Except.bind]

theorem loop_of_each {xs : List α} (h : ∀ x ∈ xs, f x = .ok (g x)) (acc : List β) :
    xs.foldlM (step f) acc = .ok (acc ++ xs.filterMap g) := by
  induction xs generalizing acc with
  | nil => simp [pure, Except.pure]
  | cons x xs ih =>
    rw [List.forall_mem_cons] at h
    apply loop_cons.mpr
    refine ⟨g x, h.1, ?_⟩
    rw [ih h.2, List.append_assoc]
    cases hx : g x with
    | none => simp [hx]
    | some y => simp [hx]

theorem length_le_of_loop (hskip : ∀ x, f x = .ok none → g x = none) {xs : List α}
    {acc ys : List β} (h : xs.foldlM (step f) acc = .ok ys) :
    acc.length + (xs.filterMap g).length ≤ ys.length := by
  induction xs generalizing acc with
  | nil =>
    cases h
    simp
  | cons x xs ih =>
    obtain ⟨found, hfound, hrest⟩ := loop_cons.mp h
    have hlength := ih hrest
    cases found with
    | none =>
      rw [List.filterMap_cons_none (hskip x hfound)]
      simpa using hlength
    | some y =>
      have hx : ((x :: xs).filterMap g).length ≤ (xs.filterMap g).length + 1 := by
        cases hx : g x with
        | none => simp [hx]
        | some z => simp [hx]
      simp only [Option.toList_some, List.length_append, List.length_singleton] at hlength
      omega

theorem each_of_loop (hskip : ∀ x, f x = .ok none → g x = none)
    (hsame : ∀ x y z, f x = .ok (some y) → g x = some z → y = z) {xs : List α} {acc : List β}
    (h : xs.foldlM (step f) acc = .ok (acc ++ xs.filterMap g)) : ∀ x ∈ xs, f x = .ok (g x) := by
  induction xs generalizing acc with
  | nil => simp
  | cons x xs ih =>
    obtain ⟨found, hfound, hrest⟩ := loop_cons.mp h
    rw [List.forall_mem_cons]
    cases found with
    | none =>
      have hnone := hskip x hfound
      rw [List.filterMap_cons_none hnone, Option.toList_none, List.append_nil] at hrest
      exact ⟨hfound.trans (congrArg _ hnone.symm), ih hrest⟩
    | some y =>
      cases hx : g x with
      | none =>
        have hlength := length_le_of_loop hskip hrest
        rw [List.filterMap_cons_none hx] at hlength
        simp only [Option.toList_some, List.length_append, List.length_singleton] at hlength
        omega
      | some z =>
        have hyz := hsame x y z hfound hx
        subst hyz
        rw [List.filterMap_cons_some hx] at hrest
        have hnext : xs.foldlM (step f) (acc ++ [y]) = .ok (acc ++ [y] ++ xs.filterMap g) := by
          simpa using hrest
        exact ⟨hfound, ih hnext⟩

theorem loop_iff (hskip : ∀ x, f x = .ok none → g x = none)
    (hsame : ∀ x y z, f x = .ok (some y) → g x = some z → y = z) {xs : List α} {acc : List β} :
    xs.foldlM (step f) acc = .ok (acc ++ xs.filterMap g) ↔ ∀ x ∈ xs, f x = .ok (g x) := by
  constructor
  · exact each_of_loop hskip hsame
  · intro h
    exact loop_of_each h acc

theorem forall_appended_iff {P : β → Prop} (acc : List β) {ys : List β} :
    (∀ (i : ℕ) (y : β), acc.length ≤ i → (acc ++ ys)[i]? = some y → P y) ↔ ∀ y ∈ ys, P y := by
  constructor
  · intro h y hy
    obtain ⟨i, hi⟩ := List.mem_iff_getElem?.mp hy
    apply h (acc.length + i) y (Nat.le_add_right _ _)
    rw [List.getElem?_append_right (Nat.le_add_right _ _), Nat.add_sub_cancel_left, hi]
  · intro h i y hi hy
    rw [List.getElem?_append_right hi] at hy
    exact h y (List.mem_of_getElem? hy)

end AppendLoop

namespace OverwriteLoop

variable {α β ε σ : Type} {f : α → Except ε β} {put : β → σ → σ}

/-- One turn of a loop that raises, or writes what it makes of the element over what an earlier
turn wrote. -/
def step (f : α → Except ε β) (put : β → σ → σ) (s : σ) (x : α) : Except ε σ :=
  (f x).map (put · s)

def last (f : α → Except ε β) (xs : List α) : Option β :=
  xs.getLast?.bind fun x => (f x).toOption

theorem last_nil : last f [] = none := rfl

theorem last_singleton (x : α) : last f [x] = (f x).toOption := rfl

theorem last_isSome {xs : List α} (hf : ∀ x ∈ xs, ∃ b, f x = .ok b) (hne : xs ≠ []) :
    ∃ b, last f xs = some b := by
  obtain ⟨b, hb⟩ := hf _ (List.getLast_mem hne)
  refine ⟨b, ?_⟩
  rw [last, List.getLast?_eq_some_getLast hne, Option.bind_some, hb]
  rfl

theorem last_append {xs ys : List α} (hf : ∀ y ∈ ys, ∃ b, f y = .ok b) :
    last f (xs ++ ys) = (last f ys).or (last f xs) := by
  by_cases hne : ys = []
  · subst hne
    rw [List.append_nil, last_nil, Option.none_or]
  · obtain ⟨b, hb⟩ := last_isSome hf hne
    rw [hb, Option.some_or, ← hb]
    unfold last
    rw [List.getLast?_append_of_ne_nil _ hne]

theorem loop_ok (hput : ∀ b c s, put c (put b s) = put c s) {xs : List α} {s t : σ} :
    xs.foldlM (step f put) s = .ok t ↔
      (∀ x ∈ xs, ∃ b, f x = .ok b) ∧ t = (last f xs).elim s (put · s) := by
  induction xs generalizing s with
  | nil => simp [last_nil, pure, Except.pure, eq_comm]
  | cons x xs ih =>
    rw [List.foldlM_cons, List.forall_mem_cons]
    cases hx : f x with
    | error e => simp [step, hx, Except.map, bind, Except.bind]
    | ok b =>
      have hstep : step f put s x = .ok (put b s) := by
        rw [step, hx]
        rfl
      rw [hstep]
      change xs.foldlM (step f put) (put b s) = _ ↔ _
      rw [ih]
      have hexists : ∃ c, Except.ok b = (Except.ok c : Except ε β) := ⟨b, rfl⟩
      rw [and_iff_right hexists]
      apply and_congr_right
      intro hxs
      have hlast : last f (x :: xs) = (last f xs).or (some b) := by
        have happend : last f ([x] ++ xs) = _ := last_append hxs
        rw [last_singleton, hx] at happend
        exact happend
      rw [hlast]
      cases last f xs with
      | none => rfl
      | some c => simp [hput]

end OverwriteLoop
