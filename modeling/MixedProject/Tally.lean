import MixedProject.Traces
import Mathlib.Algebra.Order.Ring.Nat

namespace Traces

variable {σ ε : Type*} {step : σ → ε → σ → Prop} {I : σ → Prop}

def tally (Q : σ → ε → σ → Prop) [∀ s e t, Decidable (Q s e t)] : σ → List (ε × σ) → ℕ
  | _, [] => 0
  | s, (e, t) :: tr => (if Q s e t then 1 else 0) + tally Q t tr

section Tally

variable {Q : σ → ε → σ → Prop} [∀ s e t, Decidable (Q s e t)]

theorem tally_cons (s t : σ) (e : ε) (tr : List (ε × σ)) :
    tally Q s ((e, t) :: tr) = (if Q s e t then 1 else 0) + tally Q t tr := rfl

theorem Trace.tally_eq {f : σ → ℕ} (hkeep : ∀ s e t, I s → step s e t → I t)
    (hf : ∀ s e t, I s → step s e t → f t = f s + if Q s e t then 1 else 0)
    {s : σ} {tr : List (ε × σ)} (htr : Trace step s tr) (hs : I s) :
    f (last s tr) = f s + tally Q s tr := by
  induction htr with
  | nil s => rfl
  | cons hstep _ ih =>
    rw [last_cons, ih (hkeep _ _ _ hs hstep), hf _ _ _ hs hstep, tally_cons, Nat.add_assoc]

end Tally

theorem last_append (s : σ) (tr tr' : List (ε × σ)) :
    last s (tr ++ tr') = last (last s tr) tr' := by
  induction tr generalizing s with
  | nil => rfl
  | cons x tr ih => exact ih x.2

theorem Trace.append {s : σ} {tr tr' : List (ε × σ)} (htr : Trace step s tr)
    (htr' : Trace step (last s tr) tr') : Trace step s (tr ++ tr') := by
  induction htr with
  | nil s => exact htr'
  | cons hstep _ ih => exact .cons hstep (ih htr')

section Labels

variable {ι α : Type*} {astep : α → ι → α → Prop} {f : σ → ε → σ → List ι}

def labels (f : σ → ε → σ → List ι) : σ → List (ε × σ) → List ι
  | _, [] => []
  | s, (e, t) :: tr => f s e t ++ labels f t tr

theorem labels_cons (s t : σ) (e : ε) (tr : List (ε × σ)) :
    labels f s ((e, t) :: tr) = f s e t ++ labels f t tr := rfl

theorem Trace.refines (abs : σ → α) (hkeep : ∀ s e t, I s → step s e t → I t)
    (hsim : ∀ s e t, I s → step s e t → ∃ tr, Trace astep (abs s) tr ∧
      tr.map Prod.fst = f s e t ∧ last (abs s) tr = abs t)
    {s : σ} {tr : List (ε × σ)} (htr : Trace step s tr) (hs : I s) :
    ∃ atr, Trace astep (abs s) atr ∧ atr.map Prod.fst = labels f s tr ∧
      last (abs s) atr = abs (last s tr) := by
  induction htr with
  | nil s => exact ⟨[], .nil _, rfl, rfl⟩
  | cons hstep _ ih =>
    obtain ⟨first, hfirst, hlabels, hlast⟩ := hsim _ _ _ hs hstep
    obtain ⟨rest, hrest, hmore, hend⟩ := ih (hkeep _ _ _ hs hstep)
    rw [← hlast] at hrest hend
    refine ⟨first ++ rest, hfirst.append hrest, ?_, ?_⟩
    · rw [List.map_append, hlabels, hmore, labels_cons]
    · rw [last_append, hend, last_cons]

theorem Trace.count_labels [DecidableEq ι] {g : σ → ℕ} {x : ι}
    (hkeep : ∀ s e t, I s → step s e t → I t)
    (hg : ∀ s e t, I s → step s e t → g t = g s + (f s e t).count x)
    {s : σ} {tr : List (ε × σ)} (htr : Trace step s tr) (hs : I s) :
    g (last s tr) = g s + (labels f s tr).count x := by
  induction htr with
  | nil s => rfl
  | cons hstep _ ih =>
    rw [last_cons, ih (hkeep _ _ _ hs hstep), hg _ _ _ hs hstep, labels_cons, List.count_append,
      Nat.add_assoc]

end Labels

theorem Trace.length_add_le {weight : σ → ℕ}
    (hdrop : ∀ s e t, step s e t → weight t + 1 ≤ weight s)
    {s : σ} {tr : List (ε × σ)} (htr : Trace step s tr) :
    tr.length + weight (last s tr) ≤ weight s := by
  induction htr with
  | nil s => simp
  | cons hstep _ ih =>
    have hfirst := hdrop _ _ _ hstep
    rw [List.length_cons, last_cons]
    omega

theorem Trace.countP_add_le {weight : σ → ℕ} {work load : ε → Bool} {n : ℕ}
    (hkeep : ∀ s e t, I s → step s e t → I t)
    (hstep : ∀ s e t, I s → step s e t →
      weight t + (if work e then 1 else 0) ≤ weight s + if load e then n else 0)
    {s : σ} {tr : List (ε × σ)} (htr : Trace step s tr) (hs : I s) :
    weight (last s tr) + (tr.map Prod.fst).countP work ≤
      weight s + n * (tr.map Prod.fst).countP load := by
  induction htr with
  | nil s => exact le_refl _
  | @cons s t e tr hfirst _ ih =>
    have hrest := ih (hkeep _ _ _ hs hfirst)
    have hone := hstep _ _ _ hs hfirst
    have hmul : n * (if load e then 1 else 0) = if load e then n else 0 := by
      rw [mul_ite, mul_one, mul_zero]
    simp only [last_cons, List.map_cons, List.countP_cons, Nat.mul_add, hmul]
    omega

end Traces
