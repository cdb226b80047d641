import Mathlib.Logic.Basic
import Mathlib.Data.List.Basic

namespace Traces

variable {σ α ε : Type*}

/-- A finite run of a labelled step relation: each entry is an event and the state it leads to. -/
inductive Trace (step : σ → ε → σ → Prop) : σ → List (ε × σ) → Prop
  | nil (s : σ) : Trace step s []
  | cons {s t : σ} {e : ε} {tr : List (ε × σ)} (hstep : step s e t) (htail : Trace step t tr) :
      Trace step s ((e, t) :: tr)

def last (s : σ) : List (ε × σ) → σ
  | [] => s
  | (_, t) :: tr => last t tr

def Steps (Q : σ → ε → σ → Prop) : σ → List (ε × σ) → Prop
  | _, [] => True
  | s, (e, t) :: tr => Q s e t ∧ Steps Q t tr

def Always (P : σ → Prop) (s : σ) (tr : List (ε × σ)) : Prop :=
  P s ∧ Steps (fun _ _ t => P t) s tr

@[simp] theorem last_nil (s : σ) : last s ([] : List (ε × σ)) = s := rfl

@[simp] theorem last_cons (s t : σ) (e : ε) (tr : List (ε × σ)) :
    last s ((e, t) :: tr) = last t tr := rfl

@[simp] theorem steps_nil (Q : σ → ε → σ → Prop) (s : σ) : Steps Q s [] := trivial

@[simp] theorem steps_cons (Q : σ → ε → σ → Prop) (s t : σ) (e : ε) (tr : List (ε × σ)) :
    Steps Q s ((e, t) :: tr) ↔ Q s e t ∧ Steps Q t tr := Iff.rfl

instance decidableSteps (Q : σ → ε → σ → Prop) [h : ∀ s e t, Decidable (Q s e t)] :
    (s : σ) → (tr : List (ε × σ)) → Decidable (Steps Q s tr)
  | _, [] => .isTrue trivial
  | s, (e, t) :: tr => @instDecidableAnd _ _ (h s e t) (decidableSteps Q t tr)

theorem always_cons {P : σ → Prop} {s t : σ} {e : ε} {tr : List (ε × σ)} :
    Always P s ((e, t) :: tr) ↔ P s ∧ Always P t tr := Iff.rfl

theorem Always.last {P : σ → Prop} {s : σ} {tr : List (ε × σ)} (h : Always P s tr) :
    P (last s tr) := by
  induction tr generalizing s with
  | nil => exact h.1
  | cons x tr ih => exact ih (always_cons.mp h).2

theorem Always.mono {P Q : σ → Prop} {s : σ} {tr : List (ε × σ)} (hpq : ∀ s, P s → Q s)
    (h : Always P s tr) : Always Q s tr := by
  induction tr generalizing s with
  | nil => exact ⟨hpq s h.1, trivial⟩
  | cons x tr ih => exact always_cons.mpr ⟨hpq s h.1, ih (always_cons.mp h).2⟩

theorem Trace.always {step : σ → ε → σ → Prop} {I : σ → Prop}
    (hkeep : ∀ s e t, I s → step s e t → I t)
    {s : σ} {tr : List (ε × σ)} (htr : Trace step s tr) (hs : I s) : Always I s tr := by
  induction htr with
  | nil s => exact ⟨hs, trivial⟩
  | cons hstep _ ih => exact always_cons.mpr ⟨hs, ih (hkeep _ _ _ hs hstep)⟩

theorem steps_events {P : ε → Prop} {s : σ} {tr : List (ε × σ)} :
    Steps (fun _ e _ => P e) s tr ↔ ∀ e ∈ tr.map Prod.fst, P e := by
  induction tr generalizing s with
  | nil => simp
  | cons x tr ih =>
    obtain ⟨e, t⟩ := x
    rw [steps_cons, ih, List.map_cons, List.forall_mem_cons]

theorem Trace.steps {step Q : σ → ε → σ → Prop} {I : σ → Prop}
    (hkeep : ∀ s e t, I s → step s e t → I t)
    (hQ : ∀ s e t, I s → step s e t → Q s e t)
    {s : σ} {tr : List (ε × σ)} (htr : Trace step s tr) (hs : I s) : Steps Q s tr := by
  induction htr with
  | nil s => trivial
  | cons hstep _ ih => exact ⟨hQ _ _ _ hs hstep, ih (hkeep _ _ _ hs hstep)⟩

theorem Trace.mono {step step' : σ → ε → σ → Prop} (h : ∀ s e t, step s e t → step' s e t)
    {s : σ} {tr : List (ε × σ)} (htr : Trace step s tr) : Trace step' s tr := by
  induction htr with
  | nil s => exact .nil s
  | cons hstep _ ih => exact .cons (h _ _ _ hstep) ih

theorem Trace.guarded {step : σ → ε → σ → Prop} {P : ε → Prop} {s : σ} {tr : List (ε × σ)}
    (htr : Trace step s tr) (hP : ∀ e ∈ tr.map Prod.fst, P e) :
    Trace (fun s e t => step s e t ∧ P e) s tr := by
  induction htr with
  | nil s => exact .nil s
  | cons hstep _ ih =>
    rw [List.map_cons, List.forall_mem_cons] at hP
    exact .cons ⟨hstep, hP.1⟩ (ih hP.2)

/-- When a guard decides, step by step, whether a law holds, the law holds along a run exactly
when the guard does: the first unguarded step already breaks it. -/
theorem Trace.steps_iff {step Q G : σ → ε → σ → Prop} {I : σ → Prop}
    (hkeep : ∀ s e t, I s → step s e t → G s e t → I t ∧ Q s e t)
    (hbreak : ∀ s e t, I s → step s e t → Q s e t → G s e t)
    {s : σ} {tr : List (ε × σ)} (htr : Trace step s tr) (hs : I s) :
    Steps Q s tr ↔ Steps G s tr := by
  induction htr with
  | nil s => exact Iff.rfl
  | cons hstep _ ih =>
    constructor
    · rintro ⟨hq, hrest⟩
      have hg := hbreak _ _ _ hs hstep hq
      exact ⟨hg, (ih (hkeep _ _ _ hs hstep hg).1).mp hrest⟩
    · rintro ⟨hg, hrest⟩
      obtain ⟨hi, hq⟩ := hkeep _ _ _ hs hstep hg
      exact ⟨hq, (ih hi).mpr hrest⟩

theorem Trace.always_iff {step G : σ → ε → σ → Prop} {I P : σ → Prop}
    (hP : ∀ s, I s → P s)
    (hkeep : ∀ s e t, I s → step s e t → G s e t → I t)
    (hbreak : ∀ s e t, I s → step s e t → P t → G s e t)
    {s : σ} {tr : List (ε × σ)} (htr : Trace step s tr) (hs : I s) :
    Always P s tr ↔ Steps G s tr := by
  have hiff := Trace.steps_iff (Q := fun _ _ t => P t)
    (fun s e t hi hst hg => ⟨hkeep s e t hi hst hg, hP t (hkeep s e t hi hst hg)⟩) hbreak htr hs
  exact ⟨fun h => hiff.mp h.2, fun h => ⟨hP s hs, hiff.mpr h⟩⟩

theorem Trace.simulates {step : σ → ε → σ → Prop} (abs : σ → α) (astep : α → ε → α)
    (hsim : ∀ s e t, step s e t → abs t = astep (abs s) e)
    {s : σ} {tr : List (ε × σ)} (htr : Trace step s tr) :
    abs (Traces.last s tr) = (tr.map Prod.fst).foldl astep (abs s) := by
  induction htr with
  | nil s => rfl
  | cons hstep _ ih => rw [last_cons, ih, hsim _ _ _ hstep]; rfl

def run (f : σ → ε → Option σ) : σ → List ε → List (ε × σ)
  | _, [] => []
  | s, e :: es =>
    match f s e with
    | some t => (e, t) :: run f t es
    | none => []

theorem trace_run {step : σ → ε → σ → Prop} {f : σ → ε → Option σ}
    (h : ∀ s e t, f s e = some t → step s e t) (s : σ) (es : List ε) :
    Trace step s (run f s es) := by
  induction es generalizing s with
  | nil => exact .nil s
  | cons e es ih =>
    cases hf : f s e with
    | none =>
      rw [run, hf]
      exact .nil s
    | some t =>
      rw [run, hf]
      exact .cons (h s e t hf) (ih t)

theorem trace_run_ok {error : Type*} (f : σ → ε → Except error σ) (s : σ) (es : List ε) :
    Trace (fun s e t => f s e = .ok t) s (run (fun s e => (f s e).toOption) s es) := by
  apply trace_run
  intro s e t ht
  cases hf : f s e with
  | error exception =>
    rw [hf] at ht
    cases ht
  | ok t' =>
    rw [hf] at ht
    cases ht
    rfl

end Traces
