import Mathlib.Algebra.Order.Ring.Rat
import Mathlib.Logic.Function.Basic

namespace VerticalLayout

variable {ι K : Type*}

@[ext]
structure Frame (K : Type*) where
  top : K
  height : K

def Frame.bottom [Add K] (frame : Frame K) : K := frame.top + frame.height

inductive Constraint (ι K : Type*)
  | top (constant : K)
  | alignTop (other : ι) (offset : K)
  | below (other : ι) (offset : K)
  | height (constant : K)

def Constraint.Holds [Add K] (frames : ι → Frame K) (view : ι) : Constraint ι K → Prop
  | .top constant => (frames view).top = constant
  | .alignTop other offset => (frames view).top = (frames other).top + offset
  | .below other offset => (frames view).top = (frames other).bottom + offset
  | .height constant => (frames view).height = constant

abbrev Installed (ι K : Type*) := ι → List (Constraint ι K)

def Solves [Add K] (installed : Installed ι K) (frames : ι → Frame K) : Prop :=
  ∀ view, ∀ constraint ∈ installed view, constraint.Holds frames view

section Solutions

variable [Add K] {installed : Installed ι K} {frames frames' : ι → Frame K} {view other : ι}
  {offset constant : K}

theorem Solves.frame_top {top : K} (h : Solves installed frames)
    (hview : installed view = [.top top, .height constant]) : frames view = ⟨top, constant⟩ := by
  apply Frame.ext
  · exact h view (.top top) (by simp [hview])
  · exact h view (.height constant) (by simp [hview])

theorem Solves.frame_alignTop (h : Solves installed frames)
    (hview : installed view = [.alignTop other offset, .height constant]) :
    frames view = ⟨(frames other).top + offset, constant⟩ := by
  apply Frame.ext
  · exact h view (.alignTop other offset) (by simp [hview])
  · exact h view (.height constant) (by simp [hview])

theorem Solves.frame_below (h : Solves installed frames)
    (hview : installed view = [.below other offset, .height constant]) :
    frames view = ⟨(frames other).bottom + offset, constant⟩ := by
  apply Frame.ext
  · exact h view (.below other offset) (by simp [hview])
  · exact h view (.height constant) (by simp [hview])

theorem Solves.congr_alignTop (h : Solves installed frames) (h' : Solves installed frames')
    (hview : installed view = [.alignTop other offset, .height constant])
    (hother : frames other = frames' other) : frames view = frames' view := by
  rw [h.frame_alignTop hview, hother, ← h'.frame_alignTop hview]

theorem Solves.congr_below (h : Solves installed frames) (h' : Solves installed frames')
    (hview : installed view = [.below other offset, .height constant])
    (hother : frames other = frames' other) : frames view = frames' view := by
  rw [h.frame_below hview, hother, ← h'.frame_below hview]

end Solutions

variable [DecidableEq ι]

def make (view : ι) (constraints : List (Constraint ι K)) (installed : Installed ι K) :
    Installed ι K := Function.update installed view (installed view ++ constraints)

def remake (view : ι) (constraints : List (Constraint ι K)) (installed : Installed ι K) :
    Installed ι K := Function.update installed view constraints

@[simp] theorem make_self (view : ι) (constraints : List (Constraint ι K))
    (installed : Installed ι K) : make view constraints installed view = installed view ++ constraints :=
  Function.update_self ..

@[simp] theorem make_of_ne {view other : ι} (h : other ≠ view)
    (constraints : List (Constraint ι K)) (installed : Installed ι K) :
    make view constraints installed other = installed other := Function.update_of_ne h ..

@[simp] theorem remake_self (view : ι) (constraints : List (Constraint ι K))
    (installed : Installed ι K) : remake view constraints installed view = constraints :=
  Function.update_self ..

@[simp] theorem remake_of_ne {view other : ι} (h : other ≠ view)
    (constraints : List (Constraint ι K)) (installed : Installed ι K) :
    remake view constraints installed other = installed other := Function.update_of_ne h ..

end VerticalLayout
