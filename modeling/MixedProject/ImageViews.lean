import MixedProject.ImageOwners

namespace MixedProject.SDWebImageManager

open Traces

variable {s t : SDWebImageManager} {new : Option ℕ}

theorem cacheKey_inj {url url' : NSURL} (h : cacheKeyForURL url = cacheKeyForURL url') :
    url = url' := by
  cases url
  cases url'
  simpa [cacheKeyForURL] using h

section CompletedBlock

variable (i : ℕ) (image : Option UIImage) (s : SDWebImageManager)

@[simp] theorem completedBlock_count : (s.completedBlock i image).operationCount = s.operationCount := by
  cases image <;> rfl

@[simp] theorem completedBlock_url (j : ℕ) :
    ((s.completedBlock i image).operations j).url = (s.operations j).url := by
  cases image <;> simp only [completedBlock, showImage, modifyView, answer, modifyOperation,
    Function.update_apply] <;> split_ifs with hj <;> simp [hj]

@[simp] theorem completedBlock_view (j : ℕ) :
    ((s.completedBlock i image).operations j).view = (s.operations j).view := by
  cases image <;> simp only [completedBlock, showImage, modifyView, answer, modifyOperation,
    Function.update_apply] <;> split_ifs with hj <;> simp [hj]

@[simp] theorem completedBlock_cancelled (j : ℕ) :
    ((s.completedBlock i image).operations j).cancelled = (s.operations j).cancelled := by
  cases image <;> simp only [completedBlock, showImage, modifyView, answer, modifyOperation,
    Function.update_apply] <;> split_ifs with hj <;> simp [hj]

@[simp] theorem completedBlock_cacheCancelled (j : ℕ) :
    ((s.completedBlock i image).operations j).cacheCancelled = (s.operations j).cacheCancelled := by
  cases image <;> simp only [completedBlock, showImage, modifyView, answer, modifyOperation,
    Function.update_apply] <;> split_ifs with hj <;> simp [hj]

theorem completedBlock_answers (j : ℕ) : ((s.completedBlock i image).operations j).answers =
    (s.operations j).answers ++ if j = i then [image] else [] := by
  cases image <;> simp only [completedBlock, showImage, modifyView, answer, modifyOperation,
    Function.update_apply] <;> split_ifs with hj <;> simp [hj]

@[simp] theorem completedBlock_imageURL (v : ℕ) :
    ((s.completedBlock i image).views v).imageURL = (s.views v).imageURL := by
  cases image with
  | none => rfl
  | some image =>
    simp only [completedBlock, showImage, modifyView, answer, modifyOperation, Function.update_apply]
    split_ifs with hv <;> simp [hv]

@[simp] theorem completedBlock_imageLoad (v : ℕ) :
    ((s.completedBlock i image).views v).imageLoad = (s.views v).imageLoad := by
  cases image with
  | none => rfl
  | some image =>
    simp only [completedBlock, showImage, modifyView, answer, modifyOperation, Function.update_apply]
    split_ifs with hv <;> simp [hv]

theorem completedBlock_image (v : ℕ) : ((s.completedBlock i image).views v).image =
    if v = (s.operations i).view then image.or (s.views v).image else (s.views v).image := by
  cases image with
  | none => simp [completedBlock, answer, modifyOperation]
  | some image =>
    simp only [completedBlock, showImage, modifyView, answer, modifyOperation, Function.update_apply]
    split_ifs with hv <;> simp

end CompletedBlock

theorem Owned.completedBlock (h : Owned new s) {i : ℕ} (hi : i < s.operationCount)
    (hon : (s.operations i).cancelled = false) (image : Option UIImage) :
    Owned new (s.completedBlock i image) where
  url j hj hj' := by
    simp only [completedBlock_count, completedBlock_cancelled] at hj hj'
    simpa using h.url j hj hj'
  image j hj hj' := by
    simp only [completedBlock_count, completedBlock_cancelled] at hj hj'
    have himage := h.image j hj hj'
    rw [completedBlock_view, completedBlock_image, completedBlock_answers]
    by_cases heq : j = i
    · subst heq
      rw [himage]
      cases image <;> simp
    · have hview : (s.operations j).view ≠ (s.operations i).view := by
        intro hview
        exact heq (h.only hi hj hon hj' hview)
      simp [hview, heq, himage]
  load j hj hj' hnew := by
    simp only [completedBlock_count, completedBlock_cancelled] at hj hj'
    simpa using h.load j hj hj' hnew
  fresh j hnew := by simpa using h.fresh j hnew
  held v j hload := by
    rw [completedBlock_imageLoad] at hload
    simpa using h.held v j hload
  marked j hj hmarked := by
    simp only [completedBlock_count, completedBlock_cacheCancelled] at hj hmarked
    simpa using h.marked j hj hmarked

theorem Tracked.completedBlock (h : Tracked s) (i : ℕ) (image : Option UIImage) :
    Tracked (s.completedBlock i image) where
  reading j key hmem := by
    have hmem' : .query j key ∈ s.ioQueue := by
      cases image <;> exact hmem
    simpa using h.reading j key hmem'
  found j found hmem := by
    have hmem' : (j, found) ∈ s.mainQueue := by
      cases image <;> exact hmem
    simpa using h.found j found hmem'
  waiting j url hmem := by
    have hmem' : j ∈ s.URLCallbacks url := by
      cases image <;> exact hmem
    simpa using h.waiting j url hmem'
  delivered j result hmem := by
    have hmem' : (j, result) ∈ s.deliveries := by
      cases image <;> exact hmem
    simpa using h.delivered j result hmem'
  synchronized j result hsync := by
    have hsync' : s.mainSync = some (j, result) := by
      cases image <;> exact hsync
    simpa using h.synchronized j result hsync'

def Loose (v : ℕ) (s : SDWebImageManager) : Prop :=
  (s.views v).imageLoad = none ∧
    ∀ i < s.operationCount, (s.operations i).view = v → (s.operations i).cancelled = true

theorem cancelCurrentImageLoad_loose (h : Owned none s) (v : ℕ) :
    Loose v (s.cancelCurrentImageLoad v) := by
  unfold cancelCurrentImageLoad
  cases hload : (s.views v).imageLoad with
  | none =>
    refine ⟨hload, fun i hi hview => ?_⟩
    by_contra hon
    have hcurrent := h.load i hi (Bool.not_eq_true _ ▸ hon) nofun
    rw [hview, hload] at hcurrent
    cases hcurrent
  | some i =>
    have hdrops := Drops.cancelOperation i s
    refine ⟨by simp [assignLoad, modifyView], fun j hj hview => ?_⟩
    change j < (s.cancelOperation i).operationCount at hj
    change ((s.cancelOperation i).operations j).view = v at hview
    change ((s.cancelOperation i).operations j).cancelled = true
    rw [hdrops.operationCount] at hj
    rw [hdrops.view] at hview
    by_cases hon : (s.operations j).cancelled = true
    · exact hdrops.cancelled j hon
    · have hcurrent := h.load j hj (Bool.not_eq_true _ ▸ hon) nofun
      rw [hview, hload] at hcurrent
      rw [← Option.some.inj hcurrent]
      exact cancelOperation_cancelled i s

theorem Owned.assignNone (h : Owned none s) {v : ℕ}
    (hoff : ∀ i < s.operationCount, (s.operations i).view = v → (s.operations i).cancelled = true) :
    Owned none (s.assignLoad v none) := by
  have hother : ∀ i < s.operationCount, (s.operations i).cancelled = false →
      (s.operations i).view ≠ v := by
    intro i hi hon hview
    rw [hoff i hi hview] at hon
    cases hon
  refine ⟨fun i hi hon => ?_, fun i hi hon => ?_, fun i hi hon hnew => ?_, nofun, fun v' i => ?_,
    h.marked⟩
  · have hne := hother i hi hon
    change (Function.update s.views v _ (s.operations i).view).imageURL = _
    rw [Function.update_of_ne hne]
    exact h.url i hi hon
  · have hne := hother i hi hon
    change (Function.update s.views v _ (s.operations i).view).image = _
    rw [Function.update_of_ne hne]
    exact h.image i hi hon
  · have hne := hother i hi hon
    change (Function.update s.views v _ (s.operations i).view).imageLoad = _
    rw [Function.update_of_ne hne]
    exact h.load i hi hon hnew
  · simp only [assignLoad, modifyView, Function.update_apply]
    split_ifs
    · nofun
    · exact h.held v' i

theorem cancelCurrentImageLoad_owned (h : Owned none s) (v : ℕ) :
    Owned none (s.cancelCurrentImageLoad v) := by
  have hloose := (cancelCurrentImageLoad_loose h v).2
  unfold cancelCurrentImageLoad at hloose ⊢
  cases hload : (s.views v).imageLoad with
  | none => exact h
  | some i =>
    rw [hload] at hloose
    exact (h.drops (.cancelOperation i s)).assignNone hloose

theorem Tracked.modifyView (h : Tracked s) (v : ℕ) (f : UIImageView → UIImageView) :
    Tracked (s.modifyView v f) :=
  ⟨h.reading, h.found, h.waiting, h.delivered, h.synchronized⟩

theorem Tracked.cancelCurrentImageLoad (h : Tracked s) (v : ℕ) :
    Tracked (s.cancelCurrentImageLoad v) := by
  unfold SDWebImageManager.cancelCurrentImageLoad
  cases (s.views v).imageLoad with
  | none => exact h
  | some i => exact (h.drops (.cancelOperation i s)).modifyView v _

theorem Owned.resetImage (h : Owned none s) {v : ℕ} (hloose : Loose v s) (url : Option NSURL) :
    Owned none (s.resetImage v url) ∧ Loose v (s.resetImage v url) := by
  have hother : ∀ i < s.operationCount, (s.operations i).cancelled = false →
      (s.operations i).view ≠ v := by
    intro i hi hon hview
    rw [hloose.2 i hi hview] at hon
    cases hon
  refine ⟨⟨fun i hi hon => ?_, fun i hi hon => ?_, fun i hi hon hnew => ?_, nofun, fun v' i => ?_,
    h.marked⟩, ?_, hloose.2⟩
  · have hne := hother i hi hon
    change (Function.update s.views v _ (s.operations i).view).imageURL = _
    rw [Function.update_of_ne hne]
    exact h.url i hi hon
  · have hne := hother i hi hon
    change (Function.update s.views v _ (s.operations i).view).image = _
    rw [Function.update_of_ne hne]
    exact h.image i hi hon
  · have hne := hother i hi hon
    change (Function.update s.views v _ (s.operations i).view).imageLoad = _
    rw [Function.update_of_ne hne]
    exact h.load i hi hon hnew
  · simp only [SDWebImageManager.resetImage, modifyView, Function.update_apply]
    split_ifs with hv
    · rw [hv]
      exact h.held v i
    · exact h.held v' i
  · simp [SDWebImageManager.resetImage, modifyView, hloose.1]

end MixedProject.SDWebImageManager
