import MixedProject.ImageLoading
import MixedProject.Traces

namespace MixedProject.SDWebImageManager

open Traces

variable {s t u : SDWebImageManager}

structure Drops (s t : SDWebImageManager) : Prop where
  operationCount : t.operationCount = s.operationCount
  url : ∀ i, (t.operations i).url = (s.operations i).url
  view : ∀ i, (t.operations i).view = (s.operations i).view
  answers : ∀ i, (t.operations i).answers = (s.operations i).answers
  cancelled : ∀ i, (s.operations i).cancelled = true → (t.operations i).cancelled = true
  marked : ∀ i, (t.operations i).cacheCancelled = true →
    (s.operations i).cacheCancelled = true ∨ (t.operations i).cancelled = true
  views : t.views = s.views
  memCache : t.memCache = s.memCache
  disk : t.disk = s.disk
  ioQueue : t.ioQueue = s.ioQueue
  mainQueue : t.mainQueue = s.mainQueue
  deliveries : t.deliveries = s.deliveries
  mainSync : t.mainSync = s.mainSync
  callbacks : ∀ url, t.URLCallbacks url = s.URLCallbacks url ∨ t.URLCallbacks url = []

namespace Drops

theorem of_eq (hcount : t.operationCount = s.operationCount) (hoperations : t.operations = s.operations)
    (hviews : t.views = s.views) (hmem : t.memCache = s.memCache) (hdisk : t.disk = s.disk)
    (hio : t.ioQueue = s.ioQueue) (hmain : t.mainQueue = s.mainQueue)
    (hdeliveries : t.deliveries = s.deliveries) (hsync : t.mainSync = s.mainSync)
    (hcallbacks : t.URLCallbacks = s.URLCallbacks) : Drops s t where
  operationCount := hcount
  url i := by rw [hoperations]
  view i := by rw [hoperations]
  answers i := by rw [hoperations]
  cancelled i hi := by rwa [hoperations]
  marked i hi := .inl (by rwa [hoperations] at hi)
  views := hviews
  memCache := hmem
  disk := hdisk
  ioQueue := hio
  mainQueue := hmain
  deliveries := hdeliveries
  mainSync := hsync
  callbacks url := .inl (by rw [hcallbacks])

theorem refl (s : SDWebImageManager) : Drops s s :=
  .of_eq rfl rfl rfl rfl rfl rfl rfl rfl rfl rfl

theorem trans (h : Drops s t) (h' : Drops t u) : Drops s u where
  operationCount := h'.operationCount.trans h.operationCount
  url i := (h'.url i).trans (h.url i)
  view i := (h'.view i).trans (h.view i)
  answers i := (h'.answers i).trans (h.answers i)
  cancelled i hi := h'.cancelled i (h.cancelled i hi)
  marked i hi := by
    obtain hmarked | hcancelled := h'.marked i hi
    · exact (h.marked i hmarked).imp_right (h'.cancelled i)
    · exact .inr hcancelled
  views := h'.views.trans h.views
  memCache := h'.memCache.trans h.memCache
  disk := h'.disk.trans h.disk
  ioQueue := h'.ioQueue.trans h.ioQueue
  mainQueue := h'.mainQueue.trans h.mainQueue
  deliveries := h'.deliveries.trans h.deliveries
  mainSync := h'.mainSync.trans h.mainSync
  callbacks url := by
    obtain h1 | h1 := h'.callbacks url
    · rw [h1]
      exact h.callbacks url
    · exact .inr h1

theorem removeRunning (i : ℕ) (s : SDWebImageManager) : Drops s (s.removeRunning i) :=
  .of_eq rfl rfl rfl rfl rfl rfl rfl rfl rfl rfl

theorem modifyDownload (d : ℕ)
    (f : SDWebImageDownloaderOperation → SDWebImageDownloaderOperation) (s : SDWebImageManager) :
    Drops s (s.modifyDownload d f) :=
  .of_eq rfl rfl rfl rfl rfl rfl rfl rfl rfl rfl

theorem clearCallbacks (url : NSURL) (s : SDWebImageManager) : Drops s (s.setCallbacks url []) where
  operationCount := rfl
  url _ := rfl
  view _ := rfl
  answers _ := rfl
  cancelled _ := id
  marked _ := .inl
  views := rfl
  memCache := rfl
  disk := rfl
  ioQueue := rfl
  mainQueue := rfl
  deliveries := rfl
  mainSync := rfl
  callbacks url' := by
    simp only [setCallbacks, Function.update_apply]
    split_ifs
    · exact .inr rfl
    · exact .inl rfl

theorem modifyOperation {i : ℕ}
    {f : SDWebImageCombinedOperation → SDWebImageCombinedOperation} (s : SDWebImageManager)
    (hf : ∀ operation, (f operation).url = operation.url ∧ (f operation).view = operation.view ∧
      (f operation).answers = operation.answers ∧
      (operation.cancelled = true → (f operation).cancelled = true) ∧
      ((f operation).cacheCancelled = true →
        operation.cacheCancelled = true ∨ (f operation).cancelled = true)) :
    Drops s (s.modifyOperation i f) where
  operationCount := rfl
  url j := by
    simp only [SDWebImageManager.modifyOperation, Function.update_apply]
    split_ifs with hj
    · rw [hj]
      exact (hf _).1
    · rfl
  view j := by
    simp only [SDWebImageManager.modifyOperation, Function.update_apply]
    split_ifs with hj
    · rw [hj]
      exact (hf _).2.1
    · rfl
  answers j := by
    simp only [SDWebImageManager.modifyOperation, Function.update_apply]
    split_ifs with hj
    · rw [hj]
      exact (hf _).2.2.1
    · rfl
  cancelled j hj := by
    simp only [SDWebImageManager.modifyOperation, Function.update_apply]
    split_ifs with heq
    · rw [heq] at hj
      exact (hf _).2.2.2.1 hj
    · exact hj
  marked j hj := by
    simp only [SDWebImageManager.modifyOperation, Function.update_apply] at hj ⊢
    split_ifs at hj ⊢ with heq
    · rw [heq]
      exact (hf _).2.2.2.2 hj
    · exact .inl hj
  views := rfl
  memCache := rfl
  disk := rfl
  ioQueue := rfl
  mainQueue := rfl
  deliveries := rfl
  mainSync := rfl
  callbacks _ := .inl rfl

theorem markCancelled (i : ℕ) (s : SDWebImageManager) : Drops s (s.markCancelled i) :=
  .modifyOperation s fun _ => ⟨rfl, rfl, rfl, fun _ => rfl, fun _ => .inr rfl⟩

theorem assignCancelBlock (i : ℕ) (cancelBlock : Option (Option ℕ)) (s : SDWebImageManager) :
    Drops s (s.assignCancelBlock i cancelBlock) :=
  .modifyOperation s fun _ => ⟨rfl, rfl, rfl, id, .inl⟩

theorem cancelInternal (d : ℕ) (s : SDWebImageManager) : Drops s (s.cancelInternal d) := by
  unfold SDWebImageManager.cancelInternal
  split_ifs
  · exact .refl s
  · exact (Drops.clearCallbacks _ s).trans (.modifyDownload d _ _)
  · exact .modifyDownload d _ _

theorem cancelDownload (d : ℕ) (s : SDWebImageManager) : Drops s (s.cancelDownload d) := by
  unfold SDWebImageManager.cancelDownload
  split_ifs
  · exact .of_eq rfl rfl rfl rfl rfl rfl rfl rfl rfl rfl
  · exact .cancelInternal d s

theorem runCancelBlock (i : ℕ) (subOperation : Option ℕ) (s : SDWebImageManager) :
    Drops s (s.runCancelBlock i subOperation) := by
  cases subOperation with
  | none => exact .removeRunning i s
  | some d => exact (Drops.cancelDownload d s).trans (.removeRunning i _)

theorem setCancelBlock (i : ℕ) (subOperation : Option ℕ) (s : SDWebImageManager) :
    Drops s (s.setCancelBlock i subOperation) := by
  unfold SDWebImageManager.setCancelBlock
  split_ifs
  · exact (Drops.runCancelBlock i subOperation s).trans (.assignCancelBlock i none _)
  · exact .assignCancelBlock i _ s

theorem cancelOperation (i : ℕ) (s : SDWebImageManager) : Drops s (s.cancelOperation i) := by
  unfold SDWebImageManager.cancelOperation
  cases (s.operations i).cancelBlock with
  | none => exact .markCancelled i s
  | some subOperation =>
    exact ((Drops.markCancelled i s).trans (.runCancelBlock i subOperation _)).trans
      (.assignCancelBlock i none _)

end Drops

theorem cancelOperation_cancelled (i : ℕ) (s : SDWebImageManager) :
    ((s.cancelOperation i).operations i).cancelled = true := by
  have hmarked : ((s.markCancelled i).operations i).cancelled = true := by
    simp [markCancelled, modifyOperation]
  unfold cancelOperation
  cases (s.operations i).cancelBlock with
  | none => exact hmarked
  | some subOperation =>
    have hdrops := (Drops.runCancelBlock i subOperation (s.markCancelled i)).trans
      (.assignCancelBlock i none _)
    exact hdrops.cancelled i hmarked

/-- Whatever waits, waits for a load that has been made, and is filed under its URL. -/
structure Tracked (s : SDWebImageManager) : Prop where
  reading : ∀ i key, .query i key ∈ s.ioQueue →
    i < s.operationCount ∧ key = cacheKeyForURL (s.operations i).url
  found : ∀ i image, (i, image) ∈ s.mainQueue → i < s.operationCount
  waiting : ∀ i url, i ∈ s.URLCallbacks url → i < s.operationCount ∧ (s.operations i).url = url
  delivered : ∀ i result, (i, result) ∈ s.deliveries → i < s.operationCount
  synchronized : ∀ i result, s.mainSync = some (i, result) → i < s.operationCount

theorem Tracked.drops (h : Tracked s) (hd : Drops s t) : Tracked t := by
  constructor
  · intro i key hmem
    rw [hd.ioQueue] at hmem
    rw [hd.operationCount, hd.url]
    exact h.reading i key hmem
  · rw [hd.mainQueue, hd.operationCount]
    exact h.found
  · intro i url hmem
    rw [hd.operationCount, hd.url]
    obtain hsame | hnone := hd.callbacks url
    · rw [hsame] at hmem
      exact h.waiting i url hmem
    · rw [hnone] at hmem
      cases hmem
  · rw [hd.deliveries, hd.operationCount]
    exact h.delivered
  · rw [hd.mainSync, hd.operationCount]
    exact h.synchronized

/-- A load that is not cancelled is the one its view is waiting for, and the view shows what the
load has been answered with. `new` is a load that the view has not been told about yet. -/
structure Owned (new : Option ℕ) (s : SDWebImageManager) : Prop where
  url : ∀ i < s.operationCount, (s.operations i).cancelled = false →
    (s.views (s.operations i).view).imageURL = some (s.operations i).url
  image : ∀ i < s.operationCount, (s.operations i).cancelled = false →
    (s.views (s.operations i).view).image = ((s.operations i).answers.filterMap id).getLast?
  load : ∀ i < s.operationCount, (s.operations i).cancelled = false → new ≠ some i →
    (s.views (s.operations i).view).imageLoad = some i
  fresh : ∀ i, new = some i → (s.views (s.operations i).view).imageLoad = none
  held : ∀ v i, (s.views v).imageLoad = some i →
    i < s.operationCount ∧ (s.operations i).view = v
  marked : ∀ i < s.operationCount, (s.operations i).cacheCancelled = true →
    (s.operations i).cancelled = true

theorem Owned.drops {new : Option ℕ} (h : Owned new s) (hd : Drops s t) : Owned new t := by
  have huncancelled : ∀ i, (t.operations i).cancelled = false →
      (s.operations i).cancelled = false := by
    intro i hi
    by_contra hne
    rw [Bool.not_eq_false] at hne
    rw [hd.cancelled i hne] at hi
    cases hi
  constructor
  · intro i hlt hi
    rw [hd.operationCount] at hlt
    rw [hd.views, hd.view, hd.url]
    exact h.url i hlt (huncancelled i hi)
  · intro i hlt hi
    rw [hd.operationCount] at hlt
    rw [hd.views, hd.view, hd.answers]
    exact h.image i hlt (huncancelled i hi)
  · intro i hlt hi
    rw [hd.operationCount] at hlt
    rw [hd.views, hd.view]
    exact h.load i hlt (huncancelled i hi)
  · intro i
    rw [hd.views, hd.view]
    exact h.fresh i
  · intro v i
    rw [hd.views, hd.operationCount, hd.view]
    exact h.held v i
  · intro i hlt hi
    rw [hd.operationCount] at hlt
    obtain hmarked | hcancelled := hd.marked i hi
    · exact hd.cancelled i (h.marked i hlt hmarked)
    · exact hcancelled

theorem Owned.only {new : Option ℕ} (h : Owned new s) {i j : ℕ} (hi : i < s.operationCount)
    (hj : j < s.operationCount) (hon : (s.operations i).cancelled = false)
    (hon' : (s.operations j).cancelled = false)
    (hview : (s.operations j).view = (s.operations i).view) : j = i := by
  by_cases hnew : new = some i
  · by_contra hne
    have hload := h.load j hj hon' (by simp [hnew, Ne.symm hne])
    rw [hview, h.fresh i hnew] at hload
    cases hload
  · have hload := h.load i hi hon hnew
    by_cases hnew' : new = some j
    · have hfresh := h.fresh j hnew'
      rw [hview, hload] at hfresh
      cases hfresh
    · have hload' := h.load j hj hon' hnew'
      rw [hview, hload] at hload'
      exact (Option.some.inj hload').symm

end MixedProject.SDWebImageManager
