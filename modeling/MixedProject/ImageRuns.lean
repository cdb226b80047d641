import MixedProject.ImageViews

namespace MixedProject.SDWebImageManager

open Traces

variable {s t : SDWebImageManager} {MD5 : List UInt8 → Vector UInt8 16} {new : Option ℕ}

theorem Drops.running (l : List ℕ) (s : SDWebImageManager) :
    Drops s { s with runningOperations := l } :=
  .of_eq rfl rfl rfl rfl rfl rfl rfl rfl rfl rfl

theorem Drops.start (d : ℕ) (s : SDWebImageManager) : Drops s (s.start d) :=
  .modifyDownload d _ s

theorem Drops.done (d : ℕ) (s : SDWebImageManager) : Drops s (s.done d) :=
  .modifyDownload d _ s

theorem Drops.createDownload (url : NSURL) (s : SDWebImageManager) :
    Drops s (s.createDownload url) :=
  .of_eq rfl rfl rfl rfl rfl rfl rfl rfl rfl rfl

theorem Owned.of_eq (h : Owned new s) (hcount : t.operationCount = s.operationCount)
    (hoperations : t.operations = s.operations) (hviews : t.views = s.views) : Owned new t := by
  constructor
  · rw [hcount, hoperations, hviews]
    exact h.url
  · rw [hcount, hoperations, hviews]
    exact h.image
  · rw [hcount, hoperations, hviews]
    exact h.load
  · rw [hoperations, hviews]
    exact h.fresh
  · rw [hcount, hoperations, hviews]
    exact h.held
  · rw [hcount, hoperations]
    exact h.marked

structure Keeps (s t : SDWebImageManager) : Prop where
  operationCount : t.operationCount = s.operationCount
  url : ∀ i, (t.operations i).url = (s.operations i).url
  view : ∀ i, (t.operations i).view = (s.operations i).view
  cancelled : ∀ i, (s.operations i).cancelled = true → (t.operations i).cancelled = true
  answers : ∀ i, (s.operations i).cancelled = true →
    (t.operations i).answers = (s.operations i).answers

theorem Keeps.trans {u : SDWebImageManager} (h : Keeps s t) (h' : Keeps t u) : Keeps s u where
  operationCount := h'.operationCount.trans h.operationCount
  url i := (h'.url i).trans (h.url i)
  view i := (h'.view i).trans (h.view i)
  cancelled i hi := h'.cancelled i (h.cancelled i hi)
  answers i hi := (h'.answers i (h.cancelled i hi)).trans (h.answers i hi)

theorem Drops.keeps (h : Drops s t) : Keeps s t :=
  ⟨h.operationCount, h.url, h.view, h.cancelled, fun i _ => h.answers i⟩

theorem Keeps.of_eq (hcount : t.operationCount = s.operationCount)
    (hoperations : t.operations = s.operations) : Keeps s t := by
  refine ⟨hcount, ?_, ?_, ?_, ?_⟩ <;> simp [hoperations]

theorem Keeps.completedBlock {i : ℕ} (hon : (s.operations i).cancelled = false)
    (image : Option UIImage) : Keeps s (s.completedBlock i image) := by
  refine ⟨completedBlock_count i image s, completedBlock_url i image s,
    completedBlock_view i image s, fun j hj => ?_, fun j hj => ?_⟩
  · rw [completedBlock_cancelled]
    exact hj
  · have hji : j ≠ i := by
      rintro rfl
      rw [hon] at hj
      cases hj
    simp [completedBlock_answers, hji]

theorem Tracked.setCallbacks (h : Tracked s) (url : NSURL) (callbacks : List ℕ)
    (hcallbacks : ∀ i ∈ callbacks, i < s.operationCount ∧ (s.operations i).url = url) :
    Tracked (s.setCallbacks url callbacks) := by
  refine { h with waiting := fun i url' hmem => ?_ }
  simp only [SDWebImageManager.setCallbacks, Function.update_apply] at hmem
  split_ifs at hmem with heq
  · rw [heq]
    exact hcallbacks i hmem
  · exact h.waiting i url' hmem

section StartDownload

variable (i : ℕ) (s : SDWebImageManager)

theorem startDownload_drops : Drops
    (s.setCallbacks (s.operations i).url (s.URLCallbacks (s.operations i).url ++ [i]))
    (s.startDownload i) := by
  unfold startDownload
  dsimp only
  split_ifs
  · exact (Drops.createDownload _ _).trans (.setCancelBlock i _ _)
  · exact .setCancelBlock i none _

theorem Keeps.startDownload : Keeps s (s.startDownload i) := by
  have hwaits : Keeps s (s.setCallbacks (s.operations i).url
      (s.URLCallbacks (s.operations i).url ++ [i])) := .of_eq rfl rfl
  exact hwaits.trans (startDownload_drops i s).keeps

theorem Keeps.doneBlock (image : Option UIImage) : Keeps s (s.doneBlock i image) := by
  unfold SDWebImageManager.doneBlock
  split_ifs with hon
  · exact (Drops.removeRunning i s).keeps
  · cases image with
    | none => exact .startDownload i s
    | some image =>
      exact (Keeps.completedBlock (Bool.not_eq_true _ ▸ hon) _).trans (Drops.removeRunning i _).keeps

end StartDownload

theorem Owned.startDownload (h : Owned new s) (i : ℕ) : Owned new (s.startDownload i) :=
  (h.of_eq (t := s.setCallbacks (s.operations i).url (s.URLCallbacks (s.operations i).url ++ [i]))
    rfl rfl rfl).drops (startDownload_drops i s)

theorem Tracked.startDownload (h : Tracked s) {i : ℕ} (hi : i < s.operationCount) :
    Tracked (s.startDownload i) := by
  refine (h.setCallbacks _ _ fun j hj => ?_).drops (startDownload_drops i s)
  obtain hj | hj := List.mem_append.mp hj
  · exact h.waiting j _ hj
  · rw [List.mem_singleton.mp hj]
    exact ⟨hi, rfl⟩

theorem Owned.doneBlock (h : Owned new s) {i : ℕ} (hi : i < s.operationCount)
    (image : Option UIImage) : Owned new (s.doneBlock i image) := by
  unfold SDWebImageManager.doneBlock
  split_ifs with hon
  · exact h.drops (.removeRunning i s)
  · cases image with
    | none => exact h.startDownload i
    | some image =>
      exact (h.completedBlock hi (Bool.not_eq_true _ ▸ hon) _).drops (.removeRunning i _)

theorem Tracked.doneBlock (h : Tracked s) {i : ℕ} (hi : i < s.operationCount)
    (image : Option UIImage) : Tracked (s.doneBlock i image) := by
  unfold SDWebImageManager.doneBlock
  split_ifs
  · exact h.drops (.removeRunning i s)
  · cases image with
    | none => exact h.startDownload hi
    | some image => exact (h.completedBlock i _).drops (.removeRunning i _)

theorem Tracked.dispatchToIOQueue (h : Tracked s) (block : IOBlock)
    (hread : ∀ i key, block = .query i key →
      i < s.operationCount ∧ key = cacheKeyForURL (s.operations i).url) :
    Tracked (s.dispatchToIOQueue block) := by
  refine { h with reading := fun i key hmem => ?_ }
  obtain hmem | hmem := List.mem_append.mp hmem
  · exact h.reading i key hmem
  · exact hread i key (List.mem_singleton.mp hmem).symm

section CreateOperation

variable {v : ℕ} {url : NSURL}

theorem createOperation_new :
    (s.createOperation v url).operations s.operationCount = { view := v, url } := by
  simp [createOperation]

theorem createOperation_old {i : ℕ} (hi : i < s.operationCount) :
    (s.createOperation v url).operations i = s.operations i := by
  simp [createOperation, Function.update_of_ne hi.ne]

theorem Owned.createOperation (h : Owned none s) (hloose : Loose v s)
    (hurl : (s.views v).imageURL = some url) (himage : (s.views v).image = none) :
    Owned (some s.operationCount) (s.createOperation v url) := by
  refine ⟨fun i hi hon => ?_, fun i hi hon => ?_, fun i hi hon hnew => ?_, fun i hnew => ?_,
    fun v' i hload => ?_, fun i hi hmarked => ?_⟩
  · obtain hlt | rfl := Nat.lt_succ_iff_lt_or_eq.mp hi
    · rw [createOperation_old hlt] at hon ⊢
      exact h.url i hlt hon
    · rw [createOperation_new]
      exact hurl
  · obtain hlt | rfl := Nat.lt_succ_iff_lt_or_eq.mp hi
    · rw [createOperation_old hlt] at hon ⊢
      exact h.image i hlt hon
    · rw [createOperation_new]
      exact himage
  · obtain hlt | rfl := Nat.lt_succ_iff_lt_or_eq.mp hi
    · rw [createOperation_old hlt] at hon ⊢
      exact h.load i hlt hon nofun
    · exact absurd rfl hnew
  · rw [← Option.some.inj hnew, createOperation_new]
    exact hloose.1
  · obtain ⟨hlt, hview⟩ := h.held v' i hload
    rw [createOperation_old hlt]
    exact ⟨Nat.lt_succ_of_lt hlt, hview⟩
  · obtain hlt | rfl := Nat.lt_succ_iff_lt_or_eq.mp hi
    · rw [createOperation_old hlt] at hmarked ⊢
      exact h.marked i hlt hmarked
    · rw [createOperation_new] at hmarked
      cases hmarked

theorem Tracked.createOperation (h : Tracked s) : Tracked (s.createOperation v url) where
  reading i key hmem := by
    obtain ⟨hlt, hkey⟩ := h.reading i key hmem
    rw [createOperation_old hlt]
    exact ⟨Nat.lt_succ_of_lt hlt, hkey⟩
  found i image hmem := Nat.lt_succ_of_lt (h.found i image hmem)
  waiting i url' hmem := by
    obtain ⟨hlt, hurl⟩ := h.waiting i url' hmem
    rw [createOperation_old hlt]
    exact ⟨Nat.lt_succ_of_lt hlt, hurl⟩
  delivered i result hmem := Nat.lt_succ_of_lt (h.delivered i result hmem)
  synchronized i result hsync := Nat.lt_succ_of_lt (h.synchronized i result hsync)

end CreateOperation

theorem Keeps.downloadImageWithURL (v : ℕ) (url : NSURL) (s : SDWebImageManager) :
    Keeps (s.createOperation v url) (s.downloadImageWithURL v url) := by
  unfold SDWebImageManager.downloadImageWithURL
  dsimp only
  split_ifs
  · have hon : ((s.createOperation v url).operations s.operationCount).cancelled = false := by
      simp [createOperation]
    exact .completedBlock hon none
  · refine (Drops.running (s.runningOperations ++ [s.operationCount]) _).keeps.trans ?_
    unfold queryDiskCacheForKey
    split
    · exact .doneBlock _ _ _
    · exact .of_eq rfl rfl

theorem Owned.downloadImageWithURL (h : Owned none s) {v : ℕ} {url : NSURL} (hloose : Loose v s)
    (hurl : (s.views v).imageURL = some url) (himage : (s.views v).image = none) :
    Owned (some s.operationCount) (s.downloadImageWithURL v url) := by
  have hcreated := h.createOperation hloose hurl himage
  have hlt : s.operationCount < (s.createOperation v url).operationCount := Nat.lt_succ_self _
  unfold SDWebImageManager.downloadImageWithURL
  dsimp only
  split_ifs
  · have hon : ((s.createOperation v url).operations s.operationCount).cancelled = false := by
      rw [createOperation_new]
    exact hcreated.completedBlock hlt hon none
  · have hrunning := hcreated.drops
      (Drops.running (s.runningOperations ++ [s.operationCount]) (s.createOperation v url))
    unfold queryDiskCacheForKey
    split
    · exact hrunning.doneBlock hlt _
    · exact hrunning.of_eq rfl rfl rfl

theorem Tracked.downloadImageWithURL (h : Tracked s) (v : ℕ) (url : NSURL) :
    Tracked (s.downloadImageWithURL v url) := by
  have hcreated : Tracked (s.createOperation v url) := h.createOperation
  have hlt : s.operationCount < (s.createOperation v url).operationCount := Nat.lt_succ_self _
  unfold SDWebImageManager.downloadImageWithURL
  dsimp only
  split_ifs
  · exact hcreated.completedBlock _ none
  · have hrunning := hcreated.drops
      (Drops.running (s.runningOperations ++ [s.operationCount]) (s.createOperation v url))
    unfold queryDiskCacheForKey
    split
    · exact hrunning.doneBlock hlt _
    · refine hrunning.dispatchToIOQueue _ fun i key hblock => ?_
      obtain ⟨rfl, rfl⟩ := IOBlock.query.inj hblock
      refine ⟨hlt, ?_⟩
      change cacheKeyForURL url =
        cacheKeyForURL ((s.createOperation v url).operations s.operationCount).url
      rw [createOperation_new]

theorem Owned.assignLoad {i v : ℕ} (h : Owned (some i) s) (hi : i < s.operationCount)
    (hview : (s.operations i).view = v) : Owned none (s.assignLoad v (some i)) := by
  have hfree : (s.views v).imageLoad = none := hview ▸ h.fresh i rfl
  refine ⟨fun j hj hon => ?_, fun j hj hon => ?_, fun j hj hon _ => ?_, nofun, fun v' j hload => ?_,
    h.marked⟩
  · simp only [SDWebImageManager.assignLoad, modifyView, Function.update_apply]
    split_ifs with hsame
    · rw [← hsame]
      exact h.url j hj hon
    · exact h.url j hj hon
  · simp only [SDWebImageManager.assignLoad, modifyView, Function.update_apply]
    split_ifs with hsame
    · rw [← hsame]
      exact h.image j hj hon
    · exact h.image j hj hon
  · by_cases hji : j = i
    · rw [hji]
      change (Function.update s.views v _ (s.operations i).view).imageLoad = _
      rw [hview, Function.update_self]
    · have hload := h.load j hj hon (by simpa using Ne.symm hji)
      have hne : (s.operations j).view ≠ v := by
        intro heq
        rw [heq, hfree] at hload
        cases hload
      change (Function.update s.views v _ (s.operations j).view).imageLoad = _
      rw [Function.update_of_ne hne]
      exact hload
  · simp only [SDWebImageManager.assignLoad, modifyView, Function.update_apply] at hload
    split_ifs at hload with hsame
    · rw [← Option.some.inj hload, hsame]
      exact ⟨hi, hview⟩
    · exact h.held v' j hload

theorem cancelCurrentImageLoad_count (v : ℕ) (s : SDWebImageManager) :
    (s.cancelCurrentImageLoad v).operationCount = s.operationCount := by
  unfold cancelCurrentImageLoad
  cases (s.views v).imageLoad with
  | none => rfl
  | some i => exact (Drops.cancelOperation i s).operationCount

def cleared (v : ℕ) (url : Option NSURL) (s : SDWebImageManager) : SDWebImageManager :=
  (s.cancelCurrentImageLoad v).resetImage v url

theorem cleared_count (v : ℕ) (url : Option NSURL) (s : SDWebImageManager) :
    (s.cleared v url).operationCount = s.operationCount :=
  cancelCurrentImageLoad_count v s

theorem cleared_downloadImageWithURL (howned : Owned none s) (v : ℕ) (url : NSURL) :
    Owned (some s.operationCount) ((s.cleared v (some url)).downloadImageWithURL v url) := by
  have hcancelled := cancelCurrentImageLoad_owned howned v
  obtain ⟨hreset, hloose⟩ :=
    hcancelled.resetImage (cancelCurrentImageLoad_loose howned v) (some url)
  have hurl : ((s.cleared v (some url)).views v).imageURL = some url := by
    simp [cleared, resetImage, modifyView]
  have himage : ((s.cleared v (some url)).views v).image = none := by
    simp [cleared, resetImage, modifyView]
  rw [← cleared_count v (some url)]
  exact hreset.downloadImageWithURL hloose hurl himage

theorem Tracked.cleared (h : Tracked s) (v : ℕ) (url : Option NSURL) :
    Tracked (s.cleared v url) := by
  unfold SDWebImageManager.cleared resetImage
  exact (h.cancelCurrentImageLoad v).modifyView v _

theorem cleared_download_view (v : ℕ) (url : NSURL) (s : SDWebImageManager) :
    s.operationCount < ((s.cleared v (some url)).downloadImageWithURL v url).operationCount ∧
      (((s.cleared v (some url)).downloadImageWithURL v url).operations s.operationCount).view = v := by
  have hkeeps := Keeps.downloadImageWithURL v url (s.cleared v (some url))
  rw [hkeeps.operationCount, hkeeps.view, ← cleared_count v (some url) s, createOperation_new]
  exact ⟨Nat.lt_succ_self _, rfl⟩

theorem sdSetImageWithURL_some (howned : Owned none s) (v : ℕ) (url : NSURL) :
    s.sdSetImageWithURL v (some url) =
      ((s.cleared v (some url)).downloadImageWithURL v url).assignLoad v (some s.operationCount) := by
  have hfree : (((s.cleared v (some url)).downloadImageWithURL v url).views v).imageLoad = none := by
    have hfresh := (cleared_downloadImageWithURL howned v url).fresh _ rfl
    rwa [(cleared_download_view v url s).2] at hfresh
  have hcurrent : ((s.cleared v (some url)).downloadImageWithURL v url).cancelCurrentImageLoad v =
      (s.cleared v (some url)).downloadImageWithURL v url := by
    unfold cancelCurrentImageLoad
    rw [hfree]
  change ((s.cleared v (some url)).downloadImageWithURL v url).setImageLoadOperation v
    (s.cleared v (some url)).operationCount = _
  rw [setImageLoadOperation, hcurrent, cleared_count]

structure Coherent (s : SDWebImageManager) : Prop where
  owned : Owned none s
  tracked : Tracked s

theorem Coherent.sdSetImageWithURL (h : Coherent s) (v : ℕ) (url : Option NSURL) :
    Coherent (s.sdSetImageWithURL v url) := by
  cases url with
  | none =>
    have hloose := cancelCurrentImageLoad_loose h.owned v
    exact ⟨((cancelCurrentImageLoad_owned h.owned v).resetImage hloose none).1,
      h.tracked.cleared v none⟩
  | some url =>
    obtain ⟨hlt, hview⟩ := cleared_download_view v url s
    rw [sdSetImageWithURL_some h.owned]
    exact ⟨(cleared_downloadImageWithURL h.owned v url).assignLoad hlt hview,
      ((h.tracked.cleared v (some url)).downloadImageWithURL v url).modifyView v _⟩

theorem Coherent.drops (h : Coherent s) (hd : Drops s t) : Coherent t :=
  ⟨h.owned.drops hd, h.tracked.drops hd⟩

section Queues

variable {i : ℕ} {image : Option UIImage} {result : DownloadResult}

theorem Tracked.popIO (h : Tracked s) {block : IOBlock} {ioQueue : List IOBlock}
    (hqueue : s.ioQueue = block :: ioQueue) : Tracked { s with ioQueue } :=
  { h with reading := fun i key hmem => h.reading i key (hqueue ▸ List.mem_cons_of_mem _ hmem) }

theorem Tracked.popMain (h : Tracked s) {mainQueue : List (ℕ × Option UIImage)}
    (hqueue : s.mainQueue = (i, image) :: mainQueue) : Tracked { s with mainQueue } :=
  { h with found := fun j found hmem => h.found j found (hqueue ▸ List.mem_cons_of_mem _ hmem) }

theorem Tracked.popDelivery (h : Tracked s) {deliveries : List (ℕ × DownloadResult)}
    (hqueue : s.deliveries = (i, result) :: deliveries) : Tracked { s with deliveries } :=
  { h with
    delivered := fun j result hmem =>
      h.delivered j result (hqueue ▸ List.mem_cons_of_mem _ hmem) }

theorem Tracked.clearSync (h : Tracked s) : Tracked { s with mainSync := none } :=
  { h with synchronized := nofun }

theorem Tracked.remember (h : Tracked s) (memCache : NSString → Option UIImage) :
    Tracked { s with memCache } :=
  { h with }

theorem Tracked.sendMain (h : Tracked s) (hi : i < s.operationCount) (image : Option UIImage) :
    Tracked { s with mainQueue := s.mainQueue ++ [(i, image)] } := by
  refine { h with found := fun j found hmem => ?_ }
  obtain hmem | hmem := List.mem_append.mp hmem
  · exact h.found j found hmem
  · obtain ⟨rfl, rfl⟩ := Prod.mk.inj (List.mem_singleton.mp hmem)
    exact hi

end Queues

theorem Coherent.runIOBlock (h : Coherent s) {block : IOBlock} {ioQueue : List IOBlock}
    (hqueue : s.ioQueue = block :: ioQueue) :
    Coherent ({ s with ioQueue }.runIOBlock MD5 block) := by
  have hpopped := h.tracked.popIO hqueue
  cases block with
  | query i key =>
    have hi := (h.tracked.reading i key (hqueue ▸ List.mem_cons_self)).1
    unfold SDWebImageManager.runIOBlock
    dsimp only
    split_ifs
    · exact ⟨h.owned.of_eq rfl rfl rfl, hpopped⟩
    · split
      · exact ⟨h.owned.of_eq rfl rfl rfl, (hpopped.remember _).sendMain hi _⟩
      · exact ⟨h.owned.of_eq rfl rfl rfl, hpopped.sendMain hi _⟩
  | store key image => exact ⟨h.owned.of_eq rfl rfl rfl, { hpopped with }⟩

theorem Coherent.runCompleted (h : Coherent s) (d : ℕ) (result : DownloadResult) :
    Coherent (s.runCompleted d result) := by
  unfold SDWebImageManager.runCompleted
  dsimp only
  split_ifs
  · have hcleared := h.tracked.setCallbacks (s.downloads d).url [] nofun
    refine ⟨h.owned.of_eq rfl rfl rfl, { hcleared with delivered := fun i result' hmem => ?_ }⟩
    obtain hmem | hmem := List.mem_append.mp hmem
    · exact h.tracked.delivered i result' hmem
    · obtain ⟨j, hj, heq⟩ := List.mem_map.mp hmem
      obtain ⟨rfl, rfl⟩ := Prod.mk.inj heq
      exact (h.tracked.waiting j _ hj).1
  · exact ⟨h.owned.of_eq rfl rfl rfl, { h.tracked with }⟩

theorem Coherent.complete (h : Coherent s) (d : ℕ) (response : Response) :
    Coherent (s.complete d response) := by
  have hended (f : SDWebImageDownloaderOperation → SDWebImageDownloaderOperation) :
      Coherent (s.modifyDownload d f) := h.drops (.modifyDownload d f s)
  cases response with
  | pixels pixels => exact (hended _).runCompleted d _
  | error code => exact (hended _).runCompleted d _
  | status code => exact h.runCompleted d _
  | notModified => exact h.drops ((Drops.cancelInternal d s).trans (.done d _))

theorem Coherent.receive (h : Coherent s) {i : ℕ} {result : DownloadResult}
    {deliveries : List (ℕ × DownloadResult)} (hqueue : s.deliveries = (i, result) :: deliveries) :
    Coherent ({ s with deliveries }.receive i result) := by
  have hpopped := h.tracked.popDelivery hqueue
  have hi := h.tracked.delivered i result (hqueue ▸ List.mem_cons_self)
  unfold SDWebImageManager.receive
  split_ifs
  · exact ⟨h.owned.of_eq rfl rfl rfl, hpopped.drops (.removeRunning i _)⟩
  · cases result with
    | failed code =>
      refine ⟨h.owned.of_eq rfl rfl rfl, { hpopped with synchronized := fun j result hsync => ?_ }⟩
      obtain ⟨rfl, rfl⟩ := Prod.mk.inj (Option.some.inj hsync)
      exact hi
    | loaded image =>
      have hstored := hpopped.dispatchToIOQueue
        (.store (cacheKeyForURL (s.operations i).url) image) nofun
      refine ⟨h.owned.of_eq rfl rfl rfl, { hstored with synchronized := fun j result hsync => ?_ }⟩
      obtain ⟨rfl, rfl⟩ := Prod.mk.inj (Option.some.inj hsync)
      exact hi

theorem Drops.fail (i : ℕ) (result : DownloadResult) (s : SDWebImageManager) :
    Drops s (s.fail i result) := by
  cases result with
  | loaded image => exact .refl s
  | failed code =>
    simp only [SDWebImageManager.fail]
    split_ifs
    · exact .refl s
    · exact .of_eq rfl rfl rfl rfl rfl rfl rfl rfl rfl rfl

theorem Coherent.synchronize (h : Coherent s) {i : ℕ} {result : DownloadResult}
    (hsync : s.mainSync = some (i, result)) :
    Coherent ({ s with mainSync := none }.synchronize i result) := by
  have hi := h.tracked.synchronized i result hsync
  have hcleared : Coherent { s with mainSync := none } :=
    ⟨h.owned.of_eq rfl rfl rfl, h.tracked.clearSync⟩
  unfold SDWebImageManager.synchronize
  dsimp only
  split_ifs with hon
  · exact hcleared.drops ((Drops.fail i result _).trans (.removeRunning i _))
  · refine Coherent.drops ⟨?_, hcleared.tracked.completedBlock i _⟩
      ((Drops.fail i result _).trans (.removeRunning i _))
    exact hcleared.owned.completedBlock hi (Bool.not_eq_true _ ▸ hon) _

theorem coherent_step {e : Event} (h : Coherent s) (hstep : Step MD5 s e t) : Coherent t := by
  cases hstep.moves with
  | setImage v url => exact h.sdSetImageWithURL v url
  | io _ _ hqueue => exact h.runIOBlock hqueue
  | main i image mainQueue hqueue =>
    have hi := h.tracked.found i image (hqueue ▸ List.mem_cons_self)
    have hpopped : Owned none { s with mainQueue } := h.owned.of_eq rfl rfl rfl
    exact ⟨hpopped.doneBlock hi image, (h.tracked.popMain hqueue).doneBlock hi image⟩
  | start d _ _ => exact h.drops (.start d s)
  | complete d response _ _ => exact h.complete d response
  | callback _ _ _ hqueue _ => exact h.receive hqueue
  | mainSync _ _ hsync => exact h.synchronize hsync
  | done d _ _ _ =>
    have hdone := h.drops (.done d s)
    exact ⟨hdone.owned.of_eq rfl rfl rfl, { hdone.tracked with }⟩
  | stop d _ =>
    have hserved : Coherent { s with cancelRequests := s.cancelRequests.erase d } :=
      ⟨h.owned.of_eq rfl rfl rfl, { h.tracked with }⟩
    exact hserved.drops (.cancelInternal d _)
  | evict kept => exact ⟨h.owned.of_eq rfl rfl rfl, { h.tracked with }⟩
  | cleanDisk kept => exact ⟨h.owned.of_eq rfl rfl rfl, { h.tracked with }⟩

theorem coherent_empty : Coherent {} :=
  ⟨⟨nofun, nofun, nofun, nofun, nofun, nofun⟩, ⟨nofun, nofun, nofun, nofun, nofun⟩⟩

def photo (c : UInt16) : NSURL := ⟨[c]⟩

/-- It keeps apart what differs in the first sixteen bytes. -/
def leadingBytes (bytes : List UInt8) : Vector UInt8 16 := Vector.ofFn fun i => bytes.getD i 0

/-- Two views share a download, and one of them moves on before it is there. -/
def sharedDownload : List Event :=
  [.setImage 0 (some (photo 1)), .setImage 1 (some (photo 1)), .io, .io, .main, .main, .start 0,
    .setImage 1 (some (photo 2)), .complete 0 (.pixels 7), .callback, .mainSync, .callback, .done,
    .io, .main, .io, .start 1, .complete 1 (.pixels 9), .callback, .mainSync, .done, .io]

end MixedProject.SDWebImageManager
