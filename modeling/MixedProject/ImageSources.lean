import MixedProject.ImageRuns
import Mathlib.Data.Set.Function

namespace MixedProject.SDWebImageManager

open Traces

variable {s t : SDWebImageManager} {MD5 : List UInt8 → Vector UInt8 16} {urls : Set NSURL}
  {new : Option ℕ}

def digestForURL (MD5 : List UInt8 → Vector UInt8 16) (url : NSURL) : Vector UInt8 16 :=
  SDImageCache.digestForKey MD5 (cacheKeyForURL url)

/-- Every image, wherever it is held, is the one of the URL it is held for; `urls` are the URLs
that were asked for. -/
structure Sourced (MD5 : List UInt8 → Vector UInt8 16) (urls : Set NSURL) (s : SDWebImageManager) :
    Prop where
  requested : ∀ i < s.operationCount, (s.operations i).url ∈ urls
  shown : ∀ v image, (s.views v).image = some image → (s.views v).imageURL = some image.url
  memory : ∀ key image, s.memCache key = some image → key = cacheKeyForURL image.url
  disk : ∀ file image, s.disk file = some image →
    file = SDImageCache.cachedFileNameForKey MD5 (cacheKeyForURL image.url) ∧ image.url ∈ urls
  writing : ∀ key image, .store key image ∈ s.ioQueue →
    key = cacheKeyForURL image.url ∧ image.url ∈ urls
  found : ∀ i image, (i, some image) ∈ s.mainQueue → image.url = (s.operations i).url
  delivered : ∀ i image, (i, .loaded image) ∈ s.deliveries → image.url = (s.operations i).url
  synchronized : ∀ i image, s.mainSync = some (i, .loaded image) →
    image.url = (s.operations i).url

theorem Sourced.drops (h : Sourced MD5 urls s) (hd : Drops s t) : Sourced MD5 urls t := by
  constructor
  · intro i hi
    rw [hd.operationCount] at hi
    rw [hd.url]
    exact h.requested i hi
  · rw [hd.views]
    exact h.shown
  · rw [hd.memCache]
    exact h.memory
  · rw [hd.disk]
    exact h.disk
  · rw [hd.ioQueue]
    exact h.writing
  · intro i image hmem
    rw [hd.mainQueue] at hmem
    rw [hd.url]
    exact h.found i image hmem
  · intro i image hmem
    rw [hd.deliveries] at hmem
    rw [hd.url]
    exact h.delivered i image hmem
  · intro i image hsync
    rw [hd.mainSync] at hsync
    rw [hd.url]
    exact h.synchronized i image hsync

section Views

theorem Sourced.completedBlock (h : Sourced MD5 urls s) (howned : Owned new s) {i : ℕ}
    (hi : i < s.operationCount) (hon : (s.operations i).cancelled = false)
    {image : Option UIImage}
    (himage : ∀ found, image = some found → found.url = (s.operations i).url) :
    Sourced MD5 urls (s.completedBlock i image) where
  requested j hj := by
    rw [completedBlock_count] at hj
    rw [completedBlock_url]
    exact h.requested j hj
  shown v shown hshown := by
    rw [completedBlock_image] at hshown
    rw [completedBlock_imageURL]
    split_ifs at hshown with hv
    · cases image with
      | none => exact h.shown v shown (by simpa using hshown)
      | some image =>
        have heq : image = shown := by simpa using hshown
        rw [hv, howned.url i hi hon, ← heq, himage image rfl]
    · exact h.shown v shown hshown
  memory := by
    cases image <;> exact h.memory
  disk := by
    cases image <;> exact h.disk
  writing := by
    cases image <;> exact h.writing
  found j found hmem := by
    have hmem' : (j, some found) ∈ s.mainQueue := by
      cases image <;> exact hmem
    simpa using h.found j found hmem'
  delivered j loaded hmem := by
    have hmem' : (j, .loaded loaded) ∈ s.deliveries := by
      cases image <;> exact hmem
    simpa using h.delivered j loaded hmem'
  synchronized j loaded hsync := by
    have hsync' : s.mainSync = some (j, .loaded loaded) := by
      cases image <;> exact hsync
    simpa using h.synchronized j loaded hsync'

theorem Sourced.modifyView (h : Sourced MD5 urls s) (v : ℕ) (f : UIImageView → UIImageView)
    (hf : ∀ image, (f (s.views v)).image = some image →
      (f (s.views v)).imageURL = some image.url) : Sourced MD5 urls (s.modifyView v f) := by
  refine { h with shown := fun v' image hshown => ?_ }
  simp only [SDWebImageManager.modifyView, Function.update_apply] at hshown ⊢
  split_ifs at hshown ⊢ with hv
  · exact hf image hshown
  · exact h.shown v' image hshown

theorem Sourced.assignLoad (h : Sourced MD5 urls s) (v : ℕ) (imageLoad : Option ℕ) :
    Sourced MD5 urls (s.assignLoad v imageLoad) :=
  h.modifyView v _ (h.shown v)

theorem Sourced.cleared (h : Sourced MD5 urls s) (v : ℕ) (url : Option NSURL) :
    Sourced MD5 urls (s.cleared v url) := by
  have hcancelled : Sourced MD5 urls (s.cancelCurrentImageLoad v) := by
    unfold cancelCurrentImageLoad
    cases (s.views v).imageLoad with
    | none => exact h
    | some i => exact (h.drops (.cancelOperation i s)).assignLoad v none
  unfold SDWebImageManager.cleared resetImage
  apply hcancelled.modifyView
  intro image himage
  cases himage

end Views

theorem Sourced.remember (h : Sourced MD5 urls s) {key : NSString} {image : UIImage}
    (hkey : key = cacheKeyForURL image.url) :
    Sourced MD5 urls { s with memCache := Function.update s.memCache key (some image) } := by
  refine { h with memory := fun key' image' hfound => ?_ }
  simp only [Function.update_apply] at hfound
  split_ifs at hfound with heq
  · rw [heq, hkey, Option.some.inj hfound]
  · exact h.memory key' image' hfound

theorem Sourced.dispatchToIOQueue (h : Sourced MD5 urls s) (block : IOBlock)
    (hwrite : ∀ key image, block = .store key image →
      key = cacheKeyForURL image.url ∧ image.url ∈ urls) :
    Sourced MD5 urls (s.dispatchToIOQueue block) := by
  refine { h with writing := fun key image hmem => ?_ }
  obtain hmem | hmem := List.mem_append.mp hmem
  · exact h.writing key image hmem
  · exact hwrite key image (List.mem_singleton.mp hmem).symm

theorem Sourced.sendMain (h : Sourced MD5 urls s) {i : ℕ} {image : Option UIImage}
    (himage : ∀ found, image = some found → found.url = (s.operations i).url) :
    Sourced MD5 urls { s with mainQueue := s.mainQueue ++ [(i, image)] } := by
  refine { h with found := fun j found hmem => ?_ }
  obtain hmem | hmem := List.mem_append.mp hmem
  · exact h.found j found hmem
  · obtain ⟨rfl, rfl⟩ := Prod.mk.inj (List.mem_singleton.mp hmem)
    exact himage found rfl

theorem Sourced.startDownload (h : Sourced MD5 urls s) (i : ℕ) :
    Sourced MD5 urls (s.startDownload i) := by
  have hwaits : Sourced MD5 urls (s.setCallbacks (s.operations i).url
      (s.URLCallbacks (s.operations i).url ++ [i])) := { h with }
  exact hwaits.drops (startDownload_drops i s)

theorem Sourced.doneBlock (h : Sourced MD5 urls s) (howned : Owned new s) {i : ℕ}
    (hi : i < s.operationCount) {image : Option UIImage}
    (himage : ∀ found, image = some found → found.url = (s.operations i).url) :
    Sourced MD5 urls (s.doneBlock i image) := by
  unfold SDWebImageManager.doneBlock
  split_ifs with hon
  · exact h.drops (.removeRunning i s)
  · cases image with
    | none => exact h.startDownload i
    | some image =>
      exact (h.completedBlock howned hi (Bool.not_eq_true _ ▸ hon) himage).drops
        (.removeRunning i _)

theorem Sourced.createOperation (h : Sourced MD5 urls s) (htracked : Tracked s) (v : ℕ) {url : NSURL}
    (hurl : url ∈ urls) : Sourced MD5 urls (s.createOperation v url) := by
  refine { h with
    requested := fun i hi => ?_, found := fun i image hmem => ?_, delivered := fun i image hmem => ?_,
    synchronized := fun i image hsync => ?_ }
  · obtain hlt | rfl := Nat.lt_succ_iff_lt_or_eq.mp hi
    · rw [createOperation_old hlt]
      exact h.requested i hlt
    · rw [createOperation_new]
      exact hurl
  · rw [createOperation_old (htracked.found i _ hmem)]
    exact h.found i image hmem
  · rw [createOperation_old (htracked.delivered i _ hmem)]
    exact h.delivered i image hmem
  · rw [createOperation_old (htracked.synchronized i _ hsync)]
    exact h.synchronized i image hsync

theorem Sourced.downloadImageWithURL (h : Sourced MD5 urls s) (hcoherent : Coherent s) {v : ℕ}
    {url : NSURL} (hurl : url ∈ urls) (hloose : Loose v s)
    (hview : (s.views v).imageURL = some url) (hblank : (s.views v).image = none) :
    Sourced MD5 urls (s.downloadImageWithURL v url) := by
  have howned := hcoherent.owned.createOperation hloose hview hblank
  have hcreated := h.createOperation hcoherent.tracked v hurl
  have hlt : s.operationCount < (s.createOperation v url).operationCount := Nat.lt_succ_self _
  have hnew : (s.createOperation v url).operations s.operationCount = { view := v, url } :=
    createOperation_new
  unfold SDWebImageManager.downloadImageWithURL
  dsimp only
  split_ifs
  · have hon : ((s.createOperation v url).operations s.operationCount).cancelled = false := by
      rw [hnew]
    exact hcreated.completedBlock howned hlt hon nofun
  · have hdrops := Drops.running (s.runningOperations ++ [s.operationCount]) (s.createOperation v url)
    have hrunning := howned.drops hdrops
    have hsourced := hcreated.drops hdrops
    unfold queryDiskCacheForKey
    split
    · rename_i image hmemory
      refine hsourced.doneBlock hrunning hlt fun found hfound => ?_
      rw [← Option.some.inj hfound]
      change image.url = ((s.createOperation v url).operations s.operationCount).url
      rw [hnew]
      exact (cacheKey_inj (hsourced.memory _ _ hmemory)).symm
    · exact hsourced.dispatchToIOQueue _ nofun

theorem Sourced.sdSetImageWithURL (h : Sourced MD5 urls s) (hcoherent : Coherent s) (v : ℕ)
    {url : Option NSURL} (hurl : ∀ asked, url = some asked → asked ∈ urls) :
    Sourced MD5 urls (s.sdSetImageWithURL v url) := by
  cases url with
  | none => exact h.cleared v none
  | some url =>
    have hcancelled := cancelCurrentImageLoad_owned hcoherent.owned v
    obtain ⟨hreset, hloose⟩ :=
      hcancelled.resetImage (cancelCurrentImageLoad_loose hcoherent.owned v) (some url)
    have hview : ((s.cleared v (some url)).views v).imageURL = some url := by
      simp [SDWebImageManager.cleared, resetImage, SDWebImageManager.modifyView]
    have hblank : ((s.cleared v (some url)).views v).image = none := by
      simp [SDWebImageManager.cleared, resetImage, SDWebImageManager.modifyView]
    rw [sdSetImageWithURL_some hcoherent.owned]
    have hloaded := (h.cleared v (some url)).downloadImageWithURL
      ⟨hreset, hcoherent.tracked.cleared v (some url)⟩ (hurl url rfl) hloose hview hblank
    exact hloaded.assignLoad v _

/-- What the disk holds under the file name of a URL, or under this name without its extension, is
the picture of that URL, unless the digests of two URLs collide. -/
theorem Sourced.diskImage (h : Sourced MD5 urls s) (hdigest : Set.InjOn (digestForURL MD5) urls)
    {url : NSURL} (hurl : url ∈ urls) {image : UIImage}
    (hdisk : s.diskImageForKey MD5 (cacheKeyForURL url) = some image) : image.url = url := by
  unfold diskImageForKey at hdisk
  dsimp only at hdisk
  split at hdisk
  · rename_i found hfound
    obtain ⟨hfile, hasked⟩ := h.disk _ found hfound
    rw [← Option.some.inj hdisk]
    exact (hdigest hurl hasked (SDImageCache.digest_of_fileName hfile)).symm
  · obtain ⟨hfile, hasked⟩ := h.disk _ image hdisk
    exact (hdigest hurl hasked (SDImageCache.digest_of_deleting hfile)).symm

theorem Sourced.runIOBlock (h : Sourced MD5 urls s) (hcoherent : Coherent s)
    (hdigest : Set.InjOn (digestForURL MD5) urls) {block : IOBlock} {ioQueue : List IOBlock}
    (hqueue : s.ioQueue = block :: ioQueue) :
    Sourced MD5 urls ({ s with ioQueue }.runIOBlock MD5 block) := by
  have hpopped : Sourced MD5 urls { s with ioQueue } :=
    { h with writing := fun key image hmem => h.writing key image (hqueue ▸ List.mem_cons_of_mem _ hmem) }
  cases block with
  | query i key =>
    obtain ⟨hi, rfl⟩ := hcoherent.tracked.reading i key (hqueue ▸ List.mem_cons_self)
    unfold SDWebImageManager.runIOBlock
    dsimp only
    split_ifs
    · exact hpopped
    · split
      · rename_i image hdisk
        have himage := hpopped.diskImage hdigest (h.requested i hi) hdisk
        refine (hpopped.remember (congrArg cacheKeyForURL himage.symm)).sendMain ?_
        intro found hfound
        rw [hdisk] at hfound
        rw [← Option.some.inj hfound]
        exact himage
      · rename_i hdisk
        refine hpopped.sendMain fun found hfound => ?_
        rw [hdisk] at hfound
        cases hfound
  | store key image =>
    obtain ⟨hkey, hasked⟩ := h.writing key image (hqueue ▸ List.mem_cons_self)
    refine { hpopped with disk := fun file image' hstored => ?_ }
    simp only [SDWebImageManager.runIOBlock, Function.update_apply] at hstored
    split_ifs at hstored with heq
    · rw [← Option.some.inj hstored, heq, hkey]
      exact ⟨rfl, hasked⟩
    · exact h.disk file image' hstored

theorem Sourced.runCompleted (h : Sourced MD5 urls s) (htracked : Tracked s) (d : ℕ)
    {result : DownloadResult}
    (hresult : ∀ image, result = .loaded image → image.url = (s.downloads d).url) :
    Sourced MD5 urls (s.runCompleted d result) := by
  unfold SDWebImageManager.runCompleted
  dsimp only
  split_ifs
  · refine { h with delivered := fun i image hmem => ?_ }
    obtain hmem | hmem := List.mem_append.mp hmem
    · exact h.delivered i image hmem
    · obtain ⟨j, hj, heq⟩ := List.mem_map.mp hmem
      obtain ⟨rfl, hloaded⟩ := Prod.mk.inj heq
      exact (hresult image hloaded).trans (htracked.waiting j _ hj).2.symm
  · exact { h with }

theorem Sourced.complete (h : Sourced MD5 urls s) (htracked : Tracked s) (d : ℕ)
    (response : Response) : Sourced MD5 urls (s.complete d response) := by
  have hended (f : SDWebImageDownloaderOperation → SDWebImageDownloaderOperation) :
      Sourced MD5 urls (s.modifyDownload d f) ∧ Tracked (s.modifyDownload d f) :=
    ⟨h.drops (.modifyDownload d f s), htracked.drops (.modifyDownload d f s)⟩
  cases response with
  | pixels pixels =>
    refine (hended _).1.runCompleted (hended _).2 d fun image himage => ?_
    rw [← DownloadResult.loaded.inj himage]
    simp [modifyDownload]
  | error code => exact (hended _).1.runCompleted (hended _).2 d nofun
  | status code => exact h.runCompleted htracked d nofun
  | notModified => exact h.drops ((Drops.cancelInternal d s).trans (.done d _))

theorem Sourced.receive (h : Sourced MD5 urls s) (htracked : Tracked s) {i : ℕ}
    {result : DownloadResult} {deliveries : List (ℕ × DownloadResult)}
    (hqueue : s.deliveries = (i, result) :: deliveries) :
    Sourced MD5 urls ({ s with deliveries }.receive i result) := by
  have hpopped : Sourced MD5 urls { s with deliveries } :=
    { h with delivered := fun j image hmem => h.delivered j image (hqueue ▸ List.mem_cons_of_mem _ hmem) }
  have hi := htracked.delivered i result (hqueue ▸ List.mem_cons_self)
  unfold SDWebImageManager.receive
  split_ifs
  · exact hpopped.drops (.removeRunning i _)
  · cases result with
    | failed code =>
      refine { hpopped with synchronized := fun j image hsync => ?_ }
      cases hsync
    | loaded image =>
      have hurl := h.delivered i image (hqueue ▸ List.mem_cons_self)
      have hkey : cacheKeyForURL (s.operations i).url = cacheKeyForURL image.url := by rw [hurl]
      have hasked : image.url ∈ urls := hurl ▸ h.requested i hi
      have hstored := (hpopped.remember hkey).dispatchToIOQueue (.store _ image)
        fun key image' hblock => by
          obtain ⟨rfl, rfl⟩ := IOBlock.store.inj hblock
          exact ⟨hkey, hasked⟩
      refine { hstored with synchronized := fun j loaded hsync => ?_ }
      obtain ⟨rfl, hloaded⟩ := Prod.mk.inj (Option.some.inj hsync)
      rw [← DownloadResult.loaded.inj hloaded]
      exact hurl

theorem Sourced.synchronize (h : Sourced MD5 urls s) (hcoherent : Coherent s) {i : ℕ}
    {result : DownloadResult} (hsync : s.mainSync = some (i, result)) :
    Sourced MD5 urls ({ s with mainSync := none }.synchronize i result) := by
  have hi := hcoherent.tracked.synchronized i result hsync
  have hcleared : Sourced MD5 urls { s with mainSync := none } := { h with synchronized := nofun }
  have howned : Owned none { s with mainSync := none } := hcoherent.owned.of_eq rfl rfl rfl
  unfold SDWebImageManager.synchronize
  dsimp only
  split_ifs with hon
  · exact hcleared.drops ((Drops.fail i result _).trans (.removeRunning i _))
  · refine (hcleared.completedBlock howned hi (Bool.not_eq_true _ ▸ hon) ?_).drops
      ((Drops.fail i result _).trans (.removeRunning i _))
    intro found hfound
    cases result with
    | failed code => cases hfound
    | loaded image =>
      rw [← Option.some.inj hfound]
      exact h.synchronized i image hsync

theorem keep_some {kept : NSString → Bool} {cache : NSString → Option UIImage} {key : NSString}
    {image : UIImage} (h : keep kept cache key = some image) : cache key = some image := by
  unfold keep at h
  split_ifs at h
  exact h

def Event.requestedURL : Event → Option NSURL
  | .setImage _ url => url
  | _ => none

theorem sourced_step (hdigest : Set.InjOn (digestForURL MD5) urls) {e : Event} (hcoherent : Coherent s)
    (h : Sourced MD5 urls s) (hstep : Step MD5 s e t)
    (hurl : ∀ url, e.requestedURL = some url → url ∈ urls) : Sourced MD5 urls t := by
  cases hstep.moves with
  | setImage v url => exact h.sdSetImageWithURL hcoherent v hurl
  | io _ _ hqueue => exact h.runIOBlock hcoherent hdigest hqueue
  | main i image mainQueue hqueue =>
    have hi := hcoherent.tracked.found i image (hqueue ▸ List.mem_cons_self)
    have hpopped : Sourced MD5 urls { s with mainQueue } :=
      { h with found := fun j found hmem => h.found j found (hqueue ▸ List.mem_cons_of_mem _ hmem) }
    refine hpopped.doneBlock (hcoherent.owned.of_eq rfl rfl rfl) hi fun found hfound => ?_
    subst hfound
    exact h.found i found (hqueue ▸ List.mem_cons_self)
  | start d _ _ => exact h.drops (.start d s)
  | complete d response _ _ => exact h.complete hcoherent.tracked d response
  | callback _ _ _ hqueue _ => exact h.receive hcoherent.tracked hqueue
  | mainSync _ _ hsync => exact h.synchronize hcoherent hsync
  | done d _ _ _ => exact { h.drops (.done d s) with }
  | stop d _ =>
    have hserved : Sourced MD5 urls { s with cancelRequests := s.cancelRequests.erase d } :=
      { h with }
    exact hserved.drops (.cancelInternal d _)
  | evict kept =>
    exact { h with memory := fun key image hkept => h.memory key image (keep_some hkept) }
  | cleanDisk kept =>
    exact { h with disk := fun file image hkept => h.disk file image (keep_some hkept) }

theorem sourced_empty (MD5 : List UInt8 → Vector UInt8 16) (urls : Set NSURL) :
    Sourced MD5 urls {} :=
  ⟨nofun, nofun, nofun, nofun, nofun, nofun, nofun, nofun⟩

/-- A view shows nothing or the picture of the URL it was last given, and a load that is not
cancelled is the load of its view, which shows the last image the load was answered with. -/
def ShowsCurrent (s : SDWebImageManager) : Prop :=
  (∀ v image, (s.views v).image = some image → (s.views v).imageURL = some image.url) ∧
    ∀ i < s.operationCount, (s.operations i).cancelled = false →
      (s.views (s.operations i).view).imageLoad = some i ∧
      (s.views (s.operations i).view).imageURL = some (s.operations i).url ∧
      (s.views (s.operations i).view).image = ((s.operations i).answers.filterMap id).getLast?

def requestedURLs (events : List Event) : Set NSURL :=
  {url | url ∈ events.filterMap Event.requestedURL}

end MixedProject.SDWebImageManager
