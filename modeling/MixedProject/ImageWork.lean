import MixedProject.ImageRest
import MixedProject.Tally
import Mathlib.Algebra.Order.BigOperators.Group.Finset

namespace MixedProject

open Finset Traces

def IOBlock.work : IOBlock → ℕ
  | .query _ _ => 8
  | .store _ _ => 1

namespace SDWebImageManager

variable {s t u : SDWebImageManager} {MD5 : List UInt8 → Vector UInt8 16} {d : ℕ}

def downloadWork (d : ℕ) (s : SDWebImageManager) : ℕ :=
  if s.completing = some d then 1
  else if (s.downloads d).started = false then 3
  else if (s.downloads d).running then 2 else 0

def downloading (s : SDWebImageManager) : ℕ :=
  ∑ d ∈ range s.downloadCount, downloadWork d s

def waiters (s : SDWebImageManager) : ℕ :=
  ∑ i ∈ range s.operationCount, waiting i s

def queuedWork (s : SDWebImageManager) : ℕ :=
  (s.ioQueue.map IOBlock.work).sum + 7 * s.mainQueue.length + 3 * s.deliveries.length +
    s.mainSync.toList.length

/-- How many steps what has been taken on may still need. -/
def work (s : SDWebImageManager) : ℕ :=
  s.queuedWork + 3 * s.waiters + s.downloading

theorem downloading_congr (hdownloads : t.downloads = s.downloads)
    (hcount : t.downloadCount = s.downloadCount) (hcompleting : t.completing = s.completing) :
    t.downloading = s.downloading := by
  simp only [downloading, downloadWork, hdownloads, hcount, hcompleting]

theorem Drops.waiters_le (h : Drops s t) : t.waiters ≤ s.waiters := by
  unfold waiters
  rw [h.operationCount]
  exact sum_le_sum fun i _ => h.waiting_le

theorem Drops.queuedWork_eq (h : Drops s t) : t.queuedWork = s.queuedWork := by
  rw [queuedWork, queuedWork, h.ioQueue, h.mainQueue, h.deliveries, h.mainSync]

theorem Drops.work_le (h : Drops s t) (hdownloading : t.downloading ≤ s.downloading) :
    t.work ≤ s.work := by
  have hwaiters := h.waiters_le
  rw [work, work, h.queuedWork_eq]
  omega

theorem modifyDownload_downloading {f : SDWebImageDownloaderOperation → SDWebImageDownloaderOperation}
    (s : SDWebImageManager) (hle : downloadWork d (s.modifyDownload d f) ≤ downloadWork d s) :
    (s.modifyDownload d f).downloading ≤ s.downloading := by
  refine sum_le_sum fun k _ => ?_
  by_cases hkd : k = d
  · rw [hkd]
    exact hle
  · rw [downloadWork, downloadWork, modifyDownload_of_ne hkd]
    exact le_refl _

theorem modifyDownload_downloading_lt
    {f : SDWebImageDownloaderOperation → SDWebImageDownloaderOperation} (s : SDWebImageManager)
    (hd : d < s.downloadCount)
    (hlt : downloadWork d (s.modifyDownload d f) < downloadWork d s) :
    (s.modifyDownload d f).downloading < s.downloading := by
  refine sum_lt_sum (fun k _ => ?_) ⟨d, mem_range.mpr hd, hlt⟩
  by_cases hkd : k = d
  · rw [hkd]
    exact hlt.le
  · rw [downloadWork, downloadWork, modifyDownload_of_ne hkd]
    exact le_refl _

theorem cancelInternal_downloading (d : ℕ) (s : SDWebImageManager) :
    (s.cancelInternal d).downloading ≤ s.downloading := by
  unfold cancelInternal
  dsimp only
  split_ifs
  · exact le_refl _
  · refine (modifyDownload_downloading (s.setCallbacks (s.downloads d).url []) ?_).trans_eq
      (downloading_congr rfl rfl rfl)
    simp only [downloadWork, modifyDownload_self]
    split_ifs <;> simp_all [modifyDownload]
  · refine modifyDownload_downloading s ?_
    simp only [downloadWork, modifyDownload_self]
    split_ifs <;> simp_all [modifyDownload]

theorem cancelDownload_downloading (d : ℕ) (s : SDWebImageManager) :
    (s.cancelDownload d).downloading ≤ s.downloading := by
  unfold cancelDownload
  split_ifs
  · exact (downloading_congr rfl rfl rfl).le
  · exact cancelInternal_downloading d s

theorem cancelOperation_downloading (i : ℕ) (s : SDWebImageManager) :
    (s.cancelOperation i).downloading ≤ s.downloading := by
  have hmarked : (s.markCancelled i).downloading = s.downloading := downloading_congr rfl rfl rfl
  unfold cancelOperation
  rcases (s.operations i).cancelBlock with - | (- | d)
  · exact hmarked.le
  · exact hmarked.le
  · exact (cancelDownload_downloading d _).trans hmarked.le

theorem cleared_work (v : ℕ) (url : Option NSURL) (s : SDWebImageManager) :
    (s.cleared v url).work ≤ s.work := by
  unfold cleared cancelCurrentImageLoad
  cases (s.views v).imageLoad with
  | none => exact le_refl _
  | some i => exact (Drops.cancelOperation i s).work_le (cancelOperation_downloading i s)

theorem sum_count_eq_length {n : ℕ} {l : List ℕ} (hl : ∀ i ∈ l, i < n) :
    ∑ i ∈ range n, l.count i = l.length := by
  have hsum := Multiset.sum_count_eq_card (s := range n) (m := (l : Multiset ℕ)) fun i hi =>
    mem_range.mpr (hl i hi)
  simpa using hsum

theorem addCallback_waiters {i : ℕ} (hi : i < s.operationCount) :
    (s.setCallbacks (s.operations i).url (s.URLCallbacks (s.operations i).url ++ [i])).waiters =
      s.waiters + 1 := by
  have hone : ∑ j ∈ range s.operationCount, [i].count j = 1 :=
    sum_count_eq_length (by simpa using hi)
  rw [waiters, waiters, ← hone, ← sum_add_distrib]
  exact sum_congr rfl fun j _ => addCallback_waiting j i s

theorem createDownload_downloading (url : NSURL) (s : SDWebImageManager) :
    (s.createDownload url).downloading ≤ s.downloading + 3 := by
  have hnew : downloadWork s.downloadCount (s.createDownload url) ≤ 3 := by
    unfold downloadWork
    split_ifs <;> omega
  have hold : ∑ d ∈ range s.downloadCount, downloadWork d (s.createDownload url) = s.downloading := by
    refine sum_congr rfl fun d hd => ?_
    rw [downloadWork, downloadWork, createDownload_old (mem_range.mp hd).ne]
    rfl
  change ∑ d ∈ range (s.downloadCount + 1), downloadWork d (s.createDownload url) ≤ _
  rw [sum_range_succ, hold]
  omega

theorem startDownload_work {i : ℕ} (hi : i < s.operationCount)
    (hon : (s.operations i).cancelled = false) : (s.startDownload i).work ≤ s.work + 6 := by
  have hwaiters := addCallback_waiters hi
  have hassign (r : SDWebImageManager) (cancelBlock : Option (Option ℕ)) :
      (r.assignCancelBlock i cancelBlock).work ≤ r.work :=
    (Drops.assignCancelBlock i cancelBlock r).work_le (downloading_congr rfl rfl rfl).le
  unfold startDownload
  dsimp only
  generalize hadded : s.setCallbacks (s.operations i).url (s.URLCallbacks (s.operations i).url ++ [i]) =
    r at hwaiters
  have hon' : (r.operations i).cancelled = false := hadded ▸ hon
  have hwork : r.work = s.work + 3 := by
    have hqueued : r.queuedWork = s.queuedWork := hadded ▸ rfl
    have hdownloading : r.downloading = s.downloading := hadded ▸ downloading_congr rfl rfl rfl
    rw [work, work, hwaiters, hqueued, hdownloading]
    omega
  split_ifs
  · rw [setCancelBlock_uncancelled]
    · have hdownloading := createDownload_downloading (s.operations i).url r
      have hcreated : (r.createDownload (s.operations i).url).work ≤ r.work + 3 := by
        change r.queuedWork + 3 * r.waiters + _ ≤ r.queuedWork + 3 * r.waiters + r.downloading + 3
        omega
      have hwhole := hassign (r.createDownload (s.operations i).url) (some (some s.downloadCount))
      omega
    · exact hon'
  · rw [setCancelBlock_uncancelled _ hon']
    have hwhole := hassign r (some none)
    omega

theorem completedBlock_work (i : ℕ) (image : Option UIImage) (s : SDWebImageManager) :
    (s.completedBlock i image).work = s.work := by
  have hwaiters : (s.completedBlock i image).waiters = s.waiters := by
    rw [waiters, waiters, completedBlock_count]
    exact sum_congr rfl fun j _ => completedBlock_waiting j i image s
  rw [work, work, hwaiters]
  cases image <;> rfl

theorem doneBlock_work {i : ℕ} (hi : i < s.operationCount) (image : Option UIImage) :
    (s.doneBlock i image).work ≤ s.work + 6 := by
  unfold doneBlock
  split_ifs with hon
  · exact Nat.le_add_right _ _
  · cases image with
    | none => exact startDownload_work hi (Bool.not_eq_true _ ▸ hon)
    | some image => exact (completedBlock_work i _ s).le.trans (Nat.le_add_right _ _)

theorem createOperation_work (h : Tracked s) (v : ℕ) (url : NSURL) :
    (s.createOperation v url).work = s.work := by
  have hnew : waiting s.operationCount (s.createOperation v url) = 0 := by
    rw [waiting, createOperation_new]
    exact List.count_eq_zero_of_not_mem fun hmem => (h.waiting _ _ hmem).1.false
  have hold : ∑ i ∈ range s.operationCount, waiting i (s.createOperation v url) = s.waiters := by
    refine sum_congr rfl fun i hi => ?_
    rw [waiting, waiting, createOperation_old (mem_range.mp hi)]
    rfl
  have hwaiters : (s.createOperation v url).waiters = s.waiters := by
    change ∑ i ∈ range (s.operationCount + 1), waiting i (s.createOperation v url) = _
    rw [sum_range_succ, hold, hnew]
    rfl
  rw [work, work, hwaiters]
  rfl

theorem dispatchToIOQueue_work (block : IOBlock) (s : SDWebImageManager) :
    (s.dispatchToIOQueue block).work = s.work + block.work := by
  simp only [work, queuedWork, dispatchToIOQueue, List.map_append, List.sum_append, List.map_cons,
    List.map_nil, List.sum_cons, List.sum_nil]
  change _ + 3 * s.waiters + s.downloading = _ + 3 * s.waiters + s.downloading + _
  omega

theorem downloadImageWithURL_work (h : Tracked s) (v : ℕ) (url : NSURL) :
    (s.downloadImageWithURL v url).work ≤ s.work + 8 := by
  have hcreated := createOperation_work h v url
  unfold downloadImageWithURL
  dsimp only
  split_ifs
  · rw [completedBlock_work, hcreated]
    omega
  · generalize hrunning : ({ s.createOperation v url with
      runningOperations := s.runningOperations ++ [s.operationCount] } : SDWebImageManager) = r
    have hwork : r.work = s.work := hrunning ▸ hcreated
    have hcount : s.operationCount < r.operationCount := hrunning ▸ Nat.lt_succ_self _
    unfold queryDiskCacheForKey
    split
    · have hdone := doneBlock_work (s := r) hcount (some ‹UIImage›)
      omega
    · rw [dispatchToIOQueue_work, hwork]
      rfl

theorem setImage_work (h : Coherent s) (v : ℕ) (url : Option NSURL) :
    (s.sdSetImageWithURL v url).work ≤ s.work + 8 := by
  have hcleared := cleared_work v url s
  cases url with
  | none => exact hcleared.trans (Nat.le_add_right _ _)
  | some url =>
    have htracked : Tracked (s.cleared v (some url)) :=
      h.tracked.cleared v (some url)
    have hdownload := downloadImageWithURL_work htracked v url
    rw [sdSetImageWithURL_some h.owned]
    change ((s.cleared v (some url)).downloadImageWithURL v url).work ≤ _
    omega

theorem runIOBlock_work {block : IOBlock} {ioQueue : List IOBlock}
    (hqueue : s.ioQueue = block :: ioQueue) :
    ({ s with ioQueue }.runIOBlock MD5 block).work < s.work := by
  have hpopped : s.work = ({ s with ioQueue } : SDWebImageManager).work + block.work := by
    simp only [work, queuedWork, hqueue, List.map_cons, List.sum_cons]
    change _ = _ + 3 * s.waiters + s.downloading + _
    omega
  rw [hpopped]
  cases block with
  | query i key =>
    unfold runIOBlock
    dsimp only
    split_ifs
    · simp [IOBlock.work]
    · split
      all_goals
        simp only [work, queuedWork, List.length_append, List.length_singleton, IOBlock.work]
        change _ + 3 * s.waiters + s.downloading < _ + 3 * s.waiters + s.downloading + _
        omega
  | store key image => exact Nat.lt_succ_self _

theorem main_work {i : ℕ} {image : Option UIImage} {mainQueue : List (ℕ × Option UIImage)}
    (hqueue : s.mainQueue = (i, image) :: mainQueue) (hi : i < s.operationCount) :
    ({ s with mainQueue }.doneBlock i image).work < s.work := by
  have hpopped : s.work = ({ s with mainQueue } : SDWebImageManager).work + 7 := by
    simp only [work, queuedWork, hqueue, List.length_cons]
    change _ = _ + 3 * s.waiters + s.downloading + _
    omega
  have hdone := doneBlock_work (s := { s with mainQueue }) hi image
  omega

theorem receive_work {i : ℕ} {result : DownloadResult} {deliveries : List (ℕ × DownloadResult)}
    (hqueue : s.deliveries = (i, result) :: deliveries) (hsync : s.mainSync = none) :
    ({ s with deliveries }.receive i result).work < s.work := by
  have hpopped : s.work = ({ s with deliveries } : SDWebImageManager).work + 3 := by
    simp only [work, queuedWork, hqueue, List.length_cons]
    change _ = _ + 3 * s.waiters + s.downloading + _
    omega
  rw [hpopped]
  unfold receive
  split_ifs
  · change _ < ({ s with deliveries } : SDWebImageManager).work + 3
    exact Nat.lt_add_of_pos_right (by omega)
  · cases result with
    | loaded image =>
      simp only [work, queuedWork, storeImage, dispatchToIOQueue, hsync, List.map_append, List.sum_append,
        List.map_cons, List.map_nil, List.sum_cons, List.sum_nil, IOBlock.work, Option.toList_none,
        Option.toList_some, List.length_nil, List.length_singleton]
      change _ + 3 * s.waiters + s.downloading < _ + 3 * s.waiters + s.downloading + _
      omega
    | failed code =>
      simp only [work, queuedWork, hsync, Option.toList_none, Option.toList_some, List.length_nil,
        List.length_singleton]
      change _ + 3 * s.waiters + s.downloading < _ + 3 * s.waiters + s.downloading + _
      omega

theorem synchronize_work {i : ℕ} {result : DownloadResult} (hsync : s.mainSync = some (i, result)) :
    ({ s with mainSync := none }.synchronize i result).work < s.work := by
  have hpopped : s.work = ({ s with mainSync := none } : SDWebImageManager).work + 1 := by
    simp only [work, queuedWork, hsync, Option.toList_none, Option.toList_some, List.length_nil,
      List.length_singleton]
    change _ = _ + 3 * s.waiters + s.downloading + _
    omega
  have hrest (r : SDWebImageManager) : ((r.fail i result).removeRunning i).work ≤ r.work := by
    refine ((Drops.fail i result r).trans (.removeRunning i _)).work_le (downloading_congr ?_ ?_ ?_).le
    all_goals
      cases result with
      | loaded image => rfl
      | failed code =>
        simp only [fail]
        split_ifs <;> rfl
  unfold synchronize
  dsimp only
  rw [hpopped]
  refine Nat.lt_succ_of_le ((hrest _).trans ?_)
  split_ifs
  · exact le_refl _
  · exact (completedBlock_work i _ _).le

theorem runCompleted_waiters (h : Tracked s) (url : NSURL) :
    (s.setCallbacks url []).waiters + (s.URLCallbacks url).length = s.waiters := by
  rw [← sum_count_eq_length fun i hi => (h.waiting i url hi).1, waiters, waiters]
  change ∑ i ∈ range s.operationCount, _ + _ = _
  rw [← sum_add_distrib]
  exact sum_congr rfl fun i _ => clearCallbacks_waiting h url i

theorem runCompleted_work (h : Tracked s) (d : ℕ) (result : DownloadResult) :
    (s.runCompleted d result).queuedWork + 3 * (s.runCompleted d result).waiters =
      s.queuedWork + 3 * s.waiters := by
  unfold runCompleted
  dsimp only
  split_ifs
  · have hwaiters := runCompleted_waiters h (s.downloads d).url
    change (s.ioQueue.map IOBlock.work).sum + 7 * s.mainQueue.length +
      3 * (s.deliveries ++ (s.URLCallbacks (s.downloads d).url).map fun i => (i, result)).length +
      s.mainSync.toList.length + 3 * (s.setCallbacks (s.downloads d).url []).waiters = _
    rw [← hwaiters, List.length_append, List.length_map, queuedWork]
    omega
  · rfl

theorem downloadWork_completing (h : s.completing = some d) : downloadWork d s = 1 :=
  if_pos h

theorem cancelInternal_rest (d : ℕ) (s : SDWebImageManager) :
    (s.cancelInternal d).downloadCount = s.downloadCount ∧
      (s.cancelInternal d).completing = s.completing ∧
      ((s.cancelInternal d).downloads d).started = (s.downloads d).started ∧
      ∀ k, k ≠ d → (s.cancelInternal d).downloads k = s.downloads k := by
  unfold cancelInternal
  dsimp only
  split_ifs
  · exact ⟨rfl, rfl, rfl, fun _ _ => rfl⟩
  · exact ⟨rfl, rfl, congrArg (·.started) modifyDownload_self, fun k hk => modifyDownload_of_ne hk⟩
  · exact ⟨rfl, rfl, congrArg (·.started) modifyDownload_self, fun k hk => modifyDownload_of_ne hk⟩

theorem ended_downloading (hd : d < s.downloadCount) (hrun : (s.downloads d).running = true)
    (hnone : s.completing = none) (hcount : t.downloadCount = s.downloadCount)
    (hother : ∀ k, k ≠ d → t.downloads k = s.downloads k)
    (hcompleting : t.completing = none ∨ t.completing = some d)
    (hended : downloadWork d t < 2) : t.downloading < s.downloading := by
  have hdownload : 2 ≤ downloadWork d s := by
    simp only [downloadWork, hnone, hrun]
    split_ifs <;> simp_all
  unfold downloading
  rw [hcount]
  refine sum_lt_sum (fun k _ => ?_) ⟨d, mem_range.mpr hd, by omega⟩
  by_cases hkd : k = d
  · rw [hkd]
    omega
  · rw [downloadWork, downloadWork, hother k hkd, hnone]
    obtain hnone' | hsome := hcompleting
    · rw [hnone']
    · simp only [hsome, Option.some.injEq, Ne.symm hkd, if_false, reduceCtorEq, le_refl]

theorem complete_work (h : Coherent s) (hserved : Served s) (response : Response)
    (hrun : (s.downloads d).running = true) (hnone : s.completing = none) :
    (s.complete d response).work < s.work := by
  have hd := (hserved.running d hrun).1
  have hstarted : (s.downloads d).started = true := by
    by_contra hnew
    rw [(hserved.fresh d (Bool.not_eq_true _ ▸ hnew)).1] at hrun
    cases hrun
  have hcompleted (result : DownloadResult) : (s.runCompleted d result).work < s.work ∧
      (s.didComplete d result).work < s.work := by
    obtain ⟨hdownloads, hcompleting⟩ := runCompleted_downloads d result s
    have hqueued := runCompleted_work h.tracked d result
    have hcount : (s.runCompleted d result).downloadCount = s.downloadCount := by
      unfold runCompleted
      dsimp only
      split_ifs <;> rfl
    have hrest : (s.runCompleted d result).downloading < s.downloading :=
      ended_downloading hd hrun hnone hcount (fun k _ => congrFun hdownloads k) (.inr hcompleting)
        (by rw [downloadWork_completing hcompleting]; omega)
    have hrest' : ((s.runCompleted d result).modifyDownload d fun download =>
        { download with running := false }).downloading < s.downloading := by
      refine ended_downloading hd hrun hnone hcount (fun k hk => ?_) (.inr hcompleting) ?_
      · rw [modifyDownload_of_ne hk, hdownloads]
      · refine lt_of_eq_of_lt (downloadWork_completing ?_) (by omega)
        exact hcompleting
    constructor
    · rw [work, work]
      omega
    · rw [didComplete_eq]
      change (s.runCompleted d result).queuedWork + 3 * (s.runCompleted d result).waiters + _ < _
      rw [work]
      omega
  cases response with
  | pixels pixels => exact (hcompleted _).2
  | error code => exact (hcompleted _).2
  | status code => exact (hcompleted _).1
  | notModified =>
    have hdrops := (Drops.cancelInternal d s).trans (.done d _)
    have hwaiters := hdrops.waiters_le
    have hqueued := hdrops.queuedWork_eq
    obtain ⟨hcount, hcompleting, hsame, hother⟩ := cancelInternal_rest d s
    have hrest : ((s.cancelInternal d).done d).downloading < s.downloading := by
      refine ended_downloading hd hrun hnone hcount (fun k hk => ?_) (.inl (hcompleting.trans hnone)) ?_
      · exact (modifyDownload_of_ne hk).trans (hother k hk)
      · have hidle : ((s.cancelInternal d).done d).completing = none := hcompleting.trans hnone
        have hdone : ((s.cancelInternal d).done d).downloads d = { (s.cancelInternal d).downloads d with
            finished := true, running := false, blocks := false } := modifyDownload_self
        simp [downloadWork, hidle, hdone, hsame, hstarted]
    change ((s.cancelInternal d).done d).work < _
    rw [work, work]
    omega

theorem done_work (h : Served s) (hcompleting : s.completing = some d) :
    ({ s.done d with completing := none } : SDWebImageManager).work < s.work := by
  obtain ⟨hd, hstarted⟩ := h.completing d hcompleting
  have hrest : ({ s.done d with completing := none } : SDWebImageManager).downloading <
      s.downloading := by
    refine sum_lt_sum (fun k _ => ?_) ⟨d, mem_range.mpr hd, ?_⟩
    · by_cases hkd : k = d
      · subst hkd
        simp [downloadWork, done, modifyDownload_self, hstarted]
      · have hne : some d ≠ some k := by simpa using Ne.symm hkd
        simp [downloadWork, done, modifyDownload_of_ne hkd, hcompleting, hne]
    · rw [downloadWork_completing hcompleting]
      simp [downloadWork, done, modifyDownload_self, hstarted]
  change s.queuedWork + 3 * s.waiters + _ < _
  rw [work]
  omega

def Event.isLoad : Event → Bool
  | .setImage _ _ => true
  | _ => false

theorem work_step {e : Event} (h : Settling s) (hstep : Step MD5 s e t) :
    t.work + (if e.isWork then 1 else 0) ≤ s.work + if e.isLoad then 8 else 0 := by
  cases hstep.moves with
  | setImage v url => exact setImage_work h.toCoherent v url
  | io _ _ hqueue => exact runIOBlock_work hqueue
  | main i image _ hqueue =>
    exact main_work hqueue (h.tracked.found i image (hqueue ▸ List.mem_cons_self))
  | start d hd hnew =>
    have hdrops := Drops.start d s
    have hwaiters := hdrops.waiters_le
    have hqueued := hdrops.queuedWork_eq
    have hidle : s.completing ≠ some d := by
      intro hcompleting
      have hstarted := (h.served.completing d hcompleting).2
      rw [hnew] at hstarted
      cases hstarted
    have hrest : (s.start d).downloading < s.downloading := by
      refine modifyDownload_downloading_lt s hd ?_
      have hnew : downloadWork d s = 3 := by simp [downloadWork, hidle, hnew]
      have hidle' : (s.start d).completing ≠ some d := hidle
      have hbegun : ((s.start d).downloads d).started = true := by
        simp only [start, modifyDownload_self]
        split_ifs <;> rfl
      rw [hnew]
      change downloadWork d (s.start d) < 3
      rw [downloadWork, if_neg hidle', if_neg (by simp [hbegun])]
      split_ifs <;> omega
    change (s.start d).work + 1 ≤ s.work + 0
    rw [work, work]
    omega
  | complete d response hrun hidle => exact complete_work h.toCoherent h.served response hrun hidle
  | callback _ _ _ hqueue hsync => exact receive_work hqueue hsync
  | mainSync _ _ hsync => exact synchronize_work hsync
  | done _ hcompleting _ _ => exact done_work h.served hcompleting
  | stop d _ =>
    exact (Drops.cancelInternal d { s with cancelRequests := s.cancelRequests.erase d }).work_le
      (cancelInternal_downloading d _)
  | evict kept | cleanDisk kept => exact le_refl _

theorem run_work_bounded {tr : List (Event × SDWebImageManager)} (htr : Trace (Step MD5) {} tr) :
    (last {} tr).work + (tr.map Prod.fst).countP Event.isWork ≤
      8 * (tr.map Prod.fst).countP Event.isLoad := by
  have hempty : ({} : SDWebImageManager).work = 0 := rfl
  have hkeep : ∀ s e t, Settling s → Step MD5 s e t → Settling t :=
    fun s e t h hstep => settling_step h hstep
  have hwork : ∀ s e t, Settling s → Step MD5 s e t →
      t.work + (if e.isWork then 1 else 0) ≤ s.work + if e.isLoad then 8 else 0 :=
    fun s e t h hstep => work_step h hstep
  have hbound := htr.countP_add_le hkeep hwork settling_empty
  rwa [hempty, Nat.zero_add] at hbound

theorem sharedDownload_work_bounded :
    (last {} (run (handle leadingBytes) {} sharedDownload)).work +
      ((run (handle leadingBytes) {} sharedDownload).map Prod.fst).countP Event.isWork ≤
        8 * ((run (handle leadingBytes) {} sharedDownload).map Prod.fst).countP Event.isLoad ∧
      ((run (handle leadingBytes) {} sharedDownload).map Prod.fst).countP Event.isWork = 19 :=
  ⟨run_work_bounded (trace_run (fun _ _ _ => id) _ _), by decide +kernel⟩

end SDWebImageManager

end MixedProject
