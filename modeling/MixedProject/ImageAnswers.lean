import MixedProject.ImageRuns

namespace MixedProject

def IOBlock.asker : IOBlock → Option ℕ
  | .query i _ => some i
  | .store _ _ => none

namespace SDWebImageManager

open Traces

variable {s t u : SDWebImageManager} {MD5 : List UInt8 → Vector UInt8 16} {i j : ℕ}

def queued (s : SDWebImageManager) : List ℕ :=
  s.ioQueue.filterMap IOBlock.asker ++ s.mainQueue.map Prod.fst ++ s.deliveries.map Prod.fst ++
    (s.mainSync.map Prod.fst).toList

def waiting (i : ℕ) (s : SDWebImageManager) : ℕ :=
  (s.URLCallbacks (s.operations i).url).count i

/-- The answers a load has had, and those it may still get. -/
def answersDue (i : ℕ) (s : SDWebImageManager) : ℕ :=
  s.queued.count i + waiting i s + (s.operations i).answers.length

namespace Drops

theorem queued_eq (h : Drops s t) : t.queued = s.queued := by
  simp only [queued, h.ioQueue, h.mainQueue, h.deliveries, h.mainSync]

theorem waiting_eq (h : Drops s t)
    (hkept : t.URLCallbacks (s.operations i).url = s.URLCallbacks (s.operations i).url) :
    waiting i t = waiting i s := by
  rw [waiting, h.url, hkept, waiting]

theorem waiting_le (h : Drops s t) : waiting i t ≤ waiting i s := by
  obtain hkept | hnone := h.callbacks (s.operations i).url
  · exact (h.waiting_eq hkept).le
  · rw [waiting, h.url, hnone]
    exact Nat.zero_le _

theorem answersDue_le (h : Drops s t) : answersDue i t ≤ answersDue i s := by
  have hwaiting := h.waiting_le (i := i)
  rw [answersDue, answersDue, h.queued_eq, h.answers]
  omega

theorem answersDue_eq (h : Drops s t)
    (hkept : t.URLCallbacks (s.operations i).url = s.URLCallbacks (s.operations i).url) :
    answersDue i t = answersDue i s := by
  rw [answersDue, answersDue, h.queued_eq, h.answers, h.waiting_eq hkept]

end Drops

theorem answersDue_congr (hqueued : t.queued = s.queued) (hcallbacks : t.URLCallbacks = s.URLCallbacks)
    (hoperations : t.operations = s.operations) : answersDue i t = answersDue i s := by
  rw [answersDue, answersDue, hqueued, waiting, waiting, hcallbacks, hoperations]

section Operations

variable (i j : ℕ) (image : Option UIImage) (s : SDWebImageManager)

theorem completedBlock_queued : (s.completedBlock j image).queued = s.queued := by
  cases image <;> rfl

theorem completedBlock_waiting : waiting i (s.completedBlock j image) = waiting i s := by
  rw [waiting, completedBlock_url]
  cases image <;> rfl

theorem completedBlock_answersDue :
    answersDue i (s.completedBlock j image) = answersDue i s + [j].count i := by
  rw [answersDue, completedBlock_queued, completedBlock_waiting, completedBlock_answers,
    List.length_append, answersDue]
  by_cases hij : i = j
  · simp [hij, Nat.add_assoc]
  · simp [hij, Ne.symm hij]

theorem addCallback_waiting :
    waiting i (s.setCallbacks (s.operations j).url (s.URLCallbacks (s.operations j).url ++ [j])) =
      waiting i s + [j].count i := by
  simp only [waiting, setCallbacks, Function.update_apply]
  by_cases hij : i = j
  · simp [hij]
  · split_ifs with hurl
    · simp [hurl]
    · simp [Ne.symm hij]

theorem addCallback_answersDue :
    answersDue i (s.setCallbacks (s.operations j).url (s.URLCallbacks (s.operations j).url ++ [j])) =
      answersDue i s + [j].count i := by
  rw [answersDue, addCallback_waiting, answersDue]
  change s.queued.count i + _ + (s.operations i).answers.length = _
  omega

theorem setCancelBlock_callbacks (subOperation : Option ℕ)
    (hon : (s.operations j).cancelled = false) :
    (s.setCancelBlock j subOperation).URLCallbacks = s.URLCallbacks := by
  simp [setCancelBlock, hon, assignCancelBlock, modifyOperation]

theorem startDownload_callbacks (hon : (s.operations j).cancelled = false) :
    (s.startDownload j).URLCallbacks = (s.setCallbacks (s.operations j).url
      (s.URLCallbacks (s.operations j).url ++ [j])).URLCallbacks := by
  unfold startDownload
  dsimp only
  split_ifs
  · exact setCancelBlock_callbacks _ _ _ hon
  · exact setCancelBlock_callbacks _ _ _ hon

theorem startDownload_answersDue (hon : (s.operations j).cancelled = false) :
    answersDue i (s.startDownload j) = answersDue i s + [j].count i := by
  rw [(startDownload_drops j s).answersDue_eq (by rw [startDownload_callbacks j s hon]),
    addCallback_answersDue]

theorem doneBlock_answersDue (hon : (s.operations j).cancelled = false) :
    answersDue i (s.doneBlock j image) = answersDue i s + [j].count i := by
  unfold doneBlock
  rw [if_neg (by simp [hon])]
  cases image with
  | none => exact startDownload_answersDue i j s hon
  | some image =>
    exact ((Drops.removeRunning j _).answersDue_eq rfl).trans (completedBlock_answersDue i j _ s)

end Operations

def abandonedBy (d : ℕ) (s : SDWebImageManager) : Option NSURL :=
  if (s.downloads d).finished = false ∧ (s.downloads d).blocks = true then some (s.downloads d).url
  else none

def abandonedWith (i : ℕ) (s : SDWebImageManager) : Option NSURL :=
  (s.operations i).cancelBlock.join.bind fun d =>
    if (s.downloads d).running then none else abandonedBy d s

def abandoned (s : SDWebImageManager) : Event → Option NSURL
  | .setImage v _ => (s.views v).imageLoad.bind (abandonedWith · s)
  | .stop d => abandonedBy d s
  | .complete d .notModified => abandonedBy d s
  | _ => none

/-- The callback of the load is dropped without having been run. -/
def Abandoned (i : ℕ) (s : SDWebImageManager) (e : Event) : Prop :=
  abandoned s e = some (s.operations i).url ∧ i ∈ s.URLCallbacks (s.operations i).url

theorem cancelInternal_callbacks (d : ℕ) (s : SDWebImageManager) (url : NSURL) :
    (s.cancelInternal d).URLCallbacks url =
      if abandonedBy d s = some url then [] else s.URLCallbacks url := by
  unfold cancelInternal abandonedBy
  cases hfinished : (s.downloads d).finished with
  | true => simp
  | false =>
    cases hblocks : (s.downloads d).blocks with
    | false => simp [modifyDownload]
    | true => simp [modifyDownload, setCallbacks, Function.update_apply, eq_comm]

theorem cancelOperation_callbacks (i : ℕ) (s : SDWebImageManager) (url : NSURL) :
    (s.cancelOperation i).URLCallbacks url =
      if abandonedWith i s = some url then [] else s.URLCallbacks url := by
  unfold cancelOperation abandonedWith
  rcases hblock : (s.operations i).cancelBlock with - | (- | d)
  · simp [markCancelled, modifyOperation]
  · simp [runCancelBlock, removeRunning, assignCancelBlock, markCancelled, modifyOperation]
  · change ((s.markCancelled i).cancelDownload d).URLCallbacks url =
      if (if (s.downloads d).running then none else abandonedBy d s) = some url then []
      else s.URLCallbacks url
    unfold cancelDownload
    change (if (s.downloads d).running then _ else (s.markCancelled i).cancelInternal d).URLCallbacks
      url = _
    cases (s.downloads d).running with
    | true => simp [markCancelled, modifyOperation]
    | false => exact cancelInternal_callbacks d (s.markCancelled i) url

theorem cancelCurrentImageLoad_callbacks (v : ℕ) (s : SDWebImageManager) (url : NSURL) :
    (s.cancelCurrentImageLoad v).URLCallbacks url =
      if abandoned s (.setImage v none) = some url then [] else s.URLCallbacks url := by
  unfold cancelCurrentImageLoad
  cases hload : (s.views v).imageLoad with
  | none => simp [abandoned, hload]
  | some i =>
    rw [abandoned, hload]
    exact cancelOperation_callbacks i s url

structure Accounts (i : ℕ) (s : SDWebImageManager) (e : Event) (t : SDWebImageManager) : Prop where
  le : answersDue i t ≤ answersDue i s
  kept : (t.operations i).cancelled = false → ¬ Abandoned i s e → answersDue i t = answersDue i s
  lost : Abandoned i s e → answersDue i t < answersDue i s

theorem Accounts.of_eq {e : Event} (hnone : abandoned s e = none)
    (h : answersDue i t = answersDue i s) : Accounts i s e t := by
  refine ⟨h.le, fun _ _ => h, fun habandoned => ?_⟩
  rw [Abandoned, hnone] at habandoned
  cases habandoned.1

theorem Drops.accounts {e : Event} (h : Drops s t)
    (hcallbacks : t.URLCallbacks (s.operations i).url =
      if abandoned s e = some (s.operations i).url then []
      else s.URLCallbacks (s.operations i).url) : Accounts i s e t := by
  refine ⟨h.answersDue_le, fun _ hkept => ?_, fun hlost => ?_⟩
  · by_cases habandoned : abandoned s e = some (s.operations i).url
    · have hnone : i ∉ s.URLCallbacks (s.operations i).url := fun hmem => hkept ⟨habandoned, hmem⟩
      rw [if_pos habandoned] at hcallbacks
      rw [answersDue, answersDue, h.queued_eq, h.answers, waiting, waiting, h.url, hcallbacks,
        List.count_eq_zero_of_not_mem hnone, List.count_nil]
    · rw [if_neg habandoned] at hcallbacks
      exact h.answersDue_eq hcallbacks
  · rw [if_pos hlost.1] at hcallbacks
    have hwaited := List.count_pos_iff.mpr hlost.2
    rw [answersDue, answersDue, h.queued_eq, h.answers, waiting, waiting, h.url, hcallbacks,
      List.count_nil]
    omega

theorem Accounts.trans_eq {e : Event} (h : Accounts i s e t)
    (hcancelled : (t.operations i).cancelled = true → (u.operations i).cancelled = true)
    (heq : answersDue i u = answersDue i t) : Accounts i s e u :=
  ⟨heq.le.trans h.le,
    fun hon hkept => heq.trans (h.kept (Bool.eq_false_iff.mpr fun hoff =>
      Bool.eq_false_iff.mp hon (hcancelled hoff)) hkept),
    fun hlost => heq.trans_lt (h.lost hlost)⟩

theorem Tracked.queued_lt (h : Tracked s) (hi : i ∈ s.queued) : i < s.operationCount := by
  simp only [queued, List.mem_append, List.mem_filterMap, List.mem_map, Option.mem_toList,
    Option.map_eq_some_iff] at hi
  obtain ((⟨block, hmem, hasker⟩ | ⟨⟨j, image⟩, hmem, hj⟩) | ⟨⟨j, result⟩, hmem, hj⟩) |
    ⟨⟨j, result⟩, hsync, hj⟩ := hi
  · cases block with
    | query j key =>
      rw [← Option.some.inj hasker]
      exact (h.reading j key hmem).1
    | store key image => cases hasker
  · rw [← hj]
    exact h.found j image hmem
  · rw [← hj]
    exact h.delivered j result hmem
  · rw [← hj]
    exact h.synchronized j result hsync

section SetImage

variable {v : ℕ} {url : NSURL}

theorem createOperation_answersDue (hi : i < s.operationCount) :
    answersDue i (s.createOperation v url) = answersDue i s := by
  rw [answersDue, answersDue, waiting, waiting, createOperation_old hi]
  rfl

theorem createOperation_answersDue_new (h : Tracked s) :
    answersDue s.operationCount (s.createOperation v url) = 0 := by
  have hqueued : s.operationCount ∉ s.queued := fun hmem => (h.queued_lt hmem).false
  have hwaiting : s.operationCount ∉ s.URLCallbacks url := fun hmem => (h.waiting _ _ hmem).1.false
  rw [answersDue, waiting, createOperation_new]
  change s.queued.count _ + (s.URLCallbacks url).count _ + 0 = 0
  rw [List.count_eq_zero_of_not_mem hqueued, List.count_eq_zero_of_not_mem hwaiting]

theorem dispatchToIOQueue_answersDue (key : NSString) (i j : ℕ) (s : SDWebImageManager) :
    answersDue i (s.dispatchToIOQueue (.query j key)) = answersDue i s + [j].count i := by
  have hqueued : (s.dispatchToIOQueue (.query j key)).queued.count i =
      s.queued.count i + [j].count i := by
    simp only [queued, dispatchToIOQueue, List.filterMap_append, List.count_append, List.filterMap_cons,
      IOBlock.asker, List.filterMap_nil]
    omega
  rw [answersDue, hqueued, answersDue]
  change _ + waiting i s + (s.operations i).answers.length = _
  omega

theorem queryDiskCacheForKey_answersDue (key : NSString) (i j : ℕ) (s : SDWebImageManager)
    (hon : (s.operations j).cancelled = false) :
    answersDue i (s.queryDiskCacheForKey key j) = answersDue i s + [j].count i := by
  unfold queryDiskCacheForKey
  split
  · exact doneBlock_answersDue i j _ s hon
  · exact dispatchToIOQueue_answersDue key i j s

theorem downloadImageWithURL_answersDue (i v : ℕ) (url : NSURL) (s : SDWebImageManager) :
    answersDue i (s.downloadImageWithURL v url) =
      answersDue i (s.createOperation v url) + [s.operationCount].count i := by
  have hon : ((s.createOperation v url).operations s.operationCount).cancelled = false := by
    rw [createOperation_new]
  unfold downloadImageWithURL
  dsimp only
  split_ifs
  · exact completedBlock_answersDue i _ none _
  · have hrunning := (Drops.running (s.runningOperations ++ [s.operationCount])
      (s.createOperation v url)).answersDue_eq (i := i) rfl
    rw [queryDiskCacheForKey_answersDue, hrunning]
    exact hon

end SetImage

theorem cancelCurrentImageLoad_accounts (i v : ℕ) (url : Option NSURL) (s : SDWebImageManager) :
    Accounts i s (.setImage v url) (s.cancelCurrentImageLoad v) := by
  have hcallbacks := cancelCurrentImageLoad_callbacks v s (s.operations i).url
  unfold cancelCurrentImageLoad at hcallbacks ⊢
  cases hload : (s.views v).imageLoad with
  | none =>
    rw [hload] at hcallbacks
    exact (Drops.refl s).accounts hcallbacks
  | some k =>
    rw [hload] at hcallbacks
    have haccounts : Accounts i s (.setImage v url) (s.cancelOperation k) :=
      (Drops.cancelOperation k s).accounts hcallbacks
    exact haccounts.trans_eq id (answersDue_congr rfl rfl rfl)

theorem cleared_accounts (i v : ℕ) (url : Option NSURL) (s : SDWebImageManager) :
    Accounts i s (.setImage v url) (s.cleared v url) :=
  (cancelCurrentImageLoad_accounts i v url s).trans_eq id (answersDue_congr rfl rfl rfl)

theorem setImage_accounts (h : Coherent s) (v : ℕ) (url : Option NSURL) :
    (∀ i < s.operationCount, Accounts i s (.setImage v url) (s.sdSetImageWithURL v url)) ∧
      ∀ i < (s.sdSetImageWithURL v url).operationCount, s.operationCount ≤ i →
        answersDue i (s.sdSetImageWithURL v url) = 1 := by
  cases url with
  | none =>
    refine ⟨fun i _ => cleared_accounts i v none s, fun i hi hnew => ?_⟩
    have hold : i < s.operationCount := cleared_count v none s ▸ hi
    omega
  | some url =>
    rw [sdSetImageWithURL_some h.owned]
    have hcount := cleared_count v (some url) s
    have hdue (i : ℕ) := downloadImageWithURL_answersDue i v url (s.cleared v (some url))
    have hkeeps := Keeps.downloadImageWithURL v url (s.cleared v (some url))
    have htracked : Tracked (s.cleared v (some url)) :=
      h.tracked.cleared v (some url)
    have hassign (i : ℕ) : answersDue i (((s.cleared v (some url)).downloadImageWithURL v url).assignLoad
        v (some s.operationCount)) =
        answersDue i ((s.cleared v (some url)).downloadImageWithURL v url) :=
      answersDue_congr rfl rfl rfl
    refine ⟨fun i hi => ?_, fun i hi hnew => ?_⟩
    · have hold : i < (s.cleared v (some url)).operationCount := hcount.symm ▸ hi
      have hother : i ∉ [(s.cleared v (some url)).operationCount] := by simp [hold.ne]
      refine (cleared_accounts i v (some url) s).trans_eq (fun hoff => hkeeps.cancelled i ?_) ?_
      · rw [createOperation_old hold]
        exact hoff
      · rw [hassign, hdue, createOperation_answersDue hold, List.count_eq_zero_of_not_mem hother,
          Nat.add_zero]
    · have hlt : i < ((s.cleared v (some url)).createOperation v url).operationCount :=
        hkeeps.operationCount ▸ hi
      have hle : i ≤ (s.cleared v (some url)).operationCount := Nat.lt_succ_iff.mp hlt
      have hlast : i = (s.cleared v (some url)).operationCount := by omega
      rw [hassign, hdue, hlast, createOperation_answersDue_new htracked, List.count_singleton_self]

theorem Accounts.forget {e : Event} (hnone : abandoned s e = none)
    (hoff : (t.operations j).cancelled = true)
    (h : answersDue i s = answersDue i t + [j].count i) : Accounts i s e t := by
  refine ⟨by omega, fun hon _ => ?_, fun habandoned => ?_⟩
  · have hne : i ∉ [j] := by
      intro hij
      rw [List.mem_singleton.mp hij, hoff] at hon
      cases hon
    rw [h, List.count_eq_zero_of_not_mem hne, Nat.add_zero]
  · rw [Abandoned, hnone] at habandoned
    cases habandoned.1

theorem answersDue_add {l : List ℕ} (hqueued : t.queued.count i = s.queued.count i + l.count i)
    (hcallbacks : t.URLCallbacks = s.URLCallbacks) (hoperations : t.operations = s.operations) :
    answersDue i t = answersDue i s + l.count i := by
  rw [answersDue, answersDue, hqueued, waiting, waiting, hcallbacks, hoperations]
  omega

theorem runIOBlock_accounts (h : Coherent s) {block : IOBlock} {ioQueue : List IOBlock}
    (hqueue : s.ioQueue = block :: ioQueue) (i : ℕ) :
    Accounts i s .io ({ s with ioQueue }.runIOBlock MD5 block) := by
  cases block with
  | query j key =>
    have hpopped : answersDue i s = answersDue i { s with ioQueue } + [j].count i := by
      refine answersDue_add ?_ rfl rfl
      simp only [queued, hqueue, List.filterMap_cons, IOBlock.asker, List.count_append,
        List.count_cons, List.count_nil]
      omega
    unfold runIOBlock
    dsimp only
    split_ifs with hoff
    · have hj := (h.tracked.reading j key (hqueue ▸ List.mem_cons_self)).1
      exact .forget rfl (h.owned.marked j hj hoff) hpopped
    · refine .of_eq rfl (hpopped.symm ▸ ?_)
      refine answersDue_add ?_ ?_ ?_ <;> split
      · simp only [queued, List.map_append, List.count_append, List.map_cons, List.map_nil]
        omega
      · simp only [queued, List.map_append, List.count_append, List.map_cons, List.map_nil]
        omega
      all_goals rfl
  | store key image =>
    refine .of_eq rfl (answersDue_congr ?_ rfl rfl)
    simp only [queued, runIOBlock, hqueue, List.filterMap_cons, IOBlock.asker]

theorem doneBlock_accounts {image : Option UIImage} {mainQueue : List (ℕ × Option UIImage)}
    (hqueue : s.mainQueue = (j, image) :: mainQueue) (i : ℕ) :
    Accounts i s .main ({ s with mainQueue }.doneBlock j image) := by
  have hpopped : answersDue i s = answersDue i { s with mainQueue } + [j].count i := by
    refine answersDue_add ?_ rfl rfl
    simp only [queued, hqueue, List.map_cons, List.count_append, List.count_cons, List.count_nil]
    omega
  by_cases hoff : (s.operations j).cancelled = true
  · have hdone : { s with mainQueue }.doneBlock j image = { s with mainQueue }.removeRunning j :=
      if_pos hoff
    rw [hdone]
    exact .forget rfl hoff (hpopped.trans (by rw [(Drops.removeRunning j _).answersDue_eq rfl]))
  · exact .of_eq rfl ((doneBlock_answersDue i j image _ (Bool.not_eq_true _ ▸ hoff)).trans
      hpopped.symm)

theorem receive_accounts {result : DownloadResult} {deliveries : List (ℕ × DownloadResult)}
    (hqueue : s.deliveries = (j, result) :: deliveries) (hsync : s.mainSync = none) (i : ℕ) :
    Accounts i s .callback ({ s with deliveries }.receive j result) := by
  have hpopped : answersDue i s = answersDue i { s with deliveries } + [j].count i := by
    refine answersDue_add ?_ rfl rfl
    simp only [queued, hqueue, List.map_cons, List.count_append, List.count_cons, List.count_nil]
    omega
  unfold receive
  split_ifs with hoff
  · exact .forget rfl hoff (hpopped.trans (by rw [(Drops.removeRunning j _).answersDue_eq rfl]))
  · refine .of_eq rfl (hpopped.symm ▸ ?_)
    cases result with
    | loaded image =>
      refine answersDue_add ?_ rfl rfl
      simp only [queued, storeImage, dispatchToIOQueue, hsync, List.filterMap_append, List.filterMap_cons,
        IOBlock.asker, List.filterMap_nil, List.count_append, List.count_nil, Option.map_none,
        Option.map_some, Option.toList_none, Option.toList_some]
      omega
    | failed code =>
      refine answersDue_add ?_ rfl rfl
      simp only [queued, hsync, List.count_append, Option.map_none, Option.map_some,
        Option.toList_none, Option.toList_some, List.count_nil]
      omega

theorem synchronize_accounts {result : DownloadResult} (hsync : s.mainSync = some (j, result))
    (i : ℕ) : Accounts i s .mainSync ({ s with mainSync := none }.synchronize j result) := by
  have hpopped : answersDue i s = answersDue i { s with mainSync := none } + [j].count i := by
    refine answersDue_add ?_ rfl rfl
    simp only [queued, hsync, List.count_append, Option.map_none, Option.map_some,
      Option.toList_none, Option.toList_some, List.count_nil]
    omega
  have hrest (t : SDWebImageManager) : Drops t ((t.fail j result).removeRunning j) :=
    (Drops.fail j result t).trans (.removeRunning j _)
  have hcallbacks (t : SDWebImageManager) :
      ((t.fail j result).removeRunning j).URLCallbacks = t.URLCallbacks := by
    cases result with
    | loaded image => rfl
    | failed code =>
      simp only [fail]
      split_ifs <;> rfl
  unfold synchronize
  dsimp only
  split_ifs with hoff
  · refine .forget rfl ((hrest _).cancelled j hoff) ?_
    rw [(hrest _).answersDue_eq (by rw [hcallbacks])]
    exact hpopped
  · refine .of_eq rfl ?_
    rw [(hrest _).answersDue_eq (by rw [hcallbacks]), completedBlock_answersDue]
    exact hpopped.symm

theorem clearCallbacks_waiting (h : Tracked s) (url : NSURL) (i : ℕ) :
    waiting i (s.setCallbacks url []) + (s.URLCallbacks url).count i = waiting i s := by
  simp only [waiting, setCallbacks, Function.update_apply]
  split_ifs with hurl
  · rw [hurl, List.count_nil, Nat.zero_add]
  · have hother : i ∉ s.URLCallbacks url := fun hmem => hurl (h.waiting i _ hmem).2
    rw [List.count_eq_zero_of_not_mem hother, Nat.add_zero]

theorem runCompleted_answersDue (h : Tracked s) (d : ℕ) (result : DownloadResult) (i : ℕ) :
    answersDue i (s.runCompleted d result) = answersDue i s := by
  unfold runCompleted
  dsimp only
  split_ifs
  · have hmoved : (s.deliveries ++ (s.URLCallbacks (s.downloads d).url).map fun i => (i, result)).map
        Prod.fst = s.deliveries.map Prod.fst ++ s.URLCallbacks (s.downloads d).url := by
      simp [Function.comp_def]
    have hqueued : ({ s.setCallbacks (s.downloads d).url [] with
        completing := some d
        deliveries := s.deliveries ++ (s.URLCallbacks (s.downloads d).url).map fun i => (i, result) } :
        SDWebImageManager).queued.count i =
          s.queued.count i + (s.URLCallbacks (s.downloads d).url).count i := by
      simp only [queued, setCallbacks, hmoved, List.count_append]
      omega
    have hwaiting := clearCallbacks_waiting h (s.downloads d).url i
    rw [answersDue, answersDue, hqueued, ← hwaiting]
    simp only [waiting, setCallbacks]
    omega
  · exact answersDue_congr rfl rfl rfl

theorem complete_accounts (h : Coherent s) (d : ℕ) (response : Response) (i : ℕ) :
    Accounts i s (.complete d response) (s.complete d response) := by
  have hended (f : SDWebImageDownloaderOperation → SDWebImageDownloaderOperation) :
      Tracked (s.modifyDownload d f) := h.tracked.drops (.modifyDownload d f s)
  cases response with
  | pixels pixels =>
    exact .of_eq rfl ((runCompleted_answersDue (hended _) d _ i).trans (answersDue_congr rfl rfl rfl))
  | error code =>
    exact .of_eq rfl ((runCompleted_answersDue (hended _) d _ i).trans (answersDue_congr rfl rfl rfl))
  | status code => exact .of_eq rfl (runCompleted_answersDue h.tracked d _ i)
  | notModified =>
    exact ((Drops.cancelInternal d s).trans (.done d _)).accounts (cancelInternal_callbacks d s _)

theorem accounts_step {e : Event} (h : Coherent s) (hstep : Step MD5 s e t) :
    ∀ i < s.operationCount, Accounts i s e t := by
  intro i hi
  cases hstep.moves with
  | setImage v url => exact (setImage_accounts h v url).1 i hi
  | io _ _ hqueue => exact runIOBlock_accounts h hqueue i
  | main _ _ _ hqueue => exact doneBlock_accounts hqueue i
  | start d _ _ => exact .of_eq rfl (answersDue_congr rfl rfl rfl)
  | complete d response _ _ => exact complete_accounts h d response i
  | callback _ _ _ hqueue hsync => exact receive_accounts hqueue hsync i
  | mainSync _ _ hsync => exact synchronize_accounts hsync i
  | done _ _ _ _ => exact .of_eq rfl (answersDue_congr rfl rfl rfl)
  | stop d _ =>
    have hserved : Drops s { s with cancelRequests := s.cancelRequests.erase d } :=
      ⟨rfl, fun _ => rfl, fun _ => rfl, fun _ => rfl, fun _ => id, fun _ => .inl, rfl, rfl, rfl, rfl,
        rfl, rfl, rfl, fun _ => .inl rfl⟩
    exact (hserved.trans (.cancelInternal d _)).accounts (cancelInternal_callbacks d _ _)
  | evict kept => exact .of_eq rfl (answersDue_congr rfl rfl rfl)
  | cleanDisk kept => exact .of_eq rfl (answersDue_congr rfl rfl rfl)

structure Follows (s : SDWebImageManager) (e : Event) (t : SDWebImageManager) : Prop where
  operationCount : s.operationCount ≤ t.operationCount
  old : (∀ v url, e ≠ .setImage v url) → t.operationCount = s.operationCount
  cancelled : ∀ i < s.operationCount, (s.operations i).cancelled = true →
    (t.operations i).cancelled = true
  answers : ∀ i < s.operationCount, (s.operations i).cancelled = true →
    (t.operations i).answers = (s.operations i).answers

theorem Keeps.follows {e : Event} (h : Keeps s t) : Follows s e t :=
  ⟨h.operationCount.ge, fun _ => h.operationCount, fun i _ => h.cancelled i,
    fun i _ => h.answers i⟩

theorem cleared_drops (v : ℕ) (url : Option NSURL) (s : SDWebImageManager) :
    Keeps s (s.cleared v url) := by
  unfold cleared cancelCurrentImageLoad
  cases (s.views v).imageLoad with
  | none => exact .of_eq rfl rfl
  | some i => exact (Drops.cancelOperation i s).keeps.trans (.of_eq rfl rfl)

theorem setImage_follows (h : Coherent s) (v : ℕ) (url : Option NSURL) :
    Follows s (.setImage v url) (s.sdSetImageWithURL v url) := by
  have hcleared := cleared_drops v url s
  cases url with
  | none => exact hcleared.follows
  | some url =>
    have hkeeps := Keeps.downloadImageWithURL v url (s.cleared v (some url))
    have hold {i : ℕ} (hi : i < s.operationCount) : i < (s.cleared v (some url)).operationCount :=
      hcleared.operationCount.symm ▸ hi
    rw [sdSetImageWithURL_some h.owned]
    refine ⟨?_, fun hother => absurd rfl (hother v (some url)), fun i hi hoff => hkeeps.cancelled i ?_,
      fun i hi hoff => (hkeeps.answers i ?_).trans ?_⟩
    · refine le_of_lt (lt_of_lt_of_eq ?_ hkeeps.operationCount.symm)
      rw [← hcleared.operationCount]
      exact Nat.lt_succ_self _
    · rw [createOperation_old (hold hi)]
      exact hcleared.cancelled i hoff
    · rw [createOperation_old (hold hi)]
      exact hcleared.cancelled i hoff
    · rw [createOperation_old (hold hi)]
      exact hcleared.answers i hoff

theorem Keeps.runIOBlock (block : IOBlock) (s : SDWebImageManager) :
    Keeps s (s.runIOBlock MD5 block) := by
  cases block with
  | query i key =>
    unfold SDWebImageManager.runIOBlock
    dsimp only
    split_ifs
    · exact .of_eq rfl rfl
    · split <;> exact .of_eq rfl rfl
  | store key image => exact .of_eq rfl rfl

theorem Keeps.runCompleted (d : ℕ) (result : DownloadResult) (s : SDWebImageManager) :
    Keeps s (s.runCompleted d result) := by
  unfold SDWebImageManager.runCompleted
  dsimp only
  split_ifs <;> exact .of_eq rfl rfl

theorem Keeps.complete (d : ℕ) (response : Response) (s : SDWebImageManager) :
    Keeps s (s.complete d response) := by
  cases response with
  | pixels pixels => exact (Drops.modifyDownload d _ s).keeps.trans (.runCompleted d _ _)
  | error code => exact (Drops.modifyDownload d _ s).keeps.trans (.runCompleted d _ _)
  | status code => exact .runCompleted d _ s
  | notModified => exact ((Drops.cancelInternal d s).trans (.done d _)).keeps

theorem Keeps.receive (i : ℕ) (result : DownloadResult) (s : SDWebImageManager) :
    Keeps s (s.receive i result) := by
  unfold SDWebImageManager.receive
  split_ifs
  · exact (Drops.removeRunning i s).keeps
  · split <;> exact .of_eq rfl rfl

theorem Keeps.synchronize (i : ℕ) (result : DownloadResult) (s : SDWebImageManager) :
    Keeps s (s.synchronize i result) := by
  unfold SDWebImageManager.synchronize
  dsimp only
  refine Keeps.trans ?_ ((Drops.fail i result _).trans (.removeRunning i _)).keeps
  split_ifs with hoff
  · exact .of_eq rfl rfl
  · exact .completedBlock (Bool.not_eq_true _ ▸ hoff) _

theorem follows_step {e : Event} (h : Coherent s) (hstep : Step MD5 s e t) :
    Follows s e t := by
  have hpop (r : SDWebImageManager) (hcount : r.operationCount = s.operationCount)
      (hoperations : r.operations = s.operations) (hkeeps : Keeps r t) : Follows s e t :=
    ((Keeps.of_eq hcount hoperations).trans hkeeps).follows
  cases hstep.moves with
  | setImage v url => exact setImage_follows h v url
  | io _ ioQueue _ => exact hpop { s with ioQueue } rfl rfl (.runIOBlock _ _)
  | main _ _ mainQueue _ => exact hpop { s with mainQueue } rfl rfl (.doneBlock _ _ _)
  | start d _ _ => exact (Drops.start d s).keeps.follows
  | complete d response _ _ => exact (Keeps.complete d response s).follows
  | callback _ _ deliveries _ _ => exact hpop { s with deliveries } rfl rfl (.receive _ _ _)
  | mainSync _ _ _ => exact hpop { s with mainSync := none } rfl rfl (.synchronize _ _ _)
  | done _ _ _ _ => exact hpop s rfl rfl (.of_eq rfl rfl)
  | stop d _ =>
    exact hpop { s with cancelRequests := s.cancelRequests.erase d } rfl rfl
      (Drops.cancelInternal d _).keeps
  | evict kept | cleanDisk kept => exact hpop s rfl rfl (.of_eq rfl rfl)

theorem answersDue_new {e : Event} (h : Coherent s) (hstep : Step MD5 s e t) (i : ℕ)
    (hi : i < t.operationCount) (hnew : s.operationCount ≤ i) : answersDue i t = 1 := by
  have hfollows := follows_step h hstep
  cases e with
  | setImage v url =>
    obtain rfl := Option.some.inj hstep
    exact (setImage_accounts h v url).2 i hi hnew
  | _ =>
    have hcount := hfollows.old nofun
    omega

structure Single (s : SDWebImageManager) : Prop extends
    Coherent s where
  due : ∀ i < s.operationCount, answersDue i s ≤ 1

theorem single_step {e : Event} (h : Single s) (hstep : Step MD5 s e t) : Single t := by
  refine ⟨coherent_step h.toCoherent hstep, fun i hi => ?_⟩
  by_cases hold : i < s.operationCount
  · exact (accounts_step h.toCoherent hstep i hold).le.trans (h.due i hold)
  · exact (answersDue_new h.toCoherent hstep i hi (Nat.le_of_not_lt hold)).le

theorem single_empty : Single {} := ⟨coherent_empty, nofun⟩

theorem run_answers_once {tr : List (Event × SDWebImageManager)} (htr : Trace (Step MD5) {} tr) :
    Always (fun t => ∀ i < t.operationCount, (t.operations i).answers.length ≤ 1) {} tr ∧
      Steps (fun s _ t => ∀ i < s.operationCount, (s.operations i).cancelled = true →
        (t.operations i).cancelled = true ∧
          (t.operations i).answers = (s.operations i).answers) {} tr := by
  have hkeep : ∀ s e t, Single s → Step MD5 s e t → Single t :=
    fun s e t h hstep => single_step h hstep
  constructor
  · refine (htr.always hkeep single_empty).mono fun t h i hi => ?_
    have hdue := h.due i hi
    unfold answersDue at hdue
    omega
  · refine htr.steps hkeep (fun s e t h hstep i hi hoff => ?_) single_empty
    have hfollows := follows_step h.toCoherent hstep
    exact ⟨hfollows.cancelled i hi hoff, hfollows.answers i hi hoff⟩

theorem sharedDownload_answers_once :
    (Always (fun t => ∀ i < t.operationCount, (t.operations i).answers.length ≤ 1) {}
        (run (handle leadingBytes) {} sharedDownload) ∧
      Steps (fun s _ t => ∀ i < s.operationCount, (s.operations i).cancelled = true →
        (t.operations i).cancelled = true ∧ (t.operations i).answers = (s.operations i).answers) {}
        (run (handle leadingBytes) {} sharedDownload)) ∧
      ((last {} (run (handle leadingBytes) {} sharedDownload)).operations 1).answers = [] :=
  ⟨run_answers_once (trace_run (fun _ _ _ => id) _ _), by decide +kernel⟩

end SDWebImageManager

end MixedProject
