import MixedProject.ImageAnswers

namespace MixedProject.SDWebImageManager

open Traces

variable {s t : SDWebImageManager} {MD5 : List UInt8 → Vector UInt8 16} {d : ℕ}

def Live (d : ℕ) (s : SDWebImageManager) : Prop :=
  (s.downloads d).blocks = true ∧
    ((s.downloads d).started = false ∧ (s.downloads d).cancelled = false ∨
      (s.downloads d).running = true ∧ s.completing ≠ some d)

/-- Whoever waits for a URL waits for a download of it that is live. -/
structure Served (s : SDWebImageManager) : Prop where
  served : ∀ url, s.URLCallbacks url ≠ [] →
    ∃ d < s.downloadCount, (s.downloads d).url = url ∧ Live d s
  fresh : ∀ d, (s.downloads d).started = false →
    (s.downloads d).running = false ∧ (s.downloads d).finished = false
  running : ∀ d, (s.downloads d).running = true →
    d < s.downloadCount ∧ (s.downloads d).finished = false
  completing : ∀ d, s.completing = some d →
    d < s.downloadCount ∧ (s.downloads d).started = true

theorem Served.of_eq (h : Served s) (hcallbacks : t.URLCallbacks = s.URLCallbacks)
    (hdownloads : t.downloads = s.downloads) (hcount : t.downloadCount = s.downloadCount)
    (hcompleting : t.completing = s.completing) : Served t := by
  constructor
  · intro url hwaited
    rw [hcallbacks] at hwaited
    obtain ⟨d, hd, hurl, hlive⟩ := h.served url hwaited
    refine ⟨d, hcount ▸ hd, hdownloads ▸ hurl, ?_⟩
    rw [Live, hdownloads, hcompleting]
    exact hlive
  · rw [hdownloads]
    exact h.fresh
  · rw [hdownloads, hcount]
    exact h.running
  · rw [hdownloads, hcount, hcompleting]
    exact h.completing

theorem modifyDownload_of_ne {f : SDWebImageDownloaderOperation → SDWebImageDownloaderOperation}
    {k : ℕ} (hne : k ≠ d) : (s.modifyDownload d f).downloads k = s.downloads k := by
  simp [modifyDownload, Function.update_of_ne hne]

theorem modifyDownload_self {f : SDWebImageDownloaderOperation → SDWebImageDownloaderOperation} :
    (s.modifyDownload d f).downloads d = f (s.downloads d) := by
  simp [modifyDownload]

theorem Served.modifyDownload {f : SDWebImageDownloaderOperation → SDWebImageDownloaderOperation}
    (h : Served s) (hdead : Live d s → s.URLCallbacks (s.downloads d).url = [])
    (hfresh : (f (s.downloads d)).started = false →
      (f (s.downloads d)).running = false ∧ (f (s.downloads d)).finished = false)
    (hrunning : (f (s.downloads d)).running = false)
    (hstarted : (s.downloads d).started = true → (f (s.downloads d)).started = true) :
    Served (s.modifyDownload d f) := by
  refine ⟨fun url hwaited => ?_, fun k hk => ?_, fun k hk => ?_, fun k hk => ?_⟩
  · obtain ⟨k, hk, hurl, hlive⟩ := h.served url hwaited
    have hne : k ≠ d := by
      rintro rfl
      exact hwaited (hurl ▸ hdead hlive)
    refine ⟨k, hk, ?_, ?_⟩
    · rw [modifyDownload_of_ne hne]
      exact hurl
    · rw [Live, modifyDownload_of_ne hne]
      exact hlive
  · by_cases hkd : k = d
    · subst hkd
      rw [modifyDownload_self] at hk ⊢
      exact hfresh hk
    · rw [modifyDownload_of_ne hkd] at hk ⊢
      exact h.fresh k hk
  · by_cases hkd : k = d
    · subst hkd
      rw [modifyDownload_self, hrunning] at hk
      cases hk
    · rw [modifyDownload_of_ne hkd] at hk ⊢
      exact h.running k hk
  · obtain ⟨hlt, hbegun⟩ := h.completing k hk
    refine ⟨hlt, ?_⟩
    by_cases hkd : k = d
    · subst hkd
      rw [modifyDownload_self]
      exact hstarted hbegun
    · rw [modifyDownload_of_ne hkd]
      exact hbegun

theorem Served.clearCallbacks (h : Served s) (url : NSURL) : Served (s.setCallbacks url []) := by
  refine ⟨fun url' hwaited => ?_, h.fresh, h.running, h.completing⟩
  simp only [setCallbacks, Function.update_apply] at hwaited
  split_ifs at hwaited
  · exact absurd rfl hwaited
  · exact h.served url' hwaited

theorem Served.cancelInternal (h : Served s) (d : ℕ) : Served (s.cancelInternal d) := by
  unfold SDWebImageManager.cancelInternal
  dsimp only
  split_ifs with hfinished hblocks
  · exact h
  · refine (h.clearCallbacks _).modifyDownload (fun _ => ?_) (fun hnew => ?_) rfl id
    · exact Function.update_self _ _ _
    · exact ⟨rfl, (h.fresh d hnew).1⟩
  · refine h.modifyDownload (fun hlive => absurd hlive.1 hblocks) (fun hnew => ?_) rfl id
    exact ⟨rfl, (h.fresh d hnew).1⟩

theorem Served.cancelDownload (h : Served s) (d : ℕ) : Served (s.cancelDownload d) := by
  unfold SDWebImageManager.cancelDownload
  split_ifs
  · exact h.of_eq rfl rfl rfl rfl
  · exact h.cancelInternal d

theorem Served.cancelOperation (h : Served s) (i : ℕ) : Served (s.cancelOperation i) := by
  have hmarked : Served (s.markCancelled i) := h.of_eq rfl rfl rfl rfl
  unfold SDWebImageManager.cancelOperation
  rcases (s.operations i).cancelBlock with - | (- | d)
  · exact hmarked
  · exact hmarked.of_eq rfl rfl rfl rfl
  · exact (hmarked.cancelDownload d).of_eq rfl rfl rfl rfl

theorem Served.cleared (h : Served s) (v : ℕ) (url : Option NSURL) : Served (s.cleared v url) := by
  unfold SDWebImageManager.cleared cancelCurrentImageLoad
  cases (s.views v).imageLoad with
  | none => exact h.of_eq rfl rfl rfl rfl
  | some i => exact (h.cancelOperation i).of_eq rfl rfl rfl rfl

theorem Served.completedBlock (h : Served s) (i : ℕ) (image : Option UIImage) :
    Served (s.completedBlock i image) := by
  cases image <;> exact h.of_eq rfl rfl rfl rfl

theorem createDownload_old {url : NSURL} (hd : d ≠ s.downloadCount) :
    (s.createDownload url).downloads d = s.downloads d := by
  simp [createDownload, Function.update_of_ne hd]

theorem createDownload_new (url : NSURL) (s : SDWebImageManager) :
    (s.createDownload url).downloads s.downloadCount = { url } := by
  simp [createDownload]

theorem Served.joinDownload (h : Served s) {url : NSURL} (hwaited : s.URLCallbacks url ≠ [])
    (callbacks : List ℕ) : Served (s.setCallbacks url callbacks) := by
  refine ⟨fun url' hwaited' => ?_, h.fresh, h.running, h.completing⟩
  simp only [setCallbacks, Function.update_apply] at hwaited'
  split_ifs at hwaited' with heq
  · exact heq ▸ h.served url hwaited
  · exact h.served url' hwaited'

theorem Served.createDownload (h : Served s) (url : NSURL) (callbacks : List ℕ) :
    Served ((s.setCallbacks url callbacks).createDownload url) := by
  have hnew : ((s.setCallbacks url callbacks).createDownload url).downloads s.downloadCount =
      { url } := createDownload_new url (s.setCallbacks url callbacks)
  have hold {d : ℕ} (hd : d < s.downloadCount) :
      ((s.setCallbacks url callbacks).createDownload url).downloads d = s.downloads d :=
    createDownload_old (s := s.setCallbacks url callbacks) hd.ne
  refine ⟨fun url' hwaited => ?_, fun d hd => ?_, fun d hd => ?_, fun d hd => ?_⟩
  · by_cases heq : url' = url
    · rw [heq]
      refine ⟨s.downloadCount, Nat.lt_succ_self _, congrArg (·.url) hnew, congrArg (·.blocks) hnew, ?_⟩
      exact .inl ⟨congrArg (·.started) hnew, congrArg (·.cancelled) hnew⟩
    · have hwaited' : s.URLCallbacks url' ≠ [] := by
        simpa [SDWebImageManager.createDownload, setCallbacks, Function.update_of_ne heq] using hwaited
      obtain ⟨d, hd, hurl, hlive⟩ := h.served url' hwaited'
      refine ⟨d, Nat.lt_succ_of_lt hd, (congrArg (·.url) (hold hd)).trans hurl, ?_⟩
      rw [Live, hold hd]
      exact hlive
  · by_cases heq : d = s.downloadCount
    · rw [heq]
      exact ⟨congrArg (·.running) hnew, congrArg (·.finished) hnew⟩
    · have hsame : ((s.setCallbacks url callbacks).createDownload url).downloads d = s.downloads d :=
        createDownload_old (s := s.setCallbacks url callbacks) heq
      rw [hsame] at hd ⊢
      exact h.fresh d hd
  · have hne : d ≠ s.downloadCount := by
      rintro rfl
      rw [hnew] at hd
      cases hd
    have hsame : ((s.setCallbacks url callbacks).createDownload url).downloads d = s.downloads d :=
      createDownload_old (s := s.setCallbacks url callbacks) hne
    rw [hsame] at hd ⊢
    exact ⟨Nat.lt_succ_of_lt (h.running d hd).1, (h.running d hd).2⟩
  · obtain ⟨hlt, hstarted⟩ := h.completing d hd
    exact ⟨Nat.lt_succ_of_lt hlt, (congrArg (·.started) (hold hlt)).trans hstarted⟩

theorem setCancelBlock_uncancelled {i : ℕ} (subOperation : Option ℕ)
    (hon : (s.operations i).cancelled = false) :
    s.setCancelBlock i subOperation = s.assignCancelBlock i (some subOperation) := by
  simp [setCancelBlock, hon]

theorem Served.startDownload (h : Served s) {i : ℕ} (hon : (s.operations i).cancelled = false) :
    Served (s.startDownload i) := by
  unfold SDWebImageManager.startDownload
  dsimp only
  split_ifs with hfirst
  · rw [setCancelBlock_uncancelled]
    · exact (h.createDownload (s.operations i).url _).of_eq rfl rfl rfl rfl
    · exact hon
  · rw [setCancelBlock_uncancelled]
    · exact (h.joinDownload hfirst _).of_eq rfl rfl rfl rfl
    · exact hon

theorem Served.doneBlock (h : Served s) (i : ℕ) (image : Option UIImage) :
    Served (s.doneBlock i image) := by
  unfold SDWebImageManager.doneBlock
  split_ifs with hon
  · exact h.of_eq rfl rfl rfl rfl
  · cases image with
    | none => exact h.startDownload (Bool.not_eq_true _ ▸ hon)
    | some image => exact (h.completedBlock i _).of_eq rfl rfl rfl rfl

theorem Served.setImage (hcoherent : Coherent s) (h : Served s) (v : ℕ) (url : Option NSURL) :
    Served (s.sdSetImageWithURL v url) := by
  cases url with
  | none => exact h.cleared v none
  | some url =>
    rw [sdSetImageWithURL_some hcoherent.owned]
    have hcleared := h.cleared v (some url)
    have hdownloaded : Served ((s.cleared v (some url)).downloadImageWithURL v url) := by
      unfold downloadImageWithURL
      dsimp only
      split_ifs
      · refine Served.completedBlock ?_ _ none
        exact hcleared.of_eq rfl rfl rfl rfl
      · unfold queryDiskCacheForKey
        split
        · refine Served.doneBlock ?_ _ _
          exact hcleared.of_eq rfl rfl rfl rfl
        · exact hcleared.of_eq rfl rfl rfl rfl
    exact hdownloaded.of_eq rfl rfl rfl rfl

theorem Served.runCompleted (h : Served s) (result : DownloadResult) (hd : d < s.downloadCount)
    (hstarted : (s.downloads d).started = true) :
    Served (s.runCompleted d result) := by
  have hlive {k : ℕ} {r : SDWebImageManager} (hne : k ≠ d) (hr : r.downloads k = s.downloads k)
      (hcompleting : r.completing = some d) (hk : Live k s) : Live k r := by
    rw [Live, hr, hcompleting]
    exact ⟨hk.1, hk.2.imp_right fun hrun => ⟨hrun.1, by simpa using Ne.symm hne⟩⟩
  unfold SDWebImageManager.runCompleted
  dsimp only
  split_ifs with hblocks
  · refine ⟨fun url hwaited => ?_, h.fresh, h.running, fun k hk => ?_⟩
    · simp only [setCallbacks, Function.update_apply] at hwaited
      split_ifs at hwaited with heq
      · exact absurd rfl hwaited
      · obtain ⟨k, hk, hurl, hk'⟩ := h.served url hwaited
        refine ⟨k, hk, hurl, hlive ?_ rfl rfl hk'⟩
        rintro rfl
        exact heq hurl.symm
    · rw [← Option.some.inj hk]
      exact ⟨hd, hstarted⟩
  · refine ⟨fun url hwaited => ?_, h.fresh, h.running, fun k hk => ?_⟩
    · obtain ⟨k, hk, hurl, hk'⟩ := h.served url hwaited
      refine ⟨k, hk, hurl, hlive ?_ rfl rfl hk'⟩
      rintro rfl
      exact hblocks hk'.1
    · rw [← Option.some.inj hk]
      exact ⟨hd, hstarted⟩

theorem runCompleted_downloads (d : ℕ) (result : DownloadResult) (s : SDWebImageManager) :
    (s.runCompleted d result).downloads = s.downloads ∧
      (s.runCompleted d result).completing = some d := by
  unfold runCompleted
  dsimp only
  split_ifs <;> exact ⟨rfl, rfl⟩

theorem didComplete_eq (d : ℕ) (result : DownloadResult) (s : SDWebImageManager) :
    s.didComplete d result = (s.runCompleted d result).modifyDownload d fun download =>
      { download with running := false } := by
  unfold didComplete runCompleted
  simp only [modifyDownload_self]
  split_ifs <;> rfl

theorem Served.didComplete (h : Served s) (result : DownloadResult) (hd : d < s.downloadCount)
    (hstarted : (s.downloads d).started = true) : Served (s.didComplete d result) := by
  obtain ⟨hdownloads, hcompleting⟩ := runCompleted_downloads d result s
  rw [didComplete_eq]
  refine (h.runCompleted result hd hstarted).modifyDownload (fun hlive => ?_) (fun hnew => ?_) rfl id
  · obtain ⟨hnew, -⟩ | ⟨-, hother⟩ := hlive.2
    · rw [hdownloads, hstarted] at hnew
      cases hnew
    · exact absurd hcompleting hother
  · rw [hdownloads, hstarted] at hnew
    cases hnew

theorem Served.done (h : Served s) (hdead : ¬ Live d s) (hstarted : (s.downloads d).started = true) :
    Served (s.done d) := by
  refine h.modifyDownload (fun hlive => absurd hlive hdead) (fun hnew => ?_) rfl id
  rw [hstarted] at hnew
  cases hnew

theorem Served.endCompleting (h : Served s) : Served { s with completing := none } := by
  refine ⟨fun url hwaited => ?_, h.fresh, h.running, nofun⟩
  obtain ⟨d, hd, hurl, hlive⟩ := h.served url hwaited
  exact ⟨d, hd, hurl, hlive.1, hlive.2.imp_right fun hrun => ⟨hrun.1, nofun⟩⟩

theorem Served.start (h : Served s) (hd : d < s.downloadCount)
    (hnew : (s.downloads d).started = false) : Served (s.start d) := by
  obtain ⟨hrunning, hfinished⟩ := h.fresh d hnew
  have hidle : s.completing ≠ some d := by
    intro hcompleting
    have hstarted := (h.completing d hcompleting).2
    rw [hnew] at hstarted
    cases hstarted
  unfold SDWebImageManager.start
  by_cases hoff : (s.downloads d).cancelled = true
  · refine h.modifyDownload (fun hlive => ?_) (by simp [hoff]) (by simp [hoff, hrunning])
      (by simp [hoff])
    obtain ⟨-, hon⟩ | ⟨hrun, -⟩ := hlive.2
    · rw [hoff] at hon
      cases hon
    · rw [hrunning] at hrun
      cases hrun
  · refine ⟨fun url hwaited => ?_, fun k hk => ?_, fun k hk => ?_, fun k hk => ?_⟩
    · obtain ⟨k, hk, hurl, hlive⟩ := h.served url hwaited
      by_cases hkd : k = d
      · subst hkd
        refine ⟨k, hk, ?_, ?_⟩
        · simpa [modifyDownload_self, hoff] using hurl
        · exact ⟨by simpa [modifyDownload_self, hoff] using hlive.1,
            .inr ⟨by simp [modifyDownload_self, hoff], hidle⟩⟩
      · refine ⟨k, hk, ?_, ?_⟩
        · rw [modifyDownload_of_ne hkd]
          exact hurl
        · rw [Live, modifyDownload_of_ne hkd]
          exact hlive
    · by_cases hkd : k = d
      · subst hkd
        simp [modifyDownload_self, hoff] at hk
      · rw [modifyDownload_of_ne hkd] at hk ⊢
        exact h.fresh k hk
    · by_cases hkd : k = d
      · subst hkd
        exact ⟨hd, by simpa [modifyDownload_self, hoff] using hfinished⟩
      · rw [modifyDownload_of_ne hkd] at hk ⊢
        exact h.running k hk
    · obtain ⟨hlt, hstarted⟩ := h.completing k hk
      refine ⟨hlt, ?_⟩
      rw [modifyDownload_of_ne (by rintro rfl; exact hidle hk)]
      exact hstarted

theorem Served.complete (h : Served s) (response : Response) (hrun : (s.downloads d).running = true) :
    Served (s.complete d response) := by
  have hstarted : (s.downloads d).started = true := by
    by_contra hnew
    have hidle := (h.fresh d (Bool.not_eq_true _ ▸ hnew)).1
    rw [hrun] at hidle
    cases hidle
  obtain ⟨hd, hfinished⟩ := h.running d hrun
  cases response with
  | pixels pixels => exact h.didComplete _ hd hstarted
  | error code => exact h.didComplete _ hd hstarted
  | status code => exact h.runCompleted _ hd hstarted
  | notModified =>
    have hcancelled : (s.cancelInternal d).downloads d = { s.downloads d with
        cancelled := true, finished := true, running := false, blocks := false } := by
      unfold SDWebImageManager.cancelInternal
      rw [if_neg (by simp [hfinished]), modifyDownload_self]
      split_ifs <;> simp [setCallbacks, hrun]
    refine (h.cancelInternal d).done (fun hlive => ?_) (by rw [hcancelled]; exact hstarted)
    have hblocks := hlive.1
    rw [hcancelled] at hblocks
    cases hblocks

theorem served_step {e : Event} (hcoherent : Coherent s) (h : Served s)
    (hstep : Step MD5 s e t) : Served t := by
  cases hstep.moves with
  | setImage v url => exact h.setImage hcoherent v url
  | io block _ _ =>
    cases block with
    | query i key =>
      simp only [runIOBlock]
      split_ifs
      · exact h.of_eq rfl rfl rfl rfl
      · split <;> exact h.of_eq rfl rfl rfl rfl
    | store key image => exact h.of_eq rfl rfl rfl rfl
  | main i image mainQueue _ =>
    have hpopped : Served { s with mainQueue } := h.of_eq rfl rfl rfl rfl
    exact hpopped.doneBlock i image
  | start d hd hnew => exact h.start hd hnew
  | complete d response hrun _ => exact h.complete response hrun
  | callback _ _ _ _ _ =>
    simp only [receive]
    split_ifs
    · exact h.of_eq rfl rfl rfl rfl
    · split <;> exact h.of_eq rfl rfl rfl rfl
  | mainSync i result _ =>
    have hcleared : Served { s with mainSync := none } := h.of_eq rfl rfl rfl rfl
    have hfailed (r : SDWebImageManager) (hr : Served r) :
        Served ((r.fail i result).removeRunning i) := by
      cases result with
      | loaded image => exact hr.of_eq rfl rfl rfl rfl
      | failed code =>
        simp only [fail]
        split_ifs <;> exact hr.of_eq rfl rfl rfl rfl
    simp only [synchronize]
    refine hfailed _ ?_
    split_ifs
    · exact hcleared
    · exact hcleared.completedBlock i _
  | done d hcompleting _ _ =>
    have hstarted := (h.completing d hcompleting).2
    have hdead : ¬ Live d s := by
      rintro ⟨-, ⟨hnew, -⟩ | ⟨-, hother⟩⟩
      · rw [hstarted] at hnew
        cases hnew
      · exact hother hcompleting
    exact (h.done hdead hstarted).endCompleting
  | stop d _ =>
    have hserved : Served { s with cancelRequests := s.cancelRequests.erase d } :=
      h.of_eq rfl rfl rfl rfl
    exact hserved.cancelInternal d
  | evict kept | cleanDisk kept => exact h.of_eq rfl rfl rfl rfl

theorem served_empty : Served {} :=
  ⟨fun _ hwaited => absurd rfl hwaited, fun _ _ => ⟨rfl, rfl⟩, nofun, nofun⟩

/-- Work the library has taken on, as against what its callers and the system ask for. -/
def Event.isWork : Event → Bool
  | .io | .main | .start _ | .complete _ _ | .callback | .mainSync | .done => true
  | .setImage _ _ | .stop _ | .evict _ | .cleanDisk _ => false

def AtRest (MD5 : List UInt8 → Vector UInt8 16) (s : SDWebImageManager) : Prop :=
  ∀ e t, e.isWork = true → ¬ Step MD5 s e t

theorem atRest_of_done (h : Served s) (hio : s.ioQueue = []) (hmain : s.mainQueue = [])
    (hdeliveries : s.deliveries = []) (hsync : s.mainSync = none) (hcompleting : s.completing = none)
    (hended : ∀ d < s.downloadCount,
      (s.downloads d).started = true ∧ (s.downloads d).running = false) : AtRest MD5 s := by
  intro e t hwork hstep
  cases hstep.moves with
  | setImage v url | stop d _ | evict kept | cleanDisk kept => cases hwork
  | io _ _ hqueue =>
    rw [hio] at hqueue
    cases hqueue
  | main _ _ _ hqueue =>
    rw [hmain] at hqueue
    cases hqueue
  | start d hd hnew =>
    rw [(hended d hd).1] at hnew
    cases hnew
  | complete d response hrun _ =>
    rw [(hended d (h.running d hrun).1).2] at hrun
    cases hrun
  | callback _ _ _ hqueue _ =>
    rw [hdeliveries] at hqueue
    cases hqueue
  | mainSync _ _ hwaits =>
    rw [hsync] at hwaits
    cases hwaits
  | done d hends _ _ =>
    rw [hcompleting] at hends
    cases hends

theorem AtRest.queued (h : AtRest MD5 s) : s.queued = [] ∧ s.completing = none := by
  have hio : s.ioQueue = [] := by
    by_contra hne
    obtain ⟨block, ioQueue, hqueue⟩ := List.exists_cons_of_ne_nil hne
    exact h .io _ rfl (Moves.io block ioQueue hqueue).step
  have hmain : s.mainQueue = [] := by
    by_contra hne
    obtain ⟨⟨i, image⟩, mainQueue, hqueue⟩ := List.exists_cons_of_ne_nil hne
    exact h .main _ rfl (Moves.main i image mainQueue hqueue).step
  have hsync : s.mainSync = none := by
    by_contra hne
    obtain ⟨⟨i, result⟩, hsome⟩ := Option.ne_none_iff_exists'.mp hne
    exact h .mainSync _ rfl (Moves.mainSync i result hsome).step
  have hdeliveries : s.deliveries = [] := by
    by_contra hne
    obtain ⟨⟨i, result⟩, deliveries, hqueue⟩ := List.exists_cons_of_ne_nil hne
    exact h .callback _ rfl (Moves.callback i result deliveries hqueue hsync).step
  have hcompleting : s.completing = none := by
    by_contra hne
    obtain ⟨d, hsome⟩ := Option.ne_none_iff_exists'.mp hne
    exact h .done _ rfl (Moves.done d hsome hdeliveries hsync).step
  rw [SDWebImageManager.queued, hio, hmain, hdeliveries, hsync]
  exact ⟨rfl, hcompleting⟩

theorem AtRest.callbacks (h : AtRest MD5 s) (hserved : Served s) (url : NSURL) :
    s.URLCallbacks url = [] := by
  by_contra hne
  obtain ⟨d, hd, -, -, ⟨hnew, -⟩ | ⟨hrun, -⟩⟩ := hserved.served url hne
  · exact h (.start d) _ rfl (Moves.start d hd hnew).step
  · exact h (.complete d (.error 0)) _ rfl (Moves.complete d (.error 0) hrun h.queued.2).step

theorem AtRest.answersDue (h : AtRest MD5 s) (hserved : Served s) (i : ℕ) :
    answersDue i s = (s.operations i).answers.length := by
  rw [SDWebImageManager.answersDue, waiting, h.queued.1, h.callbacks hserved]
  simp

structure Settling (s : SDWebImageManager) : Prop extends Single s where
  served : Served s

theorem settling_step {e : Event} (h : Settling s) (hstep : Step MD5 s e t) : Settling t :=
  ⟨single_step h.toSingle hstep, served_step h.toCoherent h.served hstep⟩

theorem settling_empty : Settling {} := ⟨single_empty, served_empty⟩

theorem cancelled_last {tr : List (Event × SDWebImageManager)} (htr : Trace (Step MD5) s tr)
    (h : Settling s) {i : ℕ} (hi : i < s.operationCount) (hoff : (s.operations i).cancelled = true) :
    ((last s tr).operations i).cancelled = true := by
  induction htr with
  | nil s => exact hoff
  | cons hstep _ ih =>
    have hfollows := follows_step h.toCoherent hstep
    exact ih (settling_step h hstep) (hi.trans_le hfollows.operationCount)
      (hfollows.cancelled i hi hoff)

theorem answersDue_last {tr : List (Event × SDWebImageManager)} (htr : Trace (Step MD5) s tr)
    (h : Settling s) {i : ℕ} (hi : i < (last s tr).operationCount)
    (hon : ((last s tr).operations i).cancelled = false) :
    answersDue i (last s tr) = 1 ↔ (i < s.operationCount → answersDue i s = 1) ∧
      Steps (fun s e _ => ¬ Abandoned i s e) s tr := by
  induction htr with
  | nil s =>
    have hold : i < s.operationCount := hi
    simp [hold]
  | @cons s t e tr hstep htail ih =>
    have hnext := settling_step h hstep
    have hfollows := follows_step h.toCoherent hstep
    rw [last_cons] at hi hon ⊢
    rw [ih hnext hi hon, steps_cons, ← and_assoc]
    refine and_congr_left fun _ => ?_
    by_cases hold : i < s.operationCount
    · have hnew : i < t.operationCount := hold.trans_le hfollows.operationCount
      have haccounts := accounts_step h.toCoherent hstep i hold
      have hdue := h.due i hold
      have hon' : (t.operations i).cancelled = false := by
        by_contra hoff
        rw [cancelled_last htail hnext hnew (Bool.not_eq_false _ ▸ hoff)] at hon
        cases hon
      by_cases hlost : Abandoned i s e
      · have hlt := haccounts.lost hlost
        simp only [hnew, hold, hlost, true_imp_iff, not_true_eq_false, and_false, iff_false]
        omega
      · simp [hnew, hold, hlost, haccounts.kept hon' hlost]
    · have hkept : ¬ Abandoned i s e := fun hlost => hold (h.tracked.waiting i _ hlost.2).1
      simp only [hold, false_imp_iff, hkept, not_false_eq_true, and_self, iff_true]
      exact fun hnew => answersDue_new h.toCoherent hstep i hnew (Nat.le_of_not_lt hold)

theorem run_answers_wanted {tr : List (Event × SDWebImageManager)} (htr : Trace (Step MD5) {} tr)
    (hrest : AtRest MD5 (last {} tr)) {i : ℕ} (hi : i < (last {} tr).operationCount)
    (hon : ((last {} tr).operations i).cancelled = false) :
    (∃ image, ((last {} tr).operations i).answers = [image] ∧
      ((last {} tr).views ((last {} tr).operations i).view).image = image) ↔
      Steps (fun s e _ => ¬ Abandoned i s e) {} tr := by
  have hend := (htr.always (fun s e t h hstep => settling_step h hstep) settling_empty).last
  have hdue := answersDue_last htr settling_empty hi hon
  rw [hrest.answersDue hend.served] at hdue
  have hfirst : (i < ({} : SDWebImageManager).operationCount → answersDue i {} = 1) := nofun
  rw [← (hdue.trans (and_iff_right hfirst)), List.length_eq_one_iff]
  refine exists_congr fun image => and_iff_left_of_imp fun hanswers => ?_
  rw [hend.owned.image i hi hon, hanswers]
  cases image <;> rfl

/-- The view that asked first moves on before the download has started. -/
def lostCallback : List Event :=
  [.setImage 0 (some (photo 1)), .setImage 1 (some (photo 1)), .io, .io, .main, .main,
    .setImage 0 (some (photo 2)), .io, .main, .start 0, .start 1, .complete 1 (.pixels 9), .callback,
    .mainSync, .done, .io]

theorem atRest_run (events : List Event)
    (hended : let s := last {} (run (handle leadingBytes) {} events)
      s.ioQueue = [] ∧ s.mainQueue = [] ∧ s.deliveries = [] ∧ s.mainSync = none ∧
        s.completing = none ∧ ∀ d < s.downloadCount,
          (s.downloads d).started = true ∧ (s.downloads d).running = false) :
    AtRest leadingBytes (last {} (run (handle leadingBytes) {} events)) := by
  have htr : Trace (Step leadingBytes) {} (run (handle leadingBytes) {} events) :=
    trace_run (fun _ _ _ => id) _ _
  have hend := (htr.always (fun s e t h hstep => settling_step h hstep) settling_empty).last
  obtain ⟨hio, hmain, hdeliveries, hsync, hcompleting, hdownloads⟩ := hended
  exact atRest_of_done hend.served hio hmain hdeliveries hsync hcompleting hdownloads

theorem lostCallback_answers_wanted :
    ((last {} (run (handle leadingBytes) {} lostCallback)).operations 1).answers = [] ∧
      ¬ Steps (fun s e _ => ¬ Abandoned 1 s e) {} (run (handle leadingBytes) {} lostCallback) := by
  have hnone : ((last {} (run (handle leadingBytes) {} lostCallback)).operations 1).answers = [] := by
    decide +kernel
  have hrest := atRest_run lostCallback (by decide +kernel)
  have hwanted := run_answers_wanted (trace_run (fun _ _ _ => id) _ lostCallback) hrest (i := 1)
    (by decide +kernel) (by decide +kernel)
  refine ⟨hnone, fun hkept => ?_⟩
  obtain ⟨image, hanswers, -⟩ := hwanted.mpr hkept
  rw [hnone] at hanswers
  cases hanswers

end MixedProject.SDWebImageManager
