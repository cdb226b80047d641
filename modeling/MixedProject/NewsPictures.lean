import MixedProject.ImageRest
import MixedProject.ImageSources

namespace MixedProject

open Traces SDWebImageManager

/-- News cells with the image views in them, each cell having one. -/
structure NewsScreen where
  cells : ℕ → NewsTableViewCell := fun _ => {}
  manager : SDWebImageManager := {}

def NewsTableViewCell.setText (model : NewsModel) (cell : NewsTableViewCell) : NewsTableViewCell :=
  { cell with title := model.title, author := model.source }

namespace NewsScreen

variable (u : URLLoading) (smallImage : ℕ → ℕ)

def setText (c : ℕ) (model : NewsModel) (s : NewsScreen) : NewsScreen :=
  { s with cells := Function.update s.cells c ((s.cells c).setText model) }

def setImage (c : ℕ) (url : Option NSURL) (s : NewsScreen) : NewsScreen where
  cells := Function.update s.cells c ((s.cells c).sdSetImageWithURL url)
  manager := s.manager.sdSetImageWithURL (smallImage c) url

def setPicture (c : ℕ) (s : NewsScreen) (item : Value) : Except NSException NewsScreen := do
  let url ← NewsTableViewCell.pictureURL u item
  return s.setImage smallImage c url

def setCellData (c : ℕ) (model : NewsModel) (s : NewsScreen) : Except NSException NewsScreen :=
  (model.picInfo.getD []).foldlM (setPicture u smallImage c) (s.setText c model)

/-- A row is shown in the cell `c`, or the image library goes on; other screens set images too. -/
inductive Event
  | setCellData (c : ℕ) (model : NewsModel)
  | library (e : SDWebImageManager.Event)

inductive Step (MD5 : List UInt8 → Vector UInt8 16) : NewsScreen → Event → NewsScreen → Prop
  | setCellData {s t : NewsScreen} {c : ℕ} {model : NewsModel}
      (hset : s.setCellData u smallImage c model = .ok t) : Step MD5 s (.setCellData c model) t
  | library {s : NewsScreen} {manager : SDWebImageManager} {e : SDWebImageManager.Event}
      (helse : ∀ c url, e ≠ .setImage (smallImage c) url)
      (hstep : SDWebImageManager.Step MD5 s.manager e manager) :
      Step MD5 s (.library e) { s with manager }

end NewsScreen

namespace SDWebImageManager

variable {s t : SDWebImageManager} {MD5 : List UInt8 → Vector UInt8 16}

theorem cleared_imageURL (v : ℕ) (url : Option NSURL) (s : SDWebImageManager) (v' : ℕ) :
    ((s.cleared v url).views v').imageURL = if v' = v then url else (s.views v').imageURL := by
  have hviews : ∀ v', ((s.cancelCurrentImageLoad v).views v').imageURL = (s.views v').imageURL := by
    intro v'
    unfold cancelCurrentImageLoad
    cases (s.views v).imageLoad with
    | none => rfl
    | some i =>
      simp only [assignLoad, modifyView, Function.update_apply, (Drops.cancelOperation i s).views]
      split_ifs with hv
      · rw [hv]
      · rfl
  simp only [cleared, resetImage, modifyView, Function.update_apply]
  split_ifs with hv
  · rfl
  · exact hviews v'

theorem doneBlock_imageURL (i : ℕ) (image : Option UIImage) (s : SDWebImageManager) (v : ℕ) :
    ((s.doneBlock i image).views v).imageURL = (s.views v).imageURL := by
  unfold doneBlock
  split_ifs
  · rfl
  · cases image with
    | none => rw [(startDownload_drops i s).views]; rfl
    | some image => exact completedBlock_imageURL i (some image) s v

theorem downloadImageWithURL_imageURL (v : ℕ) (url : NSURL) (s : SDWebImageManager) (v' : ℕ) :
    ((s.downloadImageWithURL v url).views v').imageURL = (s.views v').imageURL := by
  unfold downloadImageWithURL
  dsimp only
  split_ifs
  · exact completedBlock_imageURL _ none _ v'
  · unfold queryDiskCacheForKey
    split
    · exact doneBlock_imageURL _ _ _ v'
    · rfl

theorem assignLoad_imageURL (v : ℕ) (imageLoad : Option ℕ) (s : SDWebImageManager) (v' : ℕ) :
    ((s.assignLoad v imageLoad).views v').imageURL = (s.views v').imageURL := by
  simp only [assignLoad, modifyView, Function.update_apply]
  split_ifs with hv
  · rw [hv]
  · rfl

theorem setImage_imageURL (h : Coherent s) (v : ℕ) (url : Option NSURL) (v' : ℕ) :
    ((s.sdSetImageWithURL v url).views v').imageURL =
      if v' = v then url else (s.views v').imageURL := by
  cases url with
  | none => exact cleared_imageURL v none s v'
  | some url =>
    rw [sdSetImageWithURL_some h.owned, assignLoad_imageURL, downloadImageWithURL_imageURL,
      cleared_imageURL]

theorem runCompleted_views (d : ℕ) (result : DownloadResult) (s : SDWebImageManager) :
    (s.runCompleted d result).views = s.views := by
  unfold runCompleted
  dsimp only
  split_ifs <;> rfl

theorem complete_views (d : ℕ) (response : Response) (s : SDWebImageManager) :
    (s.complete d response).views = s.views := by
  cases response with
  | pixels pixels => exact runCompleted_views d _ _
  | error code => exact runCompleted_views d _ _
  | status code => exact runCompleted_views d _ s
  | notModified => exact ((Drops.cancelInternal d s).trans (.done d _)).views

theorem synchronize_imageURL (i : ℕ) (result : DownloadResult) (s : SDWebImageManager) (v : ℕ) :
    ((s.synchronize i result).views v).imageURL = (s.views v).imageURL := by
  unfold synchronize
  dsimp only
  rw [((Drops.fail i result _).trans (.removeRunning i _)).views]
  split_ifs
  · rfl
  · exact completedBlock_imageURL i _ s v

theorem imageURL_step {e : Event} (hstep : Step MD5 s e t) {v : ℕ}
    (helse : ∀ url, e ≠ .setImage v url) (h : Coherent s) :
    (t.views v).imageURL = (s.views v).imageURL := by
  cases hstep.moves with
  | setImage v' url => rw [setImage_imageURL h, if_neg (by rintro rfl; exact helse url rfl)]
  | io block _ _ =>
    cases block with
    | query i key =>
      simp only [runIOBlock]
      split_ifs
      · rfl
      · split <;> rfl
    | store key image => rfl
  | main _ _ _ _ => exact doneBlock_imageURL _ _ _ v
  | start d _ _ => rfl
  | complete d response _ _ => rw [complete_views]
  | callback _ _ _ _ _ =>
    simp only [receive]
    split_ifs
    · rfl
    · split <;> rfl
  | mainSync _ _ _ => exact synchronize_imageURL _ _ _ v
  | done _ _ _ _ => rfl
  | stop d _ => rw [(Drops.cancelInternal d _).views]
  | evict kept | cleanDisk kept => rfl

end SDWebImageManager

namespace NewsScreen

variable {u : URLLoading} {smallImage : ℕ → ℕ} {MD5 : List UInt8 → Vector UInt8 16}
  {urls : Set NSURL} {s t : NewsScreen}

structure Matches (smallImage : ℕ → ℕ) (s : NewsScreen) : Prop where
  coherent : Coherent s.manager
  requested : ∀ c, (s.manager.views (smallImage c)).imageURL = (s.cells c).smallImage

theorem Matches.setImage (himages : Function.Injective smallImage) (h : Matches smallImage s)
    (c : ℕ) (url : Option NSURL) : Matches smallImage (s.setImage smallImage c url) := by
  refine ⟨h.coherent.sdSetImageWithURL (smallImage c) url, fun c' => ?_⟩
  simp only [NewsScreen.setImage, Function.update_apply]
  rw [setImage_imageURL h.coherent]
  by_cases hc : c' = c
  · simp [hc, NewsTableViewCell.sdSetImageWithURL]
  · rw [if_neg hc, if_neg fun heq => hc (himages heq)]
    exact h.requested c'

theorem setPictures_matches (himages : Function.Injective smallImage) (c : ℕ) (items : List Value)
    (h : Matches smallImage s) (hset : items.foldlM (setPicture u smallImage c) s = .ok t) :
    Matches smallImage t ∧ (∀ c', c' ≠ c → t.cells c' = s.cells c') ∧
      items.foldlM (NewsTableViewCell.setPicture u) (s.cells c) = .ok (t.cells c) := by
  induction items generalizing s with
  | nil =>
    obtain rfl := Except.ok.inj hset
    exact ⟨h, fun _ _ => rfl, rfl⟩
  | cons item items ih =>
    rw [List.foldlM_cons] at hset ⊢
    cases hurl : NewsTableViewCell.pictureURL u item with
    | error exception =>
      rw [setPicture, hurl] at hset
      cases hset
    | ok url =>
      rw [setPicture, hurl] at hset
      obtain ⟨hmatches, hothers, hcell⟩ := ih (h.setImage himages c url) hset
      refine ⟨hmatches, fun c' hc => ?_, ?_⟩
      · rw [hothers c' hc]
        simp [setImage, Function.update_of_ne hc]
      · have hsame : (s.setImage smallImage c url).cells c =
            (s.cells c).sdSetImageWithURL url := Function.update_self _ _ _
        rw [hsame] at hcell
        rw [NewsTableViewCell.setPicture, hurl]
        exact hcell

theorem setCellData_matches (himages : Function.Injective smallImage) {c : ℕ} {model : NewsModel}
    (h : Matches smallImage s) (hset : s.setCellData u smallImage c model = .ok t) :
    Matches smallImage t ∧ (∀ c', c' ≠ c → t.cells c' = s.cells c') ∧
      (s.cells c).setCellData u model = .ok (t.cells c) := by
  have htext : Matches smallImage (s.setText c model) := by
    refine ⟨h.coherent, fun c' => ?_⟩
    simp only [setText, Function.update_apply]
    split_ifs with hc
    · rw [hc]
      exact h.requested c
    · exact h.requested c'
  obtain ⟨hmatches, hothers, hcell⟩ := setPictures_matches himages c _ htext hset
  refine ⟨hmatches, fun c' hc => (hothers c' hc).trans ?_, ?_⟩
  · simp [setText, Function.update_of_ne hc]
  · simpa [setText, NewsTableViewCell.setCellData, NewsTableViewCell.setText] using hcell

theorem matches_step (himages : Function.Injective smallImage)
    {e : Event} (h : Matches smallImage s) (hstep : Step u smallImage MD5 s e t) :
    Matches smallImage t := by
  cases hstep with
  | setCellData hset => exact (setCellData_matches himages h hset).1
  | library helse hlibrary =>
    refine ⟨coherent_step h.coherent hlibrary, fun c => ?_⟩
    rw [← h.requested c]
    exact imageURL_step hlibrary (helse c) h.coherent

theorem matches_start (smallImage : ℕ → ℕ) : Matches smallImage {} :=
  ⟨coherent_empty, fun _ => rfl⟩

def Event.requestedURLs (u : URLLoading) : Event → List NSURL
  | .setCellData _ model => (NewsTableViewCell.pictures model).filterMap fun item =>
      (NewsTableViewCell.pictureURL u item).toOption.join
  | .library e => e.requestedURL.toList

def requestedURLs (u : URLLoading) (events : List Event) : Set NSURL :=
  {url | url ∈ events.flatMap (Event.requestedURLs u)}

theorem setPictures_sourced (c : ℕ) (items : List Value) (hcoherent : Coherent s.manager)
    (h : Sourced MD5 urls s.manager)
    (hurl : ∀ item ∈ items, ∀ url, NewsTableViewCell.pictureURL u item = .ok (some url) → url ∈ urls)
    (hset : items.foldlM (setPicture u smallImage c) s = .ok t) : Sourced MD5 urls t.manager := by
  induction items generalizing s with
  | nil =>
    obtain rfl := Except.ok.inj hset
    exact h
  | cons item items ih =>
    rw [List.foldlM_cons] at hset
    rw [List.forall_mem_cons] at hurl
    obtain ⟨shown, hshown, hrest⟩ := bind_ok hset
    obtain ⟨url, hpicture, hpure⟩ := bind_ok hshown
    obtain rfl := Except.ok.inj hpure
    have hasked : ∀ asked, url = some asked → asked ∈ urls := by
      rintro asked rfl
      exact hurl.1 asked hpicture
    exact ih (hcoherent.sdSetImageWithURL (smallImage c) url)
      (h.sdSetImageWithURL hcoherent (smallImage c) hasked) hurl.2 hrest

theorem sourced_step (hdigest : Set.InjOn (digestForURL MD5) urls) {e : Event}
    (hcoherent : Coherent s.manager) (h : Sourced MD5 urls s.manager)
    (hstep : Step u smallImage MD5 s e t) (hurl : ∀ url ∈ e.requestedURLs u, url ∈ urls) :
    Sourced MD5 urls t.manager := by
  cases hstep with
  | @setCellData _ c model hset =>
    refine setPictures_sourced (s := s.setText c model) c _ hcoherent h ?_ hset
    intro item hitem url hpicture
    apply hurl
    exact List.mem_filterMap.mpr ⟨item, hitem, by rw [hpicture]; rfl⟩
  | library helse hlibrary =>
    refine SDWebImageManager.sourced_step hdigest hcoherent h hlibrary fun url hasked => hurl url ?_
    exact Option.mem_toList.mpr hasked

def rowIn (c : ℕ) : Event → Option NewsModel
  | .setCellData c' model => if c' = c then some model else none
  | .library _ => none

theorem rowIn_self (c : ℕ) (model : NewsModel) : rowIn c (.setCellData c model) = some model :=
  if_pos rfl

theorem rowIn_other {c c' : ℕ} (hc : ¬ c' = c) (model : NewsModel) :
    rowIn c (.setCellData c' model) = none :=
  if_neg hc

theorem configureAll_last (himages : Function.Injective smallImage)
    {tr : List (Event × NewsScreen)} (htr : Trace (Step u smallImage MD5) s tr)
    (h : Matches smallImage s) (c : ℕ) :
    NewsTableViewCell.configureAll u ((tr.map Prod.fst).filterMap (rowIn c)) (s.cells c) =
      .ok ((last s tr).cells c) := by
  induction htr with
  | nil s => rfl
  | @cons s t e tr hstep _ ih =>
    have hrest := ih (matches_step himages h hstep)
    rw [List.map_cons, last_cons]
    cases hstep with
    | @setCellData _ c' model hset =>
      obtain ⟨-, hothers, hcell⟩ := setCellData_matches himages h hset
      by_cases hc : c' = c
      · subst hc
        rw [List.filterMap_cons_some (rowIn_self c' model), NewsTableViewCell.configureAll, List.foldlM_cons,
          hcell]
        exact hrest
      · rw [List.filterMap_cons_none (rowIn_other hc model), ← hothers c (Ne.symm hc)]
        exact hrest
    | library helse hlibrary =>
      rw [List.filterMap_cons_none rfl]
      exact hrest

def perform (u : URLLoading) (s : NewsScreen) : Event → Option NewsScreen
  | .setCellData c model => (s.setCellData u id c model).toOption
  | .library (.setImage _ _) => none
  | .library e => (handle leadingBytes s.manager e).map fun manager => { s with manager }

theorem step_of_perform {e : Event} (h : perform u s e = some t) : Step u id leadingBytes s e t := by
  cases e with
  | setCellData c model =>
    cases hset : s.setCellData u id c model with
    | error exception =>
      rw [perform, hset] at h
      cases h
    | ok shown =>
      rw [perform, hset] at h
      exact .setCellData (hset.trans (congrArg Except.ok (Option.some.inj h)))
  | library e =>
    have hlibrary (helse : ∀ c url, e ≠ .setImage c url)
        (h : (handle leadingBytes s.manager e).map (fun manager => { s with manager }) = some t) :
        Step u id leadingBytes s (.library e) t := by
      obtain ⟨manager, hstep, rfl⟩ := Option.map_eq_some_iff.mp h
      exact .library helse hstep
    cases e with
    | setImage v url => cases h
    | _ => exact hlibrary nofun h

def scrolled : List Event :=
  [.setCellData 0 NewsTableViewCell.pictured, .library .io, .library .main, .library (.start 0),
    .setCellData 0 ⟨none, some [.dictionary [(ns "url", .string (ns "b.png"))]], none, none⟩,
    .library .io, .library (.complete 0 (.pixels 7)), .library .callback, .library .done,
    .library .main, .library (.start 1), .library (.complete 1 (.pixels 9)), .library .callback,
    .library .mainSync]

end NewsScreen

end MixedProject
