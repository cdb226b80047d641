import MixedProject.ImageFiles
import MixedProject.NewsCell
import Mathlib.Logic.Function.Basic

namespace MixedProject

/-- A decoded image: where it was downloaded from, and what it shows. -/
structure UIImage where
  url : NSURL
  pixels : ℕ
  deriving DecidableEq

/-- `imageLoad` is the entry `UIImageViewImageLoad` of the view's `operationDictionary`. -/
structure UIImageView where
  imageURL : Option NSURL := none
  image : Option UIImage := none
  imageLoad : Option ℕ := none
  deriving DecidableEq

/-- `cancelBlock` holds the `subOperation` it cancels, which may be `nil`; `answers` lists the
images its completed block was run with. -/
structure SDWebImageCombinedOperation where
  view : ℕ := 0
  url : NSURL := ⟨[]⟩
  cancelled : Bool := false
  cacheCancelled : Bool := false
  cancelBlock : Option (Option ℕ) := none
  answers : List (Option UIImage) := []
  deriving DecidableEq

/-- `running` is having a data task and a thread, `blocks` having the blocks `reset` clears. -/
structure SDWebImageDownloaderOperation where
  url : NSURL := ⟨[]⟩
  started : Bool := false
  running : Bool := false
  cancelled : Bool := false
  finished : Bool := false
  blocks : Bool := true
  deriving DecidableEq

inductive DownloadResult
  | loaded (image : UIImage)
  | failed (code : ℤ)
  deriving DecidableEq

def DownloadResult.downloadedImage : DownloadResult → Option UIImage
  | .loaded image => some image
  | .failed _ => none

inductive IOBlock
  | query (operation : ℕ) (key : NSString)
  | store (key : NSString) (image : UIImage)
  deriving DecidableEq

/-- The manager with its cache, its downloader and the image views that use it. `deliveries` and
`mainSync` are where the session's queue stands in the callbacks of the download it has
`completing`. -/
structure SDWebImageManager where
  views : ℕ → UIImageView := fun _ => {}
  operations : ℕ → SDWebImageCombinedOperation := fun _ => {}
  operationCount : ℕ := 0
  runningOperations : List ℕ := []
  failedURLs : List NSURL := []
  memCache : NSString → Option UIImage := fun _ => none
  disk : NSString → Option UIImage := fun _ => none
  ioQueue : List IOBlock := []
  mainQueue : List (ℕ × Option UIImage) := []
  downloads : ℕ → SDWebImageDownloaderOperation := fun _ => {}
  downloadCount : ℕ := 0
  URLCallbacks : NSURL → List ℕ := fun _ => []
  cancelRequests : List ℕ := []
  completing : Option ℕ := none
  deliveries : List (ℕ × DownloadResult) := []
  mainSync : Option (ℕ × DownloadResult) := none

namespace SDWebImageManager

def modifyView (v : ℕ) (f : UIImageView → UIImageView) (s : SDWebImageManager) :
    SDWebImageManager :=
  { s with views := Function.update s.views v (f (s.views v)) }

def modifyOperation (i : ℕ) (f : SDWebImageCombinedOperation → SDWebImageCombinedOperation)
    (s : SDWebImageManager) : SDWebImageManager :=
  { s with operations := Function.update s.operations i (f (s.operations i)) }

def modifyDownload (d : ℕ) (f : SDWebImageDownloaderOperation → SDWebImageDownloaderOperation)
    (s : SDWebImageManager) : SDWebImageManager :=
  { s with downloads := Function.update s.downloads d (f (s.downloads d)) }

def setCallbacks (url : NSURL) (callbacks : List ℕ) (s : SDWebImageManager) : SDWebImageManager :=
  { s with URLCallbacks := Function.update s.URLCallbacks url callbacks }

def removeRunning (i : ℕ) (s : SDWebImageManager) : SDWebImageManager :=
  { s with runningOperations := s.runningOperations.erase i }

def dispatchToIOQueue (block : IOBlock) (s : SDWebImageManager) : SDWebImageManager :=
  { s with ioQueue := s.ioQueue ++ [block] }

def cacheKeyForURL (url : NSURL) : NSString := url.absoluteString

def cancelInternal (d : ℕ) (s : SDWebImageManager) : SDWebImageManager :=
  if (s.downloads d).finished then s
  else
    let s := if (s.downloads d).blocks then s.setCallbacks (s.downloads d).url [] else s
    s.modifyDownload d fun download =>
      { download with
        cancelled := true, finished := download.running, running := false, blocks := false }

def cancelDownload (d : ℕ) (s : SDWebImageManager) : SDWebImageManager :=
  if (s.downloads d).running then { s with cancelRequests := s.cancelRequests ++ [d] }
  else s.cancelInternal d

def runCancelBlock (i : ℕ) (subOperation : Option ℕ) (s : SDWebImageManager) : SDWebImageManager :=
  match subOperation with
  | some d => (s.cancelDownload d).removeRunning i
  | none => s.removeRunning i

def markCancelled (i : ℕ) (s : SDWebImageManager) : SDWebImageManager :=
  s.modifyOperation i fun operation =>
    { operation with cancelled := true, cacheCancelled := true }

def assignCancelBlock (i : ℕ) (cancelBlock : Option (Option ℕ)) (s : SDWebImageManager) :
    SDWebImageManager :=
  s.modifyOperation i fun operation => { operation with cancelBlock }

def setCancelBlock (i : ℕ) (subOperation : Option ℕ) (s : SDWebImageManager) :
    SDWebImageManager :=
  if (s.operations i).cancelled then (s.runCancelBlock i subOperation).assignCancelBlock i none
  else s.assignCancelBlock i (some subOperation)

def cancelOperation (i : ℕ) (s : SDWebImageManager) : SDWebImageManager :=
  let cancelled := s.markCancelled i
  match (s.operations i).cancelBlock with
  | some subOperation => (cancelled.runCancelBlock i subOperation).assignCancelBlock i none
  | none => cancelled

def answer (i : ℕ) (image : Option UIImage) (s : SDWebImageManager) : SDWebImageManager :=
  s.modifyOperation i fun operation => { operation with answers := operation.answers ++ [image] }

def showImage (v : ℕ) (image : UIImage) (s : SDWebImageManager) : SDWebImageManager :=
  s.modifyView v fun view => { view with image := some image }

/-- The block `sd_setImageWithURL:` hands to the manager. -/
def completedBlock (i : ℕ) (image : Option UIImage) (s : SDWebImageManager) : SDWebImageManager :=
  match image with
  | some image => (s.answer i (some image)).showImage (s.operations i).view image
  | none => s.answer i none

def createDownload (url : NSURL) (s : SDWebImageManager) : SDWebImageManager :=
  { s with
    downloads := Function.update s.downloads s.downloadCount { url }
    downloadCount := s.downloadCount + 1 }

/-- Loads of one URL share the download of the first, and only the first gets hold of it. -/
def startDownload (i : ℕ) (s : SDWebImageManager) : SDWebImageManager :=
  let url := (s.operations i).url
  let added := s.setCallbacks url (s.URLCallbacks url ++ [i])
  if s.URLCallbacks url = [] then
    (added.createDownload url).setCancelBlock i (some s.downloadCount)
  else added.setCancelBlock i none

def doneBlock (i : ℕ) (image : Option UIImage) (s : SDWebImageManager) : SDWebImageManager :=
  if (s.operations i).cancelled then s.removeRunning i
  else
    match image with
    | some image => (s.completedBlock i (some image)).removeRunning i
    | none => s.startDownload i

def queryDiskCacheForKey (key : NSString) (i : ℕ) (s : SDWebImageManager) : SDWebImageManager :=
  match s.memCache key with
  | some image => s.doneBlock i (some image)
  | none => s.dispatchToIOQueue (.query i key)

def createOperation (v : ℕ) (url : NSURL) (s : SDWebImageManager) : SDWebImageManager :=
  { s with
    operations := Function.update s.operations s.operationCount { view := v, url }
    operationCount := s.operationCount + 1 }

/-- Returns after the operation with number `operationCount` has been made. -/
def downloadImageWithURL (v : ℕ) (url : NSURL) (s : SDWebImageManager) : SDWebImageManager :=
  let i := s.operationCount
  let created := s.createOperation v url
  if url.absoluteString.length = 0 ∨ url ∈ s.failedURLs then created.completedBlock i none
  else
    queryDiskCacheForKey (cacheKeyForURL url) i
      { created with runningOperations := s.runningOperations ++ [i] }

def assignLoad (v : ℕ) (imageLoad : Option ℕ) (s : SDWebImageManager) : SDWebImageManager :=
  s.modifyView v fun view => { view with imageLoad }

def cancelCurrentImageLoad (v : ℕ) (s : SDWebImageManager) : SDWebImageManager :=
  match (s.views v).imageLoad with
  | some i => (s.cancelOperation i).assignLoad v none
  | none => s

def setImageLoadOperation (v i : ℕ) (s : SDWebImageManager) : SDWebImageManager :=
  (s.cancelCurrentImageLoad v).assignLoad v (some i)

def resetImage (v : ℕ) (url : Option NSURL) (s : SDWebImageManager) : SDWebImageManager :=
  s.modifyView v fun view => { view with imageURL := url, image := none }

def sdSetImageWithURL (v : ℕ) (url : Option NSURL) (s : SDWebImageManager) : SDWebImageManager :=
  let s := (s.cancelCurrentImageLoad v).resetImage v url
  match url with
  | some url => (s.downloadImageWithURL v url).setImageLoadOperation v s.operationCount
  | none => s

variable (MD5 : List UInt8 → Vector UInt8 16)

def storeImage (key : NSString) (image : UIImage) (s : SDWebImageManager) : SDWebImageManager :=
  { s with memCache := Function.update s.memCache key (some image) }.dispatchToIOQueue (.store key image)

/-- Files of older versions of the library have no extension. -/
def diskImageForKey (key : NSString) (s : SDWebImageManager) : Option UIImage :=
  let defaultPath := SDImageCache.cachedFileNameForKey MD5 key
  match s.disk defaultPath with
  | some image => some image
  | none => s.disk (NSString.stringByDeletingPathExtension defaultPath)

def runIOBlock (s : SDWebImageManager) : IOBlock → SDWebImageManager
  | .query i key =>
    if (s.operations i).cacheCancelled then s
    else
      let diskImage := s.diskImageForKey MD5 key
      let s := match diskImage with
        | some image => { s with memCache := Function.update s.memCache key (some image) }
        | none => s
      { s with mainQueue := s.mainQueue ++ [(i, diskImage)] }
  | .store key image =>
    let cachePathForKey := SDImageCache.cachedFileNameForKey MD5 key
    { s with disk := Function.update s.disk cachePathForKey (some image) }

def start (d : ℕ) (s : SDWebImageManager) : SDWebImageManager :=
  s.modifyDownload d fun download =>
    if download.cancelled then { download with started := true, finished := true, blocks := false }
    else { download with started := true, running := true }

def runCompleted (d : ℕ) (result : DownloadResult) (s : SDWebImageManager) : SDWebImageManager :=
  let url := (s.downloads d).url
  if (s.downloads d).blocks then
    { s.setCallbacks url [] with
      completing := some d
      deliveries := s.deliveries ++ (s.URLCallbacks url).map fun i => (i, result) }
  else { s with completing := some d }

def didComplete (d : ℕ) (result : DownloadResult) (s : SDWebImageManager) : SDWebImageManager :=
  (s.modifyDownload d fun download => { download with running := false }).runCompleted d result

def done (d : ℕ) (s : SDWebImageManager) : SDWebImageManager :=
  s.modifyDownload d fun download =>
    { download with finished := true, running := false, blocks := false }

/-- What the manager does with a finished download before it goes to the main queue. -/
def receive (i : ℕ) (result : DownloadResult) (s : SDWebImageManager) : SDWebImageManager :=
  if (s.operations i).cancelled then s.removeRunning i
  else
    match result with
    | .loaded image =>
      { s.storeImage (cacheKeyForURL (s.operations i).url) image with mainSync := some (i, result) }
    | .failed _ => { s with mainSync := some (i, result) }

def transientErrors : List ℤ := [-1009, -999, -1001, -1018, -1020, -1003, -1004]

def fail (i : ℕ) (s : SDWebImageManager) : DownloadResult → SDWebImageManager
  | .failed code =>
    if code ∈ transientErrors then s
    else { s with failedURLs := s.failedURLs ++ [(s.operations i).url] }
  | .loaded _ => s

def synchronize (i : ℕ) (result : DownloadResult) (s : SDWebImageManager) : SDWebImageManager :=
  let s := if (s.operations i).cancelled then s else s.completedBlock i result.downloadedImage
  (s.fail i result).removeRunning i

/-- `status` is an HTTP status from 400 on, and `error` what ends the data task. -/
inductive Response
  | pixels (pixels : ℕ)
  | error (code : ℤ)
  | status (code : ℤ)
  | notModified
  deriving DecidableEq

inductive Event
  | setImage (v : ℕ) (url : Option NSURL)
  | io
  | main
  | start (d : ℕ)
  | complete (d : ℕ) (response : Response)
  | callback
  | mainSync
  | done
  | stop (d : ℕ)
  | evict (kept : NSString → Bool)
  | cleanDisk (kept : NSString → Bool)

def complete (d : ℕ) (s : SDWebImageManager) : Response → SDWebImageManager
  | .pixels pixels => s.didComplete d (.loaded ⟨(s.downloads d).url, pixels⟩)
  | .error code => s.didComplete d (.failed code)
  | .status code => s.runCompleted d (.failed code)
  | .notModified => (s.cancelInternal d).done d

def keep (kept : NSString → Bool) (cache : NSString → Option UIImage) (key : NSString) :
    Option UIImage :=
  if kept key then cache key else none

def handle (s : SDWebImageManager) : Event → Option SDWebImageManager
  | .setImage v url => some (s.sdSetImageWithURL v url)
  | .io =>
    match s.ioQueue with
    | block :: ioQueue => some ({ s with ioQueue }.runIOBlock MD5 block)
    | [] => none
  | .main =>
    match s.mainQueue with
    | (i, image) :: mainQueue => some ({ s with mainQueue }.doneBlock i image)
    | [] => none
  | .start d =>
    if d < s.downloadCount ∧ (s.downloads d).started = false then some (s.start d) else none
  | .complete d response =>
    if (s.downloads d).running ∧ s.completing = none then some (s.complete d response) else none
  | .callback =>
    match s.deliveries, s.mainSync with
    | (i, result) :: deliveries, none => some ({ s with deliveries }.receive i result)
    | _, _ => none
  | .mainSync =>
    match s.mainSync with
    | some (i, result) => some ({ s with mainSync := none }.synchronize i result)
    | none => none
  | .done =>
    match s.completing, s.deliveries, s.mainSync with
    | some d, [], none => some { s.done d with completing := none }
    | _, _, _ => none
  | .stop d =>
    if d ∈ s.cancelRequests then
      some ({ s with cancelRequests := s.cancelRequests.erase d }.cancelInternal d)
    else none
  | .evict kept => some { s with memCache := keep kept s.memCache }
  | .cleanDisk kept => some { s with disk := keep kept s.disk }

def Step (s : SDWebImageManager) (e : Event) (t : SDWebImageManager) : Prop :=
  handle MD5 s e = some t

-- What a step may rely on and what it leads to, event by event.
inductive Moves (s : SDWebImageManager) : Event → SDWebImageManager → Prop
  | setImage (v : ℕ) (url : Option NSURL) : Moves s (.setImage v url) (s.sdSetImageWithURL v url)
  | io (block : IOBlock) (ioQueue : List IOBlock) (hqueue : s.ioQueue = block :: ioQueue) :
      Moves s .io ({ s with ioQueue }.runIOBlock MD5 block)
  | main (i : ℕ) (image : Option UIImage) (mainQueue : List (ℕ × Option UIImage))
      (hqueue : s.mainQueue = (i, image) :: mainQueue) :
      Moves s .main ({ s with mainQueue }.doneBlock i image)
  | start (d : ℕ) (hd : d < s.downloadCount) (hnew : (s.downloads d).started = false) :
      Moves s (.start d) (s.start d)
  | complete (d : ℕ) (response : Response) (hrun : (s.downloads d).running = true)
      (hidle : s.completing = none) : Moves s (.complete d response) (s.complete d response)
  | callback (i : ℕ) (result : DownloadResult) (deliveries : List (ℕ × DownloadResult))
      (hqueue : s.deliveries = (i, result) :: deliveries) (hsync : s.mainSync = none) :
      Moves s .callback ({ s with deliveries }.receive i result)
  | mainSync (i : ℕ) (result : DownloadResult) (hsync : s.mainSync = some (i, result)) :
      Moves s .mainSync ({ s with mainSync := none }.synchronize i result)
  | done (d : ℕ) (hcompleting : s.completing = some d) (hdeliveries : s.deliveries = [])
      (hsync : s.mainSync = none) : Moves s .done { s.done d with completing := none }
  | stop (d : ℕ) (hd : d ∈ s.cancelRequests) :
      Moves s (.stop d)
        ({ s with cancelRequests := s.cancelRequests.erase d }.cancelInternal d)
  | evict (kept : NSString → Bool) :
      Moves s (.evict kept) { s with memCache := keep kept s.memCache }
  | cleanDisk (kept : NSString → Bool) :
      Moves s (.cleanDisk kept) { s with disk := keep kept s.disk }

variable {MD5} {s t : SDWebImageManager} {e : Event}

theorem Step.moves (hstep : Step MD5 s e t) : Moves MD5 s e t := by
  cases e with
  | setImage | evict | cleanDisk =>
    obtain rfl := Option.some.inj hstep
    constructor
  | start d =>
    simp only [Step, handle, Option.ite_none_right_eq_some] at hstep
    obtain ⟨⟨hd, hnew⟩, hnext⟩ := hstep
    obtain rfl := Option.some.inj hnext
    exact .start d hd hnew
  | complete d response =>
    simp only [Step, handle, Option.ite_none_right_eq_some] at hstep
    obtain ⟨⟨hrun, hidle⟩, hnext⟩ := hstep
    obtain rfl := Option.some.inj hnext
    exact .complete d response hrun hidle
  | stop d =>
    simp only [Step, handle, Option.ite_none_right_eq_some] at hstep
    obtain ⟨hd, hnext⟩ := hstep
    obtain rfl := Option.some.inj hnext
    exact .stop d hd
  | io | main | callback | mainSync | done =>
    simp only [Step, handle] at hstep
    split at hstep
    · obtain rfl := Option.some.inj hstep
      constructor <;> assumption
    · cases hstep

theorem Moves.step (h : Moves MD5 s e t) : Step MD5 s e t := by
  cases h with
  | setImage | evict | cleanDisk => rfl
  | io _ _ hqueue | main _ _ _ hqueue => rw [Step, handle, hqueue]
  | start d hd hnew => rw [Step, handle, if_pos ⟨hd, hnew⟩]
  | complete d response hrun hidle => rw [Step, handle, if_pos ⟨hrun, hidle⟩]
  | callback i result deliveries hqueue hsync => rw [Step, handle, hqueue, hsync]
  | mainSync i result hsync => rw [Step, handle, hsync]
  | done d hcompleting hdeliveries hsync => rw [Step, handle, hcompleting, hdeliveries, hsync]
  | stop d hd => rw [Step, handle, if_pos hd]

end SDWebImageManager

end MixedProject
