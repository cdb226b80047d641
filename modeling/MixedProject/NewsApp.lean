import MixedProject.NewsStore
import MixedProject.Traces

namespace MixedProject

inductive AFNetworkReachabilityStatus
  | unknown
  | notReachable
  | reachableViaWWAN
  | reachableViaWiFi
  deriving DecidableEq

/-- The shared manager. `probes` are the blocks `startMonitoring` left on the background queue,
`posted` the statuses on the main queue. -/
structure AFNetworkReachabilityManager where
  networkReachabilityStatus : AFNetworkReachabilityStatus := .unknown
  networkReachabilityStatusBlock : Option ℕ := none
  probes : ℕ := 0
  posted : List AFNetworkReachabilityStatus := []
  deriving DecidableEq

namespace AFNetworkReachabilityManager

def setReachabilityStatusChangeBlock (block : ℕ) (m : AFNetworkReachabilityManager) :
    AFNetworkReachabilityManager :=
  { m with networkReachabilityStatusBlock := some block }

def startMonitoring (m : AFNetworkReachabilityManager) : AFNetworkReachabilityManager :=
  { m with probes := m.probes + 1 }

def postReachabilityStatusChange (status : AFNetworkReachabilityStatus)
    (m : AFNetworkReachabilityManager) : AFNetworkReachabilityManager :=
  { m with posted := m.posted ++ [status] }

end AFNetworkReachabilityManager

namespace HttpTool

def state : AFNetworkReachabilityStatus → NSString
  | .unknown => ns "未知网络状态"
  | .notReachable => ns "无网络"
  | .reachableViaWWAN => ns "蜂窝数据网"
  | .reachableViaWiFi => ns "WiFi网络"

def getReachabilityStatus (comple : ℕ) (m : AFNetworkReachabilityManager) :
    AFNetworkReachabilityManager :=
  (m.setReachabilityStatusChangeBlock comple).startMonitoring

end HttpTool

structure NewsApp where
  store : NewsStore
  manager : AFNetworkReachabilityManager := {}
  requests : List ℕ := []
  saves : List ℕ := []
  reads : List ℕ := []
  shows : List (ℕ × List NewsModel) := []
  deriving DecidableEq

namespace NewsApp

open Traces NewsViewController

def loadData (i : ℕ) (s : NewsApp) : NewsApp := { s with requests := s.requests ++ [i] }

def getCacheData (i : ℕ) (s : NewsApp) : NewsApp := { s with reads := s.reads ++ [i] }

/-- An object pointer used as a condition; a string constant is never `nil`. -/
def nonNil (_object : NSString) : Bool := true

def comple (i : ℕ) (state : NSString) (s : NewsApp) : NewsApp :=
  let wifi := ns "WiFi网络"
  let fourG := ns "蜂窝数据网"
  if state = wifi || nonNil fourG then s.loadData i else s.getCacheData i

def networkReachabilityStatusBlock (status : AFNetworkReachabilityStatus) (s : NewsApp) : NewsApp :=
  let s := { s with manager.networkReachabilityStatus := status }
  match s.manager.networkReachabilityStatusBlock with
  | some i => comple i (HttpTool.state status) s
  | none => s

def viewDidLoad (newsCategory : NSString) (s : NewsApp) : NewsApp :=
  let i := s.store.controllers.length
  { s with
    store.controllers := s.store.controllers ++ [{ newsCategory }]
    manager := HttpTool.getReachabilityStatus i s.manager }

inductive Event
  | viewDidLoad (newsCategory : NSString)
  | probe (status : Option AFNetworkReachabilityStatus)
  | change (status : AFNetworkReachabilityStatus)
  | deliver (status : AFNetworkReachabilityStatus)
  | refresh (i : ℕ)
  | complete (i : ℕ) (completion : Completion)
  | save (i : ℕ)
  | read (i : ℕ)
  | display
  deriving DecidableEq

def handle (mj : MJExtension) (s : NewsApp) : Event → Option NewsApp
  | .viewDidLoad newsCategory => some (s.viewDidLoad newsCategory)
  | .probe status =>
    if 0 < s.manager.probes then
      let manager := { s.manager with probes := s.manager.probes - 1 }
      match status with
      | some status => some { s with manager := manager.postReachabilityStatusChange status }
      | none => some { s with manager }
    else none
  | .change status =>
    if s.manager.networkReachabilityStatusBlock.isSome then
      some { s with manager := s.manager.postReachabilityStatusChange status }
    else none
  | .deliver status =>
    match s.manager.posted with
    | next :: posted =>
      if next = status then
        some (networkReachabilityStatusBlock status { s with manager.posted := posted })
      else none
    | [] => none
  | .refresh i => if i < s.store.controllers.length then some (s.loadData i) else none
  | .complete i completion =>
    if i ∈ s.requests then do
      let store ← s.store.loaded mj i completion
      return { s with store, requests := s.requests.erase i, saves := s.saves ++ [i] }
    else none
  | .save i =>
    if i ∈ s.saves then do
      let store ← s.store.saved i
      return { s with store, saves := s.saves.erase i }
    else none
  | .read i =>
    if i ∈ s.reads then
      some { s with
        reads := s.reads.erase i
        shows := s.shows ++ [(i, s.store.getAllObjectsOfClass)] }
    else none
  | .display =>
    match s.shows with
    | (i, cacheData) :: shows =>
      let s := { s with shows }
      if cacheData.length = 0 then some (s.loadData i)
      else do
        let store ← s.store.shown i cacheData
        return { s with store }
    | [] => none

def Step (mj : MJExtension) (s : NewsApp) (e : Event) (t : NewsApp) : Prop := handle mj s e = some t

def launch (table : List NewsModel) : NewsApp where
  store := { controllers := [], table }

variable {mj : MJExtension}

theorem comple_eq (i : ℕ) (state : NSString) (s : NewsApp) : comple i state s = s.loadData i := by
  simp [comple, nonNil]

theorem step_probe {s t : NewsApp} {status : Option AFNetworkReachabilityStatus}
    (hst : Step mj s (.probe status) t) : ∃ manager, t = { s with manager } ∧
      manager.networkReachabilityStatusBlock = s.manager.networkReachabilityStatusBlock := by
  simp only [Step, handle] at hst
  split_ifs at hst with hprobes
  cases status with
  | none => exact ⟨_, (Option.some.inj hst).symm, rfl⟩
  | some status => exact ⟨_, (Option.some.inj hst).symm, rfl⟩

theorem step_change {s t : NewsApp} {status : AFNetworkReachabilityStatus}
    (hst : Step mj s (.change status) t) : ∃ manager, t = { s with manager } ∧
      manager.networkReachabilityStatusBlock = s.manager.networkReachabilityStatusBlock := by
  simp only [Step, handle] at hst
  split_ifs at hst with hstarted
  exact ⟨_, (Option.some.inj hst).symm, rfl⟩

theorem step_deliver {s t : NewsApp} {status : AFNetworkReachabilityStatus}
    (hst : Step mj s (.deliver status) t) : ∃ manager,
      t = { s with
        manager, requests := s.requests ++ s.manager.networkReachabilityStatusBlock.toList } ∧
      manager.networkReachabilityStatusBlock = s.manager.networkReachabilityStatusBlock := by
  simp only [Step, handle] at hst
  cases hposted : s.manager.posted with
  | nil =>
    rw [hposted] at hst
    cases hst
  | cons next posted =>
    rw [hposted] at hst
    simp only at hst
    split_ifs at hst with hnext
    rw [← Option.some.inj hst]
    refine ⟨{ s.manager with posted, networkReachabilityStatus := status }, ?_, rfl⟩
    unfold networkReachabilityStatusBlock
    cases hblock : s.manager.networkReachabilityStatusBlock with
    | none => simp [hblock]
    | some i => simp [hblock, comple_eq, loadData]

theorem step_refresh {s t : NewsApp} {i : ℕ} (hst : Step mj s (.refresh i) t) :
    t = s.loadData i := by
  simp only [Step, handle] at hst
  split_ifs at hst with hi
  exact (Option.some.inj hst).symm

theorem step_complete {s t : NewsApp} {i : ℕ} {completion : Completion}
    (hst : Step mj s (.complete i completion) t) :
    ∃ c items, s.store.controllers[i]? = some c ∧
      newsItems mj c.newsCategory (HttpTool.responseObject completion) = .ok items ∧
      t = { s with
        store.controllers :=
          s.store.controllers.set i { c with dataArray := c.dataArray ++ items }
        requests := s.requests.erase i
        saves := s.saves ++ [i] } := by
  simp only [Step, handle] at hst
  split_ifs at hst with hi
  obtain ⟨store, hstore, ht⟩ := Option.bind_eq_some_iff.mp hst
  obtain ⟨c, items, hc, hitems, rfl⟩ := NewsStore.loaded_some hstore
  exact ⟨c, items, hc, hitems, (Option.some.inj ht).symm⟩

theorem step_complete_failure {s t : NewsApp} {i : ℕ} (hst : Step mj s (.complete i .failure) t) :
    t = { s with requests := s.requests.erase i, saves := s.saves ++ [i] } := by
  obtain ⟨c, items, hc, hitems, rfl⟩ := step_complete hst
  rw [HttpTool.responseObject, newsItems_nil] at hitems
  cases hitems
  have hsame : s.store.controllers.set i { c with dataArray := c.dataArray ++ [] } =
      s.store.controllers := by
    obtain ⟨hi, rfl⟩ := List.getElem?_eq_some_iff.mp hc
    rw [List.append_nil]
    exact List.set_getElem_self hi
  rw [hsame]

theorem step_save {s t : NewsApp} {i : ℕ} (hst : Step mj s (.save i) t) :
    ∃ c, s.store.controllers[i]? = some c ∧
      t = { s with store.table := c.save s.store.table, saves := s.saves.erase i } := by
  simp only [Step, handle] at hst
  split_ifs at hst with hi
  obtain ⟨store, hstore, ht⟩ := Option.bind_eq_some_iff.mp hst
  obtain ⟨c, hc, rfl⟩ := NewsStore.saved_some hstore
  exact ⟨c, hc, (Option.some.inj ht).symm⟩

theorem step_read {s t : NewsApp} {i : ℕ} (hst : Step mj s (.read i) t) :
    i ∈ s.reads ∧ t = { s with reads := s.reads.erase i, shows := s.shows ++ [(i, s.store.table)] } := by
  simp only [Step, handle] at hst
  split_ifs at hst with hi
  exact ⟨hi, (Option.some.inj hst).symm⟩

theorem step_display {s t : NewsApp} (hst : Step mj s .display t) :
    ∃ i cacheData shows, s.shows = (i, cacheData) :: shows ∧
      (t = loadData i { s with shows } ∨
        ∃ c, s.store.controllers[i]? = some c ∧ t = { s with
          shows, store.controllers := s.store.controllers.set i (showCacheData cacheData c) }) := by
  simp only [Step, handle] at hst
  cases hshows : s.shows with
  | nil =>
    rw [hshows] at hst
    cases hst
  | cons entry shows =>
    obtain ⟨i, cacheData⟩ := entry
    rw [hshows] at hst
    simp only at hst
    refine ⟨i, cacheData, shows, rfl, ?_⟩
    split_ifs at hst with hempty
    · exact .inl (Option.some.inj hst).symm
    · obtain ⟨store, hstore, ht⟩ := Option.bind_eq_some_iff.mp hst
      obtain ⟨c, hc, rfl⟩ := NewsStore.shown_some hstore
      exact .inr ⟨c, hc, (Option.some.inj ht).symm⟩

theorem step_viewDidLoad {s t : NewsApp} {newsCategory : NSString}
    (hst : Step mj s (.viewDidLoad newsCategory) t) : t = s.viewDidLoad newsCategory :=
  (Option.some.inj hst).symm

def Event.pending : Event → Bool
  | .probe _ | .change _ | .deliver _ | .refresh _ => true
  | _ => false

theorem step_pending {s t : NewsApp} {e : Event} (hst : Step mj s e t) (he : e.pending = true) :
    ∃ manager requests, t = { s with manager, requests } ∧
      manager.networkReachabilityStatusBlock = s.manager.networkReachabilityStatusBlock := by
  cases e with
  | probe status =>
    obtain ⟨manager, rfl, hblock⟩ := step_probe hst
    exact ⟨manager, s.requests, rfl, hblock⟩
  | change status =>
    obtain ⟨manager, rfl, hblock⟩ := step_change hst
    exact ⟨manager, s.requests, rfl, hblock⟩
  | deliver status =>
    obtain ⟨manager, rfl, hblock⟩ := step_deliver hst
    exact ⟨manager, _, rfl, hblock⟩
  | refresh i =>
    rw [step_refresh hst]
    exact ⟨s.manager, _, rfl, rfl⟩
  | _ => cases he

theorem step_registered {s t : NewsApp} {e : Event} (hst : Step mj s e t)
    (hopen : ∀ newsCategory, e ≠ .viewDidLoad newsCategory) :
    t.manager.networkReachabilityStatusBlock = s.manager.networkReachabilityStatusBlock ∧
      t.store.controllers.length = s.store.controllers.length := by
  cases e with
  | viewDidLoad newsCategory => exact absurd rfl (hopen newsCategory)
  | probe | change | deliver | refresh =>
    obtain ⟨manager, requests, rfl, hblock⟩ := step_pending hst rfl
    exact ⟨hblock, rfl⟩
  | complete i completion =>
    obtain ⟨c, items, -, -, rfl⟩ := step_complete hst
    exact ⟨rfl, List.length_set ..⟩
  | save i =>
    obtain ⟨c, -, rfl⟩ := step_save hst
    exact ⟨rfl, rfl⟩
  | read i =>
    obtain ⟨-, rfl⟩ := step_read hst
    exact ⟨rfl, rfl⟩
  | display =>
    obtain ⟨i, cacheData, shows, -, rfl | ⟨c, -, rfl⟩⟩ := step_display hst
    · exact ⟨rfl, rfl⟩
    · exact ⟨rfl, List.length_set ..⟩

structure CacheUnread (s : NewsApp) : Prop where
  reads : s.reads = []
  shows : s.shows = []

theorem CacheUnread.step {s t : NewsApp} {e : Event} (h : CacheUnread s) (hst : Step mj s e t) :
    CacheUnread t := by
  cases e with
  | viewDidLoad newsCategory =>
    rw [step_viewDidLoad hst]
    exact ⟨h.reads, h.shows⟩
  | probe | change | deliver | refresh =>
    obtain ⟨manager, requests, rfl, -⟩ := step_pending hst rfl
    exact ⟨h.reads, h.shows⟩
  | complete i completion =>
    obtain ⟨c, items, -, -, rfl⟩ := step_complete hst
    exact ⟨h.reads, h.shows⟩
  | save i =>
    obtain ⟨c, -, rfl⟩ := step_save hst
    exact ⟨h.reads, h.shows⟩
  | read i =>
    obtain ⟨hi, -⟩ := step_read hst
    rw [h.reads] at hi
    cases hi
  | display =>
    obtain ⟨i, cacheData, shows, hshows, -⟩ := step_display hst
    rw [h.shows] at hshows
    cases hshows

theorem cache_never_read {table : List NewsModel} {tr : List (Event × NewsApp)}
    (htr : Trace (Step mj) (launch table) tr) : Always CacheUnread (launch table) tr :=
  htr.always (fun _ _ _ h hst => h.step hst) ⟨rfl, rfl⟩

end NewsApp

end MixedProject
