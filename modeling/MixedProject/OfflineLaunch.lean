import MixedProject.NewsRows

namespace MixedProject.NewsApp

open Traces NewsViewController

variable {mj : MJExtension}

def Reachable : AFNetworkReachabilityStatus → Prop
  | .reachableViaWWAN => True
  | .reachableViaWiFi => True
  | _ => False

def opened (newsCategory : NSString) (table : List NewsModel) : NewsApp :=
  (launch table).viewDidLoad newsCategory

def displayed (s : NewsApp) : List NewsModel :=
  s.store.controllers[0]?.elim [] NewsViewController.dataArray

structure Settled (s : NewsApp) : Prop where
  probes : s.manager.probes = 0
  posted : s.manager.posted = []
  requests : s.requests = []
  saves : s.saves = []
  reads : s.reads = []
  shows : s.shows = []

def SoloStep (mj : MJExtension) (s : NewsApp) (e : Event) (t : NewsApp) : Prop :=
  Step mj s e t ∧ ∀ newsCategory, e ≠ .viewDidLoad newsCategory

def LoadsAndSaves (mj : MJExtension) (newsCategory : NSString) (rows : List NewsModel)
    (events : List Event) : Prop :=
  rows ≠ [] ∧ ∃ responseObject before between after,
    newsItems mj newsCategory responseObject = .ok rows ∧
    events = before ++ .complete 0 (.success responseObject) :: between ++ .save 0 :: after

def relaunched (newsCategory : NSString) (first : List (Event × NewsApp)) : NewsApp :=
  opened newsCategory (last (opened newsCategory []) first).store.table

structure Relaunch (mj : MJExtension) (newsCategory : NSString) (rows : List NewsModel)
    (first second : List (Event × NewsApp)) : Prop where
  firstRun : Trace (SoloStep mj) (opened newsCategory []) first
  saved : LoadsAndSaves mj newsCategory rows (first.map Prod.fst)
  secondRun : Trace (SoloStep mj) (relaunched newsCategory first) second
  settled : Settled (last (relaunched newsCategory first) second)

def Dispatched (s : NewsApp) (e : Event) (t : NewsApp) : Prop :=
  ∀ status, e = .deliver status →
    (Reachable status → t.requests = s.requests ++ [0] ∧ t.reads = s.reads) ∧
    (¬ Reachable status → t.reads = s.reads ++ [0] ∧ t.requests = s.requests)

def Offline (events : List Event) : Prop :=
  (∀ status, .deliver status ∈ events → ¬ Reachable status) ∧
    ∀ i completion, .complete i completion ∈ events → completion = .failure

structure Alone (s : NewsApp) : Prop extends CacheUnread s where
  block : s.manager.networkReachabilityStatusBlock = some 0

theorem Alone.step {s t : NewsApp} {e : Event} (h : Alone s) (hsolo : SoloStep mj s e t) :
    Alone t := by
  obtain ⟨hst, hopen⟩ := hsolo
  have hblock := (step_registered hst hopen).1
  exact ⟨h.toCacheUnread.step hst, hblock.trans h.block⟩

theorem alone_opened (newsCategory : NSString) (table : List NewsModel) :
    Alone (opened newsCategory table) := ⟨⟨rfl, rfl⟩, rfl⟩

theorem dispatched_iff {s t : NewsApp} {e : Event} (h : Alone s) (hsolo : SoloStep mj s e t) :
    Dispatched s e t ↔ ∀ status, e = .deliver status → Reachable status := by
  obtain ⟨hst, -⟩ := hsolo
  constructor
  · rintro hd status rfl
    by_contra hun
    obtain ⟨hreads, -⟩ := (hd status rfl).2 hun
    obtain ⟨manager, rfl, -⟩ := step_deliver hst
    have hlen := congrArg List.length hreads
    simp at hlen
  · rintro hreach status rfl
    obtain ⟨manager, rfl, -⟩ := step_deliver hst
    constructor
    · intro _
      simp [h.block]
    · intro hun
      exact absurd (hreach status rfl) hun

theorem received_offline {newsCategory : NSString} {events : List Event} (hoff : Offline events)
    (i : ℕ) : events.flatMap (received mj newsCategory i) = [] := by
  rw [List.flatMap_eq_nil_iff]
  intro e he
  cases e with
  | complete j completion =>
    rw [hoff.2 j completion he, received, HttpTool.responseObject, newsItems_nil]
    exact ite_self []
  | _ => rfl

theorem offline_shows_nothing {newsCategory : NSString} {table : List NewsModel}
    {tr : List (Event × NewsApp)} (htr : Trace (SoloStep mj) (opened newsCategory table) tr)
    (hoff : Offline (tr.map Prod.fst)) : displayed (last (opened newsCategory table) tr) = [] := by
  have hrun : Trace (Step mj) (opened newsCategory table) tr := htr.mono fun _ _ _ hst => hst.1
  have hrows := rows_accumulate (alone_opened newsCategory table).toCacheUnread hrun
    (i := 0) (c := { newsCategory }) rfl
  rw [received_offline hoff] at hrows
  rw [displayed, hrows]
  rfl

theorem steps_dispatched_iff {newsCategory : NSString} {table : List NewsModel}
    {tr : List (Event × NewsApp)} (htr : Trace (SoloStep mj) (opened newsCategory table) tr) :
    Steps Dispatched (opened newsCategory table) tr ↔
      ∀ status, .deliver status ∈ tr.map Prod.fst → Reachable status := by
  have hsteps : Steps Dispatched (opened newsCategory table) tr ↔
      Steps (fun _ e _ => ∀ status, e = .deliver status → Reachable status)
        (opened newsCategory table) tr := by
    apply htr.steps_iff (I := Alone) _ _ (alone_opened newsCategory table)
    · intro s e t hs hst hreach
      exact ⟨hs.step hst, (dispatched_iff hs hst).mpr hreach⟩
    · intro s e t hs hst hd
      exact (dispatched_iff hs hst).mp hd
  rw [hsteps, steps_events]
  constructor
  · intro h status hmem
    exact h _ hmem status rfl
  · rintro h e he status rfl
    exact h status he

theorem offline_launch_iff (mj : MJExtension) (newsCategory : NSString) (rows : List NewsModel)
    {first second : List (Event × NewsApp)} (h : Relaunch mj newsCategory rows first second) :
    (Steps Dispatched (relaunched newsCategory first) second ↔
      ∀ status, .deliver status ∈ second.map Prod.fst → Reachable status) ∧
    (Offline (second.map Prod.fst) →
      displayed (last (relaunched newsCategory first) second) = [] ∧
        displayed (last (relaunched newsCategory first) second) ≠ rows) := by
  refine ⟨steps_dispatched_iff h.secondRun, ?_⟩
  intro hoff
  have hnothing : displayed (last (relaunched newsCategory first) second) = [] :=
    offline_shows_nothing h.secondRun hoff
  refine ⟨hnothing, ?_⟩
  rw [hnothing]
  exact h.saved.1.symm

def soloHandle (mj : MJExtension) (s : NewsApp) : Event → Option NewsApp
  | .viewDidLoad _ => none
  | e => handle mj s e

theorem trace_soloHandle (s : NewsApp) (events : List Event) :
    Trace (SoloStep mj) s (run (soloHandle mj) s events) := by
  apply trace_run
  intro s e t ht
  cases e with
  | viewDidLoad newsCategory => cases ht
  | _ => exact ⟨ht, by simp⟩

def morning : List Event :=
  [.probe (some .reachableViaWiFi), .deliver .reachableViaWiFi,
    .complete 0 (.success (response "dy" [article "a"])), .save 0]

def firstLaunch : List (Event × NewsApp) := run (soloHandle plain) (opened (ns "dy") []) morning

def flight : List Event :=
  [.probe (some .notReachable), .deliver .notReachable, .complete 0 .failure, .save 0]

def secondLaunch (events : List Event) : List (Event × NewsApp) :=
  run (soloHandle plain) (relaunched (ns "dy") firstLaunch) events

theorem firstLaunch_saves :
    LoadsAndSaves plain (ns "dy") ([article "a"].map (NewsModel.setKeyValues plain))
      (firstLaunch.map Prod.fst) := by
  refine ⟨by simp, _, [.probe (some .reachableViaWiFi), .deliver .reachableViaWiFi], [], [],
    (payload_response "dy" [article "a"]).newsItems, ?_⟩
  decide +kernel

theorem relaunch_second {events : List Event}
    (hsettled : Settled (last (relaunched (ns "dy") firstLaunch) (secondLaunch events))) :
    Relaunch plain (ns "dy") ([article "a"].map (NewsModel.setKeyValues plain)) firstLaunch
      (secondLaunch events) :=
  ⟨trace_soloHandle _ _, firstLaunch_saves, trace_soloHandle _ _, hsettled⟩

theorem settled_morning :
    Settled (last (relaunched (ns "dy") firstLaunch) (secondLaunch morning)) := by
  constructor <;> decide +kernel

theorem settled_flight :
    Settled (last (relaunched (ns "dy") firstLaunch) (secondLaunch flight)) := by
  constructor <;> decide +kernel

theorem morning_reachable (status : AFNetworkReachabilityStatus)
    (hmem : .deliver status ∈ (secondLaunch morning).map Prod.fst) : Reachable status := by
  have hevents : (secondLaunch morning).map Prod.fst = morning := by decide +kernel
  rw [hevents] at hmem
  simp only [morning, List.mem_cons, reduceCtorEq, Event.deliver.injEq, List.not_mem_nil, or_false,
    false_or] at hmem
  rw [hmem]
  trivial

theorem flight_offline : Offline ((secondLaunch flight).map Prod.fst) := by
  have hevents : (secondLaunch flight).map Prod.fst = flight := by decide +kernel
  rw [hevents]
  constructor
  · intro status hmem
    simp only [flight, List.mem_cons, reduceCtorEq, Event.deliver.injEq, List.not_mem_nil, or_false,
      false_or] at hmem
    rw [hmem]
    exact id
  · intro i completion hmem
    simp only [flight, List.mem_cons, reduceCtorEq, Event.complete.injEq, List.not_mem_nil, or_false,
      false_or] at hmem
    exact hmem.2

theorem morning_dispatched_flight_empty :
    Steps Dispatched (relaunched (ns "dy") firstLaunch) (secondLaunch morning) ∧
      displayed (last (relaunched (ns "dy") firstLaunch) (secondLaunch flight)) = [] := by
  constructor
  · have hmorning := offline_launch_iff plain _ _ (relaunch_second settled_morning)
    exact hmorning.1.mpr morning_reachable
  · have hflight := offline_launch_iff plain _ _ (relaunch_second settled_flight)
    exact (hflight.2 flight_offline).1

theorem offline_launch_is_empty :
    ¬ ∀ (mj : MJExtension) (newsCategory : NSString) (rows : List NewsModel)
      (first second : List (Event × NewsApp)), Relaunch mj newsCategory rows first second →
      Steps Dispatched (relaunched newsCategory first) second ∧
        (Offline (second.map Prod.fst) →
          displayed (last (relaunched newsCategory first) second) = rows) := by
  intro h
  obtain ⟨-, hshown⟩ := h plain (ns "dy") _ _ _ (relaunch_second settled_flight)
  have hrows := hshown flight_offline
  revert hrows
  decide +kernel

end MixedProject.NewsApp
