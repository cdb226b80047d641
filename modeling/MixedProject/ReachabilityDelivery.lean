import MixedProject.NewsApp

namespace MixedProject.NewsApp

open Traces

variable {mj : MJExtension}

/-- How often the completion of controller `i` has asked for rows: it does so once a call. -/
def triggers (s : NewsApp) (i : ℕ) : ℕ := s.requests.count i + s.reads.count i

def NotifiedOnce (s : NewsApp) (e : Event) (t : NewsApp) : Prop :=
  ∀ status, e = .deliver status → ∀ i < s.store.controllers.length,
    t.triggers i = s.triggers i + 1 ∧ t.requests.count i = s.requests.count i + 1

def SoleController (s : NewsApp) (e : Event) : Prop :=
  ∀ status, e = .deliver status → s.store.controllers.length ≤ 1

def LatestRegistered (s : NewsApp) : Prop :=
  ∀ i, s.manager.networkReachabilityStatusBlock = some i ↔ i + 1 = s.store.controllers.length

theorem LatestRegistered.step {s t : NewsApp} {e : Event} (h : LatestRegistered s)
    (hst : Step mj s e t) : LatestRegistered t := by
  intro i
  by_cases hopen : ∃ newsCategory, e = .viewDidLoad newsCategory
  · obtain ⟨newsCategory, rfl⟩ := hopen
    rw [step_viewDidLoad hst]
    simp only [viewDidLoad, HttpTool.getReachabilityStatus,
      AFNetworkReachabilityManager.setReachabilityStatusChangeBlock,
      AFNetworkReachabilityManager.startMonitoring, Option.some.injEq, List.length_append,
      List.length_singleton]
    omega
  · obtain ⟨hblock, hlen⟩ := step_registered hst fun newsCategory he => hopen ⟨newsCategory, he⟩
    rw [hblock, hlen]
    exact h i

theorem notified_of_sole {s t : NewsApp} {e : Event} (h : LatestRegistered s)
    (hst : Step mj s e t) (hsole : SoleController s e) : NotifiedOnce s e t := by
  rintro status rfl i hi
  obtain ⟨manager, rfl, -⟩ := step_deliver hst
  have hlen := hsole status rfl
  have hblock : s.manager.networkReachabilityStatusBlock = some i := (h i).mpr (by omega)
  have hcount : (s.requests ++ s.manager.networkReachabilityStatusBlock.toList).count i =
      s.requests.count i + 1 := by
    rw [hblock, List.count_append]
    simp
  refine ⟨?_, hcount⟩
  simp only [triggers, hcount]
  omega

theorem sole_of_notified {s t : NewsApp} {e : Event} (h : LatestRegistered s)
    (hst : Step mj s e t) (hnotified : NotifiedOnce s e t) : SoleController s e := by
  rintro status rfl
  by_contra hmany
  have hfirst : 0 < s.store.controllers.length := by omega
  have hcount := (hnotified status rfl 0 hfirst).2
  obtain ⟨manager, rfl, -⟩ := step_deliver hst
  have hother : s.manager.networkReachabilityStatusBlock ≠ some 0 := by
    intro hblock
    have hlen := (h 0).mp hblock
    omega
  have hdeaf : s.manager.networkReachabilityStatusBlock.toList.count 0 = 0 := by
    cases hblock : s.manager.networkReachabilityStatusBlock with
    | none => rfl
    | some i =>
      have hi : i ≠ 0 := by
        rintro rfl
        exact hother hblock
      simp [hi]
  rw [List.count_append, hdeaf] at hcount
  omega

theorem latestRegistered_launch (table : List NewsModel) : LatestRegistered (launch table) := by
  intro i
  simp [launch]

theorem all_notified_iff (mj : MJExtension) (table : List NewsModel) {tr : List (Event × NewsApp)}
    (htr : Trace (Step mj) (launch table) tr) :
    Steps NotifiedOnce (launch table) tr ↔ Steps (fun s e _ => SoleController s e) (launch table) tr := by
  apply htr.steps_iff (I := LatestRegistered) _ _ (latestRegistered_launch table)
  · intro s e t hs hst hsole
    exact ⟨hs.step hst, notified_of_sole hs hst hsole⟩
  · intro s e t hs hst hnotified
    exact sole_of_notified hs hst hnotified

theorem single_controller_notified :
    Steps NotifiedOnce (launch []) (run (handle NewsViewController.plain) (launch [])
      [.viewDidLoad (ns "dy"), .probe (some .reachableViaWiFi), .deliver .reachableViaWiFi]) := by
  apply (all_notified_iff NewsViewController.plain [] (trace_run (fun _ _ _ ht => ht) _ _)).mpr
  refine ⟨?_, ?_, ?_, trivial⟩
  · intro status he
    cases he
  · intro status he
    cases he
  · intro status _
    decide

theorem first_controller_deaf :
    ¬ ∀ (mj : MJExtension) (table : List NewsModel) (tr : List (Event × NewsApp)),
      Trace (Step mj) (launch table) tr → Steps NotifiedOnce (launch table) tr := by
  intro h
  have htr : Trace (Step NewsViewController.plain) (launch [])
      (run (handle NewsViewController.plain) (launch []) [.viewDidLoad (ns "dy"),
        .viewDidLoad (ns "tech"), .probe (some .reachableViaWiFi), .deliver .reachableViaWiFi]) :=
    trace_run (fun _ _ _ ht => ht) _ _
  obtain ⟨-, -, -, hdeliver, -⟩ := h NewsViewController.plain [] _ htr
  have hfirst := (hdeliver .reachableViaWiFi rfl 0 (by decide +kernel)).2
  revert hfirst
  decide +kernel

end MixedProject.NewsApp
