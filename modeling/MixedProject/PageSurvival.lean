import MixedProject.PageCaches

namespace MixedProject.WMPageController

open Traces

variable {keeps : NSCacheKeeps} {callsBack : Bool} {c d : WMPageController} {i : ℤ}
  {vc : ChildViewController}

structure Holds (i : ℤ) (vc : ChildViewController) (c : WMPageController) : Prop where
  kept : c.displayVC i = some vc ∨ c.memCache.objectForKey i = some vc
  shown : ∀ other, c.displayVC i = some other → other = vc
  cached : ∀ other, c.memCache.objectForKey i = some other → other = vc
  background : ∀ other, c.backgroundCache i = some other → other = vc

structure Secure (i : ℤ) (vc : ChildViewController) (c : WMPageController) : Prop
    extends Holds i vc c where
  policy : c.cachePolicy ≠ .disabled

def Spares (i : ℤ) (keeps : NSCacheKeeps) : Prop := ∀ limit objects, keeps limit objects i = true

theorem setObject_other (hspares : Spares i keeps) {object : ChildViewController} {key : ℤ}
    (hkey : i ≠ key) (cache : NSCache) :
    (cache.setObject keeps object key).objectForKey i = cache.objectForKey i := by
  unfold NSCache.setObject
  dsimp only
  rw [if_pos (hspares _ _), Function.update_of_ne hkey]

theorem setObject_self (hspares : Spares i keeps) (object : ChildViewController) (cache : NSCache) :
    (cache.setObject keeps object i).objectForKey i = some object := by
  unfold NSCache.setObject
  dsimp only
  rw [if_pos (hspares _ _), Function.update_self]

structure SamePage (i : ℤ) (c d : WMPageController) : Prop where
  shown : d.displayVC i = c.displayVC i
  cached : d.memCache.objectForKey i = c.memCache.objectForKey i
  background : d.backgroundCache i = c.backgroundCache i
  policy : d.cachePolicy = c.cachePolicy

theorem Secure.samePage (h : Secure i vc c) (hsame : SamePage i c d) : Secure i vc d := by
  constructor
  · constructor
    · rw [hsame.shown, hsame.cached]
      exact h.kept
    · rw [hsame.shown]
      exact h.shown
    · rw [hsame.cached]
      exact h.cached
    · rw [hsame.background]
      exact h.background
  · rw [hsame.policy]
    exact h.policy

theorem Secure.add (h : Secure i vc c) {index : ℤ} (hshown : c.displayVC index = none)
    (hcached : c.memCache.objectForKey index = none) :
    Secure i vc (c.wmAddViewControllerAtIndex index) := by
  have hne : i ≠ index := by
    rintro rfl
    rcases h.kept with hkept | hkept
    · exact Option.some_ne_none vc (hkept.symm.trans hshown)
    · exact Option.some_ne_none vc (hkept.symm.trans hcached)
  exact h.samePage ⟨Function.update_of_ne hne _ _, rfl, rfl, rfl⟩

theorem Secure.initialized (h : Secure i vc c) {index : ℤ} (hshown : c.displayVC index = none) :
    Secure i vc (c.wmInitializedControllerWithIndexIfNeeded index) := by
  unfold wmInitializedControllerWithIndexIfNeeded
  split
  · rename_i other hother
    by_cases hi : i = index
    · subst hi
      have hsame : other = vc := h.cached other hother
      subst hsame
      have hnow : Function.update c.displayVC i (some other) i = some other :=
        Function.update_self i _ _
      refine ⟨⟨.inl hnow, ?_, h.cached, h.background⟩, h.policy⟩
      intro third hthird
      exact Option.some.inj (hthird.symm.trans hnow)
    · exact h.samePage ⟨Function.update_of_ne hi _ _, rfl, rfl, rfl⟩
  · rename_i hcached
    exact h.add hshown hcached

theorem Secure.remove (h : Secure i vc c) (hspares : Spares i keeps) {other : ChildViewController}
    {index : ℤ} (hother : c.displayVC index = some other) :
    Secure i vc (c.wmRemoveViewController keeps other index) := by
  unfold wmRemoveViewController
  dsimp only
  rw [if_neg (show (c.setDisplayVC none index).cachePolicy ≠ .disabled from h.policy)]
  by_cases hi : i = index
  · subst hi
    have hsame : other = vc := h.shown other hother
    subst hsame
    have hgone : ∀ third, Function.update c.displayVC i none i = some third → third = other := by
      intro third hthird
      rw [Function.update_self] at hthird
      cases hthird
    split
    · have hnow := setObject_self hspares other c.memCache
      refine ⟨⟨.inr hnow, hgone, ?_, h.background⟩, h.policy⟩
      intro third hthird
      exact Option.some.inj (hthird.symm.trans hnow)
    · rename_i hcached
      obtain ⟨third, hthird⟩ := Option.ne_none_iff_exists'.mp hcached
      have hsame := h.cached third hthird
      subst hsame
      exact ⟨⟨.inr hthird, hgone, h.cached, h.background⟩, h.policy⟩
  · have hshown : Function.update c.displayVC index none i = c.displayVC i :=
      Function.update_of_ne hi _ _
    split
    · exact h.samePage ⟨hshown, setObject_other hspares hi _, rfl, rfl⟩
    · exact h.samePage ⟨hshown, rfl, rfl, rfl⟩

theorem Secure.layout (h : Secure i vc c) (hspares : Spares i keeps) :
    Secure i vc (c.wmLayoutChildViewControllers keeps) := by
  unfold wmLayoutChildViewControllers
  apply List.foldlRecOn _ _ h
  intro d hd page _
  unfold layoutChildViewController
  split
  · rename_i hnone
    split
    · exact hd.initialized hnone
    · exact hd
  · rename_i other hother
    split_ifs
    · exact hd.remove hspares hother
    · exact hd
    · exact hd

theorem Secure.didEnter (h : Secure i vc c) (index : ℤ) :
    Secure i vc (c.didEnterController index) := by
  unfold didEnterController
  split_ifs
  · exact h
  · exact h
  · dsimp only
    refine Secure.samePage (List.foldlRecOn _ _ h ?_) ⟨rfl, rfl, rfl, rfl⟩
    intro d hd page _
    unfold preloadChildViewController
    split
    · rename_i hfree
      exact hd.add hfree.2 hfree.1
    · exact hd

theorem Secure.slide (h : Secure i vc c) : Secure i vc c.slide := by
  unfold WMPageController.slide
  split
  · exact h.samePage ⟨rfl, rfl, rfl, rfl⟩
  · exact h

theorem Secure.didScroll (h : Secure i vc c) (hspares : Spares i keeps) :
    Secure i vc (c.didScroll keeps) := by
  unfold WMPageController.didScroll
  split
  · exact h
  · exact (h.layout hspares).slide

theorem Secure.setContentOffset (h : Secure i vc c) (x y : CGFloat) :
    Secure i vc (c.setContentOffset x y) := h.samePage ⟨rfl, rfl, rfl, rfl⟩

theorem Secure.showCurrent (h : Secure i vc c) : Secure i vc c.showCurrent :=
  h.samePage ⟨rfl, rfl, rfl, rfl⟩

theorem Secure.scrollViewDidScroll (h : Secure i vc c) (hspares : Spares i keeps) :
    Secure i vc (c.scrollViewDidScroll keeps) := by
  unfold WMPageController.scrollViewDidScroll
  dsimp only
  split_ifs
  · exact h
  · exact h.didScroll hspares
  · exact ((h.didScroll hspares).setContentOffset _ _).didScroll hspares

theorem Secure.jumpTo (h : Secure i vc c) (hspares : Spares i keeps) (callsBack : Bool)
    (x : CGFloat) :
    Secure i vc (c.jumpTo keeps callsBack x) := by
  unfold WMPageController.jumpTo
  dsimp only
  split
  · exact (h.setContentOffset x 0).scrollViewDidScroll hspares
  · exact h.setContentOffset x 0

theorem Secure.removeCurrent (h : Secure i vc c) (hspares : Spares i keeps) (currentIndex : ℤ) :
    Secure i vc (c.removeCurrent keeps currentIndex) := by
  unfold WMPageController.removeCurrent
  split
  · rename_i other hother
    exact h.remove hspares hother
  · exact h

theorem Secure.didSelesctedIndex (h : Secure i vc c) (hspares : Spares i keeps)
    (index currentIndex : ℤ) :
    Secure i vc (c.didSelesctedIndex keeps callsBack index currentIndex) := by
  have hset : Secure i vc ((c.assignSelectIndex index).setStartDragging false) :=
    h.samePage ⟨rfl, rfl, rfl, rfl⟩
  unfold WMPageController.didSelesctedIndex
  dsimp only
  split_ifs
  · exact h
  · exact hset
  · have hremoved := (hset.jumpTo hspares callsBack (c.viewWidth * index)).removeCurrent hspares
      currentIndex
    exact (hremoved.layout hspares).showCurrent.didEnter index

theorem Secure.updateMenuView (h : Secure i vc c) (f : WMMenuView → WMMenuView) :
    Secure i vc (c.updateMenuView f) := h.samePage ⟨rfl, rfl, rfl, rfl⟩

theorem Secure.selectItemAtIndex (h : Secure i vc c) (hspares : Spares i keeps) (index : ℤ) :
    Secure i vc (c.selectItemAtIndex keeps callsBack index) := by
  unfold WMPageController.selectItemAtIndex
  split
  · exact h
  · split
    · exact h
    · exact ((h.updateMenuView _).didSelesctedIndex hspares index _).updateMenuView _

theorem Secure.didPressedMenuItem (h : Secure i vc c) (hspares : Spares i keeps) (index : ℤ) :
    Secure i vc (c.didPressedMenuItem keeps callsBack index) := by
  unfold WMPageController.didPressedMenuItem
  split
  · exact h
  · split
    · exact h
    · exact ((h.updateMenuView _).didSelesctedIndex hspares index _).updateMenuView _

theorem Secure.setSelectIndex (h : Secure i vc c) (hspares : Spares i keeps) (index : ℤ) :
    Secure i vc (c.setSelectIndex keeps callsBack index) := by
  have hset : Secure i vc ((c.assignSelectIndex index).setMarkedSelectIndex (-1)) :=
    h.samePage ⟨rfl, rfl, rfl, rfl⟩
  unfold WMPageController.setSelectIndex
  dsimp only
  split
  · exact hset.selectItemAtIndex hspares index
  · exact h.samePage ⟨rfl, rfl, rfl, rfl⟩

theorem Secure.viewDidLayoutSubviews (h : Secure i vc c) (hspares : Spares i keeps)
    (sameBounds : Bool) (width : CGFloat) :
    Secure i vc (c.viewDidLayoutSubviews keeps callsBack sameBounds width) := by
  have hlaid : Secure i vc
      ((c.wmCalculateSize width).wmAdjustScrollViewFrame.wmAdjustMenuViewFrame.setHasInited true) :=
    h.samePage ⟨rfl, rfl, rfl, rfl⟩
  unfold WMPageController.viewDidLayoutSubviews wmDelaySelectIndexIfNeeded
  dsimp only
  split_ifs
  · exact h
  · exact h
  · exact hlaid.setSelectIndex hspares _
  · exact hlaid

theorem Secure.lose (h : Secure i vc c) (hshown : c.displayVC i ≠ none)
    (hd : d.displayVC i = c.displayVC i) (hcached : d.memCache.objectForKey i = none)
    (hbackground : d.backgroundCache i = c.backgroundCache i) (hpolicy : d.cachePolicy ≠ .disabled) :
    Secure i vc d := by
  obtain ⟨other, hother⟩ := Option.ne_none_iff_exists'.mp hshown
  have hsame := h.shown other hother
  subst hsame
  constructor
  · constructor
    · rw [hd]
      exact .inl hother
    · rw [hd]
      exact h.shown
    · intro third hthird
      rw [hcached] at hthird
      cases hthird
    · rw [hbackground]
      exact h.background
  · exact hpolicy

theorem Secure.perform (h : Secure i vc c) (request : CacheGrowth × CGFloat) :
    Secure i vc (c.perform request) := by
  obtain ⟨growth, due⟩ := request
  cases growth with
  | afterMemoryWarning =>
    exact ⟨⟨h.kept, h.shown, h.cached, h.background⟩, WMPageControllerCachePolicy.noConfusion⟩
  | toHigh =>
    exact ⟨⟨h.kept, h.shown, h.cached, h.background⟩, WMPageControllerCachePolicy.noConfusion⟩

theorem Secure.willResignActive (h : Secure i vc c) : Secure i vc c.willResignActive := by
  refine ⟨⟨h.kept, h.shown, h.cached, ?_⟩, h.policy⟩
  intro other hother
  unfold WMPageController.willResignActive at hother
  dsimp only at hother
  split at hother
  · split at hother
    · rename_i cached hcached
      cases hother
      exact h.cached _ hcached
    · exact h.background other hother
  · exact h.background other hother

theorem Secure.restoreFromBackground (h : Secure i vc c) (hspares : Spares i keeps) (key : ℤ) :
    Secure i vc (c.restoreFromBackground keeps key) := by
  unfold WMPageController.restoreFromBackground
  split
  · rename_i other hother
    split
    · by_cases hi : i = key
      · subst hi
        have hsame := h.background other hother
        subst hsame
        have hnow := setObject_self hspares other c.memCache
        refine ⟨⟨.inr hnow, h.shown, ?_, h.background⟩, h.policy⟩
        intro third hthird
        exact Option.some.inj (hthird.symm.trans hnow)
      · exact h.samePage ⟨rfl, setObject_other hspares hi _, rfl, rfl⟩
    · exact h
  · exact h

theorem Secure.willEnterForeground (h : Secure i vc c) (hspares : Spares i keeps) (keys : List ℤ) :
    Secure i vc (c.willEnterForeground keeps keys) := by
  have hloop : Secure i vc (keys.foldl (WMPageController.restoreFromBackground keeps) c) :=
    List.foldlRecOn keys _ h fun _ hd key _ => hd.restoreFromBackground hspares key
  refine ⟨⟨hloop.kept, hloop.shown, hloop.cached, ?_⟩, hloop.policy⟩
  intro other hother
  cases hother

/-- A step at which nothing takes the controller of page `i` away. -/
def SparingStep (i : ℤ) (c : WMPageController) (event : Event) (d : WMPageController) : Prop :=
  c.Permitted event ∧ (∃ keeps callsBack, Spares i keeps ∧ d = c.handle keeps callsBack event) ∧
    match event with
    | .reload _ _ => False
    | .memoryWarning => c.displayVC i ≠ none
    | .evict key => key = i → c.displayVC i ≠ none
    | _ => True

theorem Secure.step {event : Event} (h : Secure i vc c) (hstep : SparingStep i c event d) :
    Secure i vc d := by
  obtain ⟨_, ⟨keeps, callsBack, hspares, rfl⟩, hsparing⟩ := hstep
  cases event with
  | scroll x y =>
    exact (h.setContentOffset x y).scrollViewDidScroll hspares
  | willBeginDragging => exact h.samePage ⟨rfl, rfl, rfl, rfl⟩
  | willEndDragging target => exact h.samePage ⟨rfl, rfl, rfl, rfl⟩
  | didEndDragging decelerate =>
    cases decelerate with
    | false => exact h.updateMenuView _
    | true => exact h
  | didEndDecelerating =>
    refine Secure.updateMenuView (Secure.didEnter ?_ _) _
    exact h.samePage ⟨rfl, rfl, rfl, rfl⟩
  | didEndScrollingAnimation =>
    refine Secure.updateMenuView (Secure.didEnter ?_ _) _
    exact h.samePage ⟨rfl, rfl, rfl, rfl⟩
  | press index => exact h.didPressedMenuItem hspares index
  | setSelectIndex index => exact h.setSelectIndex hspares index
  | refreshMenu => exact h.updateMenuView _
  | screenFrame => exact h.updateMenuView _
  | layout sameBounds width => exact h.viewDidLayoutSubviews hspares sameBounds width
  | forceLayout width =>
    have hset : Secure i vc (c.setHasInited false) := h.samePage ⟨rfl, rfl, rfl, rfl⟩
    exact hset.viewDidLayoutSubviews hspares false width
  | appear =>
    rw [handle, viewDidAppear]
    split
    · exact h
    · exact h.didEnter _
  | reload count width => exact hsparing.elim
  | memoryWarning =>
    have hshrunk : Secure i vc c.shrinkCache := by
      apply h.lose hsparing
      · rfl
      · rfl
      · rfl
      · exact WMPageControllerCachePolicy.noConfusion
    unfold handle didReceiveMemoryWarning
    dsimp only
    split
    · exact hshrunk.samePage ⟨rfl, rfl, rfl, rfl⟩
    · exact hshrunk
  | wait duration => exact h.samePage ⟨rfl, rfl, rfl, rfl⟩
  | performRequest request => exact h.perform request
  | evict key =>
    by_cases hkey : i = key
    · subst hkey
      exact h.lose (hsparing rfl) rfl (Function.update_self i _ _) rfl h.policy
    · exact h.samePage ⟨rfl, Function.update_of_ne hkey _ _, rfl, rfl⟩
  | resignActive => exact h.willResignActive
  | enterForeground keys => exact h.willEnterForeground hspares keys

theorem CacheState.next_policy {s : CacheState} (h : s.cachePolicy ≠ .disabled) (event : Event) :
    (s.next event).cachePolicy ≠ .disabled := by
  cases event with
  | memoryWarning =>
    unfold CacheState.next CacheState.warn
    dsimp only
    split
    · exact WMPageControllerCachePolicy.noConfusion
    · exact WMPageControllerCachePolicy.noConfusion
  | performRequest request =>
    obtain ⟨growth, due⟩ := request
    cases growth with
    | afterMemoryWarning => exact WMPageControllerCachePolicy.noConfusion
    | toHigh => exact WMPageControllerCachePolicy.noConfusion
  | _ => exact h

theorem viewDidLoad_cacheState (width : CGFloat) (c : WMPageController) :
    (c.viewDidLoad width).cacheState = c.cacheState := by
  unfold viewDidLoad
  split
  · rfl
  · rfl

theorem run_caches {width : CGFloat} {tr : List (Event × WMPageController)}
    (hpolicy : c.cachePolicy ≠ .disabled) (htr : Trace Step (c.viewDidLoad width) tr) :
    (last (c.viewDidLoad width) tr).cachePolicy ≠ .disabled := by
  have hstart : (c.viewDidLoad width).cacheState.cachePolicy ≠ .disabled := by
    rw [viewDidLoad_cacheState]
    exact hpolicy
  have hrun : Always (fun d => d.cacheState.cachePolicy ≠ .disabled) (c.viewDidLoad width) tr := by
    apply htr.always _ hstart
    rintro d event e hd ⟨_, keeps, callsBack, rfl⟩
    rw [handle_cacheState]
    exact CacheState.next_policy hd event
  exact hrun.last

def twoPagesPressed : WMPageController := twoPagesLaid.handle keepAll false (.press 1)

theorem twoPages_press_permitted : twoPagesLaid.Permitted (.press 1) := by
  refine ⟨by decide, rfl, Option.map_eq_some_iff.mp ?_⟩
  decide +kernel

theorem twoPages_holds : Holds 0 ⟨0, 0⟩ twoPagesLaid := by
  refine ⟨.inl rfl, ?_, ?_, ?_⟩
  · intro other hother
    exact (Option.some.inj hother).symm
  · intro other hother
    cases hother
  · intro other hother
    cases hother

end MixedProject.WMPageController
