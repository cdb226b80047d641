import MixedProject.KeyedLoops
import MixedProject.PageLifecycle

namespace MixedProject.WMPageController

open KeyedLoops RowLayout StepAnimation Traces

variable {keeps : NSCacheKeeps} {callsBack : Bool} {c d e : WMPageController}

/-- What decides how the cache grows back after memory warnings. -/
structure CacheState where
  cachePolicy : WMPageControllerCachePolicy
  countLimit : ℤ
  memoryWarningCount : ℕ
  performRequests : List (CacheGrowth × CGFloat)
  now : CGFloat

def cacheState (c : WMPageController) : CacheState :=
  ⟨c.cachePolicy, c.memCache.countLimit, c.memoryWarningCount, c.performRequests, c.now⟩

structure SameScreen (c d : WMPageController) : Prop where
  count : d.childControllersCount = c.childControllersCount
  viewWidth : d.viewWidth = c.viewWidth
  scrollView : d.scrollView = c.scrollView
  menuView : d.menuView = c.menuView
  hasInited : d.hasInited = c.hasInited
  shouldNotScroll : d.shouldNotScroll = c.shouldNotScroll
  startDragging : d.startDragging = c.startDragging
  pageAnimatable : d.pageAnimatable = c.pageAnimatable
  marked : d.markedSelectIndex = c.markedSelectIndex
  cacheState : d.cacheState = c.cacheState
  preloadPolicy : d.preloadPolicy = c.preloadPolicy
  backgroundCache : d.backgroundCache = c.backgroundCache
  currentViewController : d.currentViewController = c.currentViewController

theorem SameScreen.refl (c : WMPageController) : SameScreen c c :=
  ⟨rfl, rfl, rfl, rfl, rfl, rfl, rfl, rfl, rfl, rfl, rfl, rfl, rfl⟩

theorem SameScreen.trans (h : SameScreen c d) (h' : SameScreen d e) : SameScreen c e := by
  constructor
  · exact h'.count.trans h.count
  · exact h'.viewWidth.trans h.viewWidth
  · exact h'.scrollView.trans h.scrollView
  · exact h'.menuView.trans h.menuView
  · exact h'.hasInited.trans h.hasInited
  · exact h'.shouldNotScroll.trans h.shouldNotScroll
  · exact h'.startDragging.trans h.startDragging
  · exact h'.pageAnimatable.trans h.pageAnimatable
  · exact h'.marked.trans h.marked
  · exact h'.cacheState.trans h.cacheState
  · exact h'.preloadPolicy.trans h.preloadPolicy
  · exact h'.backgroundCache.trans h.backgroundCache
  · exact h'.currentViewController.trans h.currentViewController

theorem SameScreen.isInScreen (h : SameScreen c d) (i : ℤ) : d.isInScreen i = c.isInScreen i := by
  unfold WMPageController.isInScreen wmIsInScreen childViewFrame
  rw [h.viewWidth, h.scrollView]

theorem wmInitialized_same (index : ℤ) (c : WMPageController) :
    SameScreen c (c.wmInitializedControllerWithIndexIfNeeded index) := by
  unfold wmInitializedControllerWithIndexIfNeeded
  split
  · exact ⟨rfl, rfl, rfl, rfl, rfl, rfl, rfl, rfl, rfl, rfl, rfl, rfl, rfl⟩
  · exact ⟨rfl, rfl, rfl, rfl, rfl, rfl, rfl, rfl, rfl, rfl, rfl, rfl, rfl⟩

theorem wmRemove_same (keeps : NSCacheKeeps) (vc : ChildViewController) (index : ℤ)
    (c : WMPageController) : SameScreen c (c.wmRemoveViewController keeps vc index) := by
  unfold wmRemoveViewController
  dsimp only
  split_ifs
  all_goals exact ⟨rfl, rfl, rfl, rfl, rfl, rfl, rfl, rfl, rfl, rfl, rfl, rfl, rfl⟩

theorem layoutChild_same (keeps : NSCacheKeeps) (left right : ℤ) (c : WMPageController) (i : ℕ) :
    SameScreen c (c.layoutChildViewController keeps left right i) := by
  unfold layoutChildViewController
  split
  · split
    · exact wmInitialized_same _ _
    · exact .refl c
  · split_ifs
    · exact wmRemove_same _ _ _ _
    · exact .refl c
    · exact .refl c

theorem preloadChild_same (c : WMPageController) (i : ℤ) :
    SameScreen c (c.preloadChildViewController i) := by
  unfold preloadChildViewController
  split
  · exact ⟨rfl, rfl, rfl, rfl, rfl, rfl, rfl, rfl, rfl, rfl, rfl, rfl, rfl⟩
  · exact .refl c

theorem wmInitialized_displayVC (index : ℤ) (c : WMPageController) :
    ∃ vc, (c.wmInitializedControllerWithIndexIfNeeded index).displayVC =
      Function.update c.displayVC index (some vc) := by
  unfold wmInitializedControllerWithIndexIfNeeded
  split
  · exact ⟨_, rfl⟩
  · exact ⟨_, rfl⟩

theorem wmRemove_displayVC (keeps : NSCacheKeeps) (vc : ChildViewController) (index : ℤ)
    (c : WMPageController) : (c.wmRemoveViewController keeps vc index).displayVC =
      Function.update c.displayVC index none := by
  unfold wmRemoveViewController
  dsimp only
  split_ifs
  all_goals rfl

theorem layoutChild_own (keeps : NSCacheKeeps) (left right : ℤ) (c : WMPageController) :
    Own (SameScreen c) (fun d (i : ℕ) => d.displayVC i)
      (layoutChildViewController keeps left right) := by
  constructor
  · intro d i hd
    exact hd.trans (layoutChild_same keeps left right d i)
  · intro d i j hd hij
    have hne : (j : ℤ) ≠ i := by exact_mod_cast hij
    unfold layoutChildViewController
    split
    · split
      · obtain ⟨vc, hvc⟩ := wmInitialized_displayVC i d
        rw [hvc, Function.update_of_ne hne]
      · rfl
    · split_ifs
      · rw [wmRemove_displayVC, Function.update_of_ne hne]
      · rfl
      · rfl

theorem layoutChild_self (keeps : NSCacheKeeps) (left right : ℤ) (h : SameScreen c d) (i : ℕ) :
    (c.isInScreen i = true →
        (d.layoutChildViewController keeps left right i).displayVC i ≠ none) ∧
      ((d.layoutChildViewController keeps left right i).displayVC i ≠ none →
        c.isInScreen i = true ∨ left < i ∧ i < right) := by
  have hscreen := h.isInScreen i
  unfold layoutChildViewController
  split
  · rename_i hnone
    split
    · obtain ⟨vc, hvc⟩ := wmInitialized_displayVC i d
      rw [hvc, Function.update_self]
      exact ⟨fun _ => Option.some_ne_none vc, fun _ => .inl (by rwa [← hscreen])⟩
    · rename_i hoff
      constructor
      · intro hon
        exact absurd (hscreen.trans hon) hoff
      · intro hsome
        exact absurd hnone hsome
  · rename_i vc hvc
    split_ifs with hfar hoff
    · rw [wmRemove_displayVC, Function.update_self]
      constructor
      · intro hon
        rw [hscreen, hon] at hoff
        cases hoff
      · intro hsome
        exact absurd rfl hsome
    · rw [hvc]
      constructor
      · exact fun _ => Option.some_ne_none vc
      · intro _
        rw [hscreen, Bool.not_eq_true', Bool.not_eq_false] at hoff
        exact .inl hoff
    · rw [hvc]
      rw [not_or, not_le, not_le] at hfar
      exact ⟨fun _ => Option.some_ne_none vc, fun _ => .inr hfar⟩

theorem wmLayout_same (keeps : NSCacheKeeps) (c : WMPageController) :
    SameScreen c (c.wmLayoutChildViewControllers keeps) :=
  (layoutChild_own keeps _ _ c).foldl_keep _ (.refl c)

theorem wmLayout_window (keeps : NSCacheKeeps) (c : WMPageController) {i : ℕ}
    (hi : i < c.childControllersCount) :
    (c.isInScreen i = true → (c.wmLayoutChildViewControllers keeps).displayVC i ≠ none) ∧
      ((c.wmLayoutChildViewControllers keeps).displayVC i ≠ none → c.isInScreen i = true ∨
        |(i : ℤ) - c.currentPage| ≤ c.preloadPolicy.rawValue) := by
  have hpass := (layoutChild_own keeps (c.currentPage - c.preloadPolicy.rawValue - 1)
    (c.currentPage + c.preloadPolicy.rawValue + 1) c).foldl_of_mem
    (R := fun (i : ℕ) _ shown => (c.isInScreen i = true → shown ≠ none) ∧
      (shown ≠ none → c.isInScreen i = true ∨ c.currentPage - c.preloadPolicy.rawValue - 1 < i ∧
        i < c.currentPage + c.preloadPolicy.rawValue + 1))
    (fun d i hd => layoutChild_self keeps _ _ hd i) List.nodup_range (.refl c) (List.mem_range.mpr hi)
  refine ⟨hpass.1, ?_⟩
  intro hshown
  rcases hpass.2 hshown with hon | ⟨hlow, hhigh⟩
  · exact .inl hon
  · right
    rw [abs_le]
    constructor <;> omega

/-- Every controller stands under the number of its page, and only pages there are are shown. -/
structure Owned (c : WMPageController) : Prop where
  index : 0 ≤ c.selectIndex
  shown : ∀ i vc, c.displayVC i = some vc → vc.page = i ∧ 0 ≤ i ∧ i < c.childControllersCount
  cached : ∀ i vc, c.memCache.objectForKey i = some vc → vc.page = i
  background : ∀ i vc, c.backgroundCache i = some vc → vc.page = i

theorem update_some {f : ℤ → Option ChildViewController} {index i : ℤ}
    {shown : Option ChildViewController} {vc : ChildViewController}
    (h : Function.update f index shown i = some vc) :
    i = index ∧ shown = some vc ∨ f i = some vc := by
  by_cases hi : i = index
  · subst hi
    rw [Function.update_self] at h
    exact .inl ⟨rfl, h⟩
  · rw [Function.update_of_ne hi] at h
    exact .inr h

theorem setObject_some {object vc : ChildViewController} {key i : ℤ} {cache : NSCache}
    (h : (cache.setObject keeps object key).objectForKey i = some vc) :
    i = key ∧ object = vc ∨ cache.objectForKey i = some vc := by
  have hkept : Function.update cache.objectForKey key (some object) i = some vc := by
    unfold NSCache.setObject at h
    dsimp only at h
    split at h
    · exact h
    · cases h
  rcases update_some hkept with ⟨hi, hobject⟩ | hold
  · exact .inl ⟨hi, Option.some.inj hobject⟩
  · exact .inr hold

theorem Owned.add (h : Owned c) {i : ℤ} (hi : 0 ≤ i ∧ i < c.childControllersCount) :
    Owned (c.wmAddViewControllerAtIndex i) := by
  constructor
  · exact hi.1
  · intro j vc hvc
    rcases update_some hvc with ⟨rfl, hnew⟩ | hold
    · cases hnew
      exact ⟨rfl, hi⟩
    · exact h.shown j vc hold
  · exact h.cached
  · exact h.background

theorem Owned.initialized (h : Owned c) {i : ℤ} (hi : 0 ≤ i ∧ i < c.childControllersCount) :
    Owned (c.wmInitializedControllerWithIndexIfNeeded i) := by
  unfold wmInitializedControllerWithIndexIfNeeded
  split
  · rename_i cached hcached
    constructor
    · exact hi.1
    · intro j vc hvc
      rcases update_some hvc with ⟨rfl, hnew⟩ | hold
      · cases hnew
        exact ⟨h.cached _ _ hcached, hi⟩
      · exact h.shown j vc hold
    · exact h.cached
    · exact h.background
  · exact h.add hi

theorem wmRemove_selectIndex (keeps : NSCacheKeeps) (vc : ChildViewController) (index : ℤ)
    (c : WMPageController) :
    (c.wmRemoveViewController keeps vc index).selectIndex = c.selectIndex := by
  unfold wmRemoveViewController
  dsimp only
  split_ifs
  all_goals rfl

theorem Owned.remove (h : Owned c) {i : ℤ} {vc : ChildViewController}
    (hvc : c.displayVC i = some vc) : Owned (c.wmRemoveViewController keeps vc i) := by
  have hsame := wmRemove_same keeps vc i c
  constructor
  · rw [wmRemove_selectIndex]
    exact h.index
  · intro j other hother
    rw [wmRemove_displayVC] at hother
    rcases update_some hother with ⟨_, hnone⟩ | hold
    · cases hnone
    · rw [hsame.count]
      exact h.shown j other hold
  · intro j other hother
    unfold wmRemoveViewController at hother
    dsimp only at hother
    split_ifs at hother
    · exact h.cached j other hother
    · rcases setObject_some hother with ⟨rfl, rfl⟩ | hold
      · exact (h.shown _ _ hvc).1
      · exact h.cached j other hold
    · exact h.cached j other hother
  · rw [hsame.backgroundCache]
    exact h.background

theorem Owned.layoutChild (h : Owned c) {left right : ℤ} {i : ℕ}
    (hi : i < c.childControllersCount) :
    Owned (c.layoutChildViewController keeps left right i) := by
  unfold layoutChildViewController
  split
  · split
    · exact h.initialized ⟨Int.natCast_nonneg i, by exact_mod_cast hi⟩
    · exact h
  · rename_i vc hvc
    split_ifs
    · exact h.remove hvc
    · exact h
    · exact h

theorem Owned.layout (h : Owned c) : Owned (c.wmLayoutChildViewControllers keeps) := by
  unfold wmLayoutChildViewControllers
  refine (List.foldlRecOn (motive := fun d => Owned d ∧ SameScreen c d) _ _ ⟨h, .refl c⟩ ?_).1
  rintro d ⟨hd, hsame⟩ i hi
  have hi : i < d.childControllersCount := by
    rw [hsame.count]
    exact List.mem_range.mp hi
  exact ⟨hd.layoutChild hi, hsame.trans (layoutChild_same keeps _ _ d i)⟩

theorem mem_indices {start stop i : ℤ} : i ∈ indices start stop ↔ start ≤ i ∧ i ≤ stop := by
  unfold indices
  rw [List.mem_map]
  constructor
  · rintro ⟨k, hk, rfl⟩
    rw [List.mem_range] at hk
    omega
  · rintro ⟨hlow, hhigh⟩
    refine ⟨(i - start).toNat, ?_, ?_⟩
    · rw [List.mem_range]
      omega
    · omega

theorem didEnter_pages {length last index i : ℤ}
    (hi : i ∈ indices (if index > length then index - length else 0)
      (if last > length + index then index + length else last)) : 0 ≤ i ∧ i ≤ last := by
  rw [mem_indices] at hi
  split_ifs at hi
  all_goals omega

structure Grows (c d : WMPageController) : Prop where
  same : SameScreen c d
  shown : ∀ i vc, c.displayVC i = some vc → d.displayVC i = some vc

theorem preloadChild_grows (c : WMPageController) (i : ℤ) :
    Grows c (c.preloadChildViewController i) := by
  refine ⟨preloadChild_same c i, ?_⟩
  intro j vc hvc
  unfold preloadChildViewController
  split
  · rename_i hnone
    have hne : j ≠ i := by
      rintro rfl
      rw [hnone.2] at hvc
      cases hvc
    exact (Function.update_of_ne hne ..).trans hvc
  · exact hvc

theorem didEnter_grows (index : ℤ) (c : WMPageController) :
    Grows c (c.didEnterController index) := by
  unfold didEnterController
  split_ifs
  · exact ⟨.refl c, fun _ _ h => h⟩
  · exact ⟨.refl c, fun _ _ h => h⟩
  · dsimp only
    have hloop := List.foldlRecOn (motive := Grows c)
      (indices (if index > c.preloadPolicy.rawValue then index - c.preloadPolicy.rawValue else 0)
        (if (c.childControllersCount : ℤ) - 1 > c.preloadPolicy.rawValue + index then
          index + c.preloadPolicy.rawValue else c.childControllersCount - 1))
      preloadChildViewController (b := c) ⟨.refl c, fun _ _ h => h⟩ (by
        intro d hd i _
        have hstep := preloadChild_grows d i
        exact ⟨hd.same.trans hstep.same, fun j vc h => hstep.shown j vc (hd.shown j vc h)⟩)
    exact ⟨hloop.same.trans ⟨rfl, rfl, rfl, rfl, rfl, rfl, rfl, rfl, rfl, rfl, rfl, rfl, rfl⟩,
      hloop.shown⟩

theorem Owned.didEnter (h : Owned c) {index : ℤ} (hindex : 0 ≤ index) :
    Owned (c.didEnterController index) := by
  unfold didEnterController
  split_ifs
  · exact h
  · exact h
  · dsimp only
    have hloop := List.foldlRecOn (motive := fun d => Owned d ∧ SameScreen c d)
      (indices (if index > c.preloadPolicy.rawValue then index - c.preloadPolicy.rawValue else 0)
        (if (c.childControllersCount : ℤ) - 1 > c.preloadPolicy.rawValue + index then
          index + c.preloadPolicy.rawValue else c.childControllersCount - 1))
      preloadChildViewController (b := c) ⟨h, .refl c⟩ (by
        rintro d ⟨hd, hsame⟩ i hi
        refine ⟨?_, hsame.trans (preloadChild_same d i)⟩
        unfold preloadChildViewController
        split
        · apply hd.add
          have hrange := didEnter_pages hi
          rw [hsame.count]
          omega
        · exact hd)
    exact ⟨hindex, hloop.1.shown, hloop.1.cached, hloop.1.background⟩

end MixedProject.WMPageController
