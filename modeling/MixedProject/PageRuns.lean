import MixedProject.PageWindow

namespace MixedProject.WMPageController

open RowLayout StepAnimation Traces

variable {keeps : NSCacheKeeps} {callsBack : Bool} {c d e : WMPageController}

structure Fitted (c : WMPageController) : Prop where
  count : 0 < c.childControllersCount
  wide : 0 < c.viewWidth
  frame : c.scrollView.width = c.viewWidth
  content : c.scrollView.contentWidth = c.childControllersCount * c.viewWidth

structure Shown (c : WMPageController) : Prop where
  fitted : Fitted c
  covers : ∀ i : ℕ, i < c.childControllersCount → c.isInScreen i = true → c.displayVC i ≠ none
  exact : c.preloadPolicy = .never → ∀ i, c.displayVC i ≠ none → c.isInScreen i = true

structure Waiting (c : WMPageController) : Prop where
  count : 0 < c.childControllersCount
  content : c.scrollView.contentWidth = 0
  shows : c.displayVC c.selectIndex ≠ none
  exact : c.preloadPolicy = .never → ∀ i, c.displayVC i ≠ none → i = c.selectIndex

structure Windowed (c : WMPageController) : Prop where
  owned : Owned c
  unlocked : c.shouldNotScroll = false
  marked : c.markedSelectIndex = -1 ∨ 0 ≤ c.markedSelectIndex
  wide : 0 < c.viewWidth
  laid : c.hasInited = true → Shown c
  before : c.hasInited = false → c.childControllersCount = 0 ∨ Waiting c

theorem isInScreen_iff (c : WMPageController) (i : ℤ) : c.isInScreen i = true ↔
    c.scrollView.contentOffsetX < i * c.viewWidth + c.viewWidth ∧
      i * c.viewWidth - c.scrollView.contentOffsetX < c.scrollView.width := by
  unfold isInScreen wmIsInScreen childViewFrame Span.maxX
  rw [Bool.and_eq_true, decide_eq_true_iff, decide_eq_true_iff]

theorem Fitted.isInScreen_passed (h : Fitted c) (i : ℤ) : c.isInScreen i = true ↔
    c.scrollView.contentOffsetX / c.viewWidth < i + 1 ∧
      (i : ℚ) - 1 < c.scrollView.contentOffsetX / c.viewWidth := by
  rw [isInScreen_iff, h.frame, div_lt_iff₀ h.wide, lt_div_iff₀ h.wide]
  apply and_congr
  · rw [add_mul, one_mul]
  · rw [sub_mul, one_mul, sub_lt_comm]

theorem Fitted.currentPage_isInScreen (h : Fitted c) : c.isInScreen c.currentPage = true := by
  rw [h.isInScreen_passed]
  exact ⟨truncate_lt_add_one _, sub_one_lt_truncate _⟩

theorem Fitted.isInScreen_page (h : Fitted c) {page : ℤ}
    (hpage : c.scrollView.contentOffsetX = page * c.viewWidth) (i : ℤ) :
    c.isInScreen i = true ↔ i = page := by
  rw [h.isInScreen_passed, hpage, mul_div_assoc, div_self h.wide.ne', mul_one]
  constructor
  · rintro ⟨hlow, hhigh⟩
    have hlow : page < i + 1 := by exact_mod_cast hlow
    have hhigh : i - 1 < page := by exact_mod_cast hhigh
    omega
  · rintro rfl
    exact ⟨lt_add_one _, sub_one_lt _⟩

theorem Fitted.same (h : Fitted c) (hsame : SameScreen c d) : Fitted d := by
  constructor
  · rw [hsame.count]
    exact h.count
  · rw [hsame.viewWidth]
    exact h.wide
  · rw [hsame.scrollView, hsame.viewWidth]
    exact h.frame
  · rw [hsame.scrollView, hsame.count, hsame.viewWidth]
    exact h.content

theorem Shown.of_layout (keeps : NSCacheKeeps) (h : Fitted c) (howned : Owned c) :
    Shown (c.wmLayoutChildViewControllers keeps) := by
  have hsame := wmLayout_same keeps c
  have hafter : Owned (c.wmLayoutChildViewControllers keeps) := howned.layout
  refine ⟨h.same hsame, ?_, ?_⟩
  · intro i hi hon
    rw [hsame.count] at hi
    rw [hsame.isInScreen] at hon
    exact (wmLayout_window keeps c hi).1 hon
  · intro hnever i hshown
    rw [hsame.preloadPolicy] at hnever
    rw [hsame.isInScreen]
    obtain ⟨vc, hvc⟩ := Option.ne_none_iff_exists'.mp hshown
    obtain ⟨_, hzero, hcount⟩ := hafter.shown i vc hvc
    rw [hsame.count] at hcount
    lift i to ℕ using hzero
    rcases (wmLayout_window keeps c (by exact_mod_cast hcount)).2 hshown with hon | hnear
    · exact hon
    · rw [hnever, WMPageControllerPreloadPolicy.rawValue, abs_nonpos_iff, sub_eq_zero] at hnear
      rw [hnear]
      exact h.currentPage_isInScreen

theorem didEnter_never (hnever : c.preloadPolicy = .never) (index : ℤ) :
    c.didEnterController index = c := by
  unfold didEnterController
  split_ifs
  all_goals rfl

theorem Shown.grows (h : Shown c) (hgrows : Grows c d)
    (hnever : c.preloadPolicy = .never → d.displayVC = c.displayVC) : Shown d := by
  refine ⟨h.fitted.same hgrows.same, ?_, ?_⟩
  · intro i hi hon
    rw [hgrows.same.count] at hi
    rw [hgrows.same.isInScreen] at hon
    obtain ⟨vc, hvc⟩ := Option.ne_none_iff_exists'.mp (h.covers i hi hon)
    rw [hgrows.shown i vc hvc]
    exact Option.some_ne_none vc
  · intro hpolicy i hshown
    rw [hgrows.same.preloadPolicy] at hpolicy
    rw [hnever hpolicy] at hshown
    rw [hgrows.same.isInScreen]
    exact h.exact hpolicy i hshown

theorem Shown.didEnter (h : Shown c) (index : ℤ) : Shown (c.didEnterController index) := by
  apply h.grows (didEnter_grows index c)
  intro hnever
  rw [didEnter_never hnever]

structure SameWindow (c d : WMPageController) : Prop where
  count : d.childControllersCount = c.childControllersCount
  viewWidth : d.viewWidth = c.viewWidth
  scrollView : d.scrollView = c.scrollView
  hasInited : d.hasInited = c.hasInited
  shouldNotScroll : d.shouldNotScroll = c.shouldNotScroll
  preloadPolicy : d.preloadPolicy = c.preloadPolicy
  displayVC : d.displayVC = c.displayVC

theorem SameWindow.isInScreen (h : SameWindow c d) (i : ℤ) : d.isInScreen i = c.isInScreen i := by
  unfold WMPageController.isInScreen wmIsInScreen childViewFrame
  rw [h.viewWidth, h.scrollView]

theorem Fitted.congr (h : Fitted c) (hsame : SameWindow c d) : Fitted d := by
  constructor
  · rw [hsame.count]
    exact h.count
  · rw [hsame.viewWidth]
    exact h.wide
  · rw [hsame.scrollView, hsame.viewWidth]
    exact h.frame
  · rw [hsame.scrollView, hsame.count, hsame.viewWidth]
    exact h.content

theorem Shown.congr (h : Shown c) (hsame : SameWindow c d) : Shown d := by
  refine ⟨h.fitted.congr hsame, ?_, ?_⟩
  · intro i hi hon
    rw [hsame.count] at hi
    rw [hsame.isInScreen] at hon
    rw [hsame.displayVC]
    exact h.covers i hi hon
  · intro hpolicy i hshown
    rw [hsame.preloadPolicy] at hpolicy
    rw [hsame.displayVC] at hshown
    rw [hsame.isInScreen]
    exact h.exact hpolicy i hshown

theorem Waiting.congr (h : Waiting c) (hsame : SameWindow c d)
    (hselect : d.selectIndex = c.selectIndex) : Waiting d := by
  constructor
  · rw [hsame.count]
    exact h.count
  · rw [hsame.scrollView]
    exact h.content
  · rw [hsame.displayVC, hselect]
    exact h.shows
  · intro hpolicy i hshown
    rw [hsame.preloadPolicy] at hpolicy
    rw [hsame.displayVC] at hshown
    rw [hselect]
    exact h.exact hpolicy i hshown

theorem Windowed.of_shown (howned : Owned c) (hunlocked : c.shouldNotScroll = false)
    (hmarked : c.markedSelectIndex = -1 ∨ 0 ≤ c.markedSelectIndex) (hin : c.hasInited = true)
    (h : Shown c) : Windowed c := by
  refine ⟨howned, hunlocked, hmarked, h.fitted.wide, fun _ => h, ?_⟩
  intro hout
  rw [hin] at hout
  cases hout

theorem Windowed.congr (h : Windowed c) (hsame : SameWindow c d) (howned : Owned d)
    (hmarked : d.markedSelectIndex = c.markedSelectIndex)
    (hselect : c.hasInited = false → d.selectIndex = c.selectIndex) : Windowed d := by
  constructor
  · exact howned
  · rw [hsame.shouldNotScroll]
    exact h.unlocked
  · rw [hmarked]
    exact h.marked
  · rw [hsame.viewWidth]
    exact h.wide
  · intro hin
    rw [hsame.hasInited] at hin
    exact (h.laid hin).congr hsame
  · intro hout
    rw [hsame.hasInited] at hout
    rw [hsame.count]
    exact (h.before hout).imp_right fun hwait => hwait.congr hsame (hselect hout)

theorem updateMenuView_sameWindow (f : WMMenuView → WMMenuView) (c : WMPageController) :
    SameWindow c (c.updateMenuView f) := ⟨rfl, rfl, rfl, rfl, rfl, rfl, rfl⟩

theorem Windowed.updateMenuView (h : Windowed c) (f : WMMenuView → WMMenuView) :
    Windowed (c.updateMenuView f) :=
  h.congr (updateMenuView_sameWindow f c)
    ⟨h.owned.index, h.owned.shown, h.owned.cached, h.owned.background⟩ rfl fun _ => rfl

structure Movable (c : WMPageController) : Prop where
  owned : Owned c
  unlocked : c.shouldNotScroll = false
  marked : c.markedSelectIndex = -1 ∨ 0 ≤ c.markedSelectIndex
  inited : c.hasInited = true
  fitted : Fitted c

theorem Windowed.movable (h : Windowed c) (hin : c.hasInited = true) : Movable c :=
  ⟨h.owned, h.unlocked, h.marked, hin, (h.laid hin).fitted⟩

theorem Movable.windowed (h : Movable c) (hshown : Shown c) : Windowed c :=
  .of_shown h.owned h.unlocked h.marked h.inited hshown

theorem Movable.same (h : Movable c) (hsame : SameScreen c d) (howned : Owned d) : Movable d := by
  constructor
  · exact howned
  · rw [hsame.shouldNotScroll]
    exact h.unlocked
  · rw [hsame.marked]
    exact h.marked
  · rw [hsame.hasInited]
    exact h.inited
  · exact h.fitted.same hsame

theorem Movable.congr (h : Movable c) (hsame : SameWindow c d) (howned : Owned d)
    (hmarked : d.markedSelectIndex = c.markedSelectIndex) : Movable d := by
  constructor
  · exact howned
  · rw [hsame.shouldNotScroll]
    exact h.unlocked
  · rw [hmarked]
    exact h.marked
  · rw [hsame.hasInited]
    exact h.inited
  · exact h.fitted.congr hsame

theorem Movable.setContentOffset (h : Movable c) (x y : CGFloat) :
    Movable (c.setContentOffset x y) :=
  ⟨⟨h.owned.index, h.owned.shown, h.owned.cached, h.owned.background⟩, h.unlocked, h.marked,
    h.inited, ⟨h.fitted.count, h.fitted.wide, h.fitted.frame, h.fitted.content⟩⟩

theorem Movable.layout (h : Movable c) (keeps : NSCacheKeeps) :
    Movable (c.wmLayoutChildViewControllers keeps) :=
  h.same (wmLayout_same keeps c) h.owned.layout

theorem slide_sameWindow (c : WMPageController) : SameWindow c c.slide := by
  unfold slide
  split
  · exact updateMenuView_sameWindow _ c
  · exact ⟨rfl, rfl, rfl, rfl, rfl, rfl, rfl⟩

theorem slide_owned (h : Owned c) : Owned c.slide := by
  unfold slide
  split
  · exact ⟨h.index, h.shown, h.cached, h.background⟩
  · exact h

theorem slide_marked (c : WMPageController) :
    c.slide.markedSelectIndex = c.markedSelectIndex := by
  unfold slide
  split
  · rfl
  · rfl

def NearScreen (c : WMPageController) : Prop :=
  ∀ i, c.displayVC i ≠ none →
    c.isInScreen i = true ∨ |i - c.currentPage| ≤ c.preloadPolicy.rawValue

theorem NearScreen.of_layout (keeps : NSCacheKeeps) (howned : Owned c) :
    NearScreen (c.wmLayoutChildViewControllers keeps) := by
  intro i hshown
  have hsame := wmLayout_same keeps c
  have hafter : Owned (c.wmLayoutChildViewControllers keeps) := howned.layout
  obtain ⟨vc, hvc⟩ := Option.ne_none_iff_exists'.mp hshown
  obtain ⟨_, hzero, hcount⟩ := hafter.shown i vc hvc
  rw [hsame.count] at hcount
  lift i to ℕ using hzero
  rw [hsame.isInScreen, hsame.preloadPolicy, WMPageController.currentPage, hsame.scrollView,
    hsame.viewWidth]
  exact (wmLayout_window keeps c (by exact_mod_cast hcount)).2 hshown

theorem NearScreen.congr (h : NearScreen c) (hsame : SameWindow c d) : NearScreen d := by
  intro i hshown
  rw [hsame.displayVC] at hshown
  rw [hsame.isInScreen, hsame.preloadPolicy, WMPageController.currentPage, hsame.scrollView,
    hsame.viewWidth]
  exact h i hshown

theorem Movable.didScroll (h : Movable c) (keeps : NSCacheKeeps) :
    Movable (c.didScroll keeps) ∧ Shown (c.didScroll keeps) ∧ NearScreen (c.didScroll keeps) := by
  have hrun : c.didScroll keeps = (c.wmLayoutChildViewControllers keeps).slide := by
    rw [WMPageController.didScroll, h.unlocked, h.inited]
    rfl
  rw [hrun]
  refine ⟨?_, ?_, ?_⟩
  · exact (h.layout keeps).congr (slide_sameWindow _) (slide_owned (h.layout keeps).owned)
      (slide_marked _)
  · exact (Shown.of_layout keeps h.fitted h.owned).congr (slide_sameWindow _)
  · exact (NearScreen.of_layout keeps h.owned).congr (slide_sameWindow _)

theorem Movable.scrollViewDidScroll (h : Movable c) (keeps : NSCacheKeeps) :
    Movable (c.scrollViewDidScroll keeps) ∧ Shown (c.scrollViewDidScroll keeps) ∧
      NearScreen (c.scrollViewDidScroll keeps) := by
  unfold WMPageController.scrollViewDidScroll
  rw [h.unlocked, h.inited]
  simp only [Bool.not_true, Bool.or_false, Bool.false_eq_true, if_false]
  split
  · exact h.didScroll keeps
  · exact ((h.didScroll keeps).1.setContentOffset _ _).didScroll keeps

theorem Movable.jumpTo (h : Movable c) (keeps : NSCacheKeeps) (callsBack : Bool) (x : CGFloat) :
    Movable (c.jumpTo keeps callsBack x) := by
  unfold WMPageController.jumpTo
  dsimp only
  split
  · exact ((h.setContentOffset x 0).scrollViewDidScroll keeps).1
  · exact h.setContentOffset x 0

theorem removeCurrent_same (keeps : NSCacheKeeps) (currentIndex : ℤ) (c : WMPageController) :
    SameScreen c (c.removeCurrent keeps currentIndex) := by
  unfold removeCurrent
  split
  · exact wmRemove_same _ _ _ _
  · exact .refl c

theorem Movable.removeCurrent (h : Movable c) (keeps : NSCacheKeeps) (currentIndex : ℤ) :
    Movable (c.removeCurrent keeps currentIndex) := by
  apply h.same (removeCurrent_same keeps currentIndex c)
  unfold WMPageController.removeCurrent
  split
  · rename_i vc hvc
    exact h.owned.remove hvc
  · exact h.owned

theorem Movable.showCurrent (h : Movable c) : Movable c.showCurrent :=
  h.congr ⟨rfl, rfl, rfl, rfl, rfl, rfl, rfl⟩
    ⟨h.owned.index, h.owned.shown, h.owned.cached, h.owned.background⟩ rfl

theorem Windowed.didSelesctedIndex (h : Windowed c) {index : ℤ} (hindex : 0 ≤ index)
    (currentIndex : ℤ) : Windowed (c.didSelesctedIndex keeps callsBack index currentIndex) := by
  unfold WMPageController.didSelesctedIndex
  split
  · exact h
  · rename_i hin
    rw [Bool.not_eq_true', Bool.not_eq_false] at hin
    have hmoved : Movable ((c.assignSelectIndex index).setStartDragging false) :=
      (h.movable hin).congr ⟨rfl, rfl, rfl, rfl, rfl, rfl, rfl⟩
        ⟨hindex, h.owned.shown, h.owned.cached, h.owned.background⟩ rfl
    dsimp only
    split
    · exact hmoved.windowed ((h.laid hin).congr ⟨rfl, rfl, rfl, rfl, rfl, rfl, rfl⟩)
    · have hremoved := (hmoved.jumpTo keeps callsBack (c.viewWidth * index)).removeCurrent keeps
        currentIndex
      have hshown := Shown.of_layout keeps hremoved.fitted hremoved.owned
      have hcurrent := (hremoved.layout keeps).showCurrent
      have hafter := hcurrent.same (didEnter_grows index _).same (hcurrent.owned.didEnter hindex)
      exact hafter.windowed
        ((hshown.congr (d := showCurrent _) ⟨rfl, rfl, rfl, rfl, rfl, rfl, rfl⟩).didEnter index)

theorem Windowed.selectItemAtIndex (h : Windowed c) {index : ℤ} (hindex : 0 ≤ index) :
    Windowed (c.selectItemAtIndex keeps callsBack index) := by
  unfold WMPageController.selectItemAtIndex
  split
  · exact h
  · split
    · exact h
    · exact ((h.updateMenuView _).didSelesctedIndex hindex _).updateMenuView _

theorem Windowed.didPressedMenuItem (h : Windowed c) {index : ℤ} (hindex : 0 ≤ index) :
    Windowed (c.didPressedMenuItem keeps callsBack index) := by
  unfold WMPageController.didPressedMenuItem
  split
  · exact h
  · split
    · exact h
    · exact ((h.updateMenuView _).didSelesctedIndex hindex _).updateMenuView _

theorem Windowed.assign (h : Windowed c) (hin : c.hasInited = true) {index marked : ℤ}
    (hindex : 0 ≤ index) (hmarked : marked = -1 ∨ 0 ≤ marked) :
    Windowed ((c.assignSelectIndex index).setMarkedSelectIndex marked) :=
  .of_shown ⟨hindex, h.owned.shown, h.owned.cached, h.owned.background⟩ h.unlocked hmarked hin
    ((h.laid hin).congr ⟨rfl, rfl, rfl, rfl, rfl, rfl, rfl⟩)

theorem Windowed.setSelectIndex (h : Windowed c) (hin : c.hasInited = true) {index : ℤ}
    (hindex : 0 ≤ index) : Windowed (c.setSelectIndex keeps callsBack index) := by
  unfold WMPageController.setSelectIndex
  dsimp only
  split
  · exact (h.assign hin hindex (.inl rfl)).selectItemAtIndex hindex
  · exact h.assign hin hindex (.inr hindex)

theorem Shown.relaid (h : Shown c) {width : CGFloat} (hwidth : 0 < width) :
    Shown (c.wmCalculateSize width).wmAdjustScrollViewFrame := by
  have hcount : (0 : ℚ) < c.childControllersCount := by exact_mod_cast h.fitted.count
  have hcontent : c.scrollView.contentWidth ≠ 0 := by
    rw [h.fitted.content]
    exact (mul_pos hcount h.fitted.wide).ne'
  have hfitted : Fitted (c.wmCalculateSize width).wmAdjustScrollViewFrame :=
    ⟨h.fitted.count, hwidth, rfl, rfl⟩
  have hpassed : (c.wmCalculateSize width).wmAdjustScrollViewFrame.scrollView.contentOffsetX / width =
      c.scrollView.contentOffsetX / c.viewWidth := by
    have hwide := h.fitted.wide
    have hoffset : (c.wmCalculateSize width).wmAdjustScrollViewFrame.scrollView.contentOffsetX =
        c.scrollView.contentOffsetX / c.scrollView.contentWidth * c.childControllersCount * width :=
      if_neg hcontent
    rw [hoffset, h.fitted.content]
    field_simp
  have hscreen (i : ℤ) : (c.wmCalculateSize width).wmAdjustScrollViewFrame.isInScreen i = true ↔
      c.isInScreen i = true := by
    rw [hfitted.isInScreen_passed, h.fitted.isInScreen_passed]
    exact iff_of_eq (congrArg (fun x : ℚ => x < (i : ℚ) + 1 ∧ (i : ℚ) - 1 < x) hpassed)
  refine ⟨hfitted, ?_, ?_⟩
  · intro i hi hon
    exact h.covers i hi ((hscreen i).mp hon)
  · intro hnever i hshown
    exact (hscreen i).mpr (h.exact hnever i hshown)

theorem Waiting.laid (h : Waiting c) {width : CGFloat} (hwidth : 0 < width) :
    Shown (c.wmCalculateSize width).wmAdjustScrollViewFrame := by
  have hfitted : Fitted (c.wmCalculateSize width).wmAdjustScrollViewFrame :=
    ⟨h.count, hwidth, rfl, rfl⟩
  have hoffset : (c.wmCalculateSize width).wmAdjustScrollViewFrame.scrollView.contentOffsetX =
      c.selectIndex * width := if_pos h.content
  refine ⟨hfitted, ?_, ?_⟩
  · intro i _ hon
    rw [hfitted.isInScreen_page hoffset] at hon
    rw [hon]
    exact h.shows
  · intro hnever i hshown
    rw [hfitted.isInScreen_page hoffset]
    exact h.exact hnever i hshown

theorem Windowed.wmDelaySelectIndexIfNeeded (h : Windowed c) (hin : c.hasInited = true) :
    Windowed (c.wmDelaySelectIndexIfNeeded keeps callsBack) := by
  unfold WMPageController.wmDelaySelectIndexIfNeeded
  split
  · rename_i hdelayed
    exact h.setSelectIndex hin (h.marked.resolve_left hdelayed)
  · exact h

theorem windowed_of_layout (howned : Owned c) (hunlocked : c.shouldNotScroll = false)
    (hmarked : c.markedSelectIndex = -1 ∨ 0 ≤ c.markedSelectIndex) {width : CGFloat}
    (hwidth : 0 < width) (hpages : Shown c ∨ Waiting c) :
    Windowed (c.viewDidLayoutSubviews keeps callsBack false width) := by
  have hcount : c.childControllersCount ≠ 0 := by
    rcases hpages with h | h
    · exact h.fitted.count.ne'
    · exact h.count.ne'
  have hshown : Shown (c.wmCalculateSize width).wmAdjustScrollViewFrame := by
    rcases hpages with h | h
    · exact h.relaid hwidth
    · exact h.laid hwidth
  have hlaid : Windowed
      ((c.wmCalculateSize width).wmAdjustScrollViewFrame.wmAdjustMenuViewFrame.setHasInited true) :=
    .of_shown ⟨howned.index, howned.shown, howned.cached, howned.background⟩ hunlocked hmarked rfl
      ⟨⟨hshown.fitted.count, hwidth, rfl, rfl⟩, hshown.covers, hshown.exact⟩
  unfold viewDidLayoutSubviews
  rw [if_neg hcount, Bool.and_false, if_neg Bool.false_ne_true]
  exact hlaid.wmDelaySelectIndexIfNeeded rfl

structure Cleared (count : ℕ) (c d : WMPageController) : Prop where
  pages : d.childControllersCount = count
  hasInited : d.hasInited = false
  displayVC : d.displayVC = fun _ => none
  selectIndex : d.selectIndex =
    if c.selectIndex < count then c.selectIndex else if (count : ℤ) - 1 > 0 then count - 1 else 0
  viewWidth : d.viewWidth = c.viewWidth
  shouldNotScroll : d.shouldNotScroll = c.shouldNotScroll
  marked : d.markedSelectIndex = c.markedSelectIndex
  memCache : d.memCache = c.memCache
  backgroundCache : d.backgroundCache = c.backgroundCache
  pageAnimatable : d.pageAnimatable = c.pageAnimatable
  menuView : d.menuView = none → c.menuView = none

theorem wmClearDatas_cleared (count : ℕ) (c : WMPageController) :
    Cleared count c (c.wmClearDatas count) := by
  unfold wmClearDatas
  dsimp only
  split
  · exact ⟨rfl, rfl, rfl, rfl, rfl, rfl, rfl, rfl, rfl, rfl, Option.map_eq_none_iff.mp⟩
  · exact ⟨rfl, rfl, rfl, rfl, rfl, rfl, rfl, rfl, rfl, rfl, fun h => h⟩

theorem Cleared.index {count : ℕ} (h : Cleared count c d) (hindex : 0 ≤ c.selectIndex) :
    0 ≤ d.selectIndex ∧ (count ≠ 0 → d.selectIndex < count) := by
  rw [h.selectIndex]
  split_ifs
  all_goals
    constructor
    · omega
    · omega

theorem Cleared.owned {count : ℕ} (h : Cleared count c d) (howned : Owned c) : Owned d := by
  constructor
  · exact (h.index howned.index).1
  · intro i vc hvc
    rw [h.displayVC] at hvc
    cases hvc
  · rw [h.memCache]
    exact howned.cached
  · rw [h.backgroundCache]
    exact howned.background

theorem wmReset_waiting (howned : Owned c) (hempty : c.displayVC = fun _ => none)
    (hindex : c.selectIndex < c.childControllersCount) :
    Waiting c.wmResetScrollView ∧ Owned c.wmResetScrollView := by
  have hadded := Owned.add (c := c.wmAddScrollView)
    ⟨howned.index, howned.shown, howned.cached, howned.background⟩ ⟨howned.index, hindex⟩
  have hshown : c.wmResetScrollView.displayVC = Function.update c.displayVC c.selectIndex
      (some (c.initializeViewControllerAtIndex c.selectIndex)) := rfl
  rw [hempty] at hshown
  refine ⟨⟨?_, rfl, ?_, ?_⟩, hadded.index, hadded.shown, hadded.cached, hadded.background⟩
  · have hlow := howned.index
    change 0 < c.childControllersCount
    omega
  · rw [hshown]
    exact (Function.update_self c.selectIndex _ _).trans_ne (Option.some_ne_none _)
  · intro _ i hi
    by_contra hne
    rw [hshown] at hi
    exact hi (Function.update_of_ne hne _ _)

structure OnlyMenu (c d : WMPageController) : Prop where
  window : SameWindow c d
  selectIndex : d.selectIndex = c.selectIndex
  marked : d.markedSelectIndex = c.markedSelectIndex
  memCache : d.memCache = c.memCache
  backgroundCache : d.backgroundCache = c.backgroundCache
  currentViewController : d.currentViewController = c.currentViewController
  pageAnimatable : d.pageAnimatable = c.pageAnimatable

theorem OnlyMenu.owned (h : OnlyMenu c d) (howned : Owned c) : Owned d := by
  constructor
  · rw [h.selectIndex]
    exact howned.index
  · rw [h.window.displayVC, h.window.count]
    exact howned.shown
  · rw [h.memCache]
    exact howned.cached
  · rw [h.backgroundCache]
    exact howned.background

theorem selectItem_before_layout (keeps : NSCacheKeeps) (callsBack : Bool)
    (hout : c.hasInited = false) (index : ℤ) :
    OnlyMenu c (c.selectItemAtIndex keeps callsBack index) := by
  have hquiet (f : WMMenuView → WMMenuView) (index currentIndex : ℤ) :
      (c.updateMenuView f).didSelesctedIndex keeps callsBack index currentIndex =
        c.updateMenuView f := by
    have hf : (c.updateMenuView f).hasInited = false := hout
    rw [WMPageController.didSelesctedIndex, hf, Bool.not_false, if_pos rfl]
  unfold WMPageController.selectItemAtIndex
  split
  · exact ⟨⟨rfl, rfl, rfl, rfl, rfl, rfl, rfl⟩, rfl, rfl, rfl, rfl, rfl, rfl⟩
  · split
    · exact ⟨⟨rfl, rfl, rfl, rfl, rfl, rfl, rfl⟩, rfl, rfl, rfl, rfl, rfl, rfl⟩
    · dsimp only
      rw [hquiet]
      exact ⟨⟨rfl, rfl, rfl, rfl, rfl, rfl, rfl⟩, rfl, rfl, rfl, rfl, rfl, rfl⟩

theorem wmResetMenuView_onlyMenu (hout : c.hasInited = false) :
    OnlyMenu c (c.wmResetMenuView keeps callsBack) := by
  unfold wmResetMenuView
  split
  · exact ⟨⟨rfl, rfl, rfl, rfl, rfl, rfl, rfl⟩, rfl, rfl, rfl, rfl, rfl, rfl⟩
  · dsimp only
    split
    · have hreloaded : (c.updateMenuView fun menu => (WMMenuView.reload c.menuDelegate
          menu).setUserInteractionEnabled true).hasInited = false := hout
      have hselected := selectItem_before_layout keeps callsBack hreloaded c.selectIndex
      exact ⟨⟨hselected.window.count, hselected.window.viewWidth, hselected.window.scrollView,
        hselected.window.hasInited, hselected.window.shouldNotScroll, hselected.window.preloadPolicy,
        hselected.window.displayVC⟩, hselected.selectIndex, hselected.marked, hselected.memCache,
        hselected.backgroundCache, hselected.currentViewController, hselected.pageAnimatable⟩
    · exact ⟨⟨rfl, rfl, rfl, rfl, rfl, rfl, rfl⟩, rfl, rfl, rfl, rfl, rfl, rfl⟩

theorem Windowed.reloadData (h : Windowed c) (count : ℕ) {width : CGFloat} (hwidth : 0 < width) :
    Windowed (c.reloadData keeps callsBack count width) := by
  have hcleared := wmClearDatas_cleared count c
  have howned := hcleared.owned h.owned
  have hindex := (hcleared.index h.owned.index).2
  have hunlocked := hcleared.shouldNotScroll.trans h.unlocked
  have hmarked := h.marked
  rw [← hcleared.marked] at hmarked
  unfold WMPageController.reloadData
  generalize c.wmClearDatas count = cleared at hcleared howned hindex hunlocked hmarked ⊢
  dsimp only
  split
  · rename_i hnone
    refine ⟨howned, hunlocked, hmarked, ?_, ?_, fun _ => .inl hnone⟩
    · rw [hcleared.viewWidth]
      exact h.wide
    · intro hin
      rw [hcleared.hasInited] at hin
      cases hin
  · rename_i hsome
    rw [hcleared.pages] at hsome
    obtain ⟨hwait, hmade⟩ := wmReset_waiting howned hcleared.displayVC (by
      rw [hcleared.pages]
      exact hindex hsome)
    have hout : cleared.wmResetScrollView.hasInited = false := hcleared.hasInited
    have hfree : cleared.wmResetScrollView.shouldNotScroll = false := hunlocked
    have hkept : cleared.wmResetScrollView.markedSelectIndex = -1 ∨
        0 ≤ cleared.wmResetScrollView.markedSelectIndex := hmarked
    generalize cleared.wmResetScrollView = made at hwait hmade hout hfree hkept ⊢
    have hmenu : OnlyMenu made.removeCachedControllers
        (made.removeCachedControllers.wmResetMenuView keeps callsBack) :=
      wmResetMenuView_onlyMenu hout
    have hemptied : Owned made.removeCachedControllers := by
      refine ⟨hmade.index, hmade.shown, ?_, hmade.background⟩
      intro i vc hvc
      cases hvc
    have hwaiting : Waiting made.removeCachedControllers :=
      ⟨hwait.count, hwait.content, hwait.shows, hwait.exact⟩
    apply windowed_of_layout
    · exact hmenu.owned hemptied
    · exact hmenu.window.shouldNotScroll.trans hfree
    · rw [hmenu.marked]
      exact hkept
    · exact hwidth
    · exact .inr (hwaiting.congr hmenu.window hmenu.selectIndex)

theorem didEnter_selectIndex (c : WMPageController) :
    (c.didEnterController c.selectIndex).selectIndex = c.selectIndex := by
  unfold didEnterController
  split_ifs
  all_goals rfl

theorem Windowed.didEnter (h : Windowed c) : Windowed (c.didEnterController c.selectIndex) := by
  have hgrows := didEnter_grows c.selectIndex c
  constructor
  · exact h.owned.didEnter h.owned.index
  · rw [hgrows.same.shouldNotScroll]
    exact h.unlocked
  · rw [hgrows.same.marked]
    exact h.marked
  · rw [hgrows.same.viewWidth]
    exact h.wide
  · intro hin
    rw [hgrows.same.hasInited] at hin
    exact (h.laid hin).didEnter c.selectIndex
  · intro hout
    rw [hgrows.same.hasInited] at hout
    rw [hgrows.same.count]
    apply (h.before hout).imp_right
    intro hwait
    constructor
    · rw [hgrows.same.count]
      exact hwait.count
    · rw [hgrows.same.scrollView]
      exact hwait.content
    · obtain ⟨vc, hvc⟩ := Option.ne_none_iff_exists'.mp hwait.shows
      rw [didEnter_selectIndex, hgrows.shown _ vc hvc]
      exact Option.some_ne_none vc
    · intro hnever
      rw [hgrows.same.preloadPolicy] at hnever
      rw [didEnter_never hnever]
      exact hwait.exact hnever

theorem Windowed.showCurrent (h : Windowed c) : Windowed c.showCurrent :=
  h.congr ⟨rfl, rfl, rfl, rfl, rfl, rfl, rfl⟩
    ⟨h.owned.index, h.owned.shown, h.owned.cached, h.owned.background⟩ rfl fun _ => rfl

theorem AtPage.currentPage (hwide : 0 < c.viewWidth) {page : ℕ}
    (h : c.AtPage page c.scrollView.contentOffsetX) : c.currentPage = page := by
  rw [WMPageController.currentPage, h.1, mul_div_assoc, div_self hwide.ne', mul_one]
  exact_mod_cast truncate_intCast page

theorem Waiting.not_atPage (h : Waiting c) (hwide : 0 < c.viewWidth) (page : ℕ) (x : CGFloat) :
    ¬ c.AtPage page x := by
  rintro ⟨hx, hend⟩
  rw [h.content, hx] at hend
  have hpage : (0 : ℚ) ≤ page * c.viewWidth := mul_nonneg (Nat.cast_nonneg _) hwide.le
  linarith

theorem Windowed.scrollViewDidEndDecelerating (h : Windowed c)
    (hrest : ∃ page, c.AtPage page c.scrollView.contentOffsetX) :
    Windowed c.scrollViewDidEndDecelerating := by
  obtain ⟨page, hpage⟩ := hrest
  have hselected : Windowed (c.assignSelectIndex c.currentPage) := by
    have howned : Owned (c.assignSelectIndex c.currentPage) := by
      refine ⟨?_, h.owned.shown, h.owned.cached, h.owned.background⟩
      change 0 ≤ c.currentPage
      rw [hpage.currentPage h.wide]
      exact Int.natCast_nonneg page
    have hsame : SameWindow c (c.assignSelectIndex c.currentPage) :=
      ⟨rfl, rfl, rfl, rfl, rfl, rfl, rfl⟩
    refine ⟨howned, h.unlocked, h.marked, h.wide, fun hin => (h.laid hin).congr hsame, ?_⟩
    intro hout
    left
    exact (h.before hout).resolve_right fun hwait => hwait.not_atPage h.wide page _ hpage
  have hmenu := hselected.updateMenuView (WMMenuView.setUserInteractionEnabled true)
  exact hmenu.showCurrent.didEnter.updateMenuView _

theorem Windowed.viewDidLayoutSubviews (h : Windowed c) {width : CGFloat} (hwidth : 0 < width)
    (sameBounds : Bool) : Windowed (c.viewDidLayoutSubviews keeps callsBack sameBounds width) := by
  by_cases hcount : c.childControllersCount = 0
  · rw [WMPageController.viewDidLayoutSubviews, if_pos hcount]
    exact h
  · by_cases hskip : (c.hasInited && sameBounds) = true
    · rw [WMPageController.viewDidLayoutSubviews, if_neg hcount, if_pos hskip]
      exact h
    · have hlays : c.viewDidLayoutSubviews keeps callsBack sameBounds width =
          c.viewDidLayoutSubviews keeps callsBack false width := by
        unfold WMPageController.viewDidLayoutSubviews
        rw [if_neg hskip, Bool.and_false, if_neg Bool.false_ne_true]
      rw [hlays]
      apply windowed_of_layout h.owned h.unlocked h.marked hwidth
      rcases hin : c.hasInited with _ | _
      · exact .inr ((h.before hin).resolve_left hcount)
      · exact .inl (h.laid hin)

theorem Windowed.forceLayoutSubviews (h : Windowed c) {width : CGFloat} (hwidth : 0 < width) :
    Windowed (c.forceLayoutSubviews keeps callsBack width) := by
  unfold WMPageController.forceLayoutSubviews
  have howned : Owned (c.setHasInited false) :=
    ⟨h.owned.index, h.owned.shown, h.owned.cached, h.owned.background⟩
  by_cases hcount : c.childControllersCount = 0
  · have hnone : (c.setHasInited false).childControllersCount = 0 := hcount
    rw [WMPageController.viewDidLayoutSubviews, if_pos hnone]
    refine ⟨howned, h.unlocked, h.marked, h.wide, ?_, fun _ => .inl hcount⟩
    intro hin
    cases hin
  · apply windowed_of_layout howned h.unlocked h.marked hwidth
    rcases hin : c.hasInited with _ | _
    · have hwait := (h.before hin).resolve_left hcount
      exact .inr ⟨hwait.count, hwait.content, hwait.shows, hwait.exact⟩
    · have hshown := h.laid hin
      have hfitted := hshown.fitted
      exact .inl ⟨⟨hfitted.count, hfitted.wide, hfitted.frame, hfitted.content⟩, hshown.covers,
        hshown.exact⟩

theorem Windowed.scroll (h : Windowed c) (hcontent : 0 < c.scrollView.contentWidth) (x y : CGFloat) :
    Windowed ((c.setContentOffset x y).scrollViewDidScroll keeps) := by
  rcases hin : c.hasInited with _ | _
  · have hquiet : (c.setContentOffset x y).scrollViewDidScroll keeps = c.setContentOffset x y := by
      have hout : (c.setContentOffset x y).hasInited = false := hin
      rw [WMPageController.scrollViewDidScroll, hout, Bool.not_false, Bool.or_true, if_pos rfl]
    rw [hquiet]
    refine ⟨⟨h.owned.index, h.owned.shown, h.owned.cached, h.owned.background⟩, h.unlocked, h.marked,
      h.wide, ?_, ?_⟩
    · intro hinited
      exact absurd (hin.symm.trans hinited) Bool.false_ne_true
    · intro _
      left
      apply (h.before hin).resolve_right
      intro hwait
      rw [hwait.content] at hcontent
      exact lt_irrefl _ hcontent
  · obtain ⟨hmoved, hshown, _⟩ :=
      ((h.movable hin).setContentOffset x y).scrollViewDidScroll keeps
    exact hmoved.windowed hshown

structure KeepsPages (c d : WMPageController) : Prop where
  window : SameWindow c d
  selectIndex : d.selectIndex = c.selectIndex
  marked : d.markedSelectIndex = c.markedSelectIndex
  menuView : d.menuView = c.menuView
  currentViewController : d.currentViewController = c.currentViewController
  pageAnimatable : d.pageAnimatable = c.pageAnimatable
  cached : ∀ i vc, d.memCache.objectForKey i = some vc →
    c.memCache.objectForKey i = some vc ∨ c.backgroundCache i = some vc
  background : ∀ i vc, d.backgroundCache i = some vc →
    c.backgroundCache i = some vc ∨ c.memCache.objectForKey i = some vc

theorem Windowed.keepsPages (h : Windowed c) (honly : KeepsPages c d) : Windowed d := by
  apply h.congr honly.window _ honly.marked fun _ => honly.selectIndex
  constructor
  · rw [honly.selectIndex]
    exact h.owned.index
  · rw [honly.window.displayVC, honly.window.count]
    exact h.owned.shown
  · intro i vc hvc
    rcases honly.cached i vc hvc with hold | hold
    · exact h.owned.cached i vc hold
    · exact h.owned.background i vc hold
  · intro i vc hvc
    rcases honly.background i vc hvc with hold | hold
    · exact h.owned.background i vc hold
    · exact h.owned.cached i vc hold

theorem KeepsPages.refl (c : WMPageController) : KeepsPages c c :=
  ⟨⟨rfl, rfl, rfl, rfl, rfl, rfl, rfl⟩, rfl, rfl, rfl, rfl, rfl, fun _ _ h => .inl h,
    fun _ _ h => .inl h⟩

theorem KeepsPages.trans (h : KeepsPages c d) (h' : KeepsPages d e) : KeepsPages c e := by
  constructor
  · exact ⟨h'.window.count.trans h.window.count, h'.window.viewWidth.trans h.window.viewWidth,
      h'.window.scrollView.trans h.window.scrollView, h'.window.hasInited.trans h.window.hasInited,
      h'.window.shouldNotScroll.trans h.window.shouldNotScroll,
      h'.window.preloadPolicy.trans h.window.preloadPolicy,
      h'.window.displayVC.trans h.window.displayVC⟩
  · exact h'.selectIndex.trans h.selectIndex
  · exact h'.marked.trans h.marked
  · exact h'.menuView.trans h.menuView
  · exact h'.currentViewController.trans h.currentViewController
  · exact h'.pageAnimatable.trans h.pageAnimatable
  · intro i vc hvc
    rcases h'.cached i vc hvc with hold | hold
    · exact h.cached i vc hold
    · exact (h.background i vc hold).symm
  · intro i vc hvc
    rcases h'.background i vc hvc with hold | hold
    · exact h.background i vc hold
    · exact (h.cached i vc hold).symm

theorem setCachePolicy_keepsPages (policy : WMPageControllerCachePolicy) (c : WMPageController) :
    KeepsPages c (c.setCachePolicy policy) := by
  unfold setCachePolicy
  dsimp only
  split
  · exact ⟨⟨rfl, rfl, rfl, rfl, rfl, rfl, rfl⟩, rfl, rfl, rfl, rfl, rfl, fun _ _ h => .inl h,
    fun _ _ h => .inl h⟩
  · exact ⟨⟨rfl, rfl, rfl, rfl, rfl, rfl, rfl⟩, rfl, rfl, rfl, rfl, rfl, fun _ _ h => .inl h,
    fun _ _ h => .inl h⟩

theorem performSelector_keepsPages (selector : CacheGrowth) (delay : CGFloat)
    (c : WMPageController) : KeepsPages c (c.performSelector selector delay) :=
  ⟨⟨rfl, rfl, rfl, rfl, rfl, rfl, rfl⟩, rfl, rfl, rfl, rfl, rfl, fun _ _ h => .inl h,
    fun _ _ h => .inl h⟩

theorem cancelPreviousPerformRequests_keepsPages (selector : CacheGrowth) (c : WMPageController) :
    KeepsPages c (c.cancelPreviousPerformRequests selector) :=
  ⟨⟨rfl, rfl, rfl, rfl, rfl, rfl, rfl⟩, rfl, rfl, rfl, rfl, rfl, fun _ _ h => .inl h,
    fun _ _ h => .inl h⟩

theorem removeCachedControllers_keepsPages (c : WMPageController) :
    KeepsPages c c.removeCachedControllers := by
  refine ⟨⟨rfl, rfl, rfl, rfl, rfl, rfl, rfl⟩, rfl, rfl, rfl, rfl, rfl, ?_, fun _ _ h => .inl h⟩
  intro i vc hvc
  cases hvc

theorem didReceiveMemoryWarning_keepsPages (c : WMPageController) :
    KeepsPages c c.didReceiveMemoryWarning := by
  have hcounted : KeepsPages c c.countMemoryWarning :=
    ⟨⟨rfl, rfl, rfl, rfl, rfl, rfl, rfl⟩, rfl, rfl, rfl, rfl, rfl, fun _ _ h => .inl h,
    fun _ _ h => .inl h⟩
  have hlow := hcounted.trans (setCachePolicy_keepsPages .lowMemory _)
  have hcancelled := (hlow.trans (cancelPreviousPerformRequests_keepsPages .afterMemoryWarning _)).trans
    (cancelPreviousPerformRequests_keepsPages .toHigh _)
  have hshrunk : KeepsPages c c.shrinkCache :=
    hcancelled.trans (removeCachedControllers_keepsPages _)
  unfold didReceiveMemoryWarning
  dsimp only
  split
  · exact hshrunk.trans (performSelector_keepsPages _ _ _)
  · exact hshrunk

theorem perform_keepsPages (request : CacheGrowth × CGFloat) (c : WMPageController) :
    KeepsPages c (c.perform request) := by
  have herased : KeepsPages c { c with performRequests := c.performRequests.erase request } :=
    ⟨⟨rfl, rfl, rfl, rfl, rfl, rfl, rfl⟩, rfl, rfl, rfl, rfl, rfl, fun _ _ h => .inl h,
    fun _ _ h => .inl h⟩
  unfold perform
  dsimp only
  split
  · exact (herased.trans (setCachePolicy_keepsPages .balanced _)).trans
      (performSelector_keepsPages _ _ _)
  · exact herased.trans (setCachePolicy_keepsPages .high _)

theorem evict_keepsPages (key : ℤ) (c : WMPageController) :
    KeepsPages c { c with memCache := c.memCache.evict key } := by
  refine ⟨⟨rfl, rfl, rfl, rfl, rfl, rfl, rfl⟩, rfl, rfl, rfl, rfl, rfl, ?_, fun _ _ h => .inl h⟩
  intro i vc hvc
  rcases update_some hvc with ⟨_, hnone⟩ | hold
  · cases hnone
  · exact .inl hold

theorem willResignActive_keepsPages (c : WMPageController) : KeepsPages c c.willResignActive := by
  refine ⟨⟨rfl, rfl, rfl, rfl, rfl, rfl, rfl⟩, rfl, rfl, rfl, rfl, rfl, fun _ _ h => .inl h, ?_⟩
  intro i vc hvc
  dsimp only [willResignActive] at hvc
  split at hvc
  · split at hvc
    · rename_i cached hcached
      cases hvc
      exact .inr hcached
    · exact .inl hvc
  · exact .inl hvc

theorem restoreFromBackground_keepsPages (c : WMPageController) (key : ℤ) :
    KeepsPages c (c.restoreFromBackground keeps key) := by
  unfold restoreFromBackground
  split
  · rename_i kept hkept
    split
    · refine ⟨⟨rfl, rfl, rfl, rfl, rfl, rfl, rfl⟩, rfl, rfl, rfl, rfl, rfl, ?_, fun _ _ h => .inl h⟩
      intro i vc hvc
      rcases setObject_some hvc with ⟨rfl, rfl⟩ | hold
      · exact .inr hkept
      · exact .inl hold
    · exact .refl c
  · exact .refl c

theorem willEnterForeground_keepsPages (keys : List ℤ) (c : WMPageController) :
    KeepsPages c (c.willEnterForeground keeps keys) := by
  have hloop : KeepsPages c (keys.foldl (restoreFromBackground keeps) c) :=
    List.foldlRecOn keys _ (.refl c) fun _ hd key _ =>
      hd.trans (restoreFromBackground_keepsPages _ key)
  unfold willEnterForeground
  apply hloop.trans
  refine ⟨⟨rfl, rfl, rfl, rfl, rfl, rfl, rfl⟩, rfl, rfl, rfl, rfl, rfl, fun _ _ h => .inl h, ?_⟩
  intro i vc hvc
  cases hvc

theorem Windowed.step {event : Event} (h : Windowed c) (hstep : Step c event d) : Windowed d := by
  obtain ⟨hpermitted, keeps, callsBack, rfl⟩ := hstep
  have howned := h.owned
  cases event with
  | scroll x y => exact h.scroll hpermitted.1 x y
  | willBeginDragging =>
    exact h.congr ⟨rfl, rfl, rfl, rfl, rfl, rfl, rfl⟩
      ⟨howned.index, howned.shown, howned.cached, howned.background⟩ rfl fun _ => rfl
  | willEndDragging target =>
    exact h.congr ⟨rfl, rfl, rfl, rfl, rfl, rfl, rfl⟩
      ⟨howned.index, howned.shown, howned.cached, howned.background⟩ rfl fun _ => rfl
  | didEndDragging decelerate =>
    cases decelerate with
    | false => exact h.updateMenuView _
    | true => exact h
  | didEndDecelerating => exact h.scrollViewDidEndDecelerating hpermitted
  | didEndScrollingAnimation => exact h.showCurrent.didEnter.updateMenuView _
  | press index => exact h.didPressedMenuItem (Int.natCast_nonneg index)
  | setSelectIndex index => exact h.setSelectIndex hpermitted.2 (Int.natCast_nonneg index)
  | refreshMenu => exact h.updateMenuView _
  | screenFrame => exact h.updateMenuView _
  | layout sameBounds width => exact h.viewDidLayoutSubviews hpermitted sameBounds
  | forceLayout width => exact h.forceLayoutSubviews hpermitted
  | appear =>
    rw [handle, viewDidAppear]
    split
    · exact h
    · exact h.didEnter
  | reload count width => exact h.reloadData count hpermitted
  | memoryWarning => exact h.keepsPages (didReceiveMemoryWarning_keepsPages c)
  | wait duration =>
    exact h.congr ⟨rfl, rfl, rfl, rfl, rfl, rfl, rfl⟩
      ⟨howned.index, howned.shown, howned.cached, howned.background⟩ rfl fun _ => rfl
  | performRequest request => exact h.keepsPages (perform_keepsPages request c)
  | evict key => exact h.keepsPages (evict_keepsPages key c)
  | resignActive => exact h.keepsPages (willResignActive_keepsPages c)
  | enterForeground keys => exact h.keepsPages (willEnterForeground_keepsPages keys c)

theorem Fresh.windowed (h : Fresh c) {width : CGFloat} (hwidth : 0 < width) :
    Windowed (c.viewDidLoad width) := by
  obtain ⟨hlow, hhigh⟩ := h.index
  have hcount : ¬ c.childControllersCount = 0 := h.count.ne'
  have howned : Owned (c.wmCalculateSize width) := by
    refine ⟨hlow, ?_, ?_, ?_⟩
    · intro i vc hvc
      exact absurd (hvc.symm.trans (congrFun h.displayVC i)) (Option.some_ne_none vc)
    · intro i vc hvc
      exact absurd (hvc.symm.trans (congrFun h.memCache i)) (Option.some_ne_none vc)
    · intro i vc hvc
      exact absurd (hvc.symm.trans (congrFun h.backgroundCache i)) (Option.some_ne_none vc)
  obtain ⟨hwait, hmade⟩ := wmReset_waiting howned h.displayVC hhigh
  unfold viewDidLoad
  rw [if_neg hcount]
  refine ⟨⟨hmade.index, hmade.shown, hmade.cached, hmade.background⟩, h.shouldNotScroll, ?_, hwidth,
    ?_, ?_⟩
  · rcases h.marked with hsame | ⟨hnone, _⟩
    · exact .inr (hlow.trans_eq hsame.symm)
    · exact .inl hnone
  · intro hin
    exact absurd (h.hasInited.symm.trans hin) Bool.false_ne_true
  · intro _
    exact .inr ⟨hwait.count, hwait.content, hwait.shows, hwait.exact⟩

structure ShowsScreen (c : WMPageController) : Prop where
  covers : ∀ i : ℕ, i < c.childControllersCount → c.isInScreen i = true →
    ∃ vc, c.displayVC i = some vc ∧ vc.page = i
  exact : c.preloadPolicy = .never → ∀ i, c.displayVC i ≠ none →
    0 ≤ i ∧ i < c.childControllersCount ∧ c.isInScreen i = true

theorem Shown.showsScreen (h : Shown c) (howned : Owned c) : ShowsScreen c := by
  constructor
  · intro i hi hon
    obtain ⟨vc, hvc⟩ := Option.ne_none_iff_exists'.mp (h.covers i hi hon)
    exact ⟨vc, hvc, (howned.shown i vc hvc).1⟩
  · intro hnever i hshown
    obtain ⟨vc, hvc⟩ := Option.ne_none_iff_exists'.mp hshown
    obtain ⟨_, hlow, hhigh⟩ := howned.shown i vc hvc
    exact ⟨hlow, hhigh, h.exact hnever i hshown⟩

theorem run_shows_screen {width : CGFloat} {tr : List (Event × WMPageController)} (hfresh : Fresh c)
    (hwidth : 0 < width) (htr : Trace Step (c.viewDidLoad width) tr) :
    Always (fun d => d.hasInited = true → ShowsScreen d) (c.viewDidLoad width) tr := by
  have hrun : Always Windowed (c.viewDidLoad width) tr :=
    htr.always (fun _ _ _ h hstep => h.step hstep) (hfresh.windowed hwidth)
  apply hrun.mono
  intro d hd hin
  exact (hd.laid hin).showsScreen hd.owned

def twoPages : WMPageController := { childControllersCount := 2 }

def keepAll : NSCacheKeeps := fun _ _ _ => true

theorem twoPages_fresh : Fresh twoPages :=
  ⟨by decide, ⟨le_rfl, by decide⟩, .inr ⟨rfl, rfl⟩, rfl, rfl, rfl, rfl, rfl, fun _ => rfl, rfl, rfl,
    rfl⟩

def twoPagesLoaded : WMPageController := twoPages.viewDidLoad 100

def twoPagesLaid : WMPageController := twoPagesLoaded.handle keepAll false (.layout false 100)

theorem twoPages_layout : Step twoPagesLoaded (.layout false 100) twoPagesLaid :=
  ⟨by norm_num [Permitted], keepAll, false, rfl⟩

theorem twoPages_shows_screen : Always (fun d => d.hasInited = true → ShowsScreen d) twoPagesLoaded
    [(Event.layout false 100, twoPagesLaid)] :=
  run_shows_screen twoPages_fresh (by norm_num) (.cons twoPages_layout (.nil _))

theorem run_scroll_keeps_near {width : CGFloat} {tr : List (Event × WMPageController)}
    (hfresh : Fresh c) (hwidth : 0 < width) (htr : Trace Step (c.viewDidLoad width) tr) :
    Steps (fun d event e => (∃ x y, event = .scroll x y) → d.hasInited = true → NearScreen e)
      (c.viewDidLoad width) tr := by
  apply htr.steps (fun _ _ _ h hstep => Windowed.step h hstep) _ (hfresh.windowed hwidth)
  rintro d event e h ⟨_, keeps, callsBack, rfl⟩ ⟨x, y, rfl⟩ hin
  exact (((h.movable hin).setContentOffset x y).scrollViewDidScroll keeps).2.2

def twoPagesDragged : WMPageController := twoPagesLaid.handle keepAll false .willBeginDragging

def twoPagesScrolled : WMPageController := twoPagesDragged.handle keepAll false (.scroll 50 0)

theorem twoPages_scroll_keeps_near :
    Steps (fun d event e => (∃ x y, event = .scroll x y) → d.hasInited = true → NearScreen e)
      twoPagesLoaded [(Event.layout false 100, twoPagesLaid), (Event.willBeginDragging, twoPagesDragged),
       (Event.scroll 50 0, twoPagesScrolled)] := by
  apply run_scroll_keeps_near twoPages_fresh (by norm_num)
  have hcontent : 0 < twoPagesDragged.scrollView.contentWidth := by decide +kernel
  exact .cons twoPages_layout (.cons ⟨trivial, keepAll, false, rfl⟩
    (.cons ⟨⟨hcontent, .inl rfl⟩, keepAll, false, rfl⟩ (.nil _)))

end MixedProject.WMPageController
