import MixedProject.MenuRuns
import MixedProject.PageController
import MixedProject.Traces

namespace MixedProject.WMPageController

open Traces

def wmCalculateSize (width : CGFloat) (controller : WMPageController) : WMPageController :=
  { controller with viewWidth := width }

def wmAddScrollView (controller : WMPageController) : WMPageController :=
  { controller with scrollView := {} }

def wmAddMenuView (controller : WMPageController) : WMPageController :=
  let menu : WMMenuView :=
    { width := controller.viewWidth
      style := controller.menuViewStyle
      layoutMode := controller.menuViewLayoutMode
      contentMargin := controller.menuViewContentMargin
      progressWidths := controller.progressViewWidths
      progressViewIsNaughty := controller.progressViewIsNaughty }
  { controller with menuView := some (menu.willMoveToSuperview controller.menuDelegate) }

def setProgressWidth (progressWidth : CGFloat) (controller : WMPageController) : WMPageController :=
  let progressViewWidths := List.replicate controller.childControllersCount progressWidth
  let controller := { controller with progressWidth, progressViewWidths }
  controller.updateMenuView (WMMenuView.setProgressWidths controller.menuDelegate progressViewWidths)

/-- The offset keeps its share of the content; before the first layout it goes to the selected page.
The scroll view's own report of the new offset finds the lock set. -/
def wmAdjustScrollViewFrame (controller : WMPageController) : WMPageController :=
  let oldContentOffsetX := controller.scrollView.contentOffsetX
  let contentWidth := controller.scrollView.contentWidth
  let xContentOffset :=
    if contentWidth = 0 then controller.selectIndex * controller.viewWidth
    else oldContentOffsetX / contentWidth * controller.childControllersCount * controller.viewWidth
  { controller with
    scrollView :=
      { width := controller.viewWidth
        contentWidth := controller.childControllersCount * controller.viewWidth
        contentOffsetX := xContentOffset
        contentOffsetY := 0 } }

def wmAdjustMenuViewFrame (controller : WMPageController) : WMPageController :=
  let menuWidth := controller.viewWidth - controller.viewX
  controller.updateMenuView fun menu =>
    let oriWidth := menu.width
    let menu := WMMenuView.resetFrames controller.menuDelegate { menu with width := menuWidth }
    if oriWidth ≠ menuWidth then menu.refreshContenOffset else menu

def wmDelaySelectIndexIfNeeded (keeps : NSCacheKeeps) (callsBack : Bool)
    (controller : WMPageController) : WMPageController :=
  if controller.markedSelectIndex ≠ -1 then
    controller.setSelectIndex keeps callsBack controller.markedSelectIndex
  else controller

def setHasInited (hasInited : Bool) (controller : WMPageController) : WMPageController :=
  { controller with hasInited }

/-- `sameBounds` says that neither the height nor the tab bar has changed since the last layout. -/
def viewDidLayoutSubviews (keeps : NSCacheKeeps) (callsBack sameBounds : Bool) (width : CGFloat)
    (controller : WMPageController) : WMPageController :=
  if controller.childControllersCount = 0 then controller
  else if controller.hasInited && sameBounds then controller
  else
    let controller := controller.wmCalculateSize width
    let controller := controller.wmAdjustScrollViewFrame
    let controller := controller.wmAdjustMenuViewFrame
    (controller.setHasInited true).wmDelaySelectIndexIfNeeded keeps callsBack

def forceLayoutSubviews (keeps : NSCacheKeeps) (callsBack : Bool) (width : CGFloat)
    (controller : WMPageController) : WMPageController :=
  (controller.setHasInited false).viewDidLayoutSubviews keeps callsBack false width

def viewDidLoad (width : CGFloat) (controller : WMPageController) : WMPageController :=
  if controller.childControllersCount = 0 then controller
  else
    let controller := controller.wmCalculateSize width
    let controller := controller.wmAddScrollView
    let controller := controller.wmAddViewControllerAtIndex controller.selectIndex
    controller.showCurrent.wmAddMenuView

def viewDidAppear (controller : WMPageController) : WMPageController :=
  if controller.childControllersCount = 0 then controller
  else controller.didEnterController controller.selectIndex

def wmClearDatas (count : ℕ) (controller : WMPageController) : WMPageController :=
  let maxIndex : ℤ := if (count : ℤ) - 1 > 0 then count - 1 else 0
  let controller :=
    { controller with
      childControllersCount := count
      hasInited := false
      selectIndex := if controller.selectIndex < count then controller.selectIndex else maxIndex }
  let controller :=
    if controller.progressWidth > 0 then controller.setProgressWidth controller.progressWidth
    else controller
  let controller := { controller with memoryWarningCount := 0 }
  let controller := controller.cancelPreviousPerformRequests .afterMemoryWarning
  let controller := controller.cancelPreviousPerformRequests .toHigh
  { controller with currentViewController := none, displayVC := fun _ => none }

def wmResetScrollView (controller : WMPageController) : WMPageController :=
  (controller.wmAddScrollView.wmAddViewControllerAtIndex controller.selectIndex).showCurrent

def wmResetMenuView (keeps : NSCacheKeeps) (callsBack : Bool) (controller : WMPageController) :
    WMPageController :=
  if controller.menuView.isNone then controller.wmAddMenuView
  else
    let controller := controller.updateMenuView fun menu =>
      (WMMenuView.reload controller.menuDelegate menu).setUserInteractionEnabled true
    if controller.selectIndex ≠ 0 then
      controller.selectItemAtIndex keeps callsBack controller.selectIndex
    else controller

/-- `count` is what the data source answers now. -/
def reloadData (keeps : NSCacheKeeps) (callsBack : Bool) (count : ℕ) (width : CGFloat)
    (controller : WMPageController) : WMPageController :=
  let controller := controller.wmClearDatas count
  if controller.childControllersCount = 0 then controller
  else
    let controller := controller.wmResetScrollView.removeCachedControllers
    (controller.wmResetMenuView keeps callsBack).viewDidLayoutSubviews keeps callsBack false width

inductive Event
  | scroll (x y : CGFloat)
  | willBeginDragging
  | willEndDragging (target : CGFloat)
  | didEndDragging (decelerate : Bool)
  | didEndDecelerating
  | didEndScrollingAnimation
  | press (index : ℕ)
  | setSelectIndex (index : ℕ)
  | refreshMenu
  | screenFrame
  | layout (sameBounds : Bool) (width : CGFloat)
  | forceLayout (width : CGFloat)
  | appear
  | reload (count : ℕ) (width : CGFloat)
  | memoryWarning
  | wait (duration : CGFloat)
  | performRequest (request : CacheGrowth × CGFloat)
  | evict (key : ℤ)
  | resignActive
  | enterForeground (keys : List ℤ)

def perform (request : CacheGrowth × CGFloat) (controller : WMPageController) : WMPageController :=
  let controller := { controller with performRequests := controller.performRequests.erase request }
  match request.1 with
  | .afterMemoryWarning => controller.wmGrowCachePolicyAfterMemoryWarning
  | .toHigh => controller.wmGrowCachePolicyToHigh

def handle (keeps : NSCacheKeeps) (callsBack : Bool) (controller : WMPageController) :
    Event → WMPageController
  | .scroll x y => (controller.setContentOffset x y).scrollViewDidScroll keeps
  | .willBeginDragging => controller.scrollViewWillBeginDragging
  | .willEndDragging target => controller.scrollViewWillEndDragging target
  | .didEndDragging decelerate => controller.scrollViewDidEndDragging decelerate
  | .didEndDecelerating => controller.scrollViewDidEndDecelerating
  | .didEndScrollingAnimation => controller.scrollViewDidEndScrollingAnimation
  | .press index => controller.didPressedMenuItem keeps callsBack index
  | .setSelectIndex index => controller.setSelectIndex keeps callsBack index
  | .refreshMenu => controller.updateMenuView WMMenuView.refreshContenOffset
  | .screenFrame => controller.updateMenuView WMMenuView.screenFrame
  | .layout sameBounds width => controller.viewDidLayoutSubviews keeps callsBack sameBounds width
  | .forceLayout width => controller.forceLayoutSubviews keeps callsBack width
  | .appear => controller.viewDidAppear
  | .reload count width => controller.reloadData keeps callsBack count width
  | .memoryWarning => controller.didReceiveMemoryWarning
  | .wait duration => { controller with now := controller.now + duration }
  | .performRequest request => controller.perform request
  | .evict key => { controller with memCache := controller.memCache.evict key }
  | .resignActive => controller.willResignActive
  | .enterForeground keys => controller.willEnterForeground keeps keys

def AtPage (controller : WMPageController) (page : ℕ) (x : CGFloat) : Prop :=
  x = page * controller.viewWidth ∧ x + controller.viewWidth ≤ controller.scrollView.contentWidth

/-- What the system and the program that uses the controller see to. -/
def Permitted (controller : WMPageController) : Event → Prop
  | .scroll _ _ => 0 < controller.scrollView.contentWidth ∧
      (controller.startDragging = true ∨ controller.pageAnimatable = true)
  | .didEndDragging decelerate => decelerate = true ∨
      controller.targetX = controller.scrollView.contentOffsetX ∧
        ∃ page, controller.AtPage page controller.targetX
  | .didEndDecelerating => ∃ page, controller.AtPage page controller.scrollView.contentOffsetX
  | .didEndScrollingAnimation => controller.pageAnimatable = true
  | .press index => index < controller.childControllersCount ∧ controller.hasInited = true ∧
      ∃ menu, controller.menuView = some menu ∧ menu.userInteractionEnabled = true
  | .setSelectIndex index => index < controller.childControllersCount ∧ controller.hasInited = true
  | .layout _ width => 0 < width
  | .forceLayout width => 0 < width
  | .reload _ width => 0 < width
  | .wait duration => 0 ≤ duration
  | .performRequest request =>
      request ∈ controller.performRequests ∧ request.2 ≤ controller.now
  | .enterForeground keys => ∀ key, controller.backgroundCache key ≠ none → key ∈ keys
  | _ => True

/-- In each step the caches may drop what they like and the scroll view may call back or not. -/
def Step (controller : WMPageController) (event : Event) (after : WMPageController) : Prop :=
  controller.Permitted event ∧ ∃ keeps callsBack, after = controller.handle keeps callsBack event

structure Fresh (controller : WMPageController) : Prop where
  count : 0 < controller.childControllersCount
  index : 0 ≤ controller.selectIndex ∧ controller.selectIndex < controller.childControllersCount
  marked : controller.markedSelectIndex = controller.selectIndex ∨
    controller.markedSelectIndex = -1 ∧ controller.selectIndex = 0
  menuView : controller.menuView = none
  hasInited : controller.hasInited = false
  shouldNotScroll : controller.shouldNotScroll = false
  displayVC : controller.displayVC = fun _ => none
  memCache : controller.memCache.objectForKey = fun _ => none
  countLimit : controller.cachePolicy ≠ .disabled →
    controller.memCache.countLimit = controller.cachePolicy.rawValue
  backgroundCache : controller.backgroundCache = fun _ => none
  memoryWarningCount : controller.memoryWarningCount = 0
  performRequests : controller.performRequests = []

end MixedProject.WMPageController
