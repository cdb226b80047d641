import Mathlib.Logic.Function.Basic
import MixedProject.MenuView

namespace MixedProject

open RowLayout StepAnimation

inductive WMPageControllerCachePolicy
  | disabled
  | noLimit
  | lowMemory
  | balanced
  | high
  deriving DecidableEq

def WMPageControllerCachePolicy.rawValue : WMPageControllerCachePolicy → ℤ
  | .disabled => -1
  | .noLimit => 0
  | .lowMemory => 1
  | .balanced => 3
  | .high => 5

inductive WMPageControllerPreloadPolicy
  | never
  | neighbour
  | near
  deriving DecidableEq

def WMPageControllerPreloadPolicy.rawValue : WMPageControllerPreloadPolicy → ℤ
  | .never => 0
  | .neighbour => 1
  | .near => 2

/-- A child controller is known by the page whose class made it and by its turn to be made. -/
structure ChildViewController where
  page : ℤ
  serial : ℕ
  deriving DecidableEq

/-- Which entries an `NSCache` keeps after an insertion, given its count limit: it may drop any. -/
abbrev NSCacheKeeps := ℤ → (ℤ → Option ChildViewController) → ℤ → Bool

structure NSCache where
  countLimit : ℤ := 0
  objectForKey : ℤ → Option ChildViewController := fun _ => none

namespace NSCache

def setObject (keeps : NSCacheKeeps) (object : ChildViewController) (key : ℤ) (cache : NSCache) :
    NSCache :=
  let objects := Function.update cache.objectForKey key (some object)
  { cache with
    objectForKey := fun k => if keeps cache.countLimit objects k then objects k else none }

def removeAllObjects (cache : NSCache) : NSCache := { cache with objectForKey := fun _ => none }

def evict (key : ℤ) (cache : NSCache) : NSCache :=
  { cache with objectForKey := Function.update cache.objectForKey key none }

end NSCache

inductive CacheGrowth
  | afterMemoryWarning
  | toHigh
  deriving DecidableEq

structure WMScrollView where
  width : CGFloat := 0
  contentWidth : CGFloat := 0
  contentOffsetX : CGFloat := 0
  contentOffsetY : CGFloat := 0

structure WMPageController where
  childControllersCount : ℕ
  viewX : CGFloat := 0
  viewWidth : CGFloat := 0
  scrollView : WMScrollView := {}
  menuView : Option WMMenuView := none
  hasInited : Bool := false
  shouldNotScroll : Bool := false
  startDragging : Bool := false
  pageAnimatable : Bool := false
  targetX : CGFloat := 0
  selectIndex : ℤ := 0
  markedSelectIndex : ℤ := -1
  currentViewController : Option ChildViewController := none
  displayVC : ℤ → Option ChildViewController := fun _ => none
  memCache : NSCache := {}
  backgroundCache : ℤ → Option ChildViewController := fun _ => none
  cachePolicy : WMPageControllerCachePolicy := .noLimit
  preloadPolicy : WMPageControllerPreloadPolicy := .never
  memoryWarningCount : ℕ := 0
  /-- The delayed `performSelector:` requests with the times they are due, and the clock. -/
  performRequests : List (CacheGrowth × CGFloat) := []
  now : CGFloat := 0
  /-- The number of child controllers made so far. -/
  made : ℕ := 0
  automaticallyCalculatesItemWidths : Bool := false
  calculatedWidths : ℕ → CGFloat := fun _ => 0
  menuItemWidth : CGFloat := 65
  itemsWidths : List CGFloat := []
  itemMargin : CGFloat := 0
  itemsMargins : List CGFloat := []
  titleSizeSelected : CGFloat := 18
  titleSizeNormal : CGFloat := 15
  menuViewStyle : WMMenuViewStyle := .default
  menuViewLayoutMode : WMMenuViewLayoutMode := .scatter
  menuViewContentMargin : CGFloat := 0
  progressWidth : CGFloat := 0
  progressViewWidths : List CGFloat := []
  progressViewIsNaughty : Bool := false

namespace WMPageController

def widthForItemAtIndex (controller : WMPageController) (index : ℕ) : CGFloat :=
  if controller.automaticallyCalculatesItemWidths then controller.calculatedWidths index
  else if controller.itemsWidths.length = controller.childControllersCount then
    numberWithFloat (controller.itemsWidths.getD index 0)
  else controller.menuItemWidth

def itemMarginAtIndex (controller : WMPageController) (index : ℕ) : CGFloat :=
  if controller.itemsMargins.length = controller.childControllersCount + 1 then
    numberWithFloat (controller.itemsMargins.getD index 0)
  else controller.itemMargin

def titleSizeForState (controller : WMPageController) (state : WMMenuItemState) (_index : ℕ) :
    CGFloat :=
  match state with
  | .selected => controller.titleSizeSelected
  | .normal => controller.titleSizeNormal

def menuDelegate (controller : WMPageController) : WMMenuViewDelegate where
  numbersOfTitles := controller.childControllersCount
  widthForItemAtIndex := controller.widthForItemAtIndex
  itemMarginAtIndex := controller.itemMarginAtIndex
  titleSizeForState := controller.titleSizeForState

def updateMenuView (f : WMMenuView → WMMenuView) (controller : WMPageController) :
    WMPageController :=
  { controller with menuView := controller.menuView.map f }

def childViewFrame (controller : WMPageController) (index : ℤ) : Span CGFloat :=
  ⟨index * controller.viewWidth, controller.viewWidth⟩

def wmIsInScreen (controller : WMPageController) (frame : Span CGFloat) : Bool :=
  frame.maxX > controller.scrollView.contentOffsetX &&
    frame.x - controller.scrollView.contentOffsetX < controller.scrollView.width

def isInScreen (controller : WMPageController) (index : ℤ) : Bool :=
  controller.wmIsInScreen (controller.childViewFrame index)

def willEnterController (index : ℤ) (controller : WMPageController) : WMPageController :=
  { controller with selectIndex := index }

def assignSelectIndex (selectIndex : ℤ) (controller : WMPageController) : WMPageController :=
  { controller with selectIndex }

def setStartDragging (startDragging : Bool) (controller : WMPageController) : WMPageController :=
  { controller with startDragging }

def setDisplayVC (viewController : Option ChildViewController) (index : ℤ)
    (controller : WMPageController) : WMPageController :=
  { controller with displayVC := Function.update controller.displayVC index viewController }

def initializeViewControllerAtIndex (index : ℤ) (controller : WMPageController) :
    ChildViewController :=
  ⟨index, controller.made⟩

def wmAddCachedViewController (viewController : ChildViewController) (index : ℤ)
    (controller : WMPageController) : WMPageController :=
  (controller.willEnterController index).setDisplayVC (some viewController) index

def wmAddViewControllerAtIndex (index : ℤ) (controller : WMPageController) : WMPageController :=
  let viewController := controller.initializeViewControllerAtIndex index
  let controller := { controller with made := controller.made + 1 }
  (controller.willEnterController index).setDisplayVC (some viewController) index

def wmInitializedControllerWithIndexIfNeeded (index : ℤ) (controller : WMPageController) :
    WMPageController :=
  match controller.memCache.objectForKey index with
  | some viewController => controller.wmAddCachedViewController viewController index
  | none => controller.wmAddViewControllerAtIndex index

def wmRemoveViewController (keeps : NSCacheKeeps) (viewController : ChildViewController) (index : ℤ)
    (controller : WMPageController) : WMPageController :=
  let controller := controller.setDisplayVC none index
  if controller.cachePolicy = .disabled then controller
  else if controller.memCache.objectForKey index = none then
    { controller with memCache := controller.memCache.setObject keeps viewController index }
  else controller

def currentPage (controller : WMPageController) : ℤ :=
  truncate (controller.scrollView.contentOffsetX / controller.viewWidth)

/-- One pass of the loop, with the pages `left` and `right` that it was started with. -/
def layoutChildViewController (keeps : NSCacheKeeps) (left right : ℤ) (controller : WMPageController)
    (i : ℕ) : WMPageController :=
  match controller.displayVC i with
  | none =>
    if controller.isInScreen i then controller.wmInitializedControllerWithIndexIfNeeded i
    else controller
  | some viewController =>
    if i ≤ left ∨ i ≥ right then
      if !controller.isInScreen i then controller.wmRemoveViewController keeps viewController i
      else controller
    else controller

def wmLayoutChildViewControllers (keeps : NSCacheKeeps) (controller : WMPageController) :
    WMPageController :=
  let length := controller.preloadPolicy.rawValue
  let left := controller.currentPage - length - 1
  let right := controller.currentPage + length + 1
  (List.range controller.childControllersCount).foldl (layoutChildViewController keeps left right)
    controller

def preloadChildViewController (controller : WMPageController) (i : ℤ) : WMPageController :=
  if controller.memCache.objectForKey i = none ∧ controller.displayVC i = none then
    controller.wmAddViewControllerAtIndex i
  else controller

def indices (start stop : ℤ) : List ℤ :=
  (List.range (stop - start + 1).toNat).map fun i : ℕ => start + i

def didEnterController (index : ℤ) (controller : WMPageController) : WMPageController :=
  if controller.childControllersCount = 0 then controller
  else if controller.preloadPolicy = .never then controller
  else
    let length := controller.preloadPolicy.rawValue
    let last : ℤ := controller.childControllersCount - 1
    let start := if index > length then index - length else 0
    let stop := if last > length + index then index + length else last
    { (indices start stop).foldl preloadChildViewController controller with selectIndex := index }

def slide (controller : WMPageController) : WMPageController :=
  if controller.startDragging then
    let contentOffsetX := max 0 controller.scrollView.contentOffsetX
    let limit := controller.scrollView.contentWidth - controller.viewWidth
    let contentOffsetX := if contentOffsetX > limit then limit else contentOffsetX
    controller.updateMenuView (WMMenuView.slideMenuAtProgress (contentOffsetX / controller.viewWidth))
  else controller

def didScroll (keeps : NSCacheKeeps) (controller : WMPageController) : WMPageController :=
  if controller.shouldNotScroll || !controller.hasInited then controller
  else (controller.wmLayoutChildViewControllers keeps).slide

def setContentOffset (x y : CGFloat) (controller : WMPageController) : WMPageController :=
  { controller with
    scrollView := { controller.scrollView with contentOffsetX := x, contentOffsetY := y } }

/-- The vertical offset is set back to zero, which calls `scrollViewDidScroll:` once more. -/
def scrollViewDidScroll (keeps : NSCacheKeeps) (controller : WMPageController) : WMPageController :=
  if controller.shouldNotScroll || !controller.hasInited then controller
  else
    let controller := controller.didScroll keeps
    if controller.scrollView.contentOffsetY = 0 then controller
    else (controller.setContentOffset controller.scrollView.contentOffsetX 0).didScroll keeps

def scrollViewWillBeginDragging (controller : WMPageController) : WMPageController :=
  (controller.setStartDragging true).updateMenuView (WMMenuView.setUserInteractionEnabled false)

def scrollViewWillEndDragging (targetContentOffset : CGFloat) (controller : WMPageController) :
    WMPageController :=
  { controller with targetX := targetContentOffset }

def scrollViewDidEndDragging (decelerate : Bool) (controller : WMPageController) :
    WMPageController :=
  if !decelerate then
    controller.updateMenuView fun menu =>
      WMMenuView.deselectedItemsIfNeeded (WMMenuView.slideMenuAtProgress
        (controller.targetX / controller.viewWidth) (menu.setUserInteractionEnabled true))
  else controller

def showCurrent (controller : WMPageController) : WMPageController :=
  { controller with currentViewController := controller.displayVC controller.selectIndex }

def scrollViewDidEndDecelerating (controller : WMPageController) : WMPageController :=
  let controller := controller.updateMenuView (WMMenuView.setUserInteractionEnabled true)
  let controller := (controller.assignSelectIndex controller.currentPage).showCurrent
  let controller := controller.didEnterController controller.selectIndex
  controller.updateMenuView WMMenuView.deselectedItemsIfNeeded

def scrollViewDidEndScrollingAnimation (controller : WMPageController) : WMPageController :=
  let controller := controller.showCurrent
  let controller := controller.didEnterController controller.selectIndex
  controller.updateMenuView WMMenuView.deselectedItemsIfNeeded

/-- Without animation the scroll view jumps; `callsBack` says whether it then reports a new offset
to its delegate. -/
def jumpTo (keeps : NSCacheKeeps) (callsBack : Bool) (x : CGFloat) (controller : WMPageController) :
    WMPageController :=
  let moved := controller.scrollView.contentOffsetX ≠ x
  let controller := controller.setContentOffset x 0
  if callsBack && moved then controller.scrollViewDidScroll keeps else controller

def removeCurrent (keeps : NSCacheKeeps) (currentIndex : ℤ) (controller : WMPageController) :
    WMPageController :=
  match controller.displayVC currentIndex with
  | some viewController => controller.wmRemoveViewController keeps viewController currentIndex
  | none => controller

def didSelesctedIndex (keeps : NSCacheKeeps) (callsBack : Bool) (index currentIndex : ℤ)
    (controller : WMPageController) : WMPageController :=
  if !controller.hasInited then controller
  else
    let controller := (controller.assignSelectIndex index).setStartDragging false
    if controller.pageAnimatable then controller
    else
      let controller := controller.jumpTo keeps callsBack (controller.viewWidth * index)
      let controller := controller.removeCurrent keeps currentIndex
      let controller := controller.wmLayoutChildViewControllers keeps
      controller.showCurrent.didEnterController index

/-- The index of the selected menu item, as the menu tells it to its delegate. -/
def currentIndex (menu : WMMenuView) : ℤ := menu.selItem.getD (-6250)

def selectItemAtIndex (keeps : NSCacheKeeps) (callsBack : Bool) (index : ℤ)
    (controller : WMPageController) : WMPageController :=
  match controller.menuView with
  | none => controller
  | some menu =>
    if index = currentIndex menu ∨ menu.selItem = none then controller
    else
      let controller := controller.updateMenuView (WMMenuView.selectItem index)
      let controller := controller.didSelesctedIndex keeps callsBack index (currentIndex menu)
      controller.updateMenuView WMMenuView.refreshContenOffset

def didPressedMenuItem (keeps : NSCacheKeeps) (callsBack : Bool) (index : ℤ)
    (controller : WMPageController) : WMPageController :=
  match controller.menuView with
  | none => controller
  | some menu =>
    if menu.selItem = some index then controller
    else
      let controller := controller.updateMenuView (WMMenuView.moveProgress index)
      let controller := controller.didSelesctedIndex keeps callsBack index (currentIndex menu)
      controller.updateMenuView (WMMenuView.pressItem index)

def setMarkedSelectIndex (markedSelectIndex : ℤ) (controller : WMPageController) :
    WMPageController :=
  { controller with markedSelectIndex }

def setSelectIndex (keeps : NSCacheKeeps) (callsBack : Bool) (selectIndex : ℤ)
    (controller : WMPageController) : WMPageController :=
  let controller := (controller.assignSelectIndex selectIndex).setMarkedSelectIndex (-1)
  if controller.menuView.isSome && controller.hasInited then
    controller.selectItemAtIndex keeps callsBack selectIndex
  else controller.setMarkedSelectIndex selectIndex

def setCachePolicy (cachePolicy : WMPageControllerCachePolicy) (controller : WMPageController) :
    WMPageController :=
  let controller := { controller with cachePolicy }
  if cachePolicy ≠ .disabled then
    { controller with memCache := { controller.memCache with countLimit := cachePolicy.rawValue } }
  else controller

def performSelector (selector : CacheGrowth) (afterDelay : CGFloat) (controller : WMPageController) :
    WMPageController :=
  { controller with
    performRequests := controller.performRequests ++ [(selector, controller.now + afterDelay)] }

def cancelPreviousPerformRequests (selector : CacheGrowth) (controller : WMPageController) :
    WMPageController :=
  { controller with
    performRequests := controller.performRequests.filter fun request => request.1 ≠ selector }

def wmGrowCachePolicyAfterMemoryWarning (controller : WMPageController) : WMPageController :=
  (controller.setCachePolicy .balanced).performSelector .toHigh 2

def wmGrowCachePolicyToHigh (controller : WMPageController) : WMPageController :=
  controller.setCachePolicy .high

def removeCachedControllers (controller : WMPageController) : WMPageController :=
  { controller with memCache := controller.memCache.removeAllObjects }

def countMemoryWarning (controller : WMPageController) : WMPageController :=
  { controller with memoryWarningCount := controller.memoryWarningCount + 1 }

/-- What `didReceiveMemoryWarning` does before it plans to grow the cache again. -/
def shrinkCache (controller : WMPageController) : WMPageController :=
  let controller := controller.countMemoryWarning.setCachePolicy .lowMemory
  let controller := controller.cancelPreviousPerformRequests .afterMemoryWarning
  (controller.cancelPreviousPerformRequests .toHigh).removeCachedControllers

def didReceiveMemoryWarning (controller : WMPageController) : WMPageController :=
  let controller := controller.shrinkCache
  if controller.memoryWarningCount < 3 then controller.performSelector .afterMemoryWarning 3
  else controller

def willResignActive (controller : WMPageController) : WMPageController :=
  { controller with
    backgroundCache := fun key =>
      if 0 ≤ key ∧ key < controller.childControllersCount then
        match controller.memCache.objectForKey key with
        | some viewController => some viewController
        | none => controller.backgroundCache key
      else controller.backgroundCache key }

def restoreFromBackground (keeps : NSCacheKeeps) (controller : WMPageController) (key : ℤ) :
    WMPageController :=
  match controller.backgroundCache key with
  | some viewController =>
    if controller.memCache.objectForKey key = none then
      { controller with memCache := controller.memCache.setObject keeps viewController key }
    else controller
  | none => controller

def clearBackgroundCache (controller : WMPageController) : WMPageController :=
  { controller with backgroundCache := fun _ => none }

/-- `keys` is the order in which the dictionary lists its keys. -/
def willEnterForeground (keeps : NSCacheKeeps) (keys : List ℤ) (controller : WMPageController) :
    WMPageController :=
  (keys.foldl (restoreFromBackground keeps) controller).clearBackgroundCache

end WMPageController

end MixedProject
