import MixedProject.Foundation
import MixedProject.RowLayout
import MixedProject.StepAnimation

namespace MixedProject

open RowLayout StepAnimation

/-- A link stops once the gap left is no more than this. -/
def linkTolerance : CGFloat := 1 / 1000000

def positiveSpeedFactor (speedFactor : CGFloat) : CGFloat :=
  if speedFactor ≤ 0 then 15 else speedFactor

inductive WMMenuItemState
  | selected
  | normal
  deriving DecidableEq

/-- Under a transform the frame of a view is derived from its center and its bounds. -/
structure WMMenuItem where
  midX : CGFloat := 0
  boundsWidth : CGFloat := 0
  normalSize : CGFloat := 15
  selectedSize : CGFloat := 18
  /-- The rate and the link that animates it. -/
  motion : Motion := {}
  selected : Bool := false
  speedFactor : CGFloat := 0
  deriving DecidableEq

namespace WMMenuItem

def rate (item : WMMenuItem) : CGFloat := item.motion.value

def minScale (item : WMMenuItem) : CGFloat := item.normalSize / item.selectedSize

/-- The scale of the transform: every rate that is set sets it too. -/
def trueScale (item : WMMenuItem) : CGFloat :=
  item.minScale + (1 - item.minScale) * item.rate

def frame (item : WMMenuItem) : Span CGFloat :=
  let width := item.boundsWidth * item.trueScale
  ⟨item.midX - width / 2, width⟩

def setFrame (frame : Span CGFloat) (item : WMMenuItem) : WMMenuItem :=
  { item with
    midX := frame.x + frame.width / 2
    boundsWidth := frame.width / item.trueScale }

def acceptsRate (rate : CGFloat) : Bool := !(rate < 0 || rate > 1)

def setRate (rate : CGFloat) (item : WMMenuItem) : WMMenuItem :=
  { item with motion := assign acceptsRate rate item.motion }

def setSelected (selected animation : Bool) (item : WMMenuItem) : WMMenuItem :=
  let item := { item with selected }
  if !animation then setRate (if selected then 1 else 0) item
  else
    let gap := if selected then 1 - item.rate else item.rate - 0
    { item with
      motion := launch (if selected then 1 else -1) gap (positiveSpeedFactor item.speedFactor)
        item.motion }

def rateChange (item : WMMenuItem) : WMMenuItem :=
  { item with motion := fire acceptsRate linkTolerance item.motion }

end WMMenuItem

structure WMProgressView where
  /-- The progress and the link that animates it. -/
  motion : Motion := {}
  speedFactor : CGFloat := 0
  itemFrames : List (Span CGFloat) := []
  naughty : Bool := false
  deriving DecidableEq

namespace WMProgressView

def progress (bar : WMProgressView) : CGFloat := bar.motion.value

def setProgress (progress : CGFloat) (bar : WMProgressView) : WMProgressView :=
  { bar with motion := { bar.motion with value := progress } }

def setProgressWithOutAnimate (progress : CGFloat) (bar : WMProgressView) : WMProgressView :=
  { bar with motion := { bar.motion with value := progress } }

def moveToPostion (pos : ℤ) (bar : WMProgressView) : WMProgressView :=
  { bar with
    motion := launch (if bar.progress > pos then -1 else 1) |bar.progress - pos|
      (positiveSpeedFactor bar.speedFactor) bar.motion }

def progressChanged (bar : WMProgressView) : WMProgressView :=
  { bar with motion := fire (fun _ => true) linkTolerance bar.motion }

def frameAt (bar : WMProgressView) (index : ℤ) : Except NSException (Span CGFloat) :=
  objectAtIndex bar.itemFrames index.toNat

/-- The index is compared with the unsigned `count - 1`, so a negative one falls on the last. -/
def drawnIndex (bar : WMProgressView) : ℤ :=
  let index := truncate bar.progress
  let count : ℤ := bar.itemFrames.length
  if 0 ≤ index ∧ index ≤ count - 1 then index else count - 1

def stretched (naughty : Bool) (current next : Span CGFloat) (rate : CGFloat) : Span CGFloat :=
  if naughty then
    let currentMidX := current.x + current.width / 2
    let nextMidX := next.x + next.width / 2
    if rate ≤ 1 / 2 then
      let startX := current.x + (currentMidX - current.x) * rate * 2
      let endX := current.maxX + (nextMidX - current.maxX) * rate * 2
      ⟨startX, endX - startX⟩
    else
      let startX := currentMidX + (next.x - currentMidX) * (rate - 1 / 2) * 2
      let endX := nextMidX + (next.maxX - nextMidX) * (rate - 1 / 2) * 2
      ⟨startX, endX - startX⟩
  else
    ⟨current.x + (next.x - current.x) * rate, current.width + (next.width - current.width) * rate⟩

def drawRect (bar : WMProgressView) : Except NSException (Span CGFloat) := do
  let index := bar.drawnIndex
  let rate := bar.progress - index
  let current ← bar.frameAt index
  let nextIndex := if index + 1 < bar.itemFrames.length then index + 1 else index
  let next ← bar.frameAt nextIndex
  return stretched bar.naughty current next rate

end WMProgressView

inductive WMMenuViewStyle
  | default
  | line
  | triangle
  | flood
  | floodHollow
  | segmented
  deriving DecidableEq

inductive WMMenuViewLayoutMode
  | scatter
  | left
  | right
  | center
  deriving DecidableEq

structure WMMenuViewDelegate where
  numbersOfTitles : ℕ
  widthForItemAtIndex : ℕ → CGFloat
  itemMarginAtIndex : ℕ → CGFloat
  titleSizeForState : WMMenuItemState → ℕ → CGFloat

structure WMMenuView where
  width : CGFloat := 0
  contentMargin : CGFloat := 0
  leftViewWidth : CGFloat := 0
  rightViewWidth : CGFloat := 0
  style : WMMenuViewStyle := .default
  layoutMode : WMMenuViewLayoutMode := .scatter
  progressWidths : List CGFloat := []
  speedFactor : CGFloat := 0
  progressViewIsNaughty : Bool := false
  /-- The frame of the inner scroll view, its content width and its offset. -/
  scrollFrame : Span CGFloat := ⟨0, 0⟩
  contentWidth : CGFloat := 0
  contentOffset : CGFloat := 0
  frames : List (Span CGFloat) := []
  items : List WMMenuItem := []
  selItem : Option ℤ := none
  progressView : Option WMProgressView := none
  userInteractionEnabled : Bool := true
  deriving DecidableEq

namespace WMMenuView

def itemAtIndex (index : ℤ) (menu : WMMenuView) : Option WMMenuItem :=
  if 0 ≤ index then menu.items[index.toNat]? else none

def viewWithTag (index : ℤ) (menu : WMMenuView) : Option ℤ :=
  if 0 ≤ index ∧ index < menu.items.length then some index else none

def modifyItem (f : WMMenuItem → WMMenuItem) (index : Option ℤ) (menu : WMMenuView) : WMMenuView :=
  match index with
  | some index =>
    if 0 ≤ index then { menu with items := menu.items.modify index.toNat f } else menu
  | none => menu

def appendItemFrame (delegate : WMMenuViewDelegate) (laid : List (Span CGFloat) × CGFloat) (i : ℕ) :
    List (Span CGFloat) × CGFloat :=
  let itemW := delegate.widthForItemAtIndex i
  (laid.1 ++ [⟨laid.2, itemW⟩], laid.2 + (itemW + delegate.itemMarginAtIndex (i + 1)))

def shiftDis (layoutMode : WMMenuViewLayoutMode) (distance : CGFloat) (titlesCount index : ℕ) :
    CGFloat :=
  match layoutMode with
  | .scatter => distance / (titlesCount + 1) * (index + 1)
  | .left => 0
  | .right => distance
  | .center => distance / 2

def calculateItemFrames (delegate : WMMenuViewDelegate) (menu : WMMenuView) : WMMenuView :=
  let laid := (List.range delegate.numbersOfTitles).foldl (appendItemFrame delegate)
    (menu.frames, delegate.itemMarginAtIndex 0)
  if laid.2 < menu.scrollFrame.width then
    let distance := menu.scrollFrame.width - laid.2
    { menu with
      frames := laid.1.mapIdx fun i frame =>
        frame.shift (shiftDis menu.layoutMode distance delegate.numbersOfTitles i)
      contentWidth := menu.scrollFrame.width }
  else { menu with frames := laid.1, contentWidth := laid.2 }

def convertProgressWidthsToFrames (delegate : WMMenuViewDelegate) (menu : WMMenuView) :
    List (Span CGFloat) :=
  if menu.progressWidths.length < delegate.numbersOfTitles then menu.frames
  else
    List.zipWith (fun itemFrame width =>
      let progressWidth := numberWithFloat width
      ⟨itemFrame.x + (itemFrame.width - progressWidth) / 2, progressWidth⟩)
      menu.frames menu.progressWidths

def resetItemFrame (menu : WMMenuView) (index : ℕ) : WMMenuView :=
  match menu.frames[index]? with
  | some frame => { menu with items := menu.items.modify index (WMMenuItem.setFrame frame) }
  | none => menu

def resetFramesFromIndex (delegate : WMMenuViewDelegate) (index : ℕ) (menu : WMMenuView) :
    WMMenuView :=
  let menu := calculateItemFrames delegate { menu with frames := [] }
  let menu := (List.range' index (delegate.numbersOfTitles - index)).foldl resetItemFrame menu
  { menu with
    progressView := menu.progressView.map fun bar =>
      { bar with itemFrames := convertProgressWidthsToFrames delegate menu } }

def resetFrames (delegate : WMMenuViewDelegate) (menu : WMMenuView) : WMMenuView :=
  let frame : Span CGFloat := ⟨0, menu.width⟩
  let frame : Span CGFloat := ⟨frame.x, frame.width - menu.rightViewWidth⟩
  let frame : Span CGFloat := ⟨frame.x + menu.leftViewWidth, frame.width - menu.leftViewWidth⟩
  let frame : Span CGFloat := ⟨frame.x + menu.contentMargin, frame.width - menu.contentMargin * 2⟩
  resetFramesFromIndex delegate 0 { menu with scrollFrame := frame }

/-- The frame of the selected item; that of no item is the zero rectangle. -/
def selItemFrame (menu : WMMenuView) : Span CGFloat :=
  match menu.selItem.bind menu.itemAtIndex with
  | some item => item.frame
  | none => ⟨0, 0⟩

def centeredOffset (menu : WMMenuView) : CGFloat :=
  let frame := menu.selItemFrame
  let width := menu.scrollFrame.width
  if frame.x > width / 2 then
    let targetX :=
      if menu.contentWidth - frame.x ≤ width / 2 then menu.contentWidth - width
      else frame.x - width / 2 + frame.width / 2
    if targetX + width > menu.contentWidth then menu.contentWidth - width else targetX
  else 0

def refreshContenOffset (menu : WMMenuView) : WMMenuView :=
  { menu with contentOffset := menu.centeredOffset }

/-- A new item has no transform yet, so its bounds are as wide as its frame. -/
def initItem (delegate : WMMenuViewDelegate) (menu : WMMenuView) (index : ℕ) (frame : Span CGFloat) :
    WMMenuItem where
  midX := frame.x + frame.width / 2
  boundsWidth := frame.width
  normalSize := delegate.titleSizeForState .normal index
  selectedSize := delegate.titleSizeForState .selected index
  speedFactor := menu.speedFactor

def addItems (delegate : WMMenuViewDelegate) (menu : WMMenuView) : WMMenuView :=
  let menu := calculateItemFrames delegate menu
  let items := menu.frames.mapIdx fun i frame =>
    let item := initItem delegate menu i frame
    if i = 0 then item.setSelected true false else item.setSelected false false
  { menu with items, selItem := if items.isEmpty then menu.selItem else some 0 }

def addScrollView (menu : WMMenuView) : WMMenuView :=
  { menu with scrollFrame := ⟨menu.contentMargin, menu.width - menu.contentMargin * 2⟩ }

def makeStyle (delegate : WMMenuViewDelegate) (menu : WMMenuView) : WMMenuView :=
  if menu.style = .default then menu
  else
    { menu with
      progressView := some {
        itemFrames := convertProgressWidthsToFrames delegate menu
        speedFactor := menu.speedFactor
        naughty := menu.progressViewIsNaughty } }

def willMoveToSuperview (delegate : WMMenuViewDelegate) (menu : WMMenuView) : WMMenuView :=
  makeStyle delegate (addItems delegate menu.addScrollView)

def setProgressWidths (delegate : WMMenuViewDelegate) (progressWidths : List CGFloat)
    (menu : WMMenuView) : WMMenuView :=
  let menu := { menu with progressWidths }
  if menu.progressView.isNone then menu else resetFramesFromIndex delegate 0 menu

def reload (delegate : WMMenuViewDelegate) (menu : WMMenuView) : WMMenuView :=
  makeStyle delegate
    (addItems delegate { menu with frames := [], progressView := none, items := [], selItem := none })

def setUserInteractionEnabled (userInteractionEnabled : Bool) (menu : WMMenuView) : WMMenuView :=
  { menu with userInteractionEnabled }

def setSelItem (index : Option ℤ) (menu : WMMenuView) : WMMenuView := { menu with selItem := index }

def updateProgressView (f : WMProgressView → WMProgressView) (menu : WMMenuView) : WMMenuView :=
  { menu with progressView := menu.progressView.map f }

def reselect (index : Option ℤ) (menu : WMMenuView) : WMMenuView :=
  let menu := menu.modifyItem (WMMenuItem.setSelected false false) menu.selItem
  let menu := menu.setSelItem index
  menu.modifyItem (WMMenuItem.setSelected true false) menu.selItem

def slideMenuAtProgress (progress : CGFloat) (menu : WMMenuView) : WMMenuView :=
  let menu := menu.updateProgressView (WMProgressView.setProgress progress)
  let tag := truncate progress
  let rate := progress - tag
  let currentItem := menu.viewWithTag tag
  let nextItem := menu.viewWithTag (tag + 1)
  if rate = 0 then (menu.reselect currentItem).refreshContenOffset
  else
    (menu.modifyItem (WMMenuItem.setRate (1 - rate)) currentItem).modifyItem
      (WMMenuItem.setRate rate) nextItem

def deselectedItemsIfNeeded (menu : WMMenuView) : WMMenuView :=
  { menu with
    items := menu.items.mapIdx fun i item =>
      if menu.selItem = some (i : ℤ) then item else item.setSelected false false }

/-- The selection that `selectItemAtIndex:` makes before it tells its delegate. -/
def selectItem (index : ℤ) (menu : WMMenuView) : WMMenuView :=
  (menu.reselect (menu.viewWithTag index)).updateProgressView
    (WMProgressView.setProgressWithOutAnimate index)

/-- What `didPressedMenuItem:` does before it tells its delegate. -/
def moveProgress (index : ℤ) (menu : WMMenuView) : WMMenuView :=
  menu.updateProgressView (WMProgressView.moveToPostion index)

/-- What `didPressedMenuItem:` does after it has told its delegate. -/
def pressItem (index : ℤ) (menu : WMMenuView) : WMMenuView :=
  let menu := menu.modifyItem (WMMenuItem.setSelected true true) (some index)
  let menu := menu.modifyItem (WMMenuItem.setSelected false true) menu.selItem
  menu.setSelItem (some index)

end WMMenuView

end MixedProject
