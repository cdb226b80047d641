import MixedProject.Foundation

namespace MixedProject

inductive MJRefreshState
  | idle
  | pulling
  | refreshing
  | willRefresh
  | noMoreData
  deriving DecidableEq

def MJRefreshHeaderHeight : CGFloat := 54

/-- The scroll view around a header, vertically. `adjusted` is
`adjustedContentInset.top - contentInset.top`, the part of the inset the system adds. -/
structure RefreshScrollView where
  contentInset : CGFloat := 0
  adjusted : CGFloat := 0
  offsetY : CGFloat := 0
  isDragging : Bool := false
  panCancelled : Bool := false
  deriving DecidableEq

namespace RefreshScrollView

def mj_insetT (scrollView : RefreshScrollView) : CGFloat :=
  scrollView.contentInset + scrollView.adjusted

def setMj_insetT (insetT : CGFloat) (scrollView : RefreshScrollView) : RefreshScrollView :=
  { scrollView with contentInset := insetT - scrollView.adjusted }

def setContentOffset (offsetY : CGFloat) (scrollView : RefreshScrollView) : RefreshScrollView :=
  { scrollView with offsetY }

end RefreshScrollView

/-- The label with its titles, the activity indicator and the arrow; `arrowTurned` is the half
turn. -/
structure RefreshSubviews where
  stateTitles : List (MJRefreshState × NSString) := []
  stateLabel : Option NSString := none
  isAnimating : Bool := false
  loadingAlpha : CGFloat := 1
  arrowHidden : Bool := false
  arrowTurned : Bool := false
  deriving DecidableEq

namespace RefreshSubviews

def titleForState (state : MJRefreshState) (subviews : RefreshSubviews) : Option NSString :=
  subviews.stateTitles.lookup state

def addTitle (title : NSString) (state : MJRefreshState) (subviews : RefreshSubviews) :
    RefreshSubviews :=
  { subviews with stateTitles := (state, title) :: subviews.stateTitles }

def setStateLabel (stateLabel : Option NSString) (subviews : RefreshSubviews) : RefreshSubviews :=
  { subviews with stateLabel }

def turnArrow (arrowTurned : Bool) (subviews : RefreshSubviews) : RefreshSubviews :=
  { subviews with arrowTurned }

def setLoadingAlpha (loadingAlpha : CGFloat) (subviews : RefreshSubviews) : RefreshSubviews :=
  { subviews with loadingAlpha }

def showArrow (subviews : RefreshSubviews) : RefreshSubviews :=
  { subviews with isAnimating := false, arrowHidden := false }

def showLoading (subviews : RefreshSubviews) : RefreshSubviews :=
  { subviews with isAnimating := true, arrowHidden := true }

end RefreshSubviews

/-- What a header has put on the main queue. -/
inductive MainBlock
  | setNeedsLayout
  | showHeader
  | refreshingCallback
  | setIdle
  deriving DecidableEq

/-- The `completion:` blocks of the animations a header has started. -/
inductive AnimationBlock
  | headerShown
  | insetRestored
  | loadingFaded
  deriving DecidableEq

/-- A header in its scroll view. `loads` counts the runs of `refreshingBlock`, which is
`loadData` of the news page and ends with `endRefreshing`. -/
structure MJRefreshNormalHeader where
  state : MJRefreshState := .idle
  scrollViewOriginalInset : CGFloat := 0
  insetTDelta : CGFloat := 0
  pullingPercent : CGFloat := 0
  automaticallyChangeAlpha : Bool := false
  alpha : CGFloat := 1
  window : Bool := false
  subviews : RefreshSubviews := {}
  scrollView : RefreshScrollView := {}
  mainQueue : List MainBlock := []
  animations : List AnimationBlock := []
  loads : ℕ := 0
  deriving DecidableEq

namespace MJRefreshNormalHeader

def dispatchAsync (blocks : List MainBlock) (header : MJRefreshNormalHeader) :
    MJRefreshNormalHeader :=
  { header with mainQueue := header.mainQueue ++ blocks }

def animate (completions : List AnimationBlock) (header : MJRefreshNormalHeader) :
    MJRefreshNormalHeader :=
  { header with animations := header.animations ++ completions }

def assignState (state : MJRefreshState) (header : MJRefreshNormalHeader) :
    MJRefreshNormalHeader :=
  { header with state }

def setScrollView (scrollView : RefreshScrollView) (header : MJRefreshNormalHeader) :
    MJRefreshNormalHeader :=
  { header with scrollView }

def setSubviews (subviews : RefreshSubviews) (header : MJRefreshNormalHeader) :
    MJRefreshNormalHeader :=
  { header with subviews }

def setAlpha (alpha : CGFloat) (header : MJRefreshNormalHeader) : MJRefreshNormalHeader :=
  { header with alpha }

def setInsetTDelta (insetTDelta : CGFloat) (header : MJRefreshNormalHeader) :
    MJRefreshNormalHeader :=
  { header with insetTDelta }

def setScrollViewOriginalInset (scrollViewOriginalInset : CGFloat)
    (header : MJRefreshNormalHeader) : MJRefreshNormalHeader :=
  { header with scrollViewOriginalInset }

def isRefreshing (header : MJRefreshNormalHeader) : Bool :=
  header.state = .refreshing || header.state = .willRefresh

def setPullingPercent (pullingPercent : CGFloat) (header : MJRefreshNormalHeader) :
    MJRefreshNormalHeader :=
  let header := { header with pullingPercent }
  if header.isRefreshing then header
  else if header.automaticallyChangeAlpha then header.setAlpha pullingPercent
  else header

end MJRefreshNormalHeader

namespace MJRefreshComponent

def setState (state : MJRefreshState) (header : MJRefreshNormalHeader) : MJRefreshNormalHeader :=
  (header.assignState state).dispatchAsync [.setNeedsLayout]

end MJRefreshComponent

namespace MJRefreshHeader

def restoreInset (header : MJRefreshNormalHeader) : MJRefreshNormalHeader :=
  let insetT := header.scrollView.mj_insetT + header.insetTDelta
  let header := header.setScrollView (header.scrollView.setMj_insetT insetT)
  if header.automaticallyChangeAlpha then header.setAlpha 0 else header

def setState (state : MJRefreshState) (header : MJRefreshNormalHeader) : MJRefreshNormalHeader :=
  let oldState := header.state
  if state = oldState then header
  else
    let header := MJRefreshComponent.setState state header
    match state with
    | .idle =>
      if oldState ≠ .refreshing then header
      else (restoreInset header).animate [.insetRestored]
    | .refreshing => header.dispatchAsync [.showHeader]
    | _ => header

end MJRefreshHeader

namespace MJRefreshStateHeader

def setTitle (title : NSString) (state : MJRefreshState) (header : MJRefreshNormalHeader) :
    MJRefreshNormalHeader :=
  let subviews := header.subviews.addTitle title state
  header.setSubviews (subviews.setStateLabel (subviews.titleForState header.state))

def prepare (mj_localizedStringForKey : NSString → NSString) (header : MJRefreshNormalHeader) :
    MJRefreshNormalHeader :=
  let header := setTitle (mj_localizedStringForKey (ns "MJRefreshHeaderIdleText")) .idle header
  let header := setTitle (mj_localizedStringForKey (ns "MJRefreshHeaderPullingText")) .pulling header
  setTitle (mj_localizedStringForKey (ns "MJRefreshHeaderRefreshingText")) .refreshing header

def setState (state : MJRefreshState) (header : MJRefreshNormalHeader) : MJRefreshNormalHeader :=
  let oldState := header.state
  if state = oldState then header
  else
    let header := MJRefreshHeader.setState state header
    header.setSubviews
      (header.subviews.setStateLabel (header.subviews.titleForState state))

end MJRefreshStateHeader

namespace MJRefreshNormalHeader

def setState (state : MJRefreshState) (header : MJRefreshNormalHeader) : MJRefreshNormalHeader :=
  let oldState := header.state
  if state = oldState then header
  else
    let header := MJRefreshStateHeader.setState state header
    match state with
    | .idle =>
      if oldState = .refreshing then
        let subviews := (header.subviews.turnArrow false).setLoadingAlpha 0
        (header.setSubviews subviews).animate [.loadingFaded]
      else header.setSubviews (header.subviews.showArrow.turnArrow false)
    | .pulling => header.setSubviews (header.subviews.showArrow.turnArrow true)
    | .refreshing =>
      header.setSubviews (header.subviews.setLoadingAlpha 1).showLoading
    | _ => header

def beginRefreshing (header : MJRefreshNormalHeader) : MJRefreshNormalHeader :=
  let header := (header.setAlpha 1).setPullingPercent 1
  if header.window then header.setState .refreshing
  else if header.state ≠ .refreshing then header.setState .willRefresh
  else header

def endRefreshing (header : MJRefreshNormalHeader) : MJRefreshNormalHeader :=
  header.dispatchAsync [.setIdle]

def executeRefreshingCallback (header : MJRefreshNormalHeader) : MJRefreshNormalHeader :=
  header.dispatchAsync [.refreshingCallback]

def drawRect (header : MJRefreshNormalHeader) : MJRefreshNormalHeader :=
  if header.state = .willRefresh then header.setState .refreshing else header

def keepInset (header : MJRefreshNormalHeader) : MJRefreshNormalHeader :=
  let offsetY := header.scrollView.offsetY
  let original := header.scrollViewOriginalInset
  let insetT := if -offsetY > original then -offsetY else original
  let insetT :=
    if insetT > MJRefreshHeaderHeight + original then MJRefreshHeaderHeight + original else insetT
  (header.setScrollView (header.scrollView.setMj_insetT insetT)).setInsetTDelta (original - insetT)

def followOffset (header : MJRefreshNormalHeader) : MJRefreshNormalHeader :=
  let offsetY := header.scrollView.offsetY
  let happenOffsetY := -header.scrollViewOriginalInset
  if offsetY > happenOffsetY then header
  else
    let normal2pullingOffsetY := happenOffsetY - MJRefreshHeaderHeight
    let pullingPercent := (happenOffsetY - offsetY) / MJRefreshHeaderHeight
    if header.scrollView.isDragging then
      let header := header.setPullingPercent pullingPercent
      if header.state = .idle ∧ offsetY < normal2pullingOffsetY then header.setState .pulling
      else if header.state = .pulling ∧ offsetY ≥ normal2pullingOffsetY then header.setState .idle
      else header
    else if header.state = .pulling then header.beginRefreshing
    else if pullingPercent < 1 then header.setPullingPercent pullingPercent
    else header

def scrollViewContentOffsetDidChange (header : MJRefreshNormalHeader) : MJRefreshNormalHeader :=
  if header.state = .refreshing then
    if !header.window then header else header.keepInset
  else (header.setScrollViewOriginalInset header.scrollView.mj_insetT).followOffset

def setContentOffset (offsetY : CGFloat) (header : MJRefreshNormalHeader) :
    MJRefreshNormalHeader :=
  (header.setScrollView
    (header.scrollView.setContentOffset offsetY)).scrollViewContentOffsetDidChange

def raiseInset (header : MJRefreshNormalHeader) : MJRefreshNormalHeader :=
  if header.scrollView.panCancelled then header
  else
    let top := header.scrollViewOriginalInset + MJRefreshHeaderHeight
    (header.setScrollView (header.scrollView.setMj_insetT top)).setContentOffset (-top)

def showHeader (header : MJRefreshNormalHeader) : MJRefreshNormalHeader :=
  header.raiseInset.animate [.headerShown]

def refreshingBlock (header : MJRefreshNormalHeader) : MJRefreshNormalHeader :=
  let header := { header with loads := header.loads + 1 }
  header.endRefreshing

def runBlock (header : MJRefreshNormalHeader) : MainBlock → MJRefreshNormalHeader
  | .setNeedsLayout => header
  | .showHeader => header.showHeader
  | .refreshingCallback => header.refreshingBlock
  | .setIdle => header.setState .idle

def loadingFaded (header : MJRefreshNormalHeader) : MJRefreshNormalHeader :=
  if header.state ≠ .idle then header
  else header.setSubviews (header.subviews.setLoadingAlpha 1).showArrow

def complete (header : MJRefreshNormalHeader) : AnimationBlock → MJRefreshNormalHeader
  | .headerShown => header.executeRefreshingCallback
  | .insetRestored => header.setPullingPercent 0
  | .loadingFaded => header.loadingFaded

/-- `initWithFrame:` sets the idle state on a header whose state was still zero. -/
def headerWithRefreshingBlock (mj_localizedStringForKey : NSString → NSString) :
    MJRefreshNormalHeader :=
  (MJRefreshStateHeader.prepare mj_localizedStringForKey {}).dispatchAsync [.setNeedsLayout]

def setAutomaticallyChangeAlpha (automaticallyChangeAlpha : Bool)
    (header : MJRefreshNormalHeader) : MJRefreshNormalHeader :=
  let header := { header with automaticallyChangeAlpha }
  if header.isRefreshing then header
  else if automaticallyChangeAlpha then header.setAlpha header.pullingPercent
  else header.setAlpha 1

def willMoveToSuperview (scrollView : RefreshScrollView) (header : MJRefreshNormalHeader) :
    MJRefreshNormalHeader :=
  (header.setScrollView scrollView).setScrollViewOriginalInset scrollView.mj_insetT

/-- `finish` is a call of `endRefreshing` from outside the refreshing block; `scroll`, `drag`,
`window`, `adjust` and `draw` come from UIKit. -/
inductive Event
  | scroll (offsetY : CGFloat)
  | drag (isDragging panCancelled : Bool)
  | window (window : Bool)
  | adjust (adjusted : CGFloat)
  | draw
  | finish
  | main
  | complete (k : ℕ)
  deriving DecidableEq

def popBlock (header : MJRefreshNormalHeader) : MJRefreshNormalHeader :=
  { header with mainQueue := header.mainQueue.tail }

def popAnimation (k : ℕ) (header : MJRefreshNormalHeader) : MJRefreshNormalHeader :=
  { header with animations := header.animations.eraseIdx k }

def setWindow (window : Bool) (header : MJRefreshNormalHeader) : MJRefreshNormalHeader :=
  { header with window }

def handle (header : MJRefreshNormalHeader) : Event → Option MJRefreshNormalHeader
  | .scroll offsetY => some (header.setContentOffset offsetY)
  | .drag isDragging panCancelled =>
    some (header.setScrollView { header.scrollView with isDragging, panCancelled })
  | .window window => some (header.setWindow window)
  | .adjust adjusted => some (header.setScrollView { header.scrollView with adjusted })
  | .draw => some header.drawRect
  | .finish => some header.endRefreshing
  | .main => header.mainQueue.head?.map header.popBlock.runBlock
  | .complete k => header.animations[k]?.map (header.popAnimation k).complete

def Step (header : MJRefreshNormalHeader) (e : Event) (t : MJRefreshNormalHeader) : Prop :=
  handle header e = some t

def setMj_header (mj_localizedStringForKey : NSString → NSString) (automaticallyChangeAlpha : Bool)
    (scrollView : RefreshScrollView) : MJRefreshNormalHeader :=
  ((headerWithRefreshingBlock mj_localizedStringForKey).setAutomaticallyChangeAlpha
    automaticallyChangeAlpha).willMoveToSuperview scrollView

end MJRefreshNormalHeader

end MixedProject
