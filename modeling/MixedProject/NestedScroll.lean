import Mathlib.Tactic.Linarith
import MixedProject.Foundation

namespace MixedProject

structure Screen where
  kScreenWidth : CGFloat
  kHeightNavBar : CGFloat

def Screen.maxOffsetY (screen : Screen) : CGFloat :=
  screen.kScreenWidth * 9 / 16 - screen.kHeightNavBar

inductive NotificationName
  | homeGoTop
  | homeLeaveTop
  | changeVideo
  deriving DecidableEq

structure Notification where
  name : NotificationName
  canScroll : NSString

inductive Observer
  | container
  | page (i : ℕ)
  deriving DecidableEq

structure ChildTableViewController where
  contentOffset : CGFloat := 0
  canScroll : Bool := false
  deriving DecidableEq

/-- The container, its loaded pages, and the notification center in order of registration. -/
structure VideoDetailViewController where
  contentOffset : CGFloat := 0
  canScroll : Bool := true
  alpha : CGFloat := 1
  pages : List ChildTableViewController := []
  observers : List (NotificationName × Observer) := []
  deriving DecidableEq

namespace NestedScroll

abbrev State := VideoDetailViewController

def page (s : State) (i : ℕ) : ChildTableViewController := s.pages.getD i {}

def modifyPage (s : State) (i : ℕ) (f : ChildTableViewController → ChildTableViewController) :
    State :=
  { s with pages := s.pages.modify i f }

def setPageOffset (didScroll : ℕ → State → Option State) (i : ℕ) (y : CGFloat) (s : State) :
    Option State :=
  if (page s i).contentOffset = y then some s
  else didScroll i (modifyPage s i fun p => { p with contentOffset := y })

def pinPage (didScroll : ℕ → State → Option State) (i : ℕ) (s : State) : Option State :=
  if (page s i).canScroll then some s else setPageOffset didScroll i 0 s

def containerAcceptMsg (n : Notification) (s : State) : State :=
  if n.canScroll = ns "1" then { s with canScroll := true } else s

def pageAcceptMsg (didScroll : ℕ → State → Option State) (n : Notification) (i : ℕ) (s : State) :
    Option State :=
  match n.name with
  | .homeGoTop =>
    if n.canScroll = ns "1" then some (modifyPage s i fun p => { p with canScroll := true })
    else some s
  | .homeLeaveTop => do
    let s ← setPageOffset didScroll i 0 s
    return modifyPage s i fun p => { p with canScroll := false }
  | .changeVideo => some s

def deliver (didScroll : ℕ → State → Option State) (n : Notification) (s : State) :
    Observer → Option State
  | .container => some (containerAcceptMsg n s)
  | .page i => pageAcceptMsg didScroll n i s

def observersOf (name : NotificationName) (s : State) : List Observer :=
  (s.observers.filter fun entry => entry.1 = name).map Prod.snd

def postNotification (didScroll : ℕ → State → Option State) (n : Notification) (s : State) :
    Option State :=
  (observersOf n.name s).foldlM (deliver didScroll n) s

/-- `scrollViewDidScroll:` of page `i`; `fuel` bounds the depth of re-entrant calls. -/
def pageDidScroll : ℕ → ℕ → State → Option State
  | 0, _, _ => none
  | fuel + 1, i, s => do
    let s ← pinPage (pageDidScroll fuel) i s
    if (page s i).contentOffset < 0 then
      postNotification (pageDidScroll fuel) ⟨.homeLeaveTop, ns "1"⟩ s
    else some s

def setContainerOffset (didScroll : State → Option State) (y : CGFloat) (s : State) :
    Option State :=
  if s.contentOffset = y then some s else didScroll { s with contentOffset := y }

def containerDidScroll (screen : Screen) : ℕ → State → Option State
  | 0, _ => none
  | fuel + 1, s =>
    let offsetY := s.contentOffset
    let s := { s with alpha := offsetY / screen.maxOffsetY }
    if offsetY ≥ screen.maxOffsetY then do
      let s ← setContainerOffset (containerDidScroll screen fuel) screen.maxOffsetY s
      let s ← postNotification (pageDidScroll fuel) ⟨.homeGoTop, ns "1"⟩ s
      return { s with canScroll := false }
    else if offsetY ≤ 0 then setContainerOffset (containerDidScroll screen fuel) 0 s
    else if s.canScroll then some s
    else setContainerOffset (containerDidScroll screen fuel) screen.maxOffsetY s

def loadPage (s : State) : State :=
  let i := s.pages.length
  { s with
    pages := s.pages ++ [{}]
    observers := s.observers ++ [(.homeGoTop, .page i), (.homeLeaveTop, .page i)] }

def viewWillAppear (s : State) : State :=
  { s with
    observers := s.observers ++ [(.homeLeaveTop, .container), (.changeVideo, .container)] }

def viewDidAppear (s : State) : State := { s with alpha := 0 }

def viewWillDisappear (s : State) : State :=
  { s with observers := s.observers.filter fun entry => entry.2 ≠ .container }

inductive Event
  | containerScroll (y : CGFloat)
  | pageScroll (i : ℕ) (y : CGFloat)
  | loadPage
  | viewWillAppear
  | viewDidAppear
  | viewWillDisappear
  deriving DecidableEq

def handle (screen : Screen) (fuel : ℕ) (s : State) : Event → Option State
  | .containerScroll y => containerDidScroll screen fuel { s with contentOffset := y }
  | .pageScroll i y =>
    if i < s.pages.length then
      pageDidScroll fuel i (modifyPage s i fun p => { p with contentOffset := y })
    else none
  | .loadPage => some (loadPage s)
  | .viewWillAppear => some (viewWillAppear s)
  | .viewDidAppear => some (viewDidAppear s)
  | .viewWillDisappear => some (viewWillDisappear s)

def Step (screen : Screen) (s : State) (e : Event) (t : State) : Prop :=
  ∃ fuel, handle screen fuel s e = some t

def viewDidLoad : State := {}

end NestedScroll

end MixedProject
