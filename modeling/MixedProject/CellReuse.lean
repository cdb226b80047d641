import MixedProject.FriendCircle
import MixedProject.Traces

namespace MixedProject

abbrev ObjectID := ℕ

/-- A cell and the object its weak `delegate` refers to. -/
structure Delegated (α : Type) where
  cell : α
  delegate : Option ObjectID := none
  deriving DecidableEq

inductive FeedCell
  | like (likeCell : Delegated LikeCircleTableViewCell)
  | comments (commentsCell : Delegated CommentsTableViewCell)
  deriving DecidableEq

def Cell.links : Cell → List Link
  | .like cell => cell.contentLab.linkModels
  | .comments cell => cell.commentLab.linkModels

namespace FeedCell

def content : FeedCell → Cell
  | .like likeCell => .like likeCell.cell
  | .comments commentsCell => .comments commentsCell.cell

def delegate : FeedCell → Option ObjectID
  | .like likeCell => likeCell.delegate
  | .comments commentsCell => commentsCell.delegate

def transitInformation (link : Link) : List (NSString × Value) :=
  [(ns "user_name", .string link.userName)]

def didSelectLinkWithTransitInformation (cell : FeedCell) (link : Link) :
    Option (ObjectID × List (NSString × Value)) :=
  cell.delegate.map fun delegate => (delegate, transitInformation link)

end FeedCell

def didSelectPeople (dic : List (NSString × Value)) : Option Value := dic.lookup (ns "user_name")

def LikeCircleTableViewCell.initWithStyle : Delegated LikeCircleTableViewCell :=
  { cell := ⟨.setText [], 0⟩ }

def CommentsTableViewCell.initWithStyle : Delegated CommentsTableViewCell :=
  { cell := ⟨.setText [], 0⟩ }

/-- The table view hands out a cell of the pool, whichever it picks, or `nil` if there is none. -/
def dequeueReusableCell {α : Type} (pool : List α) (pick : ℕ) : Option α × List α :=
  (pool[pick % pool.length]?, pool.eraseIdx (pick % pool.length))

def FriendCircleViewController.cellForRowAtIndexPathReusing (m : Metrics) (self : ObjectID)
    (vc : FriendCircleViewController) (likeCell : Option (Delegated LikeCircleTableViewCell))
    (commentsCell : Option (Delegated CommentsTableViewCell)) (sec row : ℕ) :
    Except NSException FeedCell := do
  let commentsCell := commentsCell.map fun cell => { cell with delegate := some self }
  let sectionItem ← objectAtIndex vc.dataArray sec
  match cellRow sectionItem row with
  | .like =>
    let likeCell := likeCell.getD LikeCircleTableViewCell.initWithStyle
    let likeCell := { likeCell with delegate := some self }
    let cell ← LikeCircleTableViewCell.getLikerString m sectionItem
    return .like { likeCell with cell }
  | .comment k =>
    let commentsCell := commentsCell.getD CommentsTableViewCell.initWithStyle
    let commentsDic ← objectAtIndex sectionItem.comments k
    let cell ← CommentsTableViewCell.getCommntsString m sectionItem commentsDic
    return .comments { commentsCell with cell }

/-- The controller with its table: the cells on screen and those waiting for reuse. -/
structure FeedTable where
  vc : FriendCircleViewController
  visible : List FeedCell := []
  likePool : List (Delegated LikeCircleTableViewCell) := []
  commentsPool : List (Delegated CommentsTableViewCell) := []

namespace FeedTable

inductive Event
  | request (sec row likePick commentsPick : ℕ)
  | scrollOff (i : ℕ)
  | change (op : FriendCircleViewController.Op)
  deriving DecidableEq

def request (m : Metrics) (self : ObjectID) (s : FeedTable) (sec row likePick commentsPick : ℕ) :
    Except NSException FeedTable := do
  let (likeCell, likePool) := dequeueReusableCell s.likePool likePick
  let (commentsCell, commentsPool) := dequeueReusableCell s.commentsPool commentsPick
  let cell ← s.vc.cellForRowAtIndexPathReusing m self likeCell commentsCell sec row
  return { s with visible := s.visible ++ [cell], likePool, commentsPool }

def scrollOff (s : FeedTable) (i : ℕ) : FeedTable :=
  match s.visible[i]? with
  | none => s
  | some (.like likeCell) =>
    { s with visible := s.visible.eraseIdx i, likePool := s.likePool ++ [likeCell] }
  | some (.comments commentsCell) =>
    { s with visible := s.visible.eraseIdx i, commentsPool := s.commentsPool ++ [commentsCell] }

def change (m : Metrics) (s : FeedTable) (op : FriendCircleViewController.Op) :
    Except NSException FeedTable := do
  let vc ← s.vc.perform m op
  return { s with vc }

def perform (m : Metrics) (self : ObjectID) (s : FeedTable) : Event → Except NSException FeedTable
  | .request sec row likePick commentsPick => s.request m self sec row likePick commentsPick
  | .scrollOff i => .ok (s.scrollOff i)
  | .change op => s.change m op

def Step (m : Metrics) (self : ObjectID) (s : FeedTable) (e : Event) (t : FeedTable) : Prop :=
  s.perform m self e = .ok t

def opened (vc : FriendCircleViewController) : FeedTable := { vc }

end FeedTable

end MixedProject
