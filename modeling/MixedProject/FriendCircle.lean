import MixedProject.CircleCells

namespace MixedProject

inductive Row
  | like
  | comment (k : ℕ)
  deriving DecidableEq

inductive Cell
  | like (cell : LikeCircleTableViewCell)
  | comments (cell : CommentsTableViewCell)
  deriving DecidableEq

def Cell.text : Cell → NSString
  | .like cell => cell.contentLab.text
  | .comments cell => cell.commentLab.text

def Cell.rowHeight : Cell → CGFloat
  | .like cell => cell.likerHeight
  | .comments cell => cell.commentsHeight

structure FriendCircleViewController where
  dataArray : List CircleModel
  commentsSection : ℕ := 0

namespace FriendCircleViewController

def viewDidLoad (m : Metrics) (rows : List RowDic) : FriendCircleViewController :=
  { dataArray := CircleModelViewModel.lodaData m rows }

def numberOfRowsInSection (vc : FriendCircleViewController) (sec : ℕ) : Except NSException ℤ := do
  let sectionItem ← objectAtIndex vc.dataArray sec
  return sectionItem.cellCount

def heightRow (sectionItem : CircleModel) (row : ℕ) : Row :=
  if sectionItem.likerRowHeight > 14 then if row = 0 then .like else .comment (row - 1)
  else .comment row

def rowHeight (sectionItem : CircleModel) : Row → Except NSException CGFloat
  | .like => .ok (sectionItem.likerRowHeight + 10)
  | .comment k => do
    let height ← objectAtIndex sectionItem.commentHeightArr k
    return numberWithFloat (height + 10)

def heightForRowAtIndexPath (vc : FriendCircleViewController) (sec row : ℕ) :
    Except NSException CGFloat := do
  let sectionItem ← objectAtIndex vc.dataArray sec
  rowHeight sectionItem (heightRow sectionItem row)

def cellRow (sectionItem : CircleModel) (row : ℕ) : Row :=
  if sectionItem.likeUsers.length > 0 then if row = 0 then .like else .comment (row - 1)
  else .comment row

def rowCell (m : Metrics) (sectionItem : CircleModel) : Row → Except NSException Cell
  | .like => do
    let likeCell ← LikeCircleTableViewCell.getLikerString m sectionItem
    return .like likeCell
  | .comment k => do
    let commentsDic ← objectAtIndex sectionItem.comments k
    let commentsCell ← CommentsTableViewCell.getCommntsString m sectionItem commentsDic
    return .comments commentsCell

def cellForRowAtIndexPath (m : Metrics) (vc : FriendCircleViewController) (sec row : ℕ) :
    Except NSException Cell := do
  let sectionItem ← objectAtIndex vc.dataArray sec
  rowCell m sectionItem (cellRow sectionItem row)

def setItem (vc : FriendCircleViewController) (sec : ℕ) (item : CircleModel) :
    FriendCircleViewController :=
  { vc with dataArray := vc.dataArray.set sec item }

def foldItem (folding : Bool) (sectionItem : CircleModel) : CircleModel :=
  let sectionItem := { sectionItem with folding := folding }
  { sectionItem with headerHeight := CircleModelViewModel.getHeaderHeight sectionItem }

def foldingContent (vc : FriendCircleViewController) (folding : Bool) (sec : ℕ) :
    Except NSException FriendCircleViewController := do
  let sectionItem ← objectAtIndex vc.dataArray sec
  return vc.setItem sec (foldItem folding sectionItem)

def viewerName : NSString := ns "Simple"

def viewer : LikeUser := { userId := some (.string (ns "0")), userName := viewerName }

def toggleLike (likeUsers : List LikeUser) : List LikeUser :=
  match likeUsers.find? (fun likerDic => likerDic.userName = viewerName) with
  | some containDic => likeUsers.filter (fun likerDic => likerDic ≠ containDic)
  | none => likeUsers ++ [viewer]

def likeItem (m : Metrics) (item : CircleModel) : CircleModel :=
  let item := { item with likeUsers := toggleLike item.likeUsers }
  let item := { item with likerRowHeight := CircleModelViewModel.getLikerCellRowHeight m item }
  { item with cellCount := CircleModelViewModel.getSectionAllCellCount item }

def didClickLikeButton (m : Metrics) (vc : FriendCircleViewController) (sec : ℕ) :
    Except NSException FriendCircleViewController := do
  let item ← objectAtIndex vc.dataArray sec
  return vc.setItem sec (likeItem m item)

def commentItem (m : Metrics) (comments : NSString) (item : CircleModel) : CircleModel :=
  let commentsDic : CommentDic :=
    { commentUserId := some (.string (ns "0")), commentUserName := viewerName, commentText := comments }
  let item := { item with comments := item.comments ++ [commentsDic] }
  let item := { item with commentHeightArr := CircleModelViewModel.getCommentsCellRowHeight m item }
  { item with cellCount := CircleModelViewModel.getSectionAllCellCount item }

def addCommnets (m : Metrics) (vc : FriendCircleViewController) (comments : NSString) :
    Except NSException FriendCircleViewController := do
  let item ← objectAtIndex vc.dataArray vc.commentsSection
  return vc.setItem vc.commentsSection (commentItem m comments item)

inductive Op
  | like (sec : ℕ)
  | fold (folding : Bool) (sec : ℕ)
  | comment (sec : ℕ) (comments : NSString)
  deriving DecidableEq

def perform (m : Metrics) (vc : FriendCircleViewController) :
    Op → Except NSException FriendCircleViewController
  | .like sec => vc.didClickLikeButton m sec
  | .fold folding sec => vc.foldingContent folding sec
  | .comment sec comments => { vc with commentsSection := sec }.addCommnets m comments

def Step (m : Metrics) (vc : FriendCircleViewController) (op : Op)
    (vc' : FriendCircleViewController) : Prop := vc.perform m op = .ok vc'

def Op.target : Op → ℕ
  | .like sec => sec
  | .fold _ sec => sec
  | .comment sec _ => sec

def Op.apply (m : Metrics) : Op → CircleModel → CircleModel
  | .like _ => likeItem m
  | .fold folding _ => foldItem folding
  | .comment _ comments => commentItem m comments

theorem step_cases {m : Metrics} {vc vc' : FriendCircleViewController} {op : Op}
    (h : Step m vc op vc') : ∃ item, vc.dataArray[op.target]? = some item ∧
      vc'.dataArray = vc.dataArray.set op.target (op.apply m item) := by
  cases op <;>
    simp only [Step, perform, didClickLikeButton, foldingContent, addCommnets, Op.target, Op.apply] at h ⊢
  all_goals
    cases hitem : objectAtIndex vc.dataArray _ with
    | error e => rw [hitem] at h; cases h
    | ok item =>
      rw [hitem] at h
      cases h
      exact ⟨item, objectAtIndex_ok.mp hitem, rfl⟩

theorem step_of_target {m : Metrics} {vc : FriendCircleViewController} (op : Op)
    (h : op.target < vc.dataArray.length) : ∃ vc', Step m vc op vc' := by
  obtain ⟨item, hitem⟩ : ∃ item, vc.dataArray[op.target]? = some item :=
    ⟨_, List.getElem?_eq_getElem h⟩
  rw [← objectAtIndex_ok] at hitem
  cases op <;> simp only [Op.target] at hitem <;>
    simp [Step, perform, didClickLikeButton, foldingContent, addCommnets, hitem, bind, Except.bind,
      pure, Except.pure]

end FriendCircleViewController

end MixedProject
