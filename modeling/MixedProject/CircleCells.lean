import MixedProject.CircleModels

namespace MixedProject

structure Link where
  location : ℕ
  length : ℕ
  userName : NSString
  deriving DecidableEq

structure TTTAttributedLabel where
  text : NSString
  linkModels : List Link
  deriving DecidableEq

namespace TTTAttributedLabel

def setText (text : NSString) : TTTAttributedLabel := ⟨text, []⟩

/-- `addAttributes:range:` raises unless the range lies inside the text. -/
def addLinkToTransitInformation (label : TTTAttributedLabel) (link : Link) :
    Except NSException TTTAttributedLabel :=
  if link.location + link.length ≤ label.text.length then
    .ok { label with linkModels := label.linkModels ++ [link] }
  else .error .attributedRange

theorem addLink_ok {label : TTTAttributedLabel} {link : Link}
    (h : link.location + link.length ≤ label.text.length) :
    label.addLinkToTransitInformation link =
      .ok { label with linkModels := label.linkModels ++ [link] } := if_pos h

theorem addLink_text {label label' : TTTAttributedLabel} {link : Link}
    (h : label.addLinkToTransitInformation link = .ok label') : label'.text = label.text := by
  unfold addLinkToTransitInformation at h
  split_ifs at h
  cases h
  rfl

theorem addLink_error {label : TTTAttributedLabel} {link : Link} {e : NSException}
    (h : label.addLinkToTransitInformation link = .error e) : e = .attributedRange := by
  unfold addLinkToTransitInformation at h
  split_ifs at h
  cases h
  rfl

end TTTAttributedLabel

structure LikeCircleTableViewCell where
  contentLab : TTTAttributedLabel
  likerHeight : ℤ
  deriving DecidableEq

structure CommentsTableViewCell where
  commentLab : TTTAttributedLabel
  commentsHeight : CGFloat
  deriving DecidableEq

namespace LikeCircleTableViewCell

def space : NSString := ns "       "
def symbol : NSString := ns ", "

def appendLiker (likeUsers : List LikeUser) (acc : NSString × List Link) (dic : LikeUser) :
    NSString × List Link :=
  let (liker, rangeArr) := acc
  let singleLiker := dic.userName
  if some singleLiker = likeUsers.head?.map LikeUser.userName then
    let addLiker := space ++ singleLiker
    let rangeDic := ⟨space.length, singleLiker.length, singleLiker⟩
    (liker ++ addLiker, rangeArr ++ [rangeDic])
  else
    let rangeDic := ⟨liker.length + symbol.length, singleLiker.length, singleLiker⟩
    let addLiker := symbol ++ singleLiker
    (liker ++ addLiker, rangeArr ++ [rangeDic])

def likerString (item : CircleModel) : NSString × List Link :=
  item.likeUsers.foldl (appendLiker item.likeUsers) ([], [])

def calculateLikerHeight (m : Metrics) (likerString : NSString) : ℤ := ⌈m.rowHeight likerString⌉

def getLikerString (m : Metrics) (item : CircleModel) : Except NSException LikeCircleTableViewCell := do
  let (likerString, rangeArr) := likerString item
  let contentLab ← rangeArr.foldlM TTTAttributedLabel.addLinkToTransitInformation
    (TTTAttributedLabel.setText likerString)
  return ⟨contentLab, calculateLikerHeight m likerString⟩

end LikeCircleTableViewCell

namespace CommentsTableViewCell

def commentsText (item : CircleModel) (commentsDic : CommentDic) : NSString :=
  match commentsDic.commentToUserName with
  | none => commentsDic.commentUserName ++ ns ": " ++ commentsDic.commentText
  | some toUserName =>
    if toUserName = item.userName then
      commentsDic.commentUserName ++ ns ": " ++ commentsDic.commentText
    else commentsDic.commentUserName ++ ns "回复" ++ toUserName ++ ns ": " ++ commentsDic.commentText

def calculateCommentsHeight (m : Metrics) (comments : NSString) : CGFloat := ⌈m.rowHeight comments⌉

def addReplyLink (item : CircleModel) (commentsDic : CommentDic) (commentLab : TTTAttributedLabel) :
    Except NSException TTTAttributedLabel :=
  match commentsDic.commentToUserName with
  | none => .ok commentLab
  | some toUserName =>
    if toUserName.length ≤ 0 then .ok commentLab
    else do
      let toUserId ← integerValueOrNil commentsDic.commentToUserId
      let boldRange1 := ⟨commentsDic.commentUserName.length + 2, toUserName.length, toUserName⟩
      if toUserId = item.userId then return commentLab
      commentLab.addLinkToTransitInformation boldRange1

def getCommntsString (m : Metrics) (item : CircleModel) (commentsDic : CommentDic) :
    Except NSException CommentsTableViewCell := do
  let commentsText := commentsText item commentsDic
  let commentLab ← (TTTAttributedLabel.setText commentsText).addLinkToTransitInformation
    ⟨0, commentsDic.commentUserName.length, commentsDic.commentUserName⟩
  let commentLab ← addReplyLink item commentsDic commentLab
  return ⟨commentLab, calculateCommentsHeight m commentsText⟩

end CommentsTableViewCell

end MixedProject
