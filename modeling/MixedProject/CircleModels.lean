import Mathlib.Algebra.Order.Round
import MixedProject.Foundation

namespace MixedProject

/-- An entry of `like_users`: `others` holds the dictionary's remaining keys. -/
structure LikeUser where
  userId : Option Value
  userName : NSString
  others : List (NSString × Value) := []
  deriving DecidableEq

structure CommentDic where
  commentUserId : Option Value := none
  commentUserName : NSString
  commentText : NSString
  commentToUserId : Option Value := none
  commentToUserName : Option NSString := none
  deriving DecidableEq

/-- A decoded row of `data.json`; an absent array is the empty one. -/
structure RowDic where
  userId : ℤ
  userName : NSString
  message : Option NSString := none
  smallPics : List NSString := []
  likeUsers : List LikeUser := []
  comments : List CommentDic := []

structure CircleModel extends RowDic where
  contentLabelHeight : CGFloat := 0
  headerHeight : CGFloat := 0
  imageViewHeight : CGFloat := 0
  likerRowHeight : CGFloat := 0
  cellCount : ℤ := 0
  commentHeightArr : List CGFloat := []
  folding : Bool := false

def CircleModel.initWithItem (rowDic : RowDic) : CircleModel := { rowDic with }

structure Metrics where
  contentHeight : NSString → CGFloat
  rowHeight : NSString → CGFloat

namespace CircleModelViewModel

def calculateContentHeight (m : Metrics) (string : Option NSString) : CGFloat :=
  match string with
  | none => 0
  | some s => if s.length ≤ 0 then 0 else ⌈m.contentHeight s⌉

def getPictureImageViewHeight (picture : List NSString) : CGFloat :=
  if picture.length = 0 then 0
  else if picture.length = 1 then 100
  else if picture.length ≤ 3 then 70
  else if picture.length ≤ 6 then 140 + 5
  else 210 + 10

def getHeaderHeight (item : CircleModel) : CGFloat :=
  if item.folding then
    if item.imageViewHeight > 0 then
      item.contentLabelHeight + item.imageViewHeight + 8 + 8 + 8 + 8 + 8 + 65 + 8
    else item.contentLabelHeight + 8 + 8 + 8 + 8 + 65 + 8
  else if item.contentLabelHeight ≤ 0 then item.imageViewHeight + 32 + 40
  else if item.contentLabelHeight ≤ 104 then
    if item.imageViewHeight > 0 then item.contentLabelHeight + item.imageViewHeight + 40 + 40
    else item.contentLabelHeight + 32 + 40
  else if item.imageViewHeight > 0 then 104 + item.imageViewHeight + 48 + 65
  else 104 + 40 + 65

def space : NSString := ns "       "
def symbol : NSString := ns ", "

def appendLiker (likeUsers : List LikeUser) (liker : NSString) (dic : LikeUser) : NSString :=
  let singleLiker := dic.userName
  if some singleLiker = likeUsers.head?.map LikeUser.userName then
    let addSymbol := space ++ singleLiker
    liker ++ addSymbol
  else
    let addSymbol := symbol ++ singleLiker
    liker ++ addSymbol

def likerString (item : CircleModel) : NSString :=
  item.likeUsers.foldl (appendLiker item.likeUsers) []

def getLikerCellRowHeight (m : Metrics) (item : CircleModel) : CGFloat :=
  ⌈m.rowHeight (likerString item)⌉

def commentsText (item : CircleModel) (commentsDic : CommentDic) : NSString :=
  match commentsDic.commentToUserName with
  | none => commentsDic.commentUserName ++ ns ": " ++ commentsDic.commentText
  | some toUserName =>
    if toUserName = item.userName then
      commentsDic.commentUserName ++ ns ": " ++ commentsDic.commentText
    else commentsDic.commentUserName ++ ns "回复" ++ toUserName ++ ns ": " ++ commentsDic.commentText

def getCommentsCellRowHeight (m : Metrics) (item : CircleModel) : List CGFloat :=
  item.comments.map fun commentsDic => numberWithFloat ⌈m.rowHeight (commentsText item commentsDic)⌉

def getSectionAllCellCount (item : CircleModel) : ℤ :=
  if item.likeUsers.length > 0 then item.comments.length + 1 else item.comments.length

def loadItem (m : Metrics) (rowDic : RowDic) : CircleModel :=
  let item := CircleModel.initWithItem rowDic
  let item := { item with contentLabelHeight := calculateContentHeight m item.message }
  let item := { item with imageViewHeight := getPictureImageViewHeight item.smallPics }
  let item := { item with headerHeight := getHeaderHeight item }
  let item := { item with likerRowHeight := getLikerCellRowHeight m item }
  let item := { item with commentHeightArr := getCommentsCellRowHeight m item }
  { item with cellCount := getSectionAllCellCount item }

def lodaData (m : Metrics) (rows : List RowDic) : List CircleModel := rows.map (loadItem m)

end CircleModelViewModel

end MixedProject
