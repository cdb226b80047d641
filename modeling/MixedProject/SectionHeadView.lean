import Mathlib
import MixedProject.FriendCircle
import MixedProject.VerticalLayout

namespace MixedProject

open VerticalLayout

inductive Subview
  | headImg
  | name
  | contentLab
  | foldingContent
  | picImagV
  | time
  | commentsBtn
  | likeAndComments
  deriving DecidableEq

structure PictureView where
  picURL : NSString
  left : CGFloat
  top : CGFloat
  width : CGFloat
  height : CGFloat

structure SectionHeadView where
  sec : ℕ
  constraints : Installed Subview CGFloat := fun _ => []
  hidden : Subview → Bool := fun _ => false
  pictures : List PictureView := []
  likeButTitle : NSString := ns "赞"
  menuWidth : CGFloat := 0
  likeAndCommentsShow : Bool := false

namespace SectionHeadView

def makeConstraints (view : Subview) (constraints : List (Constraint Subview CGFloat))
    (header : SectionHeadView) : SectionHeadView :=
  { header with constraints := make view constraints header.constraints }

def remakeConstraints (view : Subview) (constraints : List (Constraint Subview CGFloat))
    (header : SectionHeadView) : SectionHeadView :=
  { header with constraints := remake view constraints header.constraints }

def setHidden (view : Subview) (hidden : Bool) (header : SectionHeadView) : SectionHeadView :=
  { header with hidden := Function.update header.hidden view hidden }

def initLayout (sec : ℕ) : SectionHeadView :=
  let header : SectionHeadView := { sec }
  let header := header.makeConstraints .headImg [.top 8, .height 36]
  header.makeConstraints .name [.alignTop .headImg 0, .height 20]

def setContentConstraint (item : CircleModel) (header : SectionHeadView) : SectionHeadView :=
  if item.contentLabelHeight ≤ 0 then
    let header := header.remakeConstraints .contentLab []
    let header := header.remakeConstraints .foldingContent []
    let header := header.setHidden .foldingContent true
    header.setHidden .contentLab true
  else if item.contentLabelHeight ≤ 104 then
    let header := header.remakeConstraints .foldingContent []
    let header := header.setHidden .foldingContent true
    let header := header.setHidden .contentLab false
    header.remakeConstraints .contentLab [.below .name 10, .height item.contentLabelHeight]
  else
    let header := header.setHidden .foldingContent false
    let header :=
      if item.folding then
        header.remakeConstraints .contentLab [.below .name 10, .height item.contentLabelHeight]
      else header.remakeConstraints .contentLab [.below .name 10, .height 104]
    header.remakeConstraints .foldingContent [.below .contentLab 8, .height 25]

def setPictureImageViewConstraint (item : CircleModel) (header : SectionHeadView) : SectionHeadView :=
  let header := { header with pictures := [] }
  if item.imageViewHeight ≤ 0 then header.setHidden .picImagV true
  else
    let header := header.setHidden .picImagV false
    if header.hidden .foldingContent = true then
      if header.hidden .contentLab = true then
        header.remakeConstraints .picImagV [.below .name 8, .height item.imageViewHeight]
      else header.remakeConstraints .picImagV [.below .contentLab 8, .height item.imageViewHeight]
    else header.remakeConstraints .picImagV [.below .foldingContent 8, .height item.imageViewHeight]

def setTimeAndCommentConstraint (header : SectionHeadView) : SectionHeadView :=
  let header :=
    if header.hidden .picImagV = true then
      if header.hidden .foldingContent = true then
        header.remakeConstraints .time [.below .contentLab 8, .height 20]
      else header.remakeConstraints .time [.below .foldingContent 8, .height 20]
    else header.remakeConstraints .time [.below .picImagV 8, .height 20]
  let header := header.remakeConstraints .commentsBtn [.alignTop .time (-2), .height 24]
  header.makeConstraints .likeAndComments [.alignTop .commentsBtn (-4), .height 31]

/-- The loop over `small_pics` from index `i` to the `break` at `stop`. -/
def pictureRow (stop base : ℕ) (top : CGFloat) : ℕ → List NSString → List PictureView
  | _, [] => []
  | i, picURL :: pics =>
    if i = stop then []
    else ⟨picURL, (70 * (i - base) + (i - base) * 5 : ℕ), top, 70, 70⟩ ::
      pictureRow stop base top (i + 1) pics

def addPicture (item : CircleModel) (header : SectionHeadView) : SectionHeadView :=
  let pics := item.smallPics
  if pics.length = 1 then
    { header with pictures := header.pictures ++ pics.map fun picURL => ⟨picURL, 0, 0, 140, 100⟩ }
  else
    let header := { header with pictures := header.pictures ++ pictureRow 3 0 0 0 pics }
    let header :=
      if pics.length > 3 then
        { header with pictures := header.pictures ++ pictureRow 6 3 75 3 (pics.drop 3) }
      else header
    if pics.length > 6 then
      { header with pictures := header.pictures ++ pictureRow 9 6 150 6 (pics.drop 6) }
    else header

def setSectionMessage (item : CircleModel) (header : SectionHeadView) : SectionHeadView :=
  let header := header.setContentConstraint item
  let header := header.setPictureImageViewConstraint item
  let header := header.setTimeAndCommentConstraint
  header.addPicture item

/-- `viewForHeaderInSection`: every reload builds the header anew. -/
def headerFor (item : CircleModel) (sec : ℕ) : SectionHeadView := (initLayout sec).setSectionMessage item

def clickFoldingButton (item : CircleModel) (header : SectionHeadView) : SectionHeadView × Bool :=
  let header :=
    if item.folding then
      header.remakeConstraints .contentLab [.below .name 10, .height item.contentLabelHeight]
    else header.remakeConstraints .contentLab [.below .name 10, .height 104]
  (header, !item.folding)

def containsLiker : List LikeUser → Except NSException Bool
  | [] => .ok false
  | dic :: likeUsers => do
    let userId ← integerValueOrNil dic.userId
    if userId = 0 then return true
    containsLiker likeUsers

def clickCommentButton (item : CircleModel) (header : SectionHeadView) :
    Except NSException SectionHeadView := do
  let isContain ← containsLiker item.likeUsers
  let header := { header with likeButTitle := if isContain then ns "取消" else ns "赞" }
  if !header.likeAndCommentsShow then
    return { header with menuWidth := 161, likeAndCommentsShow := true }
  else return { header with menuWidth := 0, likeAndCommentsShow := false }

end SectionHeadView

namespace FriendCircleViewController

def viewForHeaderInSection (vc : FriendCircleViewController) (sec : ℕ) :
    Except NSException SectionHeadView := do
  let sectionItem ← objectAtIndex vc.dataArray sec
  return SectionHeadView.headerFor sectionItem sec

/-- A tap on the fold button of the header on screen; a hidden button takes no tap. -/
def tapFoldingButton (vc : FriendCircleViewController) (sec : ℕ) :
    Except NSException FriendCircleViewController := do
  let sectionItem ← objectAtIndex vc.dataArray sec
  let header ← vc.viewForHeaderInSection sec
  if header.hidden .foldingContent then return vc
  let (_, folding) := header.clickFoldingButton sectionItem
  vc.foldingContent folding sec

/-- The menu button of a header of section `sec`, whose `item` is the post in `dataArray`. -/
def clickCommentButton (vc : FriendCircleViewController) (header : SectionHeadView) :
    Except NSException SectionHeadView := do
  let sectionItem ← objectAtIndex vc.dataArray header.sec
  header.clickCommentButton sectionItem

end FriendCircleViewController

end MixedProject
