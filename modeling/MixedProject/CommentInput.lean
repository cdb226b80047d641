import MixedProject.LikeToggle

namespace MixedProject

structure NSIndexPath where
  row : ℤ
  sec : ℕ
  deriving DecidableEq

structure NSRange where
  location : ℕ
  length : ℕ
  deriving DecidableEq

/-- UIKit's change of a text view: `text` replaces what stands at `range`. -/
def replaceCharacters {α : Type} (range : NSRange) (text contents : List α) : List α :=
  contents.take range.location ++ text ++ contents.drop (range.location + range.length)

namespace FriendCircleViewController

open Traces

def didClickCommentButton (vc : FriendCircleViewController) (sec : ℕ) :
    Except NSException (FriendCircleViewController × NSIndexPath) := do
  let item ← objectAtIndex vc.dataArray sec
  return ({ vc with commentsSection := sec }, ⟨item.cellCount - 1, sec⟩)

def shouldChangeText (m : Metrics) (vc : FriendCircleViewController) (commentsTextV : NSString)
    (text : NSString) : Except NSException (Bool × FriendCircleViewController × NSString) :=
  if text = ns "\n" then
    if commentsTextV.length = 0 then .ok (false, vc, commentsTextV)
    else do
      let vc ← vc.addCommnets m commentsTextV
      return (true, vc, [])
  else .ok (true, vc, commentsTextV)

def viewerComment (comments : NSString) : CommentDic :=
  { commentUserId := some (.string (ns "0")), commentUserName := viewerName, commentText := comments }

def commentsAt (sec : ℕ) (vc : FriendCircleViewController) : Option (List CommentDic) :=
  vc.dataArray[sec]?.map fun item => item.comments

def addComment (sec : ℕ) (comments : Option (List CommentDic)) : Op → Option (List CommentDic)
  | .comment target text =>
    if target = sec then comments.map fun comments => comments ++ [viewerComment text] else comments
  | _ => comments

theorem didClickCommentButton_ok {vc vc' : FriendCircleViewController} {sec : ℕ} {path : NSIndexPath} :
    vc.didClickCommentButton sec = .ok (vc', path) ↔ ∃ item, vc.dataArray[sec]? = some item ∧
      vc' = { vc with commentsSection := sec } ∧ path = ⟨item.cellCount - 1, sec⟩ := by
  constructor
  · intro h
    obtain ⟨item, hitem, hpath⟩ := bind_ok h
    cases hpath
    exact ⟨item, objectAtIndex_ok.mp hitem, rfl, rfl⟩
  · rintro ⟨item, hitem, rfl, rfl⟩
    rw [didClickCommentButton, objectAtIndex_ok.mpr hitem]
    rfl

theorem numberOfRowsInSection_ok {vc : FriendCircleViewController} {sec : ℕ} {item : CircleModel}
    (hitem : vc.dataArray[sec]? = some item) :
    vc.numberOfRowsInSection sec = .ok item.cellCount := by
  rw [numberOfRowsInSection, objectAtIndex_ok.mpr hitem]
  rfl

theorem shouldChangeText_type {text : NSString} (m : Metrics) (vc : FriendCircleViewController)
    (commentsTextV : NSString) (htext : text ≠ ns "\n") :
    vc.shouldChangeText m commentsTextV text = .ok (true, vc, commentsTextV) := by
  rw [shouldChangeText, if_neg htext]

theorem shouldChangeText_empty (m : Metrics) (vc : FriendCircleViewController) :
    vc.shouldChangeText m [] (ns "\n") = .ok (false, vc, []) := by
  rw [shouldChangeText, if_pos rfl]
  rfl

theorem shouldChangeText_submit {m : Metrics} {vc : FriendCircleViewController}
    {commentsTextV : NSString} (hentered : commentsTextV ≠ []) :
    vc.shouldChangeText m commentsTextV (ns "\n") =
      (vc.addCommnets m commentsTextV).map fun vc => (true, vc, []) := by
  have hlength : ¬ commentsTextV.length = 0 := by simpa using hentered
  rw [shouldChangeText, if_pos rfl, if_neg hlength]
  cases vc.addCommnets m commentsTextV <;> rfl

theorem commentsAt_step {m : Metrics} (sec : ℕ) (vc : FriendCircleViewController) (op : Op)
    (vc' : FriendCircleViewController) (h : Step m vc op vc') :
    commentsAt sec vc' = addComment sec (commentsAt sec vc) op := by
  obtain ⟨item, hitem, hdata⟩ := step_cases h
  by_cases htarget : op.target = sec
  · have hlt : op.target < vc.dataArray.length := (List.getElem?_eq_some_iff.mp hitem).1
    subst htarget
    rw [commentsAt, hdata, List.getElem?_set_self hlt, commentsAt, hitem]
    cases op with
    | like sec => rfl
    | fold folding sec => rfl
    | comment sec comments => simp [addComment, Op.apply, commentItem, Op.target, viewerComment]
  · rw [commentsAt, hdata, List.getElem?_set_ne htarget]
    cases op with
    | like sec => rfl
    | fold folding sec => rfl
    | comment target comments =>
      have hne : ¬ target = sec := htarget
      rw [addComment, if_neg hne, commentsAt]

theorem commentsAt_addCommnets {m : Metrics} {vc vc' : FriendCircleViewController}
    {comments : NSString} (h : vc.addCommnets m comments = .ok vc') :
    ∃ old, commentsAt vc.commentsSection vc = some old ∧
      commentsAt vc.commentsSection vc' = some (old ++ [viewerComment comments]) := by
  have hst : Step m vc (.comment vc.commentsSection comments) vc' := h
  obtain ⟨item, hitem, -⟩ := step_cases hst
  have hold : commentsAt vc.commentsSection vc = some item.comments := by
    rw [commentsAt]
    exact congrArg (Option.map _) hitem
  refine ⟨item.comments, hold, ?_⟩
  rw [commentsAt_step vc.commentsSection vc _ vc' hst, addComment, if_pos rfl, hold]
  rfl

theorem commentsAt_load (m : Metrics) (rows : List RowDic) (sec : ℕ) :
    commentsAt sec (viewDidLoad m rows) = rows[sec]?.map fun rowDic => rowDic.comments := by
  simp [commentsAt, viewDidLoad, CircleModelViewModel.lodaData, CircleModelViewModel.loadItem,
    CircleModel.initWithItem, Function.comp_def]

end FriendCircleViewController

end MixedProject
