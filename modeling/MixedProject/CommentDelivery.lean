import MixedProject.CommentInput

namespace MixedProject.CommentDelivery

open Traces FriendCircleViewController

inductive Event
  | clickComment (sec : ℕ)
  | addCommnets (comments : NSString)
  | like (sec : ℕ)
  | fold (folding : Bool) (sec : ℕ)
  deriving DecidableEq

def handle (m : Metrics) (vc : FriendCircleViewController) :
    Event → Except NSException FriendCircleViewController
  | .clickComment sec => do
    let (vc, _) ← vc.didClickCommentButton sec
    return vc
  | .addCommnets comments => vc.addCommnets m comments
  | .like sec => vc.didClickLikeButton m sec
  | .fold folding sec => vc.foldingContent folding sec

def Step (m : Metrics) (vc : FriendCircleViewController) (e : Event)
    (vc' : FriendCircleViewController) : Prop := handle m vc e = .ok vc'

def clickedBy (clicked : Option ℕ) : Event → Option ℕ
  | .clickComment sec => some sec
  | _ => clicked

def clickedLast (events : List Event) : Option ℕ := events.foldl clickedBy none

def sent (sec : ℕ) (clicked : Option ℕ) : Event → List NSString
  | .addCommnets comments => if clicked = some sec then [comments] else []
  | _ => []

/-- The texts submitted while `sec` was the post whose comment button was clicked last. -/
def submitted (sec : ℕ) : Option ℕ → List Event → List NSString
  | _, [] => []
  | clicked, e :: events => sent sec clicked e ++ submitted sec (clickedBy clicked e) events

def early : List Event → List NSString
  | [] => []
  | .clickComment _ :: _ => []
  | .addCommnets comments :: events => comments :: early events
  | .like _ :: events => early events
  | .fold _ _ :: events => early events

-- The instance variable `commentsSection` starts at 0.
def addressee (clicked : Option ℕ) : ℕ := clicked.getD 0

def delivered (sec : ℕ) (clicked : Option ℕ) : Event → List NSString
  | .addCommnets comments => if addressee clicked = sec then [comments] else []
  | _ => []

def received (sec : ℕ) : Option ℕ → List Event → List NSString
  | _, [] => []
  | clicked, e :: events => delivered sec clicked e ++ received sec (clickedBy clicked e) events

def target (clicked : Option ℕ) : Event → Option ℕ
  | .clickComment _ => none
  | .addCommnets _ => some (addressee clicked)
  | .like sec => some sec
  | .fold _ sec => some sec

def op (clicked : Option ℕ) : Event → Option Op
  | .clickComment _ => none
  | .addCommnets comments => some (.comment (addressee clicked) comments)
  | .like sec => some (.like sec)
  | .fold folding sec => some (.fold folding sec)

variable {m : Metrics} {vc vc' : FriendCircleViewController} {clicked : Option ℕ} {e : Event}

theorem target_eq (clicked : Option ℕ) (e : Event) :
    target clicked e = (op clicked e).map Op.target := by
  cases e <;> rfl

theorem step_clickComment {sec : ℕ} (hst : Step m vc (.clickComment sec) vc') :
    vc' = { vc with commentsSection := sec } := by
  obtain ⟨⟨next, path⟩, hclick, hvc⟩ := bind_ok hst
  obtain ⟨-, -, rfl, -⟩ := didClickCommentButton_ok.mp hclick
  exact (Except.ok.inj hvc).symm

theorem commentsSection_step (hclicked : vc.commentsSection = addressee clicked)
    (hst : Step m vc e vc') : vc'.commentsSection = addressee (clickedBy clicked e) := by
  cases e with
  | clickComment sec =>
    rw [step_clickComment hst]
    rfl
  | addCommnets | like | fold =>
    obtain ⟨item, -, hvc⟩ := bind_ok hst
    cases hvc
    exact hclicked

theorem perform_of_step {o : Op} (hclicked : vc.commentsSection = addressee clicked)
    (hst : Step m vc e vc') (ho : op clicked e = some o) :
    FriendCircleViewController.Step m vc o vc' := by
  cases e with
  | clickComment sec => cases ho
  | addCommnets comments =>
    cases ho
    rw [← hclicked]
    exact hst
  | like sec =>
    cases ho
    exact hst
  | fold folding sec =>
    cases ho
    exact hst

theorem dataArray_of_no_op (hst : Step m vc e vc') (hnone : op clicked e = none) :
    vc'.dataArray = vc.dataArray := by
  cases e with
  | clickComment sec => rw [step_clickComment hst]
  | _ => cases hnone

theorem dataArray_step (hclicked : vc.commentsSection = addressee clicked)
    (hst : Step m vc e vc') {sec : ℕ} (hsec : target clicked e ≠ some sec) :
    vc'.dataArray[sec]? = vc.dataArray[sec]? := by
  cases ho : op clicked e with
  | none => rw [dataArray_of_no_op hst ho]
  | some o =>
    obtain ⟨item, -, hdata⟩ := step_cases (perform_of_step hclicked hst ho)
    have hne : o.target ≠ sec := by
      intro heq
      apply hsec
      rw [target_eq, ho, Option.map_some, heq]
    rw [hdata, List.getElem?_set_ne hne]

theorem addComment_op {o : Op} (ho : op clicked e = some o) (sec : ℕ)
    (comments : List CommentDic) :
    addComment sec (some comments) o = some (comments ++ (delivered sec clicked e).map viewerComment) := by
  cases e with
  | clickComment sec' => cases ho
  | addCommnets text =>
    cases ho
    rw [addComment, delivered]
    split_ifs
    · rfl
    · simp
  | like sec' =>
    cases ho
    simp [addComment, delivered]
  | fold folding sec' =>
    cases ho
    simp [addComment, delivered]

theorem delivered_of_op_none (hnone : op clicked e = none) (sec : ℕ) :
    delivered sec clicked e = [] := by
  cases e with
  | clickComment sec' => rfl
  | _ => cases hnone

theorem commentsAt_deliver (hclicked : vc.commentsSection = addressee clicked)
    (hst : Step m vc e vc') (sec : ℕ) : commentsAt sec vc' = (commentsAt sec vc).map fun comments =>
      comments ++ (delivered sec clicked e).map viewerComment := by
  cases ho : op clicked e with
  | none =>
    rw [commentsAt, dataArray_of_no_op hst ho, delivered_of_op_none ho]
    simp [commentsAt, Function.comp_def]
  | some o =>
    rw [commentsAt_step sec vc o vc' (perform_of_step hclicked hst ho)]
    cases hold : commentsAt sec vc with
    | none => cases o <;> simp [addComment]
    | some comments => exact addComment_op ho sec comments

theorem commentsAt_run {tr : List (Event × FriendCircleViewController)}
    (hclicked : vc.commentsSection = addressee clicked) (htr : Trace (Step m) vc tr) (sec : ℕ) :
    commentsAt sec (last vc tr) = (commentsAt sec vc).map fun comments =>
      comments ++ (received sec clicked (tr.map Prod.fst)).map viewerComment := by
  induction htr generalizing clicked with
  | nil vc => simp [received]
  | cons hst _ ih =>
    rw [last_cons, ih (commentsSection_step hclicked hst), commentsAt_deliver hclicked hst,
      Option.map_map]
    simp [Function.comp_def, received]

theorem received_clicked (sec post : ℕ) (events : List Event) :
    received sec (some post) events = submitted sec (some post) events := by
  induction events generalizing post with
  | nil => rfl
  | cons e events ih =>
    cases e with
    | clickComment post' => exact ih post'
    | addCommnets comments =>
      by_cases hpost : post = sec
      · simp [received, submitted, delivered, sent, clickedBy, addressee, ih, hpost]
      · simp [received, submitted, delivered, sent, clickedBy, addressee, ih, hpost]
    | like post' => exact ih post
    | fold folding post' => exact ih post

theorem received_none (sec : ℕ) (events : List Event) : received sec none events =
    (if sec = 0 then early events else []) ++ submitted sec none events := by
  induction events with
  | nil => simp [received, early, submitted]
  | cons e events ih =>
    cases e with
    | clickComment post =>
      have hclicked := received_clicked sec post events
      simpa [received, delivered, submitted, sent, early, clickedBy] using hclicked
    | addCommnets comments =>
      by_cases hsec : sec = 0
      · subst hsec
        simp [received, delivered, submitted, sent, early, clickedBy, addressee, ih]
      · have hne : ¬ 0 = sec := fun heq => hsec heq.symm
        simp [received, delivered, submitted, sent, clickedBy, addressee, ih, hsec, hne]
    | like post => exact ih
    | fold folding post => exact ih

theorem commentsSection_run {tr : List (Event × FriendCircleViewController)}
    (hclicked : vc.commentsSection = addressee clicked) (htr : Trace (Step m) vc tr) :
    (last vc tr).commentsSection = addressee ((tr.map Prod.fst).foldl clickedBy clicked) := by
  induction htr generalizing clicked with
  | nil vc => exact hclicked
  | cons hst _ ih => exact ih (commentsSection_step hclicked hst)

theorem comments_delivered (m : Metrics) (rows : List RowDic)
    {tr : List (Event × FriendCircleViewController)} (htr : Trace (Step m) (viewDidLoad m rows) tr) :
    (∀ sec, commentsAt sec (last (viewDidLoad m rows) tr) = rows[sec]?.map fun rowDic =>
      rowDic.comments ++ ((if sec = 0 then early (tr.map Prod.fst) else []) ++
        submitted sec none (tr.map Prod.fst)).map viewerComment) ∧
    ∀ e vc', Step m (last (viewDidLoad m rows) tr) e vc' →
      ∀ sec, target (clickedLast (tr.map Prod.fst)) e ≠ some sec →
        vc'.dataArray[sec]? = (last (viewDidLoad m rows) tr).dataArray[sec]? := by
  have hload : (viewDidLoad m rows).commentsSection = addressee none := rfl
  constructor
  · intro sec
    rw [commentsAt_run hload htr, commentsAt_load, Option.map_map, received_none]
    rfl
  · intro e vc' hst sec hsec
    exact dataArray_step (commentsSection_run hload htr) hst hsec

def lineHeight : Metrics := ⟨fun _ => 18, fun _ => 18⟩

def remark : CommentDic := { commentUserName := ns "帝天", commentText := ns "b" }

def twoPosts : List RowDic :=
  [{ userId := 23, userName := ns "邱杰", comments := [remark] },
    { userId := 20, userName := ns "刘希", comments := [remark] }]

def alternating : List Event :=
  [.addCommnets (ns "d"), .clickComment 0, .addCommnets (ns "a"), .clickComment 1, .like 0,
    .addCommnets (ns "b"), .fold true 0, .addCommnets (ns "c")]

theorem alternating_delivered :
    let tr := run (fun vc e => (handle lineHeight vc e).toOption) (viewDidLoad lineHeight twoPosts)
      alternating
    commentsAt 0 (last (viewDidLoad lineHeight twoPosts) tr) =
        some [remark, viewerComment (ns "d"), viewerComment (ns "a")] ∧
      commentsAt 1 (last (viewDidLoad lineHeight twoPosts) tr) =
        some [remark, viewerComment (ns "b"), viewerComment (ns "c")] := by
  intro tr
  have htr := trace_run_ok (handle lineHeight) (viewDidLoad lineHeight twoPosts) alternating
  have hdelivered := (comments_delivered lineHeight twoPosts htr).1
  exact ⟨hdelivered 0, hdelivered 1⟩

theorem early_comment_misdirected :
    ¬ ∀ (m : Metrics) (rows : List RowDic) (tr : List (Event × FriendCircleViewController)),
      Trace (Step m) (viewDidLoad m rows) tr →
        ∀ sec, commentsAt sec (last (viewDidLoad m rows) tr) = rows[sec]?.map fun rowDic =>
          rowDic.comments ++ (submitted sec none (tr.map Prod.fst)).map viewerComment := by
  intro h
  have htr := trace_run_ok (handle lineHeight) (viewDidLoad lineHeight twoPosts)
    [.addCommnets (ns "a")]
  have hlost := h lineHeight twoPosts _ htr 0
  revert hlost
  decide +kernel

end MixedProject.CommentDelivery
