import MixedProject.FriendCircle
import MixedProject.Traces

namespace MixedProject.FeedCoherence

open Traces FriendCircleViewController CircleModelViewModel

structure Coherent (m : Metrics) (item : CircleModel) : Prop where
  headerHeight : item.headerHeight = getHeaderHeight item
  likerRowHeight : item.likerRowHeight = getLikerCellRowHeight m item
  commentHeightArr : item.commentHeightArr = getCommentsCellRowHeight m item
  cellCount : item.cellCount = getSectionAllCellCount item

def CoherentFeed (m : Metrics) (vc : FriendCircleViewController) : Prop :=
  ∀ item ∈ vc.dataArray, Coherent m item

theorem coherent_load (m : Metrics) (rowDic : RowDic) : Coherent m (loadItem m rowDic) :=
  ⟨rfl, rfl, rfl, rfl⟩

theorem coherent_apply (m : Metrics) (op : Op) {item : CircleModel} (h : Coherent m item) :
    Coherent m (op.apply m item) := by
  cases op with
  | like sec => exact ⟨h.headerHeight, rfl, h.commentHeightArr, rfl⟩
  | fold folding sec => exact ⟨rfl, h.likerRowHeight, h.commentHeightArr, h.cellCount⟩
  | comment sec comments => exact ⟨h.headerHeight, h.likerRowHeight, rfl, rfl⟩

theorem coherentFeed_load (m : Metrics) (rows : List RowDic) :
    CoherentFeed m (viewDidLoad m rows) := by
  intro item hitem
  obtain ⟨rowDic, -, rfl⟩ := List.mem_map.mp hitem
  exact coherent_load m rowDic

theorem coherentFeed_step (m : Metrics) (vc : FriendCircleViewController) (op : Op)
    (vc' : FriendCircleViewController) (hvc : CoherentFeed m vc) (h : Step m vc op vc') :
    CoherentFeed m vc' := by
  obtain ⟨item, hitem, hdata⟩ := step_cases h
  intro item' hitem'
  rw [hdata] at hitem'
  rcases List.mem_or_eq_of_mem_set hitem' with hold | rfl
  · exact hvc item' hold
  · exact coherent_apply m op (hvc item (List.mem_of_getElem? hitem))

theorem appendLiker_text (likeUsers : List LikeUser) (acc : NSString × List Link) (dic : LikeUser) :
    (LikeCircleTableViewCell.appendLiker likeUsers acc dic).1 = appendLiker likeUsers acc.1 dic := by
  obtain ⟨liker, rangeArr⟩ := acc
  simp only [LikeCircleTableViewCell.appendLiker, appendLiker]
  split_ifs <;> rfl

theorem likerString_eq (item : CircleModel) :
    (LikeCircleTableViewCell.likerString item).1 = likerString item := by
  have hloop : ∀ (users : List LikeUser) (acc : NSString × List Link),
      (users.foldl (LikeCircleTableViewCell.appendLiker item.likeUsers) acc).1 =
        users.foldl (appendLiker item.likeUsers) acc.1 := by
    intro users
    induction users with
    | nil => intro acc; rfl
    | cons user users ih =>
      intro acc
      rw [List.foldl_cons, ih, appendLiker_text, List.foldl_cons]
  exact hloop item.likeUsers ([], [])

theorem commentsText_eq (item : CircleModel) (commentsDic : CommentDic) :
    CommentsTableViewCell.commentsText item commentsDic = commentsText item commentsDic := rfl

theorem appendLiker_length (likeUsers : List LikeUser) (liker : NSString) (dic : LikeUser) :
    liker.length < (appendLiker likeUsers liker dic).length := by
  have hspace : space.length = 7 := by decide
  have hsymbol : symbol.length = 2 := by decide
  simp only [appendLiker]
  split_ifs <;> simp only [List.length_append] <;> omega

theorem foldl_appendLiker_length (likeUsers users : List LikeUser) (liker : NSString) :
    liker.length ≤ (users.foldl (appendLiker likeUsers) liker).length := by
  induction users generalizing liker with
  | nil => exact le_refl _
  | cons user users ih =>
    have hstep := appendLiker_length likeUsers liker user
    have hrest := ih (appendLiker likeUsers liker user)
    rw [List.foldl_cons]
    omega

theorem likerString_eq_nil (item : CircleModel) : likerString item = [] ↔ item.likeUsers = [] := by
  constructor
  · intro h
    cases hu : item.likeUsers with
    | nil => rfl
    | cons user users =>
      have hstep := appendLiker_length (user :: users) [] user
      have hrest := foldl_appendLiker_length (user :: users) users
        (appendLiker (user :: users) [] user)
      rw [likerString, hu, List.foldl_cons] at h
      rw [h, List.length_nil] at hrest
      omega
  · intro h
    rw [likerString, h, List.foldl_nil]

theorem commentsText_ne_nil (item : CircleModel) (commentsDic : CommentDic) :
    commentsText item commentsDic ≠ [] := by
  have hcolon : (ns ": ").length = 2 := by decide
  intro h
  have hlen := congrArg List.length h
  unfold commentsText at hlen
  revert hlen
  cases commentsDic.commentToUserName with
  | none => simp only [List.length_append, List.length_nil]; omega
  | some toUserName =>
    simp only
    split_ifs <;> simp only [List.length_append, List.length_nil] <;> omega

structure TextMetrics (m : Metrics) : Prop where
  empty : m.rowHeight [] ≤ 14
  text : ∀ s, s ≠ [] → 14 < m.rowHeight s

theorem likerRowHeight_iff {m : Metrics} (hm : TextMetrics m) {item : CircleModel}
    (h : Coherent m item) : item.likerRowHeight > 14 ↔ item.likeUsers.length > 0 := by
  have hceil : item.likerRowHeight > 14 ↔ 14 < m.rowHeight (likerString item) := by
    rw [h.likerRowHeight, getLikerCellRowHeight, gt_iff_lt]
    have := Int.lt_ceil (z := 14) (a := m.rowHeight (likerString item))
    push_cast at this
    rw [← this]
    exact_mod_cast Iff.rfl
  rw [hceil, gt_iff_lt, List.length_pos_iff, ne_eq, ← likerString_eq_nil]
  constructor
  · intro hlt hnil
    rw [hnil] at hlt
    exact absurd hlt (not_lt.mpr hm.empty)
  · exact hm.text _

theorem heightRow_eq_cellRow {m : Metrics} (hm : TextMetrics m) {item : CircleModel}
    (h : Coherent m item) (row : ℕ) : heightRow item row = cellRow item row := by
  unfold heightRow cellRow
  simp only [likerRowHeight_iff hm h]

theorem cellRow_comment {m : Metrics} {item : CircleModel} (h : Coherent m item) {row k : ℕ}
    (hrow : (row : ℤ) < item.cellCount) (hk : cellRow item row = .comment k) :
    k < item.comments.length := by
  rw [h.cellCount, getSectionAllCellCount] at hrow
  unfold cellRow at hk
  split_ifs at hk hrow with hlike hzero
  · cases hk; omega
  · cases hk; omega

theorem addLinks_text (links : List Link) (label label' : TTTAttributedLabel)
    (h : links.foldlM TTTAttributedLabel.addLinkToTransitInformation label = .ok label') :
    label'.text = label.text := by
  induction links generalizing label with
  | nil => cases h; rfl
  | cons link links ih =>
    rw [List.foldlM_cons] at h
    obtain ⟨next, hadd, hrest⟩ := bind_ok h
    rw [ih next hrest, TTTAttributedLabel.addLink_text hadd]

theorem addLinks_error (links : List Link) (label : TTTAttributedLabel) (e : NSException)
    (h : links.foldlM TTTAttributedLabel.addLinkToTransitInformation label = .error e) :
    e = .attributedRange := by
  induction links generalizing label with
  | nil => cases h
  | cons link links ih =>
    rw [List.foldlM_cons] at h
    rcases bind_error h with hadd | ⟨next, -, hrest⟩
    · exact TTTAttributedLabel.addLink_error hadd
    · exact ih next hrest

theorem getLikerString_ok {m : Metrics} {item : CircleModel} {cell : LikeCircleTableViewCell}
    (h : LikeCircleTableViewCell.getLikerString m item = .ok cell) :
    cell.contentLab.text = likerString item ∧ cell.likerHeight = ⌈m.rowHeight (likerString item)⌉ := by
  obtain ⟨contentLab, hlinks, hcell⟩ := bind_ok h
  cases hcell
  rw [← likerString_eq]
  exact ⟨addLinks_text _ _ _ hlinks, rfl⟩

theorem getLikerString_error {m : Metrics} {item : CircleModel} {e : NSException}
    (h : LikeCircleTableViewCell.getLikerString m item = .error e) : e = .attributedRange := by
  rcases bind_error h with hlinks | ⟨contentLab, -, hcell⟩
  · exact addLinks_error _ _ _ hlinks
  · cases hcell

theorem addReplyLink_text {item : CircleModel} {commentsDic : CommentDic}
    {label label' : TTTAttributedLabel}
    (h : CommentsTableViewCell.addReplyLink item commentsDic label = .ok label') :
    label'.text = label.text := by
  unfold CommentsTableViewCell.addReplyLink at h
  split at h
  · cases h; rfl
  · split_ifs at h
    · cases h; rfl
    · obtain ⟨toUserId, -, hlink⟩ := bind_ok h
      dsimp only at hlink
      split_ifs at hlink
      · cases hlink; rfl
      · exact TTTAttributedLabel.addLink_text hlink

theorem addReplyLink_error {item : CircleModel} {commentsDic : CommentDic}
    {label : TTTAttributedLabel} {e : NSException}
    (h : CommentsTableViewCell.addReplyLink item commentsDic label = .error e) : e ≠ .arrayIndex := by
  unfold CommentsTableViewCell.addReplyLink at h
  split at h
  · cases h
  · split_ifs at h
    rcases bind_error h with hid | ⟨toUserId, -, hlink⟩
    · rw [integerValueOrNil_error hid]; decide
    · dsimp only at hlink
      split_ifs at hlink
      · cases hlink
      · rw [TTTAttributedLabel.addLink_error hlink]; decide

theorem getCommntsString_ok {m : Metrics} {item : CircleModel} {commentsDic : CommentDic}
    {cell : CommentsTableViewCell}
    (h : CommentsTableViewCell.getCommntsString m item commentsDic = .ok cell) :
    cell.commentLab.text = commentsText item commentsDic ∧
      cell.commentsHeight = ⌈m.rowHeight (commentsText item commentsDic)⌉ := by
  obtain ⟨named, hname, h⟩ := bind_ok h
  obtain ⟨commentLab, hreply, hcell⟩ := bind_ok h
  cases hcell
  have htext := (addReplyLink_text hreply).trans (TTTAttributedLabel.addLink_text hname)
  rw [← commentsText_eq]
  exact ⟨htext, rfl⟩

theorem getCommntsString_error {m : Metrics} {item : CircleModel} {commentsDic : CommentDic}
    {e : NSException}
    (h : CommentsTableViewCell.getCommntsString m item commentsDic = .error e) : e ≠ .arrayIndex := by
  rcases bind_error h with hname | ⟨named, -, h⟩
  · rw [TTTAttributedLabel.addLink_error hname]; decide
  · rcases bind_error h with hreply | ⟨commentLab, -, hcell⟩
    · exact addReplyLink_error hreply
    · cases hcell

def ExactHeight (cell : Cell) (height : CGFloat) : Prop := height = cell.rowHeight + 10

/-- Comment heights are stored as floats, which are exact for whole numbers below `2 ^ 24`. -/
def FloatHeight (cell : Cell) (height : CGFloat) : Prop :=
  match cell with
  | .like _ => height = cell.rowHeight + 10
  | .comments _ => height = numberWithFloat (numberWithFloat cell.rowHeight + 10) ∧
      (cell.rowHeight + 10 < 2 ^ 24 → height = cell.rowHeight + 10)

structure RowCoherent (m : Metrics) (expected : Cell → CGFloat → Prop)
    (vc : FriendCircleViewController) (sec : ℕ) (item : CircleModel) (row : ℕ) : Prop where
  same : heightRow item row = cellRow item row
  inRange : ∀ k, cellRow item row = .comment k →
    k < item.comments.length ∧ k < item.commentHeightArr.length
  height : ∃ height, vc.heightForRowAtIndexPath sec row = .ok height ∧
    ∀ cell, vc.cellForRowAtIndexPath m sec row = .ok cell →
      cell.rowHeight = ⌈m.rowHeight cell.text⌉ ∧ expected cell height
  noIndexError : ∀ e, vc.cellForRowAtIndexPath m sec row = .error e → e ≠ .arrayIndex

def RowsCoherent (m : Metrics) (expected : Cell → CGFloat → Prop)
    (vc : FriendCircleViewController) : Prop :=
  ∀ (sec : ℕ) (item : CircleModel), vc.dataArray[sec]? = some item →
    ∀ count, vc.numberOfRowsInSection sec = .ok count →
      ∀ row : ℕ, (row : ℤ) < count → RowCoherent m expected vc sec item row

theorem rowHeight_like {m : Metrics} {item : CircleModel} (h : Coherent m item) :
    rowHeight item .like = .ok (⌈m.rowHeight (likerString item)⌉ + 10) := by
  rw [rowHeight, h.likerRowHeight, getLikerCellRowHeight]

theorem rowHeight_comment {m : Metrics} {item : CircleModel} (h : Coherent m item) {k : ℕ}
    {commentsDic : CommentDic} (hk : item.comments[k]? = some commentsDic) :
    rowHeight item (.comment k) = .ok
      (numberWithFloat (numberWithFloat ⌈m.rowHeight (commentsText item commentsDic)⌉ + 10)) := by
  have hheight : item.commentHeightArr[k]? =
      some (numberWithFloat ⌈m.rowHeight (commentsText item commentsDic)⌉) := by
    rw [h.commentHeightArr, getCommentsCellRowHeight, List.getElem?_map, hk]
    rfl
  rw [rowHeight, objectAtIndex_ok.mpr hheight]
  rfl

theorem floatHeight_exact {m : Metrics} (hm : TextMetrics m) {s : NSString} (hs : s ≠ [])
    (hsmall : (⌈m.rowHeight s⌉ : ℚ) + 10 < 2 ^ 24) :
    numberWithFloat (numberWithFloat ⌈m.rowHeight s⌉ + 10) = ⌈m.rowHeight s⌉ + 10 := by
  have hpos : 14 < ⌈m.rowHeight s⌉ := by
    have htext := hm.text s hs
    exact Int.lt_ceil.mpr (by exact_mod_cast htext)
  have hlt : ⌈m.rowHeight s⌉ + 10 < 2 ^ 24 := by exact_mod_cast hsmall
  rw [numberWithFloat_exact _ (by rw [abs_lt]; omega)]
  have hsum : ((⌈m.rowHeight s⌉ : ℚ) + 10) = ((⌈m.rowHeight s⌉ + 10 : ℤ) : ℚ) := by
    push_cast
    rfl
  rw [hsum]
  exact numberWithFloat_exact _ (by rw [abs_lt]; omega)

theorem like_agrees {m : Metrics} {item : CircleModel} (h : Coherent m item) :
    ∃ height, rowHeight item .like = .ok height ∧ ∀ cell, rowCell m item .like = .ok cell →
      cell.rowHeight = ⌈m.rowHeight cell.text⌉ ∧ FloatHeight cell height := by
  refine ⟨_, rowHeight_like h, fun cell hcell => ?_⟩
  obtain ⟨likeCell, hlike, hret⟩ := bind_ok hcell
  cases hret
  obtain ⟨htext, hmeasure⟩ := getLikerString_ok hlike
  simp only [FloatHeight, Cell.rowHeight, Cell.text, htext, hmeasure, and_self]

theorem comment_agrees {m : Metrics} (hm : TextMetrics m) {item : CircleModel}
    (h : Coherent m item) {k : ℕ} {commentsDic : CommentDic}
    (hk : item.comments[k]? = some commentsDic) :
    ∃ height, rowHeight item (.comment k) = .ok height ∧
      ∀ cell, rowCell m item (.comment k) = .ok cell →
        cell.rowHeight = ⌈m.rowHeight cell.text⌉ ∧ FloatHeight cell height := by
  refine ⟨_, rowHeight_comment h hk, fun cell hcell => ?_⟩
  obtain ⟨found, hfound, hcell⟩ := bind_ok hcell
  obtain rfl : commentsDic = found := by
    rw [objectAtIndex_ok, hk] at hfound
    exact Option.some.inj hfound
  obtain ⟨commentsCell, hcomments, hret⟩ := bind_ok hcell
  cases hret
  obtain ⟨htext, hmeasure⟩ := getCommntsString_ok hcomments
  simp only [FloatHeight, Cell.rowHeight, Cell.text, htext, hmeasure, true_and]
  exact floatHeight_exact hm (commentsText_ne_nil item commentsDic)

theorem rowCell_error {m : Metrics} {item : CircleModel} {kind : Row} {e : NSException}
    (hkind : ∀ k, kind = .comment k → k < item.comments.length)
    (he : rowCell m item kind = .error e) : e ≠ .arrayIndex := by
  cases kind with
  | like =>
    rcases bind_error he with hlike | ⟨likeCell, -, hret⟩
    · rw [getLikerString_error hlike]; decide
    · cases hret
  | comment k =>
    rcases bind_error he with hfound | ⟨commentsDic, -, he⟩
    · rw [objectAtIndex_ok.mpr (List.getElem?_eq_getElem (hkind k rfl))] at hfound
      cases hfound
    · rcases bind_error he with hcomments | ⟨commentsCell, -, hret⟩
      · exact getCommntsString_error hcomments
      · cases hret

theorem rowCoherent_of_coherent {m : Metrics} (hm : TextMetrics m)
    {vc : FriendCircleViewController} {sec : ℕ} {item : CircleModel}
    (hitem : vc.dataArray[sec]? = some item) (h : Coherent m item) {row : ℕ}
    (hrow : (row : ℤ) < item.cellCount) : RowCoherent m FloatHeight vc sec item row := by
  have hsame := heightRow_eq_cellRow hm h row
  have hget := objectAtIndex_ok.mpr hitem
  have hheightFor : vc.heightForRowAtIndexPath sec row = rowHeight item (cellRow item row) := by
    rw [heightForRowAtIndexPath, hget, ← hsame]; rfl
  have hcellFor : vc.cellForRowAtIndexPath m sec row = rowCell m item (cellRow item row) := by
    rw [cellForRowAtIndexPath, hget]; rfl
  have hlengths : item.commentHeightArr.length = item.comments.length := by
    rw [h.commentHeightArr, getCommentsCellRowHeight, List.length_map]
  have hkind : ∀ k, cellRow item row = .comment k → k < item.comments.length :=
    fun k hk => cellRow_comment h hrow hk
  refine ⟨hsame, fun k hk => ?_, ?_, fun e he => ?_⟩
  · exact ⟨hkind k hk, hlengths ▸ hkind k hk⟩
  · rw [hheightFor, hcellFor]
    cases hrowKind : cellRow item row with
    | like => exact like_agrees h
    | comment k => exact comment_agrees hm h (List.getElem?_eq_getElem (hkind k hrowKind))
  · rw [hcellFor] at he
    exact rowCell_error hkind he

theorem rowsCoherent_of_coherentFeed {m : Metrics} (hm : TextMetrics m)
    {vc : FriendCircleViewController} (h : CoherentFeed m vc) : RowsCoherent m FloatHeight vc := by
  intro sec item hitem count hcount row hrow
  have hrows : item.cellCount = count := by
    rw [numberOfRowsInSection, objectAtIndex_ok.mpr hitem] at hcount
    exact Except.ok.inj hcount
  rw [← hrows] at hrow
  exact rowCoherent_of_coherent hm hitem (h item (List.mem_of_getElem? hitem)) hrow

theorem rows_stay_coherent (m : Metrics) (hm : TextMetrics m) (rows : List RowDic)
    (tr : List (Op × FriendCircleViewController)) (htr : Trace (Step m) (viewDidLoad m rows) tr) :
    Always (RowsCoherent m FloatHeight) (viewDidLoad m rows) tr :=
  (htr.always (coherentFeed_step m) (coherentFeed_load m rows)).mono
    fun _ => rowsCoherent_of_coherentFeed hm

def tallMetrics : Metrics where
  contentHeight _ := 0
  rowHeight s := if s = [] then 0 else 16777217

theorem tallMetrics_text : TextMetrics tallMetrics := by
  constructor
  · simp [tallMetrics]
  · intro s hs
    simp only [tallMetrics, hs, ↓reduceIte]
    norm_num

def commentedRow : RowDic where
  userId := 1
  userName := ns "p"
  comments := [{ commentUserName := ns "a", commentText := ns "b" }]

def likedFeed : FriendCircleViewController where
  dataArray := [likeItem tallMetrics (loadItem tallMetrics commentedRow)]

theorem liked_rows_coherent :
    Always (RowsCoherent tallMetrics FloatHeight) (viewDidLoad tallMetrics [commentedRow])
      [(Op.like 0, likedFeed)] :=
  rows_stay_coherent tallMetrics tallMetrics_text [commentedRow] _ (.cons rfl (.nil _))

theorem numberWithFloat_tall : numberWithFloat (numberWithFloat 16777217 + 10) = 16777226 := by
  have hround : numberWithFloat 16777217 = 16777216 := by
    rw [numberWithFloat, BinaryRounding.roundBits_window 24 _ 1 (by norm_num) (by norm_num)]
    norm_num [BinaryRounding.roundHalfEven]
  rw [hround, numberWithFloat,
    BinaryRounding.roundBits_window 24 _ 1 (by norm_num) (by norm_num)]
  norm_num [BinaryRounding.roundHalfEven]

theorem tall_comment_incoherent :
    ¬ ∀ m : Metrics, TextMetrics m → ∀ (rows : List RowDic)
      (tr : List (Op × FriendCircleViewController)), Trace (Step m) (viewDidLoad m rows) tr →
      Always (RowsCoherent m ExactHeight) (viewDidLoad m rows) tr := by
  intro h
  have hrows := (h tallMetrics tallMetrics_text [commentedRow] [] (.nil _)).1
  have hrow := hrows 0 (loadItem tallMetrics commentedRow) rfl 1 rfl 0 (by decide)
  obtain ⟨height, hheight, hcell⟩ := hrow.height
  have hshown : cellForRowAtIndexPath tallMetrics (viewDidLoad tallMetrics [commentedRow]) 0 0 =
      .ok (.comments ⟨⟨ns "a: b", [⟨0, 1, ns "a"⟩]⟩, 16777217⟩) := by decide +kernel
  have hexact := (hcell _ hshown).2
  have hfloat : heightForRowAtIndexPath (viewDidLoad tallMetrics [commentedRow]) 0 0 =
      .ok (numberWithFloat (numberWithFloat 16777217 + 10)) := rfl
  rw [hfloat, numberWithFloat_tall] at hheight
  cases hheight
  norm_num [ExactHeight, Cell.rowHeight] at hexact

end MixedProject.FeedCoherence
