import MixedProject.CommentInput
import MixedProject.FeedCoherence

namespace MixedProject.CommentScroll

open Traces FriendCircleViewController FeedCoherence LikeToggle

def RowExists (vc : FriendCircleViewController) (sec : ℕ) : Prop :=
  ∃ vc' path rows, vc.didClickCommentButton sec = .ok (vc', path) ∧
    vc'.numberOfRowsInSection path.sec = .ok rows ∧ 0 ≤ path.row ∧ path.row < rows

/-- A comment, or a liker whom no click of the viewer removes. -/
def KeepsRow (comments : List CommentDic) (likeUsers : List LikeUser) : Prop :=
  comments ≠ [] ∨ ∃ user ∈ likeUsers, user.userName ≠ viewerName

theorem rowExists_iff {m : Metrics} {vc : FriendCircleViewController} (h : CoherentFeed m vc) {sec : ℕ}
    {item : CircleModel} (hitem : vc.dataArray[sec]? = some item) :
    RowExists vc sec ↔ item.comments ≠ [] ∨ item.likeUsers ≠ [] := by
  have hcoherent := h item (List.mem_of_getElem? hitem)
  have hcount : 0 < item.cellCount ↔ item.comments ≠ [] ∨ item.likeUsers ≠ [] := by
    rw [hcoherent.cellCount, CircleModelViewModel.getSectionAllCellCount]
    cases item.comments <;> cases item.likeUsers <;> simp
    omega
  rw [← hcount]
  constructor
  · rintro ⟨vc', path, rows, hclick, -, hrow, -⟩
    obtain ⟨clicked, hclicked, -, rfl⟩ := didClickCommentButton_ok.mp hclick
    rw [hitem] at hclicked
    cases hclicked
    simp only at hrow
    omega
  · intro hpos
    refine ⟨_, _, item.cellCount, didClickCommentButton_ok.mpr ⟨item, hitem, rfl, rfl⟩,
      numberOfRowsInSection_ok hitem, ?_, ?_⟩
    · simp only
      omega
    · simp only
      omega

theorem toggleLike_keeps {likeUsers : List LikeUser} {user : LikeUser} (huser : user ∈ likeUsers)
    (hname : user.userName ≠ viewerName) : user ∈ toggleLike likeUsers := by
  rcases toggleLike_cases likeUsers with ⟨dic, -, hdic, heq⟩ | ⟨-, heq⟩
  · have hne : user ≠ dic := by
      rintro rfl
      exact hname hdic
    rw [heq]
    simp [huser, hne]
  · rw [heq]
    exact List.mem_append_left _ huser

theorem keepsRow_apply (m : Metrics) (op : Op) {item : CircleModel}
    (h : KeepsRow item.comments item.likeUsers) :
    KeepsRow (op.apply m item).comments (op.apply m item).likeUsers := by
  cases op with
  | like sec =>
    rcases h with hcomments | ⟨user, huser, hname⟩
    · exact .inl hcomments
    · exact .inr ⟨user, toggleLike_keeps huser hname, hname⟩
  | fold folding sec => exact h
  | comment sec comments => exact .inl (by simp [Op.apply, commentItem])

def KeepsRowAt (sec : ℕ) (vc : FriendCircleViewController) : Prop :=
  ∃ item, vc.dataArray[sec]? = some item ∧ KeepsRow item.comments item.likeUsers

theorem keepsRowAt_step {m : Metrics} {sec : ℕ} (vc : FriendCircleViewController) (op : Op)
    (vc' : FriendCircleViewController) (h : KeepsRowAt sec vc) (hst : Step m vc op vc') :
    KeepsRowAt sec vc' := by
  obtain ⟨kept, hkept, hrow⟩ := h
  obtain ⟨item, hitem, hdata⟩ := step_cases hst
  rw [KeepsRowAt, hdata]
  by_cases htarget : op.target = sec
  · subst htarget
    rw [hitem] at hkept
    cases hkept
    have hlt := (List.getElem?_eq_some_iff.mp hitem).1
    exact ⟨_, List.getElem?_set_self hlt, keepsRow_apply m op hrow⟩
  · exact ⟨kept, by rw [List.getElem?_set_ne htarget, hkept], hrow⟩

theorem length_step {m : Metrics} {n : ℕ} (vc : FriendCircleViewController) (op : Op)
    (vc' : FriendCircleViewController) (h : vc.dataArray.length = n) (hst : Step m vc op vc') :
    vc'.dataArray.length = n := by
  obtain ⟨item, -, hdata⟩ := step_cases hst
  rw [hdata, List.length_set, h]

theorem clicked_empty (likeUsers : List LikeUser) (h : ∀ user ∈ likeUsers, user.userName = viewerName) :
    ∃ n, toggleLike^[n] likeUsers = [] := by
  induction hlen : likeUsers.length using Nat.strong_induction_on generalizing likeUsers with
  | _ len ih =>
    cases hu : likeUsers with
    | nil => exact ⟨0, rfl⟩
    | cons user users =>
      have huser : user ∈ likeUsers := by rw [hu]; exact List.mem_cons_self
      have hshorter := toggleLike_shrinks huser (h user huser)
      have hnamed : ∀ next ∈ toggleLike likeUsers, next.userName = viewerName := by
        intro next hnext
        rcases toggleLike_cases likeUsers with ⟨dic, -, -, heq⟩ | ⟨hnone, -⟩
        · rw [heq] at hnext
          exact h next (List.mem_of_mem_filter hnext)
        · exact absurd (h user huser) (hnone user huser)
      obtain ⟨n, hn⟩ := ih _ (hlen ▸ hshorter) (toggleLike likeUsers) hnamed rfl
      refine ⟨n + 1, ?_⟩
      rw [Function.iterate_succ_apply, ← hu]
      exact hn

theorem commentsAt_likes {m : Metrics} {sec n : ℕ} {vc : FriendCircleViewController}
    {tr : List (Op × FriendCircleViewController)} (htr : Trace (Step m) vc tr)
    (hops : tr.map Prod.fst = List.replicate n (.like sec)) :
    commentsAt sec (last vc tr) = commentsAt sec vc := by
  rw [htr.simulates (commentsAt sec) (addComment sec) (commentsAt_step sec), hops]
  clear hops
  induction n with
  | zero => rfl
  | succ n ih => exact ih

theorem section_row_exists {m : Metrics} {rows : List RowDic} {sec : ℕ} {rowDic : RowDic}
    (hrow : rows[sec]? = some rowDic) (hkeeps : KeepsRow rowDic.comments rowDic.likeUsers)
    {tr : List (Op × FriendCircleViewController)} (htr : Trace (Step m) (viewDidLoad m rows) tr) :
    RowExists (last (viewDidLoad m rows) tr) sec := by
  have hload : KeepsRowAt sec (viewDidLoad m rows) := by
    refine ⟨CircleModelViewModel.loadItem m rowDic, ?_, hkeeps⟩
    rw [viewDidLoad, CircleModelViewModel.lodaData, List.getElem?_map, hrow, Option.map_some]
  have hcoherent : CoherentFeed m (last (viewDidLoad m rows) tr) :=
    (htr.always (coherentFeed_step m) (coherentFeed_load m rows)).last
  obtain ⟨item, hitem, hkept⟩ := (htr.always keepsRowAt_step hload).last
  apply (rowExists_iff hcoherent hitem).mpr
  rcases hkept with hne | ⟨user, huser, -⟩
  · exact .inl hne
  · exact .inr (List.ne_nil_of_mem huser)

theorem section_row_lost {m : Metrics} {rows : List RowDic} {sec : ℕ} {rowDic : RowDic}
    (hrow : rows[sec]? = some rowDic) (hlost : ¬ KeepsRow rowDic.comments rowDic.likeUsers) :
    ∃ tr, Trace (Step m) (viewDidLoad m rows) tr ∧ ¬ RowExists (last (viewDidLoad m rows) tr) sec := by
  obtain ⟨hsec, rfl⟩ := List.getElem?_eq_some_iff.mp hrow
  have hcomments : rows[sec].comments = [] := by
    by_contra hne
    exact hlost (.inl hne)
  have hlikers : ∀ user ∈ rows[sec].likeUsers, user.userName = viewerName := by
    intro user huser
    by_contra hname
    exact hlost (.inr ⟨user, huser, hname⟩)
  obtain ⟨n, hn⟩ := clicked_empty _ hlikers
  have hlen : sec < (viewDidLoad m rows).dataArray.length := by
    simpa [viewDidLoad, CircleModelViewModel.lodaData] using hsec
  obtain ⟨tr, htr, hops⟩ := exists_clicks m sec n (viewDidLoad m rows) hlen
  refine ⟨tr, htr, ?_⟩
  have hlikes := likesAt_last sec htr
  rw [clicks_replicate hops, likesAt_load m rows ⟨sec, hsec⟩, Option.map_some] at hlikes
  have hkept := commentsAt_likes htr hops
  rw [commentsAt_load, List.getElem?_eq_getElem hsec, Option.map_some] at hkept
  obtain ⟨item, hitem, hitemLikes⟩ := Option.map_eq_some_iff.mp hlikes
  have hitemComments : item.comments = rows[sec].comments := by
    rw [commentsAt, hitem] at hkept
    exact Option.some.inj hkept
  have hcoherent : CoherentFeed m (last (viewDidLoad m rows) tr) :=
    (htr.always (coherentFeed_step m) (coherentFeed_load m rows)).last
  intro hexists
  rcases (rowExists_iff hcoherent hitem).mp hexists with hne | hne
  · exact hne (hitemComments.trans hcomments)
  · exact hne (hitemLikes.trans hn)

theorem comment_row_exists_iff (m : Metrics) (rows : List RowDic) :
    (∀ tr : List (Op × FriendCircleViewController), Trace (Step m) (viewDidLoad m rows) tr →
      ∀ sec < (last (viewDidLoad m rows) tr).dataArray.length,
        RowExists (last (viewDidLoad m rows) tr) sec) ↔
      ∀ rowDic ∈ rows, KeepsRow rowDic.comments rowDic.likeUsers := by
  have hlength : ∀ tr, Trace (Step m) (viewDidLoad m rows) tr →
      (last (viewDidLoad m rows) tr).dataArray.length = rows.length := by
    intro tr htr
    have hload : (viewDidLoad m rows).dataArray.length = rows.length := by
      simp [viewDidLoad, CircleModelViewModel.lodaData]
    exact (htr.always length_step hload).last
  constructor
  · intro hruns rowDic hrow
    obtain ⟨sec, hsec⟩ := List.mem_iff_getElem?.mp hrow
    by_contra hlost
    obtain ⟨tr, htr, hno⟩ := section_row_lost (m := m) hsec hlost
    apply hno
    apply hruns tr htr
    rw [hlength tr htr]
    exact (List.getElem?_eq_some_iff.mp hsec).1
  · intro hrows tr htr sec hsec
    rw [hlength tr htr] at hsec
    have hrow := List.getElem?_eq_getElem hsec
    exact section_row_exists hrow (hrows _ (List.getElem_mem hsec)) htr

def row108 : RowDic where
  userId := 23
  userName := ns "邱杰"
  message := some (ns "适逢春节网约车运力减少，以及降雪天气导致需求增加的共同影响，此次出现的打车难现象，有一定的特殊性。")

theorem empty_post_scrolls_to_no_row :
    ¬ ∀ (m : Metrics) (rows : List RowDic) (tr : List (Op × FriendCircleViewController)),
      Trace (Step m) (viewDidLoad m rows) tr →
      ∀ sec < (last (viewDidLoad m rows) tr).dataArray.length,
        RowExists (last (viewDidLoad m rows) tr) sec := by
  intro h
  obtain ⟨vc', path, rows, hclick, -, hrow, -⟩ :=
    h ⟨fun _ => 18, fun _ => 18⟩ [row108] [] (.nil _) 0 (by decide)
  obtain ⟨item, hitem, -, rfl⟩ := didClickCommentButton_ok.mp hclick
  cases hitem
  revert hrow
  decide +kernel

end MixedProject.CommentScroll
