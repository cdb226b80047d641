import MixedProject.LikeToggle
import MixedProject.SectionHeadView

namespace MixedProject.LikeMenu

open Traces FriendCircleViewController LikeToggle SectionHeadView

def cancelTitle : NSString := ns "取消"

def likeTitle : NSString := ns "赞"

def Removes (before after : List LikeUser) : Prop := ∃ user ∈ before, user ∉ after

def Adds (before after : List LikeUser) : Prop := after.length = before.length + 1

/-- The title a call sets as it opens the menu tells the next click there, however many other
operations come before it. -/
def MenuTruthful (m : Metrics) (sec : ℕ) (vc : FriendCircleViewController) : Prop :=
  ∀ header opened : SectionHeadView, header.sec = sec → vc.clickCommentButton header = .ok opened →
    opened.likeAndCommentsShow = true →
    ∀ (tr : List (Op × FriendCircleViewController)) (vc' : FriendCircleViewController)
      (before after : List LikeUser), Trace (Step m) vc tr → clicks sec tr = 0 →
      Step m (last vc tr) (.like sec) vc' → likesAt sec (last vc tr) = some before →
      likesAt sec vc' = some after →
      (opened.likeButTitle = cancelTitle ↔ Removes before after) ∧
      (opened.likeButTitle = likeTitle ↔ Adds before after)

def namesakes (likeUsers : List LikeUser) : List LikeUser :=
  likeUsers.filter fun user => user.userName = viewerName

def Zero (user : LikeUser) : Prop := integerValueOrNil user.userId = .ok 0

def Nonzero (user : LikeUser) : Prop :=
  ∃ userId, integerValueOrNil user.userId = .ok userId ∧ userId ≠ 0

def strangers (likeUsers : List LikeUser) : List LikeUser :=
  likeUsers.filter fun user => user.userName ≠ viewerName

/-- No other liker passes for the viewer, and the namesake that goes last does not pass for
another. A liker whose id raises keeps the menu shut. -/
structure Recognised (likeUsers : List LikeUser) : Prop where
  others : ∀ front user rest, strangers likeUsers = front ++ user :: rest →
    (∀ next ∈ front, Nonzero next) → ¬ Zero user
  goesLast : ∀ user, (namesakes likeUsers).eraseDups.getLast? = some user →
    (∀ next ∈ strangers likeUsers, Nonzero next) → ¬ Nonzero user

def Agrees (likeUsers : List LikeUser) : Prop :=
  ∀ isContain, containsLiker likeUsers = .ok isContain →
    (isContain = true ↔ ∃ user ∈ likeUsers, user.userName = viewerName)

theorem not_zero_nonzero {user : LikeUser} (hzero : Zero user) (hnonzero : Nonzero user) : False := by
  obtain ⟨userId, hid, hne⟩ := hnonzero
  rw [hzero] at hid
  exact hne (Except.ok.inj hid).symm

theorem containsLiker_zero {user : LikeUser} (likeUsers : List LikeUser) (h : Zero user) :
    containsLiker (user :: likeUsers) = .ok true := by
  have hid : integerValueOrNil user.userId = .ok 0 := h
  rw [containsLiker, hid]
  rfl

theorem containsLiker_nonzero {user : LikeUser} (likeUsers : List LikeUser) (h : Nonzero user) :
    containsLiker (user :: likeUsers) = containsLiker likeUsers := by
  obtain ⟨userId, hid, hne⟩ := h
  rw [containsLiker, hid]
  simp only [bind, Except.bind, if_neg hne]

theorem containsLiker_append {front : List LikeUser} (likeUsers : List LikeUser)
    (h : ∀ user ∈ front, Nonzero user) :
    containsLiker (front ++ likeUsers) = containsLiker likeUsers := by
  induction front with
  | nil => rfl
  | cons user front ih =>
    rw [List.cons_append, containsLiker_nonzero _ (h user List.mem_cons_self)]
    apply ih
    intro next hnext
    exact h next (List.mem_cons_of_mem _ hnext)

theorem containsLiker_head {user : LikeUser} {likeUsers : List LikeUser} {isContain : Bool}
    (h : containsLiker (user :: likeUsers) = .ok isContain) : Zero user ∨ Nonzero user := by
  obtain ⟨userId, hid, -⟩ := bind_ok h
  by_cases hzero : userId = 0
  · left
    rw [Zero, hid, hzero]
  · right
    exact ⟨userId, hid, hzero⟩

theorem containsLiker_false {likeUsers : List LikeUser} :
    containsLiker likeUsers = .ok false ↔ ∀ user ∈ likeUsers, Nonzero user := by
  constructor
  · intro h
    induction likeUsers with
    | nil =>
      intro user huser
      cases huser
    | cons user likeUsers ih =>
      rcases containsLiker_head h with hzero | hnonzero
      · rw [containsLiker_zero _ hzero] at h
        cases h
      · rw [containsLiker_nonzero _ hnonzero] at h
        rw [List.forall_mem_cons]
        exact ⟨hnonzero, ih h⟩
  · intro h
    have happend := containsLiker_append [] h
    rwa [List.append_nil] at happend

theorem containsLiker_true {likeUsers : List LikeUser} :
    containsLiker likeUsers = .ok true ↔
      ∃ front user rest, likeUsers = front ++ user :: rest ∧ (∀ next ∈ front, Nonzero next) ∧
        Zero user := by
  constructor
  · intro h
    induction likeUsers with
    | nil => cases h
    | cons user likeUsers ih =>
      rcases containsLiker_head h with hzero | hnonzero
      · exact ⟨[], user, likeUsers, rfl, by simp, hzero⟩
      · rw [containsLiker_nonzero _ hnonzero] at h
        obtain ⟨front, first, rest, rfl, hfront, hzero⟩ := ih h
        refine ⟨user :: front, first, rest, rfl, ?_, hzero⟩
        rw [List.forall_mem_cons]
        exact ⟨hnonzero, hfront⟩
  · rintro ⟨front, user, rest, rfl, hfront, hzero⟩
    rw [containsLiker_append _ hfront, containsLiker_zero _ hzero]

theorem zero_viewer : Zero viewer := by
  unfold Zero
  decide

theorem namesakes_nil {likeUsers : List LikeUser} :
    namesakes likeUsers = [] ↔ ∀ user ∈ likeUsers, user.userName ≠ viewerName := by
  simp [namesakes]

theorem namesakes_filter (likeUsers : List LikeUser) (dic : LikeUser) :
    namesakes (likeUsers.filter fun user => user ≠ dic) =
      (namesakes likeUsers).filter fun user => user ≠ dic := by
  simp only [namesakes, List.filter_filter, Bool.and_comm]

theorem toggleLike_first {likeUsers : List LikeUser}
    (h : ∃ user ∈ likeUsers, user.userName = viewerName) :
    ∃ front dic rest, likeUsers = front ++ dic :: rest ∧ dic.userName = viewerName ∧
      (∀ user ∈ front, user.userName ≠ viewerName) ∧
      toggleLike likeUsers = likeUsers.filter (fun user => user ≠ dic) := by
  cases hfind : likeUsers.find? (fun user => user.userName = viewerName) with
  | none =>
    obtain ⟨user, huser, hname⟩ := h
    simpa [hname] using List.find?_eq_none.mp hfind user huser
  | some dic =>
    obtain ⟨hname, front, rest, heq, hfront⟩ := List.find?_eq_some_iff_append.mp hfind
    refine ⟨front, dic, rest, heq, by simpa using hname, ?_, ?_⟩
    · intro user huser
      simpa using hfront user huser
    · rw [toggleLike, hfind]

theorem toggleLike_none {likeUsers : List LikeUser}
    (h : ∀ user ∈ likeUsers, user.userName ≠ viewerName) :
    toggleLike likeUsers = likeUsers ++ [viewer] := by
  rcases toggleLike_cases likeUsers with ⟨dic, hdic, hname, -⟩ | ⟨-, heq⟩
  · exact absurd hname (h dic hdic)
  · exact heq

theorem toggleLike_viewer {likeUsers : List LikeUser}
    (h : ∀ user ∈ likeUsers, user.userName ≠ viewerName) :
    toggleLike (likeUsers ++ [viewer]) = likeUsers := by
  have hviewer : ∃ user ∈ likeUsers ++ [viewer], user.userName = viewerName :=
    ⟨viewer, by simp, rfl⟩
  obtain ⟨front, dic, rest, heq, hname, -, htoggle⟩ := toggleLike_first hviewer
  have hdic : dic ∈ likeUsers ++ [viewer] := by simp [heq]
  rcases List.mem_append.mp hdic with hin | hnew
  · exact absurd hname (h dic hin)
  · rw [htoggle, List.mem_singleton.mp hnew, List.filter_append]
    have hkept : likeUsers.filter (fun user => user ≠ viewer) = likeUsers := by
      apply List.filter_eq_self.mpr
      intro user huser
      have hne : user ≠ viewer := by
        rintro rfl
        exact h viewer huser rfl
      simpa using hne
    rw [hkept]
    simp

theorem agrees_none {likeUsers : List LikeUser}
    (h : ∀ user ∈ likeUsers, user.userName ≠ viewerName) :
    Agrees likeUsers ↔ containsLiker likeUsers ≠ .ok true := by
  constructor
  · intro hagrees hcontains
    obtain ⟨user, huser, hname⟩ := (hagrees true hcontains).mp rfl
    exact h user huser hname
  · intro hcontains isContain hok
    constructor
    · rintro rfl
      exact absurd hok hcontains
    · rintro ⟨user, huser, hname⟩
      exact absurd hname (h user huser)

theorem agrees_named {likeUsers : List LikeUser}
    (h : ∃ user ∈ likeUsers, user.userName = viewerName) :
    Agrees likeUsers ↔ ¬ ∀ user ∈ likeUsers, Nonzero user := by
  rw [← containsLiker_false]
  constructor
  · intro hagrees hcontains
    have htrue := (hagrees false hcontains).mpr h
    cases htrue
  · intro hcontains isContain hok
    refine ⟨fun _ => h, fun _ => ?_⟩
    cases isContain with
    | true => rfl
    | false => exact absurd hok hcontains

theorem agrees_viewer (likeUsers : List LikeUser) : Agrees (likeUsers ++ [viewer]) := by
  have hviewer : viewer ∈ likeUsers ++ [viewer] := by simp
  apply (agrees_named ⟨viewer, hviewer, rfl⟩).mpr
  intro hall
  exact not_zero_nonzero zero_viewer (hall viewer hviewer)

theorem agrees_iterate_none {likeUsers : List LikeUser}
    (h : ∀ user ∈ likeUsers, user.userName ≠ viewerName)
    (hcontains : containsLiker likeUsers ≠ .ok true) (n : ℕ) : Agrees (toggleLike^[n] likeUsers) := by
  have hperiod : toggleLike^[2] likeUsers = likeUsers := by
    rw [Function.iterate_succ_apply, Function.iterate_one, toggleLike_none h, toggleLike_viewer h]
  rcases Nat.even_or_odd' n with ⟨k, rfl | rfl⟩
  · rw [Function.iterate_mul, Function.iterate_fixed hperiod]
    exact (agrees_none h).mpr hcontains
  · rw [Function.iterate_succ_apply', Function.iterate_mul, Function.iterate_fixed hperiod,
      toggleLike_none h]
    exact agrees_viewer likeUsers

theorem recognised_none {likeUsers : List LikeUser}
    (h : ∀ user ∈ likeUsers, user.userName ≠ viewerName) :
    Recognised likeUsers ↔ containsLiker likeUsers ≠ .ok true := by
  have hstrangers : strangers likeUsers = likeUsers := by
    apply List.filter_eq_self.mpr
    intro user huser
    simpa using h user huser
  rw [Ne, containsLiker_true]
  constructor
  · rintro hrec ⟨front, user, rest, heq, hfront, hzero⟩
    exact hrec.others front user rest (hstrangers.trans heq) hfront hzero
  · intro hnone
    constructor
    · intro front user rest heq hfront hzero
      exact hnone ⟨front, user, rest, hstrangers.symm.trans heq, hfront, hzero⟩
    · intro user hlast
      rw [namesakes_nil.mpr h] at hlast
      cases hlast

theorem eraseDups_namesakes {front : List LikeUser} {dic : LikeUser} (rest : List LikeUser)
    (hname : dic.userName = viewerName) (hfront : ∀ user ∈ front, user.userName ≠ viewerName) :
    (namesakes (front ++ dic :: rest)).eraseDups =
      dic :: (namesakes ((front ++ dic :: rest).filter fun user => user ≠ dic)).eraseDups := by
  have hnamesakes : namesakes (front ++ dic :: rest) = dic :: namesakes rest := by
    have hnone := namesakes_nil.mpr hfront
    unfold namesakes at hnone ⊢
    rw [List.filter_append, hnone, List.nil_append, List.filter_cons_of_pos (by simpa using hname)]
  rw [namesakes_filter, hnamesakes, List.eraseDups_cons, List.filter_cons_of_neg (by simp)]
  congr 3
  funext user
  simp [beq_eq_decide]

theorem no_namesakes {likeUsers : List LikeUser}
    (h : (namesakes likeUsers).eraseDups.getLast? = none) :
    ∀ user ∈ likeUsers, user.userName ≠ viewerName := by
  have hnil : namesakes likeUsers = [] := by
    apply List.eq_nil_iff_forall_not_mem.mpr
    intro user huser
    rw [← List.mem_eraseDups, List.getLast?_eq_none_iff.mp h] at huser
    cases huser
  exact namesakes_nil.mp hnil

theorem strangers_filter {dic : LikeUser} (likeUsers : List LikeUser) (hname : dic.userName = viewerName) :
    strangers (likeUsers.filter fun user => user ≠ dic) = strangers likeUsers := by
  rw [strangers, strangers, List.filter_filter]
  apply List.filter_congr
  intro user _
  by_cases hother : user.userName = viewerName
  · simp [hother]
  · have hne : user ≠ dic := by
      rintro rfl
      exact hother hname
    simp [hother, hne]

theorem recognised_tail {likeUsers : List LikeUser} {dic : LikeUser}
    (hstrangers : strangers (toggleLike likeUsers) = strangers likeUsers)
    (hdups : (namesakes likeUsers).eraseDups =
      dic :: (namesakes (toggleLike likeUsers)).eraseDups) (hrec : Recognised likeUsers) :
    Recognised (toggleLike likeUsers) := by
  constructor
  · rw [hstrangers]
    exact hrec.others
  · intro next hnext
    rw [hstrangers]
    apply hrec.goesLast
    rw [hdups, List.getLast?_cons, hnext]
    rfl

theorem recognised_step {likeUsers : List LikeUser}
    (h : ∃ user ∈ likeUsers, user.userName = viewerName) :
    Recognised likeUsers ↔ Agrees likeUsers ∧ Recognised (toggleLike likeUsers) := by
  rw [agrees_named h]
  obtain ⟨front, dic, rest, heq, hname, hfront, htoggle⟩ := toggleLike_first h
  have hdups := eraseDups_namesakes rest hname hfront
  rw [← heq, ← htoggle] at hdups
  have hstrangers : strangers (toggleLike likeUsers) = strangers likeUsers := by
    rw [htoggle, strangers_filter likeUsers hname]
  constructor
  · intro hrec
    refine ⟨?_, recognised_tail hstrangers hdups hrec⟩
    intro hall
    obtain ⟨user, hlast⟩ : ∃ user, (namesakes likeUsers).eraseDups.getLast? = some user := by
      rw [hdups]
      exact ⟨_, List.getLast?_cons⟩
    have hin := List.mem_of_getLast? hlast
    rw [List.mem_eraseDups] at hin
    apply hrec.goesLast user hlast
    · intro next hnext
      exact hall next (List.mem_of_mem_filter hnext)
    · exact hall user (List.mem_of_mem_filter hin)
  · rintro ⟨hsome, hrec⟩
    have hothers := hrec.others
    rw [hstrangers] at hothers
    refine ⟨hothers, ?_⟩
    intro user hlast hall hnonzero
    rw [hdups, List.getLast?_cons] at hlast
    cases hrest : (namesakes (toggleLike likeUsers)).eraseDups.getLast? with
    | some next =>
      rw [hrest] at hlast
      cases hlast
      exact hrec.goesLast _ hrest (hstrangers ▸ hall) hnonzero
    | none =>
      rw [hrest] at hlast
      cases hlast
      apply hsome
      intro next hnext
      by_cases hsame : next = dic
      · rw [hsame]
        exact hnonzero
      · have hkept : next ∈ toggleLike likeUsers := by
          rw [htoggle]
          simpa [hnext] using hsame
        apply hall
        simpa [strangers, hnext] using no_namesakes hrest next hkept

theorem forall_iterate {α : Type} (f : α → α) (P : α → Prop) (x : α) :
    (∀ n, P (f^[n] x)) ↔ P x ∧ ∀ n, P (f^[n] (f x)) := by
  constructor
  · intro h
    exact ⟨h 0, fun n => h (n + 1)⟩
  · rintro ⟨hzero, hsucc⟩ n
    cases n with
    | zero => exact hzero
    | succ n => exact hsucc n

theorem agrees_iterate_iff (likeUsers : List LikeUser) :
    (∀ n, Agrees (toggleLike^[n] likeUsers)) ↔ Recognised likeUsers := by
  induction hlen : likeUsers.length using Nat.strong_induction_on generalizing likeUsers with
  | _ len ih =>
    by_cases h : ∃ user ∈ likeUsers, user.userName = viewerName
    · obtain ⟨user, huser, hname⟩ := h
      have hshorter := toggleLike_shrinks huser hname
      rw [forall_iterate, ih _ (hlen ▸ hshorter) (toggleLike likeUsers) rfl,
        recognised_step ⟨user, huser, hname⟩]
    · have hnone : ∀ user ∈ likeUsers, user.userName ≠ viewerName := by
        intro user huser hname
        exact h ⟨user, huser, hname⟩
      rw [recognised_none hnone]
      constructor
      · intro hagrees
        exact (agrees_none hnone).mp (hagrees 0)
      · exact agrees_iterate_none hnone

theorem removes_toggle (likeUsers : List LikeUser) :
    Removes likeUsers (toggleLike likeUsers) ↔ ∃ user ∈ likeUsers, user.userName = viewerName := by
  rcases toggleLike_cases likeUsers with ⟨dic, hdic, hname, heq⟩ | ⟨hnone, heq⟩
  · constructor
    · intro _
      exact ⟨dic, hdic, hname⟩
    · intro _
      exact ⟨dic, hdic, by simp [heq]⟩
  · constructor
    · rintro ⟨user, huser, hgone⟩
      rw [heq] at hgone
      exact absurd (List.mem_append_left _ huser) hgone
    · rintro ⟨user, huser, hname⟩
      exact absurd hname (hnone user huser)

theorem adds_toggle (likeUsers : List LikeUser) :
    Adds likeUsers (toggleLike likeUsers) ↔ ¬ ∃ user ∈ likeUsers, user.userName = viewerName := by
  constructor
  · rintro hadds ⟨user, huser, hname⟩
    have hshorter := toggleLike_shrinks huser hname
    rw [hadds] at hshorter
    omega
  · intro h
    rw [Adds, toggleLike_none fun user huser hname => h ⟨user, huser, hname⟩]
    simp

theorem titles_differ : cancelTitle ≠ likeTitle := by decide

theorem clickCommentButton_ok {vc : FriendCircleViewController} {likeUsers : List LikeUser}
    {isContain : Bool} (header : SectionHeadView) (hlikes : likesAt header.sec vc = some likeUsers)
    (hcontains : containsLiker likeUsers = .ok isContain) :
    vc.clickCommentButton header = .ok { header with
      likeButTitle := if isContain then cancelTitle else likeTitle
      menuWidth := if header.likeAndCommentsShow then 0 else 161
      likeAndCommentsShow := !header.likeAndCommentsShow } := by
  obtain ⟨item, hitem, rfl⟩ := Option.map_eq_some_iff.mp hlikes
  rw [FriendCircleViewController.clickCommentButton, objectAtIndex_ok.mpr hitem]
  cases hshow : header.likeAndCommentsShow <;>
    simp [bind, Except.bind, SectionHeadView.clickCommentButton, hcontains, hshow, pure, Except.pure,
      cancelTitle, likeTitle]

theorem containsLiker_of_click {vc : FriendCircleViewController} {header opened : SectionHeadView}
    {likeUsers : List LikeUser} (hlikes : likesAt header.sec vc = some likeUsers)
    (hopen : vc.clickCommentButton header = .ok opened) :
    ∃ isContain, containsLiker likeUsers = .ok isContain := by
  obtain ⟨item, hitem, rfl⟩ := Option.map_eq_some_iff.mp hlikes
  obtain ⟨item', hitem', hclick⟩ := bind_ok hopen
  rw [objectAtIndex_ok, hitem] at hitem'
  cases hitem'
  obtain ⟨isContain, hcontains, -⟩ := bind_ok hclick
  exact ⟨isContain, hcontains⟩

theorem likesAt_unclicked {m : Metrics} {sec : ℕ} {vc : FriendCircleViewController}
    {tr : List (Op × FriendCircleViewController)} (htr : Trace (Step m) vc tr)
    (hclicks : clicks sec tr = 0) : likesAt sec (last vc tr) = likesAt sec vc := by
  rw [likesAt_last sec htr, hclicks]
  exact Option.map_id'

theorem menuTruthful_iff {m : Metrics} {sec : ℕ} {vc : FriendCircleViewController}
    {likeUsers : List LikeUser} (hlikes : likesAt sec vc = some likeUsers) :
    MenuTruthful m sec vc ↔ Agrees likeUsers := by
  constructor
  · intro htruthful isContain hcontains
    have hopen := clickCommentButton_ok { sec } hlikes hcontains
    obtain ⟨item, hitem, -⟩ := Option.map_eq_some_iff.mp hlikes
    have hlt := (List.getElem?_eq_some_iff.mp hitem).1
    obtain ⟨vc', hstep⟩ := step_of_target (.like sec) hlt
    have hafter := likesAt_step (m := m) sec vc (.like sec) vc' hstep
    rw [hlikes, clickLikes, if_pos rfl, Option.map_some] at hafter
    have hcancel := (htruthful _ _ rfl hopen rfl [] vc' likeUsers _ (.nil vc) rfl hstep hlikes hafter).1
    rw [removes_toggle] at hcancel
    rw [← hcancel]
    cases isContain with
    | true => simp
    | false => simp [titles_differ.symm]
  · rintro hagrees header opened rfl hopen - tr vc' before after htr hclicks hstep hbefore hafter
    obtain ⟨isContain, hcontains⟩ := containsLiker_of_click hlikes hopen
    rw [clickCommentButton_ok header hlikes hcontains] at hopen
    cases hopen
    have hsame := likesAt_unclicked htr hclicks
    rw [hbefore, hlikes] at hsame
    cases hsame
    have hclick := likesAt_step header.sec _ _ _ hstep
    rw [hbefore, hafter, clickLikes, if_pos rfl] at hclick
    cases hclick
    rw [removes_toggle, adds_toggle, ← hagrees isContain hcontains]
    cases isContain with
    | true => simp [titles_differ]
    | false => simp [titles_differ.symm]

theorem menu_truthful_iff (m : Metrics) (rows : List RowDic) (sec : Fin rows.length) :
    (∀ tr : List (Op × FriendCircleViewController), Trace (Step m) (viewDidLoad m rows) tr →
      MenuTruthful m sec (last (viewDidLoad m rows) tr)) ↔
      Recognised (rows.get sec).likeUsers := by
  rw [← agrees_iterate_iff]
  constructor
  · intro hruns n
    have hsec : (sec : ℕ) < (viewDidLoad m rows).dataArray.length := by
      simp [viewDidLoad, CircleModelViewModel.lodaData]
    obtain ⟨tr, htr, hops⟩ := exists_clicks m sec n (viewDidLoad m rows) hsec
    have hlikes := likesAt_last (sec : ℕ) htr
    rw [likesAt_load, clicks_replicate hops, Option.map_some] at hlikes
    exact (menuTruthful_iff hlikes).mp (hruns tr htr)
  · intro hagrees tr htr
    have hlikes := likesAt_last (sec : ℕ) htr
    rw [likesAt_load, Option.map_some] at hlikes
    exact (menuTruthful_iff hlikes).mpr (hagrees _)

def anonymousRow : RowDic where
  userId := 1
  userName := ns "p"
  likeUsers := [{ userId := none, userName := ns "q" }]

theorem anonymous_liker_offers_cancel :
    ¬ ∀ (m : Metrics) (rows : List RowDic) (sec : Fin rows.length)
      (tr : List (Op × FriendCircleViewController)), Trace (Step m) (viewDidLoad m rows) tr →
      MenuTruthful m sec (last (viewDidLoad m rows) tr) := by
  intro h
  have hlikes := likesAt_load ⟨fun _ => 0, fun _ => 15⟩ [anonymousRow] 0
  have hagrees := (menuTruthful_iff hlikes).mp (h _ [anonymousRow] 0 [] (.nil _))
  have htrue : containsLiker anonymousRow.likeUsers = .ok true := by decide
  obtain ⟨user, huser, hname⟩ := (hagrees true htrue).mp rfl
  cases List.mem_singleton.mp huser
  revert hname
  decide

end MixedProject.LikeMenu
