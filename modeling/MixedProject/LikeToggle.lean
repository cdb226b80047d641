import Mathlib.Algebra.Group.Nat.Even
import Mathlib.Logic.Function.Iterate
import MixedProject.FriendCircle
import MixedProject.Traces

namespace MixedProject.LikeToggle

open Traces FriendCircleViewController

def viewerId : Option Value := some (.string (ns "0"))

def others (likeUsers : List LikeUser) : List LikeUser :=
  likeUsers.filter fun user => user.userId ≠ viewerId

def viewerLikes (likeUsers : List LikeUser) : Prop := ∃ user ∈ likeUsers, user.userId = viewerId

def LikeLaw (loaded now : List LikeUser) (clicks : ℕ) : Prop :=
  others now = others loaded ∧ (viewerLikes now ↔ Xor (viewerLikes loaded) (Odd clicks))

structure ViewerNamed (likeUsers : List LikeUser) : Prop where
  name_iff : ∀ user ∈ likeUsers, user.userName = viewerName ↔ user.userId = viewerId
  unique : ∀ user ∈ likeUsers, ∀ user' ∈ likeUsers,
    user.userId = viewerId → user'.userId = viewerId → user = user'

theorem mem_others {likeUsers : List LikeUser} {user : LikeUser} :
    user ∈ others likeUsers ↔ user ∈ likeUsers ∧ user.userId ≠ viewerId := by
  simp [others]

theorem others_append_viewer (likeUsers : List LikeUser) :
    others (likeUsers ++ [viewer]) = others likeUsers := by
  simp [others, viewer, viewerId]

theorem toggleLike_cases (likeUsers : List LikeUser) :
    (∃ dic ∈ likeUsers, dic.userName = viewerName ∧
      toggleLike likeUsers = likeUsers.filter (fun user => user ≠ dic)) ∨
    ((∀ user ∈ likeUsers, user.userName ≠ viewerName) ∧
      toggleLike likeUsers = likeUsers ++ [viewer]) := by
  cases hfind : likeUsers.find? (fun user => user.userName = viewerName) with
  | some dic =>
    left
    refine ⟨dic, List.mem_of_find?_eq_some hfind, ?_, ?_⟩
    · simpa using List.find?_some hfind
    · rw [toggleLike, hfind]
  | none =>
    right
    refine ⟨fun user huser => ?_, ?_⟩
    · simpa using List.find?_eq_none.mp hfind user huser
    · rw [toggleLike, hfind]

theorem toggleLike_remove {likeUsers : List LikeUser} (h : ViewerNamed likeUsers)
    (hviewer : viewerLikes likeUsers) : toggleLike likeUsers = others likeUsers := by
  obtain ⟨user, huser, hid⟩ := hviewer
  rcases toggleLike_cases likeUsers with ⟨dic, hdic, hname, heq⟩ | ⟨hnone, -⟩
  · rw [heq, others]
    apply List.filter_congr
    intro user' huser'
    have hdicId := (h.name_iff dic hdic).mp hname
    by_cases hid' : user'.userId = viewerId
    · simp [h.unique user' huser' dic hdic hid' hdicId, hdicId]
    · have hne : user' ≠ dic := by rintro rfl; exact hid' hdicId
      simp [hid', hne]
  · exact absurd ((h.name_iff user huser).mpr hid) (hnone user huser)

theorem toggleLike_add {likeUsers : List LikeUser} (h : ViewerNamed likeUsers)
    (hviewer : ¬ viewerLikes likeUsers) : toggleLike likeUsers = likeUsers ++ [viewer] := by
  rcases toggleLike_cases likeUsers with ⟨dic, hdic, hname, -⟩ | ⟨-, heq⟩
  · exact absurd ⟨dic, hdic, (h.name_iff dic hdic).mp hname⟩ hviewer
  · exact heq

theorem viewerNamed_others {likeUsers : List LikeUser} (h : ViewerNamed likeUsers) :
    ViewerNamed (others likeUsers) := by
  constructor
  · intro user huser
    exact h.name_iff user (mem_others.mp huser).1
  · intro user huser _ _ hid
    exact absurd hid (mem_others.mp huser).2

theorem viewerNamed_append {likeUsers : List LikeUser} (h : ViewerNamed likeUsers)
    (hviewer : ¬ viewerLikes likeUsers) : ViewerNamed (likeUsers ++ [viewer]) := by
  have hold : ∀ user ∈ likeUsers ++ [viewer], user.userId = viewerId → user = viewer := by
    intro user huser hid
    rcases List.mem_append.mp huser with hin | hnew
    · exact absurd ⟨user, hin, hid⟩ hviewer
    · exact List.mem_singleton.mp hnew
  constructor
  · intro user huser
    rcases List.mem_append.mp huser with hin | hnew
    · exact h.name_iff user hin
    · rw [List.mem_singleton.mp hnew]
      exact ⟨fun _ => rfl, fun _ => rfl⟩
  · intro user huser user' huser' hid hid'
    rw [hold user huser hid, hold user' huser' hid']

theorem toggleLike_law {likeUsers : List LikeUser} (h : ViewerNamed likeUsers) :
    ViewerNamed (toggleLike likeUsers) ∧ others (toggleLike likeUsers) = others likeUsers ∧
      (viewerLikes (toggleLike likeUsers) ↔ ¬ viewerLikes likeUsers) := by
  by_cases hviewer : viewerLikes likeUsers
  · rw [toggleLike_remove h hviewer]
    refine ⟨viewerNamed_others h, by simp [others], ?_⟩
    constructor
    · rintro ⟨user, huser, hid⟩
      exact absurd hid (mem_others.mp huser).2
    · exact fun hnot => absurd hviewer hnot
  · rw [toggleLike_add h hviewer]
    refine ⟨viewerNamed_append h hviewer, others_append_viewer likeUsers, ?_⟩
    exact ⟨fun _ => hviewer, fun _ => ⟨viewer, by simp, rfl⟩⟩

theorem iterate_law {likeUsers : List LikeUser} (h : ViewerNamed likeUsers) (n : ℕ) :
    ViewerNamed (toggleLike^[n] likeUsers) ∧ LikeLaw likeUsers (toggleLike^[n] likeUsers) n := by
  induction n with
  | zero => exact ⟨h, rfl, by simp [Xor]⟩
  | succ n ih =>
    obtain ⟨hnamed, hothers, hlikes⟩ := ih
    obtain ⟨hnamed', hothers', hlikes'⟩ := toggleLike_law hnamed
    rw [Function.iterate_succ_apply']
    refine ⟨hnamed', hothers'.trans hothers, ?_⟩
    rw [hlikes', hlikes, Nat.odd_add_one]
    simp only [Xor]
    tauto

theorem survives_click {likeUsers : List LikeUser} (hlaw : LikeLaw likeUsers (toggleLike likeUsers) 1)
    {user : LikeUser} (huser : user ∈ likeUsers) (hid : user.userId = viewerId) :
    user ∉ toggleLike likeUsers := by
  intro hin
  have hpresent : viewerLikes (toggleLike likeUsers) := ⟨user, hin, hid⟩
  have hxor := hlaw.2.mp hpresent
  have hloaded : viewerLikes likeUsers := ⟨user, huser, hid⟩
  simp [Xor, hloaded] at hxor

theorem removed_is_viewer {likeUsers : List LikeUser}
    (hlaw : LikeLaw likeUsers (toggleLike likeUsers) 1) {user : LikeUser} (huser : user ∈ likeUsers)
    (hid : user.userId = viewerId) :
    ∃ dic, dic.userName = viewerName ∧ user = dic ∧
      toggleLike likeUsers = likeUsers.filter (fun user => user ≠ dic) := by
  have hgone := survives_click hlaw huser hid
  rcases toggleLike_cases likeUsers with ⟨dic, -, hname, heq⟩ | ⟨-, heq⟩
  · refine ⟨dic, hname, ?_, heq⟩
    by_contra hne
    exact hgone (by rw [heq]; simp [huser, hne])
  · exact absurd (by rw [heq]; simp [huser]) hgone

theorem toggleLike_shrinks {likeUsers : List LikeUser} {user : LikeUser} (huser : user ∈ likeUsers)
    (hname : user.userName = viewerName) : (toggleLike likeUsers).length < likeUsers.length := by
  rcases toggleLike_cases likeUsers with ⟨dic, hdic, -, heq⟩ | ⟨hnone, -⟩
  · rw [heq]
    exact List.length_filter_lt_length_iff_exists.mpr ⟨dic, hdic, by simp⟩
  · exact absurd hname (hnone user huser)

theorem namesake_impossible {likeUsers : List LikeUser}
    (hlaw : ∀ n, LikeLaw likeUsers (toggleLike^[n] likeUsers) n) {user : LikeUser}
    (huser : user ∈ likeUsers) (hname : user.userName = viewerName) : user.userId = viewerId := by
  by_contra hid
  have hstays : ∀ n, user ∈ toggleLike^[n] likeUsers := by
    intro n
    have hmem : user ∈ others (toggleLike^[n] likeUsers) := by
      rw [(hlaw n).1]
      exact mem_others.mpr ⟨huser, hid⟩
    exact (mem_others.mp hmem).1
  have hshrinks : ∀ n, (toggleLike^[n] likeUsers).length + n ≤ likeUsers.length := by
    intro n
    induction n with
    | zero => simp
    | succ n ih =>
      have := toggleLike_shrinks (hstays n) hname
      rw [Function.iterate_succ_apply']
      omega
  have := hshrinks (likeUsers.length + 1)
  omega

theorem viewerNamed_of_law {likeUsers : List LikeUser}
    (hlaw : ∀ n, LikeLaw likeUsers (toggleLike^[n] likeUsers) n) : ViewerNamed likeUsers := by
  have hfirst : LikeLaw likeUsers (toggleLike likeUsers) 1 := hlaw 1
  constructor
  · intro user huser
    constructor
    · exact namesake_impossible hlaw huser
    · intro hid
      obtain ⟨dic, hname, rfl, -⟩ := removed_is_viewer hfirst huser hid
      exact hname
  · intro user huser user' huser' hid hid'
    obtain ⟨dic, -, rfl, heq⟩ := removed_is_viewer hfirst huser hid
    by_contra hne
    apply survives_click hfirst huser' hid'
    rw [heq]
    simp [huser', Ne.symm hne]

def likesAt (sec : ℕ) (vc : FriendCircleViewController) : Option (List LikeUser) :=
  vc.dataArray[sec]?.map fun item => item.likeUsers

def clickLikes (sec : ℕ) (likes : Option (List LikeUser)) (op : Op) : Option (List LikeUser) :=
  if op = .like sec then likes.map toggleLike else likes

def clicks (sec : ℕ) (tr : List (Op × FriendCircleViewController)) : ℕ :=
  (tr.map Prod.fst).count (.like sec)

theorem likesAt_step {m : Metrics} (sec : ℕ) (vc : FriendCircleViewController) (op : Op)
    (vc' : FriendCircleViewController) (h : Step m vc op vc') :
    likesAt sec vc' = clickLikes sec (likesAt sec vc) op := by
  obtain ⟨item, hitem, hdata⟩ := step_cases h
  by_cases htarget : op.target = sec
  · have hlt : op.target < vc.dataArray.length := (List.getElem?_eq_some_iff.mp hitem).1
    subst htarget
    rw [likesAt, hdata, List.getElem?_set_self hlt, likesAt, hitem]
    cases op with
    | like sec => simp [clickLikes, Op.apply, likeItem, Op.target]
    | fold folding sec => simp [clickLikes, Op.apply, foldItem]
    | comment sec comments => simp [clickLikes, Op.apply, commentItem]
  · have hne : op ≠ .like sec := by
      rintro rfl
      exact htarget rfl
    rw [likesAt, hdata, List.getElem?_set_ne htarget, clickLikes, if_neg hne, likesAt]

theorem foldl_clickLikes (sec : ℕ) (ops : List Op) (likes : Option (List LikeUser)) :
    ops.foldl (clickLikes sec) likes = likes.map (toggleLike^[ops.count (.like sec)]) := by
  induction ops generalizing likes with
  | nil => cases likes <;> rfl
  | cons op ops ih =>
    rw [List.foldl_cons, ih]
    by_cases hop : op = .like sec
    · rw [clickLikes, if_pos hop, hop, List.count_cons_self, Option.map_map, Function.iterate_succ]
    · rw [clickLikes, if_neg hop, List.count_cons_of_ne hop]

theorem likesAt_last {m : Metrics} (sec : ℕ) {vc : FriendCircleViewController}
    {tr : List (Op × FriendCircleViewController)} (htr : Trace (Step m) vc tr) :
    likesAt sec (last vc tr) = (likesAt sec vc).map (toggleLike^[clicks sec tr]) := by
  rw [htr.simulates (likesAt sec) (clickLikes sec) (likesAt_step sec), foldl_clickLikes, clicks]

theorem exists_clicks (m : Metrics) (sec n : ℕ) (vc : FriendCircleViewController)
    (hsec : sec < vc.dataArray.length) :
    ∃ tr : List (Op × FriendCircleViewController), Trace (Step m) vc tr ∧
      tr.map Prod.fst = List.replicate n (.like sec) := by
  induction n generalizing vc with
  | zero => exact ⟨[], .nil vc, rfl⟩
  | succ n ih =>
    obtain ⟨vc', hstep⟩ := step_of_target (.like sec) hsec
    obtain ⟨item, -, hdata⟩ := step_cases hstep
    obtain ⟨tr, htr, hops⟩ := ih vc' (by rw [hdata, List.length_set]; exact hsec)
    refine ⟨(.like sec, vc') :: tr, .cons hstep htr, ?_⟩
    rw [List.map_cons, hops, List.replicate_succ]

theorem clicks_replicate {sec n : ℕ} {tr : List (Op × FriendCircleViewController)}
    (h : tr.map Prod.fst = List.replicate n (.like sec)) : clicks sec tr = n := by
  rw [clicks, h, List.count_replicate_self]

theorem likesAt_load (m : Metrics) (rows : List RowDic) (sec : Fin rows.length) :
    likesAt sec (viewDidLoad m rows) = some (rows.get sec).likeUsers := by
  simp [likesAt, viewDidLoad, CircleModelViewModel.lodaData, CircleModelViewModel.loadItem,
    CircleModel.initWithItem]

theorem clicks_keep_others_iff (m : Metrics) (rows : List RowDic) (sec : Fin rows.length) :
    (∀ (tr : List (Op × FriendCircleViewController)) (likeUsers : List LikeUser),
      Trace (Step m) (viewDidLoad m rows) tr →
      likesAt sec (last (viewDidLoad m rows) tr) = some likeUsers →
      LikeLaw (rows.get sec).likeUsers likeUsers (clicks sec tr)) ↔
    ViewerNamed (rows.get sec).likeUsers := by
  constructor
  · intro hruns
    apply viewerNamed_of_law
    intro n
    have hsec : (sec : ℕ) < (viewDidLoad m rows).dataArray.length := by
      simp [viewDidLoad, CircleModelViewModel.lodaData]
    obtain ⟨tr, htr, hops⟩ := exists_clicks m sec n (viewDidLoad m rows) hsec
    have hclicks := clicks_replicate hops
    have hlast := likesAt_last (sec : ℕ) htr
    rw [likesAt_load, hclicks, Option.map_some] at hlast
    have hlaw := hruns tr _ htr hlast
    rwa [hclicks] at hlaw
  · intro hnamed tr likeUsers htr hlikes
    rw [likesAt_last (sec : ℕ) htr, likesAt_load, Option.map_some] at hlikes
    rw [← Option.some.inj hlikes]
    exact (iterate_law hnamed (clicks sec tr)).2

def namesake : LikeUser := { userId := some (.string (ns "5")), userName := ns "Simple" }

def namesakeRow : RowDic where
  userId := 1
  userName := ns "p"
  likeUsers := [namesake]

theorem namesake_is_removed :
    ¬ ∀ (m : Metrics) (rows : List RowDic) (sec : Fin rows.length)
      (tr : List (Op × FriendCircleViewController)) (likeUsers : List LikeUser),
      Trace (Step m) (viewDidLoad m rows) tr →
      likesAt sec (last (viewDidLoad m rows) tr) = some likeUsers →
      LikeLaw (rows.get sec).likeUsers likeUsers (clicks sec tr) := by
  intro h
  let m : Metrics := ⟨fun _ => 0, fun _ => 15⟩
  obtain ⟨vc', hstep⟩ := (step_of_target (.like 0) (by decide) :
    ∃ vc', Step m (viewDidLoad m [namesakeRow]) (.like 0) vc')
  have htr : Trace (Step m) (viewDidLoad m [namesakeRow]) [(.like 0, vc')] := .cons hstep (.nil _)
  have hlikes : likesAt 0 vc' = some [] := by
    rw [likesAt_step 0 _ _ _ hstep]
    decide +kernel
  have hlaw := (h m [namesakeRow] 0 _ [] htr hlikes).1
  exact absurd hlaw (by decide)

end MixedProject.LikeToggle
