import Mathlib.Algebra.Order.BigOperators.Group.List
import MixedProject.FeedCoherence
import MixedProject.JoinedWords

namespace MixedProject.LikerLinks

open JoinedWords FeedCoherence LikeCircleTableViewCell

def names (likeUsers : List LikeUser) : List NSString := likeUsers.map fun user => user.userName

def joined (names : List NSString) : NSString := space ++ symbol.intercalate names

def links (names : List NSString) : List Link :=
  names.mapIdx fun i name => ⟨7 + offset 2 names i, name.length, name⟩

structure EveryLiker (names : List NSString) (label : TTTAttributedLabel) : Prop where
  text : label.text = joined names
  links : label.linkModels = links names
  marks : ∀ link ∈ label.linkModels, link.location + link.length ≤ label.text.length ∧
    (label.text.drop link.location).take link.length = link.userName
  increasing : label.linkModels.Pairwise fun a b => a.location < b.location
  disjoint : label.linkModels.Pairwise fun a b => a.location + a.length ≤ b.location

def FirstNameOnce (likeUsers : List LikeUser) : Prop :=
  ∀ user ∈ likeUsers.tail, some user.userName ≠ likeUsers.head?.map LikeUser.userName

theorem space_length : space.length = 7 := by decide

theorem symbol_length : symbol.length = 2 := by decide

theorem mem_links {names : List NSString} {link : Link} (h : link ∈ links names) :
    ∃ i, ∃ hi : i < names.length, link = ⟨7 + offset 2 names i, names[i].length, names[i]⟩ := by
  obtain ⟨i, hi, rfl⟩ := List.mem_mapIdx.mp h
  exact ⟨i, hi, rfl⟩

theorem links_separated (names : List NSString) :
    (links names).Pairwise fun a b => a.location + a.length + 2 ≤ b.location := by
  rw [List.pairwise_iff_getElem]
  intro i j hi hj hij
  have hjn : j < names.length := by simpa [links] using hj
  have hsep : offset 2 names i + names[i].length + 2 ≤ offset 2 names j :=
    offset_separated hij hjn
  simp only [links, List.getElem_mapIdx]
  omega

theorem links_mark {names : List NSString} {link : Link} (h : link ∈ links names) :
    link.location + link.length ≤ (joined names).length ∧
      ((joined names).drop link.location).take link.length = link.userName := by
  obtain ⟨i, hi, rfl⟩ := mem_links h
  have hinside := offset_inside symbol hi
  have hmark := take_drop_offset symbol hi
  rw [symbol_length] at hinside hmark
  constructor
  · simp only [joined, List.length_append, space_length]
    omega
  · simp only [joined]
    rw [← space_length, ← List.drop_drop, List.drop_left]
    exact hmark

theorem everyLiker_of_links {names : List NSString} {label : TTTAttributedLabel}
    (htext : label.text = joined names) (hlinks : label.linkModels = links names) :
    EveryLiker names label := by
  refine ⟨htext, hlinks, ?_, ?_, ?_⟩
  · intro link hlink
    rw [hlinks] at hlink
    rw [htext]
    exact links_mark hlink
  · rw [hlinks]
    exact (links_separated names).imp fun h => by omega
  · rw [hlinks]
    exact (links_separated names).imp fun h => by omega

theorem appendLiker_first {likeUsers : List LikeUser} (user : LikeUser)
    (h : some user.userName = likeUsers.head?.map LikeUser.userName) :
    appendLiker likeUsers ([], []) user =
      (space ++ user.userName, [⟨7, user.userName.length, user.userName⟩]) := by
  simp only [appendLiker, if_pos h]
  rfl

theorem appendLiker_next {likeUsers : List LikeUser} (acc : NSString × List Link) (user : LikeUser)
    (h : some user.userName ≠ likeUsers.head?.map LikeUser.userName) :
    appendLiker likeUsers acc user = (acc.1 ++ (symbol ++ user.userName),
      acc.2 ++ [⟨acc.1.length + 2, user.userName.length, user.userName⟩]) := by
  simp only [appendLiker, if_neg h, symbol_length]

theorem foldl_next {likeUsers : List LikeUser} (users : List LikeUser) (acc : NSString × List Link)
    (h : ∀ user ∈ users, some user.userName ≠ likeUsers.head?.map LikeUser.userName) :
    users.foldl (appendLiker likeUsers) acc =
      (acc.1 ++ (names users).flatMap (fun name => symbol ++ name),
        acc.2 ++ (names users).mapIdx fun i name =>
          ⟨acc.1.length + 2 + offset 2 (names users) i, name.length, name⟩) := by
  induction users generalizing acc with
  | nil => simp [names]
  | cons user users ih =>
    have hrest := ih (acc.1 ++ (symbol ++ user.userName),
      acc.2 ++ [⟨acc.1.length + 2, user.userName.length, user.userName⟩])
      (fun next hnext => h next (List.mem_cons_of_mem _ hnext))
    rw [List.foldl_cons, appendLiker_next acc user (h user List.mem_cons_self), hrest]
    have hshift : (fun (i : ℕ) (name : NSString) =>
        (⟨acc.1.length + (2 + user.userName.length) + 2 + offset 2 (names users) i,
          name.length, name⟩ : Link)) =
        fun i name => ⟨acc.1.length + 2 +
          offset 2 (user.userName :: names users) (i + 1), name.length, name⟩ := by
      funext i name
      rw [offset_cons]
      congr 1
      omega
    have hnames : names (user :: users) = user.userName :: names users := rfl
    simp only [List.length_append, symbol_length, hshift, hnames, List.mapIdx_cons, offset_zero,
      List.flatMap_cons, List.append_assoc, List.cons_append, List.nil_append, Nat.add_zero]

theorem likerString_distinct {item : CircleModel} (hne : item.likeUsers ≠ [])
    (h : FirstNameOnce item.likeUsers) :
    likerString item = (joined (names item.likeUsers), links (names item.likeUsers)) := by
  cases hu : item.likeUsers with
  | nil => exact absurd hu hne
  | cons user users =>
    rw [hu] at h
    rw [likerString, hu, List.foldl_cons, appendLiker_first user rfl, foldl_next users _ h]
    have hshift : (fun (i : ℕ) (name : NSString) =>
        (⟨7 + user.userName.length + 2 + offset 2 (names users) i, name.length, name⟩ : Link)) =
        fun i name => ⟨7 + offset 2 (user.userName :: names users) (i + 1), name.length, name⟩ := by
      funext i name
      rw [offset_cons]
      congr 1
      omega
    have hnames : names (user :: users) = user.userName :: names users := rfl
    simp only [joined, links, hnames, intercalate_cons, List.length_append, space_length, hshift,
      List.mapIdx_cons, offset_zero, List.append_assoc, List.cons_append, List.nil_append,
      Nat.add_zero]

theorem addLinks_ok (links : List Link) (label : TTTAttributedLabel)
    (h : ∀ link ∈ links, link.location + link.length ≤ label.text.length) :
    links.foldlM TTTAttributedLabel.addLinkToTransitInformation label =
      .ok { label with linkModels := label.linkModels ++ links } := by
  induction links generalizing label with
  | nil => simp [pure, Except.pure]
  | cons link links ih =>
    rw [List.foldlM_cons, TTTAttributedLabel.addLink_ok (h link List.mem_cons_self)]
    have hrest := ih { label with linkModels := label.linkModels ++ [link] }
      (fun next hnext => h next (List.mem_cons_of_mem _ hnext))
    rw [List.append_assoc] at hrest
    exact hrest

theorem getLikerString_distinct (m : Metrics) {item : CircleModel} (hne : item.likeUsers ≠ [])
    (h : FirstNameOnce item.likeUsers) :
    ∃ cell, getLikerString m item = .ok cell ∧ EveryLiker (names item.likeUsers) cell.contentLab := by
  have hlinks := addLinks_ok (links (names item.likeUsers))
    (TTTAttributedLabel.setText (joined (names item.likeUsers))) fun link hlink => (links_mark hlink).1
  refine ⟨⟨⟨joined (names item.likeUsers), links (names item.likeUsers)⟩,
    calculateLikerHeight m (joined (names item.likeUsers))⟩, ?_, everyLiker_of_links rfl rfl⟩
  rw [getLikerString, likerString_distinct hne h]
  simp only [hlinks]
  rfl

instance (likeUsers : List LikeUser) : Decidable (FirstNameOnce likeUsers) :=
  inferInstanceAs (Decidable (∀ user ∈ likeUsers.tail,
    some user.userName ≠ likeUsers.head?.map LikeUser.userName))

def prefixLength (likeUsers : List LikeUser) (user : LikeUser) : ℕ :=
  if some user.userName = likeUsers.head?.map LikeUser.userName then 7 else 2

theorem foldl_length {likeUsers : List LikeUser} (users : List LikeUser) (acc : NSString × List Link) :
    (users.foldl (appendLiker likeUsers) acc).1.length =
      acc.1.length + (users.map fun user => prefixLength likeUsers user + user.userName.length).sum := by
  induction users generalizing acc with
  | nil => simp
  | cons user users ih =>
    have hstep : (appendLiker likeUsers acc user).1.length =
        acc.1.length + (prefixLength likeUsers user + user.userName.length) := by
      by_cases hfirst : some user.userName = likeUsers.head?.map LikeUser.userName
      · simp only [appendLiker, prefixLength, if_pos hfirst, List.length_append, space_length]
      · simp only [appendLiker, prefixLength, if_neg hfirst, List.length_append, symbol_length]
    rw [List.foldl_cons, ih, hstep, List.map_cons, List.sum_cons]
    omega

theorem flatMap_length (users : List LikeUser) :
    ((names users).flatMap fun name => symbol ++ name).length =
      (users.map fun user => 2 + user.userName.length).sum := by
  induction users with
  | nil => rfl
  | cons user users ih =>
    have hnames : names (user :: users) = user.userName :: names users := rfl
    rw [hnames, List.flatMap_cons, List.length_append, List.length_append, symbol_length, ih,
      List.map_cons, List.sum_cons]

theorem repeated_name_longer {likeUsers users : List LikeUser} {user : LikeUser} (huser : user ∈ users)
    (hname : some user.userName = likeUsers.head?.map LikeUser.userName) :
    (users.map fun user => 2 + user.userName.length).sum <
      (users.map fun user => prefixLength likeUsers user + user.userName.length).sum := by
  apply List.sum_lt_sum
  · intro next _
    unfold prefixLength
    split_ifs <;> omega
  · refine ⟨user, huser, ?_⟩
    rw [prefixLength, if_pos hname]
    omega

theorem firstNameOnce_of_text {item : CircleModel}
    (htext : (likerString item).1 = joined (names item.likeUsers)) : FirstNameOnce item.likeUsers := by
  intro user huser hname
  cases hu : item.likeUsers with
  | nil =>
    rw [hu] at huser
    cases huser
  | cons first users =>
    rw [hu, List.tail_cons] at huser
    rw [hu] at hname
    have hlength := congrArg List.length htext
    have hlonger := repeated_name_longer huser hname
    have hfirst : prefixLength (first :: users) first = 7 := if_pos rfl
    have hnames : names (first :: users) = first.userName :: names users := rfl
    rw [likerString, hu, foldl_length, joined, hnames, intercalate_cons, List.length_append,
      List.length_append, flatMap_length, space_length, List.map_cons, List.sum_cons,
      hfirst, List.length_nil] at hlength
    omega

theorem liker_links_iff (m : Metrics) (item : CircleModel) (hne : item.likeUsers ≠ []) :
    (∃ cell, getLikerString m item = .ok cell ∧
      EveryLiker (names item.likeUsers) cell.contentLab) ↔ FirstNameOnce item.likeUsers := by
  constructor
  · rintro ⟨cell, hcell, hevery⟩
    apply firstNameOnce_of_text
    rw [likerString_eq, ← (getLikerString_ok hcell).1]
    exact hevery.text
  · exact getLikerString_distinct m hne

def likedBy (userNames : List String) : CircleModel where
  userId := 20
  userName := ns "p"
  likeUsers := userNames.map fun userName => { userId := some (.string (ns "4")), userName := ns userName }

def flat : Metrics := ⟨fun _ => 18, fun _ => 18⟩

theorem two_likers_linked :
    ∃ cell, getLikerString flat (likedBy ["a", "bc"]) = .ok cell ∧
      EveryLiker (names (likedBy ["a", "bc"]).likeUsers) cell.contentLab := by
  apply (liker_links_iff flat (likedBy ["a", "bc"]) (by decide)).mpr
  decide +kernel

theorem repeated_liker_unlinked :
    ¬ ∀ (m : Metrics) (item : CircleModel), item.likeUsers ≠ [] →
      ∃ cell, getLikerString m item = .ok cell ∧
        EveryLiker (names item.likeUsers) cell.contentLab := by
  intro h
  obtain ⟨cell, hcell, hevery⟩ := h flat (likedBy ["a", "a"]) (by decide)
  have htext := (getLikerString_ok hcell).1.symm.trans hevery.text
  revert htext
  decide +kernel

end MixedProject.LikerLinks
