import MixedProject.CellReuse

namespace MixedProject.FeedTable

open Traces FriendCircleViewController

variable {m : Metrics} {self : ObjectID}

structure Live (controller : ObjectID) (cell : FeedCell) : Prop where
  delegate : cell.delegate = some controller
  taps : ∀ link ∈ cell.content.links, ∃ dic,
    cell.didSelectLinkWithTransitInformation link = some (controller, dic) ∧
    didSelectPeople dic = some (.string link.userName)

def AllLive (self : ObjectID) (s : FeedTable) : Prop := ∀ cell ∈ s.visible, Live self cell

def Reuses (s : FeedTable) : Event → Prop
  | .request sec row _ _ => ∀ item k, s.vc.dataArray[sec]? = some item →
      cellRow item row = .comment k → s.commentsPool ≠ []
  | .scrollOff _ => True
  | .change _ => True

def RequestsLikers (s : FeedTable) : Event → Prop
  | .request sec row _ _ => ∀ item, s.vc.dataArray[sec]? = some item → cellRow item row = .like
  | .scrollOff _ => True
  | .change _ => True

theorem live_iff {cell : FeedCell} : Live self cell ↔ cell.delegate = some self := by
  constructor
  · intro h
    exact h.delegate
  · intro h
    refine ⟨h, ?_⟩
    intro link _
    refine ⟨FeedCell.transitInformation link, ?_, ?_⟩
    · rw [FeedCell.didSelectLinkWithTransitInformation, h, Option.map_some]
    · simp [didSelectPeople, FeedCell.transitInformation]

theorem dequeueReusableCell_nil (α : Type) (pick : ℕ) :
    dequeueReusableCell ([] : List α) pick = (none, []) := rfl

theorem dequeueReusableCell_some {α : Type} {pool : List α} (hne : pool ≠ []) (pick : ℕ) :
    ∃ cell, (dequeueReusableCell pool pick).1 = some cell := by
  have hlength := List.length_pos_of_ne_nil hne
  exact ⟨_, List.getElem?_eq_getElem (Nat.mod_lt pick hlength)⟩

theorem reusing_ok {vc : FriendCircleViewController}
    {likeCell : Option (Delegated LikeCircleTableViewCell)}
    {commentsCell : Option (Delegated CommentsTableViewCell)} {sec row : ℕ} {cell : FeedCell}
    (h : vc.cellForRowAtIndexPathReusing m self likeCell commentsCell sec row = .ok cell) :
    ∃ item, vc.dataArray[sec]? = some item ∧ rowCell m item (cellRow item row) = .ok cell.content ∧
      match cellRow item row with
      | .like => cell.delegate = some self ∧ ∃ likeCell, cell = .like likeCell
      | .comment _ => cell.delegate = commentsCell.map fun _ => self := by
  obtain ⟨item, hitem, hcell⟩ := bind_ok h
  refine ⟨item, objectAtIndex_ok.mp hitem, ?_⟩
  cases hrow : cellRow item row with
  | like =>
    rw [hrow] at hcell
    obtain ⟨content, hcontent, hcell⟩ := bind_ok hcell
    cases hcell
    exact ⟨bind_eq_ok.mpr ⟨content, hcontent, rfl⟩, rfl, _, rfl⟩
  | comment k =>
    rw [hrow] at hcell
    obtain ⟨commentsDic, hdic, hcell⟩ := bind_ok hcell
    obtain ⟨content, hcontent, hcell⟩ := bind_ok hcell
    cases hcell
    constructor
    · exact bind_eq_ok.mpr ⟨commentsDic, hdic, bind_eq_ok.mpr ⟨content, hcontent, rfl⟩⟩
    · cases commentsCell with
      | none => rfl
      | some commentsCell => rfl

theorem request_ok {s t : FeedTable} {sec row likePick commentsPick : ℕ}
    (h : s.request m self sec row likePick commentsPick = .ok t) :
    ∃ cell, t = { s with
        visible := s.visible ++ [cell]
        likePool := (dequeueReusableCell s.likePool likePick).2
        commentsPool := (dequeueReusableCell s.commentsPool commentsPick).2 } ∧
      s.vc.cellForRowAtIndexPathReusing m self (dequeueReusableCell s.likePool likePick).1
        (dequeueReusableCell s.commentsPool commentsPick).1 sec row = .ok cell := by
  obtain ⟨cell, hcell, ht⟩ := bind_ok h
  cases ht
  exact ⟨cell, rfl, hcell⟩

theorem change_ok {s t : FeedTable} {op : Op} (h : s.change m op = .ok t) :
    ∃ vc, t = { s with vc } := by
  obtain ⟨vc, -, ht⟩ := bind_ok h
  cases ht
  exact ⟨vc, rfl⟩

theorem scrollOff_visible {s : FeedTable} {i : ℕ} {cell : FeedCell}
    (h : cell ∈ (s.scrollOff i).visible) : cell ∈ s.visible := by
  unfold scrollOff at h
  split at h
  · exact h
  · exact List.mem_of_mem_eraseIdx h
  · exact List.mem_of_mem_eraseIdx h

theorem allLive_request_iff {s t : FeedTable} {sec row likePick commentsPick : ℕ}
    (hs : AllLive self s) (h : s.request m self sec row likePick commentsPick = .ok t) :
    AllLive self t ↔ Reuses s (.request sec row likePick commentsPick) := by
  obtain ⟨cell, rfl, hcell⟩ := request_ok h
  obtain ⟨item, hitem, -, hdelegate⟩ := reusing_ok hcell
  have hnew : AllLive self { s with
      visible := s.visible ++ [cell]
      likePool := (dequeueReusableCell s.likePool likePick).2
      commentsPool := (dequeueReusableCell s.commentsPool commentsPick).2 } ↔
      cell.delegate = some self := by
    unfold AllLive at hs ⊢
    rw [List.forall_mem_append, List.forall_mem_singleton, and_iff_right hs, live_iff]
  rw [hnew]
  cases hrow : cellRow item row with
  | like =>
    rw [hrow] at hdelegate
    apply iff_of_true hdelegate.1
    intro other k hother hk
    rw [hitem] at hother
    cases hother
    rw [hrow] at hk
    cases hk
  | comment k =>
    rw [hrow] at hdelegate
    change cell.delegate = _ at hdelegate
    rw [hdelegate]
    constructor
    · intro hlive other j _ _ hempty
      rw [hempty, dequeueReusableCell_nil] at hlive
      cases hlive
    · intro hreuse
      obtain ⟨pooled, hpooled⟩ := dequeueReusableCell_some (hreuse item k hitem hrow) commentsPick
      rw [hpooled, Option.map_some]

theorem allLive_step_iff {s t : FeedTable} {e : Event} (hs : AllLive self s)
    (h : Step m self s e t) : AllLive self t ↔ Reuses s e := by
  cases e with
  | request sec row likePick commentsPick => exact allLive_request_iff hs h
  | scrollOff i =>
    cases h
    apply iff_of_true _ trivial
    intro cell hcell
    exact hs cell (scrollOff_visible hcell)
  | change op =>
    obtain ⟨vc, rfl⟩ := change_ok h
    exact iff_of_true hs trivial

theorem allLive_run_iff {s : FeedTable} {tr : List (Event × FeedTable)} (hs : AllLive self s)
    (htr : Trace (Step m self) s tr) :
    Always (AllLive self) s tr ↔ Steps (fun s e _ => Reuses s e) s tr := by
  apply htr.always_iff (I := AllLive self)
  · intro s h
    exact h
  · intro s e t hs hstep hreuse
    exact (allLive_step_iff hs hstep).mpr hreuse
  · intro s e t hs hstep hlive
    exact (allLive_step_iff hs hstep).mp hlive
  · exact hs

structure Uncommented (s : FeedTable) : Prop where
  visible : ∀ commentsCell, FeedCell.comments commentsCell ∉ s.visible
  commentsPool : s.commentsPool = []

theorem uncommented_step {s t : FeedTable} {e : Event} (hs : Uncommented s)
    (h : Step m self s e t) (he : RequestsLikers s e) : Uncommented t := by
  cases e with
  | request sec row likePick commentsPick =>
    obtain ⟨cell, rfl, hcell⟩ := request_ok h
    obtain ⟨item, hitem, -, hkind⟩ := reusing_ok hcell
    rw [he item hitem] at hkind
    obtain ⟨-, likeCell, rfl⟩ := hkind
    constructor
    · intro commentsCell hmem
      obtain hmem | hmem := List.mem_append.mp hmem
      · exact hs.visible commentsCell hmem
      · simp at hmem
    · change (dequeueReusableCell s.commentsPool commentsPick).2 = []
      rw [hs.commentsPool, dequeueReusableCell_nil]
  | scrollOff i =>
    cases h
    constructor
    · intro commentsCell hmem
      exact hs.visible commentsCell (scrollOff_visible hmem)
    · unfold scrollOff
      split
      · exact hs.commentsPool
      · exact hs.commentsPool
      · next commentsCell hcell => exact absurd (List.mem_of_getElem? hcell) (hs.visible commentsCell)
  | change op =>
    obtain ⟨vc, rfl⟩ := change_ok h
    exact ⟨hs.visible, hs.commentsPool⟩

theorem requestsLikers_iff_reuses {s t : FeedTable} {e : Event} (hs : Uncommented s)
    (h : Step m self s e t) : RequestsLikers s e ↔ Reuses s e := by
  cases e with
  | request sec row likePick commentsPick =>
    obtain ⟨cell, rfl, hcell⟩ := request_ok h
    constructor
    · intro hlike item k hitem hk
      rw [hlike item hitem] at hk
      cases hk
    · intro hreuse item hitem
      cases hrow : cellRow item row with
      | like => rfl
      | comment k => exact absurd hs.commentsPool (hreuse item k hitem hrow)
  | scrollOff i => exact Iff.rfl
  | change op => exact Iff.rfl

theorem uncommented_run_iff {s : FeedTable} {tr : List (Event × FeedTable)} (hs : Uncommented s)
    (htr : Trace (Step m self) s tr) :
    Steps (fun s e _ => Reuses s e) s tr ↔ Steps (fun s e _ => RequestsLikers s e) s tr := by
  apply htr.steps_iff (I := Uncommented)
  · intro s e t hs hstep hlike
    exact ⟨uncommented_step hs hstep hlike, (requestsLikers_iff_reuses hs hstep).mp hlike⟩
  · intro s e t hs hstep hreuse
    exact (requestsLikers_iff_reuses hs hstep).mpr hreuse
  · exact hs

theorem opened_links_live_iff (m : Metrics) (self : ObjectID) (vc : FriendCircleViewController)
    (tr : List (Event × FeedTable)) (htr : Trace (Step m self) (opened vc) tr) :
    (Always (AllLive self) (opened vc) tr ↔ Steps (fun s e _ => Reuses s e) (opened vc) tr) ∧
      (Always (AllLive self) (opened vc) tr ↔
        Steps (fun s e _ => RequestsLikers s e) (opened vc) tr) := by
  have hlive : AllLive self (opened vc) := by
    intro cell hcell
    cases hcell
  have huncommented : Uncommented (opened vc) := by
    constructor
    · intro commentsCell hmem
      cases hmem
    · rfl
  have hiff := allLive_run_iff hlive htr
  exact ⟨hiff, hiff.trans (uncommented_run_iff huncommented htr)⟩

def post (likers comments : List String) : FriendCircleViewController where
  dataArray := [{
    userId := 1
    userName := ns "p"
    likeUsers := likers.map fun liker => { userId := none, userName := ns liker }
    comments := comments.map fun text => { commentUserName := ns "a", commentText := ns text } }]

def flatMetrics : Metrics := ⟨fun _ => 18, fun _ => 18⟩

def runOf (vc : FriendCircleViewController) (events : List Event) : List (Event × FeedTable) :=
  run (fun s e => (s.perform flatMetrics 1 e).toOption) (opened vc) events

theorem liker_row_live :
    Always (AllLive 1) (opened (post ["a"] ["b"]))
      (runOf (post ["a"] ["b"]) [.request 0 0 0 0, .scrollOff 0, .request 0 0 0 0]) := by
  apply (opened_links_live_iff flatMetrics 1 _ _ (trace_run_ok _ _ _)).2.mpr
  refine ⟨?_, trivial, ?_, trivial⟩
  · rintro item ⟨⟩
    rfl
  · rintro item ⟨⟩
    rfl

theorem first_comment_row_dead :
    ¬ ∀ (m : Metrics) (self : ObjectID) (vc : FriendCircleViewController)
      (tr : List (Event × FeedTable)), Trace (Step m self) (opened vc) tr →
      Always (AllLive self) (opened vc) tr := by
  intro h
  have hlive := h flatMetrics 1 (post [] ["b"]) (runOf (post [] ["b"]) [.request 0 0 0 0])
    (trace_run_ok _ _ _)
  have hcell := hlive.2.1 _ (List.mem_singleton_self _)
  cases hcell.delegate

end MixedProject.FeedTable
