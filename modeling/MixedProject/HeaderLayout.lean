import Mathlib.Tactic.Linarith
import Mathlib.Tactic.NormNum
import Mathlib.Tactic.Ring
import MixedProject.SectionHeadView
import MixedProject.Traces

namespace MixedProject.HeaderLayout

open Traces VerticalLayout SectionHeadView FriendCircleViewController CircleModelViewModel

def textHeight (item : CircleModel) : CGFloat :=
  if item.contentLabelHeight ≤ 104 ∨ item.folding = true then item.contentLabelHeight else 104

def installed (item : CircleModel) : Installed Subview CGFloat
  | .headImg => [.top 8, .height 36]
  | .name => [.alignTop .headImg 0, .height 20]
  | .contentLab =>
    if item.contentLabelHeight ≤ 0 then [] else [.below .name 10, .height (textHeight item)]
  | .foldingContent =>
    if item.contentLabelHeight ≤ 104 then [] else [.below .contentLab 8, .height 25]
  | .picImagV =>
    if item.imageViewHeight ≤ 0 then []
    else if item.contentLabelHeight ≤ 0 then [.below .name 8, .height item.imageViewHeight]
    else if item.contentLabelHeight ≤ 104 then [.below .contentLab 8, .height item.imageViewHeight]
    else [.below .foldingContent 8, .height item.imageViewHeight]
  | .time =>
    if 0 < item.imageViewHeight then [.below .picImagV 8, .height 20]
    else if item.contentLabelHeight ≤ 104 then [.below .contentLab 8, .height 20]
    else [.below .foldingContent 8, .height 20]
  | .commentsBtn => [.alignTop .time (-2), .height 24]
  | .likeAndComments => [.alignTop .commentsBtn (-4), .height 31]

def hidden (item : CircleModel) : Subview → Bool
  | .contentLab => decide (item.contentLabelHeight ≤ 0)
  | .foldingContent => decide (item.contentLabelHeight ≤ 104)
  | .picImagV => decide (item.imageViewHeight ≤ 0)
  | _ => false

theorem setContentConstraint_hidden (item : CircleModel) (sec : ℕ) :
    (setContentConstraint item (initLayout sec)).hidden =
      Function.update (hidden item) .picImagV false := by
  funext view
  unfold setContentConstraint
  split_ifs with hempty hshort hfold
  · have hshort : item.contentLabelHeight ≤ 104 := by linarith
    cases view <;> simp [hidden, initLayout, setHidden, remakeConstraints, makeConstraints, hempty, hshort]
  · cases view <;> simp [hidden, initLayout, setHidden, remakeConstraints, makeConstraints, hempty, hshort]
  · cases view <;> simp [hidden, initLayout, setHidden, remakeConstraints, makeConstraints, hempty, hshort]
  · cases view <;> simp [hidden, initLayout, setHidden, remakeConstraints, makeConstraints, hempty, hshort]

theorem setContentConstraint_constraints (item : CircleModel) (sec : ℕ) (view : Subview)
    (hview : view = .headImg ∨ view = .name ∨ view = .contentLab ∨ view = .foldingContent) :
    (setContentConstraint item (initLayout sec)).constraints view = installed item view := by
  have hlong : ¬ item.contentLabelHeight ≤ 104 → ¬ item.contentLabelHeight ≤ 0 := by
    intro hnot hle
    linarith
  unfold setContentConstraint
  split_ifs with hempty hshort hfold
  · have hshort : item.contentLabelHeight ≤ 104 := by linarith
    rcases hview with rfl | rfl | rfl | rfl <;>
      simp [installed, initLayout, setHidden, remakeConstraints, makeConstraints, hempty, hshort]
  · rcases hview with rfl | rfl | rfl | rfl <;>
      simp [installed, initLayout, setHidden, remakeConstraints, makeConstraints, textHeight, hempty,
        hshort]
  · rcases hview with rfl | rfl | rfl | rfl <;>
      simp [installed, initLayout, setHidden, remakeConstraints, makeConstraints, textHeight, hempty,
        hshort, hfold]
  · rcases hview with rfl | rfl | rfl | rfl <;>
      simp [installed, initLayout, setHidden, remakeConstraints, makeConstraints, textHeight, hempty,
        hshort, hfold]

theorem setPictureImageViewConstraint_hidden (item : CircleModel) (header : SectionHeadView) :
    (setPictureImageViewConstraint item header).hidden =
      Function.update header.hidden .picImagV (decide (item.imageViewHeight ≤ 0)) := by
  unfold setPictureImageViewConstraint
  by_cases hpics : item.imageViewHeight ≤ 0
  · simp [hpics, setHidden]
  · simp only [hpics, if_false, decide_false]
    split_ifs <;> rfl

theorem addPicture_layout (item : CircleModel) (header : SectionHeadView) :
    (addPicture item header).constraints = header.constraints ∧
      (addPicture item header).hidden = header.hidden := by
  unfold addPicture
  simp only
  split_ifs <;> exact ⟨rfl, rfl⟩

theorem setTimeAndCommentConstraint_hidden (header : SectionHeadView) :
    (setTimeAndCommentConstraint header).hidden = header.hidden := by
  unfold setTimeAndCommentConstraint
  simp only
  split_ifs <;> rfl

theorem headerFor_hidden (item : CircleModel) (sec : ℕ) :
    (headerFor item sec).hidden = hidden item := by
  rw [headerFor, setSectionMessage, (addPicture_layout _ _).2, setTimeAndCommentConstraint_hidden,
    setPictureImageViewConstraint_hidden, setContentConstraint_hidden, Function.update_idem]
  funext view
  cases view <;> simp [hidden]

theorem setPictureImageViewConstraint_constraints (item : CircleModel) (header : SectionHeadView)
    (hhidden : header.hidden = Function.update (hidden item) .picImagV false) (view : Subview) :
    (setPictureImageViewConstraint item header).constraints view =
      if view = .picImagV then
        if item.imageViewHeight ≤ 0 then header.constraints view else installed item view
      else header.constraints view := by
  unfold setPictureImageViewConstraint
  by_cases hpics : item.imageViewHeight ≤ 0
  · simp [hpics, setHidden]
  · by_cases hempty : item.contentLabelHeight ≤ 0
    · have hshort : item.contentLabelHeight ≤ 104 := by linarith
      cases view <;> simp [hpics, hempty, hshort, setHidden, remakeConstraints, hhidden, hidden, installed]
    · by_cases hshort : item.contentLabelHeight ≤ 104
      · cases view <;> simp [hpics, hempty, hshort, setHidden, remakeConstraints, hhidden, hidden, installed]
      · cases view <;> simp [hpics, hempty, hshort, setHidden, remakeConstraints, hhidden, hidden, installed]

theorem setTimeAndCommentConstraint_constraints (item : CircleModel) (header : SectionHeadView)
    (hhidden : header.hidden = hidden item) (hfresh : header.constraints .likeAndComments = [])
    (view : Subview) :
    (setTimeAndCommentConstraint header).constraints view =
      if view = .time ∨ view = .commentsBtn ∨ view = .likeAndComments then installed item view
      else header.constraints view := by
  unfold setTimeAndCommentConstraint
  by_cases hpics : item.imageViewHeight ≤ 0
  · have hpics' : ¬ 0 < item.imageViewHeight := not_lt.mpr hpics
    by_cases hshort : item.contentLabelHeight ≤ 104
    · cases view <;>
        simp [hpics, hpics', hshort, remakeConstraints, makeConstraints, hhidden, hidden, installed, hfresh]
    · cases view <;>
        simp [hpics, hpics', hshort, remakeConstraints, makeConstraints, hhidden, hidden, installed, hfresh]
  · have hpics' : 0 < item.imageViewHeight := not_le.mp hpics
    cases view <;>
      simp [hpics, hpics', remakeConstraints, makeConstraints, hhidden, hidden, installed, hfresh]

theorem setContentConstraint_fresh (item : CircleModel) (sec : ℕ) (view : Subview)
    (hview : view = .picImagV ∨ view = .likeAndComments) :
    (setContentConstraint item (initLayout sec)).constraints view = [] := by
  unfold setContentConstraint
  rcases hview with rfl | rfl
  · split_ifs <;> simp [initLayout, setHidden, remakeConstraints, makeConstraints]
  · split_ifs <;> simp [initLayout, setHidden, remakeConstraints, makeConstraints]

theorem headerFor_installed (item : CircleModel) (sec : ℕ) :
    (headerFor item sec).constraints = installed item := by
  have htext := setContentConstraint_hidden item sec
  have hpics : (setPictureImageViewConstraint item
      (setContentConstraint item (initLayout sec))).hidden = hidden item := by
    rw [setPictureImageViewConstraint_hidden, htext, Function.update_idem]
    funext view
    cases view <;> simp [hidden]
  have hconstraints := setPictureImageViewConstraint_constraints item _ htext
  have hfresh : (setPictureImageViewConstraint item
      (setContentConstraint item (initLayout sec))).constraints .likeAndComments = [] := by
    rw [hconstraints]
    exact setContentConstraint_fresh item sec _ (.inr rfl)
  funext view
  rw [headerFor, setSectionMessage, (addPicture_layout _ _).1,
    setTimeAndCommentConstraint_constraints item _ hpics hfresh, hconstraints]
  cases view with
  | picImagV =>
    have hnone := setContentConstraint_fresh item sec .picImagV (.inl rfl)
    by_cases hle : item.imageViewHeight ≤ 0
    · simp [hle, hnone, installed]
    · simp [hle]
  | headImg => exact setContentConstraint_constraints item sec _ (.inl rfl)
  | name => exact setContentConstraint_constraints item sec _ (.inr (.inl rfl))
  | contentLab => exact setContentConstraint_constraints item sec _ (.inr (.inr (.inl rfl)))
  | foldingContent => exact setContentConstraint_constraints item sec _ (.inr (.inr (.inr rfl)))
  | time => rfl
  | commentsBtn => rfl
  | likeAndComments => rfl

def textBottom (item : CircleModel) : CGFloat :=
  if item.contentLabelHeight ≤ 0 then 28
  else if item.contentLabelHeight ≤ 104 then 38 + textHeight item
  else 38 + textHeight item + 8 + 25

def timeTop (item : CircleModel) : CGFloat :=
  if item.imageViewHeight ≤ 0 then textBottom item + 8
  else textBottom item + 8 + item.imageViewHeight + 8

def solution (item : CircleModel) : Subview → Frame CGFloat
  | .headImg => ⟨8, 36⟩
  | .name => ⟨8, 20⟩
  | .contentLab => ⟨38, textHeight item⟩
  | .foldingContent => ⟨38 + textHeight item + 8, 25⟩
  | .picImagV => ⟨textBottom item + 8, item.imageViewHeight⟩
  | .time => ⟨timeTop item, 20⟩
  | .commentsBtn => ⟨timeTop item - 2, 24⟩
  | .likeAndComments => ⟨timeTop item - 6, 31⟩

def ShowsSomething (item : CircleModel) : Prop := 0 < item.contentLabelHeight ∨ 0 < item.imageViewHeight

theorem solution_solves {item : CircleModel} (h : ShowsSomething item) :
    Solves (installed item) (solution item) := by
  intro view constraint hin
  cases view with
  | headImg =>
    rcases List.mem_pair.mp hin with rfl | rfl <;> rfl
  | name =>
    rcases List.mem_pair.mp hin with rfl | rfl
    · exact (add_zero (8 : CGFloat)).symm
    · rfl
  | contentLab =>
    simp only [installed] at hin
    split_ifs at hin with hempty
    · cases hin
    · rcases List.mem_pair.mp hin with rfl | rfl
      · simp only [Constraint.Holds, solution, Frame.bottom]
        norm_num
      · rfl
  | foldingContent =>
    simp only [installed] at hin
    split_ifs at hin with hshort
    · cases hin
    · rcases List.mem_pair.mp hin with rfl | rfl <;> rfl
  | picImagV =>
    simp only [installed] at hin
    split_ifs at hin with hpics hempty hshort
    · cases hin
    · rcases List.mem_pair.mp hin with rfl | rfl
      · simp only [Constraint.Holds, solution, Frame.bottom, textBottom, if_pos hempty]
        norm_num
      · rfl
    · rcases List.mem_pair.mp hin with rfl | rfl
      · simp only [Constraint.Holds, solution, Frame.bottom, textBottom, if_neg hempty, if_pos hshort]
      · rfl
    · rcases List.mem_pair.mp hin with rfl | rfl
      · simp only [Constraint.Holds, solution, Frame.bottom, textBottom, if_neg hempty, if_neg hshort]
      · rfl
  | time =>
    simp only [installed] at hin
    split_ifs at hin with hpics hshort
    · rcases List.mem_pair.mp hin with rfl | rfl
      · simp only [Constraint.Holds, solution, Frame.bottom, timeTop, if_neg (not_le.mpr hpics)]
      · rfl
    · have htext : ¬ item.contentLabelHeight ≤ 0 := not_le.mpr (h.resolve_right hpics)
      rcases List.mem_pair.mp hin with rfl | rfl
      · simp only [Constraint.Holds, solution, Frame.bottom, timeTop, textBottom,
          if_pos (not_lt.mp hpics), if_neg htext, if_pos hshort]
      · rfl
    · have htext : ¬ item.contentLabelHeight ≤ 0 := not_le.mpr (h.resolve_right hpics)
      rcases List.mem_pair.mp hin with rfl | rfl
      · simp only [Constraint.Holds, solution, Frame.bottom, timeTop, textBottom,
          if_pos (not_lt.mp hpics), if_neg htext, if_neg hshort]
      · rfl
  | commentsBtn =>
    rcases List.mem_pair.mp hin with rfl | rfl
    · exact sub_eq_add_neg _ _
    · rfl
  | likeAndComments =>
    rcases List.mem_pair.mp hin with rfl | rfl
    · simp only [Constraint.Holds, solution]
      ring
    · rfl

theorem solution_unique {item : CircleModel} (h : ShowsSomething item) {frames : Subview → Frame CGFloat}
    (hframes : Solves (installed item) frames) (view : Subview) (hvisible : hidden item view = false) :
    frames view = solution item view := by
  have hsolution := solution_solves h
  have hheadImg : frames .headImg = solution item .headImg := by
    rw [hframes.frame_top rfl, solution]
  have hname : frames .name = solution item .name := hframes.congr_alignTop hsolution rfl hheadImg
  have hcontent : ¬ item.contentLabelHeight ≤ 0 →
      frames .contentLab = solution item .contentLab := by
    intro htext
    exact hframes.congr_below hsolution (if_neg htext) hname
  have hfolding : ¬ item.contentLabelHeight ≤ 104 →
      frames .foldingContent = solution item .foldingContent := by
    intro hlong
    have htext : ¬ item.contentLabelHeight ≤ 0 := by
      intro hle
      linarith
    exact hframes.congr_below hsolution (if_neg hlong) (hcontent htext)
  have hpicture : ¬ item.imageViewHeight ≤ 0 → frames .picImagV = solution item .picImagV := by
    intro hpics
    by_cases htext : item.contentLabelHeight ≤ 0
    · exact hframes.congr_below hsolution ((if_neg hpics).trans (if_pos htext)) hname
    · by_cases hshort : item.contentLabelHeight ≤ 104
      · exact hframes.congr_below hsolution
          ((if_neg hpics).trans ((if_neg htext).trans (if_pos hshort))) (hcontent htext)
      · exact hframes.congr_below hsolution
          ((if_neg hpics).trans ((if_neg htext).trans (if_neg hshort))) (hfolding hshort)
  have htime : frames .time = solution item .time := by
    by_cases hpics : 0 < item.imageViewHeight
    · exact hframes.congr_below hsolution (if_pos hpics) (hpicture (not_le.mpr hpics))
    · have htext : ¬ item.contentLabelHeight ≤ 0 := not_le.mpr (h.resolve_right hpics)
      by_cases hshort : item.contentLabelHeight ≤ 104
      · exact hframes.congr_below hsolution ((if_neg hpics).trans (if_pos hshort)) (hcontent htext)
      · exact hframes.congr_below hsolution ((if_neg hpics).trans (if_neg hshort)) (hfolding hshort)
  have hcomments : frames .commentsBtn = solution item .commentsBtn :=
    hframes.congr_alignTop hsolution rfl htime
  cases view with
  | headImg => exact hheadImg
  | name => exact hname
  | contentLab => exact hcontent (of_decide_eq_false hvisible)
  | foldingContent => exact hfolding (of_decide_eq_false hvisible)
  | picImagV => exact hpicture (of_decide_eq_false hvisible)
  | time => exact htime
  | commentsBtn => exact hcomments
  | likeAndComments => exact hframes.congr_alignTop hsolution rfl hcomments

def hasText (item : CircleModel) : Prop := ∃ text, item.message = some text ∧ text ≠ []

/-- A post as it was loaded, but for how it is folded. -/
structure Laid (item : CircleModel) : Prop where
  nonneg : 0 ≤ item.contentLabelHeight
  text : 0 < item.contentLabelHeight ↔ hasText item
  pictures : item.imageViewHeight = getPictureImageViewHeight item.smallPics
  headerHeight : item.headerHeight = getHeaderHeight item
  folding : item.folding = true → 104 < item.contentLabelHeight

def stack : List Subview := [.name, .contentLab, .foldingContent, .picImagV, .time]

structure HeaderFits (item : CircleModel) (header : SectionHeadView)
    (frames : Subview → Frame CGFloat) : Prop where
  stacked : (stack.filter fun view => header.hidden view = false).Pairwise fun a b =>
    (frames a).bottom ≤ (frames b).top
  inside : ∀ view, header.hidden view = false →
    0 ≤ (frames view).top ∧ (frames view).bottom ≤ item.headerHeight
  lowest : ∀ view, header.hidden view = false →
    (frames view).bottom ≤ (frames .likeAndComments).bottom
  withText : hasText item → (frames .likeAndComments).bottom + 1 = item.headerHeight
  picturesOnly : ¬ hasText item → (frames .likeAndComments).bottom + 3 = item.headerHeight

theorem textHeight_nonneg {item : CircleModel} (h : Laid item) : 0 ≤ textHeight item := by
  have hnonneg := h.nonneg
  unfold textHeight
  split_ifs <;> linarith

theorem textBottom_name {item : CircleModel} (h : Laid item) : 28 ≤ textBottom item := by
  have hnonneg := textHeight_nonneg h
  unfold textBottom
  split_ifs <;> linarith

theorem textBottom_content {item : CircleModel} (htext : ¬ item.contentLabelHeight ≤ 0) :
    38 + textHeight item ≤ textBottom item := by
  unfold textBottom
  split_ifs <;> linarith

theorem textBottom_folding {item : CircleModel} (hlong : ¬ item.contentLabelHeight ≤ 104) :
    textBottom item = 38 + textHeight item + 8 + 25 := by
  have htext : ¬ item.contentLabelHeight ≤ 0 := by
    intro hle
    linarith
  rw [textBottom, if_neg htext, if_neg hlong]

theorem timeTop_text (item : CircleModel) : textBottom item + 8 ≤ timeTop item := by
  unfold timeTop
  split_ifs <;> linarith

theorem timeTop_picture {item : CircleModel} (hpics : ¬ item.imageViewHeight ≤ 0) :
    timeTop item = textBottom item + 8 + item.imageViewHeight + 8 := by rw [timeTop, if_neg hpics]

theorem getHeaderHeight_folded {item : CircleModel} (hfold : item.folding = true)
    (hlong : 104 < item.contentLabelHeight) :
    timeTop item + 25 + 1 = getHeaderHeight item := by
  have hshort : ¬ item.contentLabelHeight ≤ 104 := not_le.mpr hlong
  have hheight : textHeight item = item.contentLabelHeight := if_pos (.inr hfold)
  have htext := textBottom_folding hshort
  rw [getHeaderHeight, if_pos hfold]
  by_cases hpics : item.imageViewHeight ≤ 0
  · rw [if_neg (not_lt.mpr hpics), timeTop, if_pos hpics, htext, hheight]
    ring
  · rw [if_pos (not_le.mp hpics), timeTop_picture hpics, htext, hheight]
    ring

theorem getHeaderHeight_unfolded {item : CircleModel} (hfold : ¬ item.folding = true)
    (htext : 0 < item.contentLabelHeight) : timeTop item + 25 + 1 = getHeaderHeight item := by
  have hnonempty : ¬ item.contentLabelHeight ≤ 0 := not_le.mpr htext
  rw [getHeaderHeight, if_neg hfold, if_neg hnonempty]
  by_cases hshort : item.contentLabelHeight ≤ 104
  · have hheight : textHeight item = item.contentLabelHeight := if_pos (.inl hshort)
    have hbottom : textBottom item = 38 + item.contentLabelHeight := by
      rw [textBottom, if_neg hnonempty, if_pos hshort, hheight]
    rw [if_pos hshort]
    by_cases hpics : item.imageViewHeight ≤ 0
    · rw [if_neg (not_lt.mpr hpics), timeTop, if_pos hpics, hbottom]
      ring
    · rw [if_pos (not_le.mp hpics), timeTop_picture hpics, hbottom]
      ring
  · have hheight : textHeight item = 104 := if_neg (not_or.mpr ⟨hshort, hfold⟩)
    have hbottom := textBottom_folding hshort
    rw [if_neg hshort]
    by_cases hpics : item.imageViewHeight ≤ 0
    · rw [if_neg (not_lt.mpr hpics), timeTop, if_pos hpics, hbottom, hheight]
      norm_num
    · rw [if_pos (not_le.mp hpics), timeTop_picture hpics, hbottom, hheight]
      ring

theorem getHeaderHeight_pictures {item : CircleModel} (h : Laid item)
    (htext : ¬ 0 < item.contentLabelHeight) (hpics : 0 < item.imageViewHeight) :
    timeTop item + 25 + 3 = getHeaderHeight item := by
  have hfold : ¬ item.folding = true := by
    intro hfold
    linarith [h.folding hfold]
  have hempty : item.contentLabelHeight ≤ 0 := not_lt.mp htext
  rw [getHeaderHeight, if_neg hfold, if_pos hempty, timeTop_picture (not_le.mpr hpics), textBottom,
    if_pos hempty]
  ring

theorem menu_withText {item : CircleModel} (h : Laid item) (htext : 0 < item.contentLabelHeight) :
    timeTop item + 25 + 1 = item.headerHeight := by
  rw [h.headerHeight]
  by_cases hfold : item.folding = true
  · exact getHeaderHeight_folded hfold (h.folding hfold)
  · exact getHeaderHeight_unfolded hfold htext

theorem solution_stacked {item : CircleModel} (h : Laid item) :
    (stack.filter fun view => hidden item view = false).Pairwise fun a b =>
      (solution item a).bottom ≤ (solution item b).top := by
  have hname := textBottom_name h
  have htime := timeTop_text item
  have hnonneg := textHeight_nonneg h
  have hcontent : hidden item .contentLab = false → 38 + textHeight item ≤ textBottom item :=
    fun hvisible => textBottom_content (of_decide_eq_false hvisible)
  have hfolding : hidden item .foldingContent = false →
      textBottom item = 38 + textHeight item + 8 + 25 :=
    fun hvisible => textBottom_folding (of_decide_eq_false hvisible)
  have hpicture : hidden item .picImagV = false →
      timeTop item = textBottom item + 8 + item.imageViewHeight + 8 :=
    fun hvisible => timeTop_picture (of_decide_eq_false hvisible)
  rw [List.pairwise_filter]
  simp only [stack, List.pairwise_cons, List.forall_mem_cons, decide_eq_true_eq, List.not_mem_nil,
    false_implies, implies_true, and_true, List.Pairwise.nil, solution, Frame.bottom]
  refine ⟨⟨?_, ?_, ?_, ?_⟩, ⟨?_, ?_, ?_⟩, ⟨?_, ?_⟩, ?_⟩
  · intro _ _
    linarith
  · intro _ _
    linarith
  · intro _ _
    linarith
  · intro _ _
    linarith
  · intro _ _
    linarith
  · intro hvisible _
    linarith [hcontent hvisible]
  · intro hvisible _
    linarith [hcontent hvisible]
  · intro hvisible _
    linarith [hfolding hvisible]
  · intro hvisible _
    linarith [hfolding hvisible]
  · intro hvisible _
    linarith [hpicture hvisible]

theorem header_fits {item : CircleModel} (h : Laid item) (hshows : ShowsSomething item) (sec : ℕ)
    {frames : Subview → Frame CGFloat} (hframes : Solves (headerFor item sec).constraints frames) :
    HeaderFits item (headerFor item sec) frames := by
  rw [headerFor_installed] at hframes
  have hframe := solution_unique hshows hframes
  have hname := textBottom_name h
  have htime := timeTop_text item
  have hnonneg := textHeight_nonneg h
  have hmenu : (frames .likeAndComments).bottom = timeTop item + 25 := by
    rw [hframe .likeAndComments rfl, solution, Frame.bottom]
    ring
  have hheight : timeTop item + 25 ≤ item.headerHeight := by
    rw [h.headerHeight]
    by_cases htext : 0 < item.contentLabelHeight
    · linarith [menu_withText h htext, h.headerHeight]
    · linarith [getHeaderHeight_pictures h htext (hshows.resolve_left htext)]
  have hlowest : ∀ view, hidden item view = false →
      0 ≤ (frames view).top ∧ (frames view).bottom ≤ timeTop item + 25 := by
    intro view hvisible
    rw [hframe view hvisible]
    cases view with
    | contentLab =>
      have hcontent := textBottom_content (of_decide_eq_false hvisible)
      constructor <;> simp only [solution, Frame.bottom] <;> linarith
    | foldingContent =>
      have hfolding := textBottom_folding (of_decide_eq_false hvisible)
      constructor <;> simp only [solution, Frame.bottom] <;> linarith
    | picImagV =>
      have hpicture := timeTop_picture (of_decide_eq_false hvisible)
      constructor <;> simp only [solution, Frame.bottom] <;> linarith
    | _ => constructor <;> simp only [solution, Frame.bottom] <;> linarith
  refine ⟨?_, ?_, ?_, ?_, ?_⟩
  · rw [headerFor_hidden]
    apply (solution_stacked h).imp_of_mem
    intro a b ha hb hab
    rw [hframe a (by simpa using (List.mem_filter.mp ha).2),
      hframe b (by simpa using (List.mem_filter.mp hb).2)]
    exact hab
  · intro view hvisible
    rw [headerFor_hidden] at hvisible
    exact ⟨(hlowest view hvisible).1, (hlowest view hvisible).2.trans hheight⟩
  · intro view hvisible
    rw [headerFor_hidden] at hvisible
    rw [hmenu]
    exact (hlowest view hvisible).2
  · intro htext
    rw [hmenu]
    exact menu_withText h (h.text.mpr htext)
  · intro hno
    have htext : ¬ 0 < item.contentLabelHeight := fun hpos => hno (h.text.mp hpos)
    rw [hmenu, h.headerHeight]
    exact getHeaderHeight_pictures h htext (hshows.resolve_left htext)

end MixedProject.HeaderLayout
