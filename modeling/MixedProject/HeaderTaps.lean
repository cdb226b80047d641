import Mathlib.Algebra.Group.Nat.Even
import MixedProject.HeaderLayout
import MixedProject.PictureGrid

namespace MixedProject.HeaderLayout

open Traces VerticalLayout SectionHeadView FriendCircleViewController CircleModelViewModel

def TapStep (sec : ℕ) (vc : FriendCircleViewController) (_ : Unit) (vc' : FriendCircleViewController) :
    Prop := vc.tapFoldingButton sec = .ok vc'

def tapItem (item : CircleModel) : CircleModel :=
  if item.contentLabelHeight ≤ 104 then item else foldItem (!item.folding) item

structure HeaderMatches (item : CircleModel) (header : SectionHeadView) : Prop where
  solvable : ∃ frames, Solves header.constraints frames
  fits : ∀ frames, Solves header.constraints frames → HeaderFits item header frames
  placed : PictureGrid.Placed item header.pictures

theorem tapFoldingButton_eq {sec : ℕ} {vc : FriendCircleViewController} {item : CircleModel}
    (hitem : vc.dataArray[sec]? = some item) :
    vc.tapFoldingButton sec = .ok (if item.contentLabelHeight ≤ 104 then vc
      else vc.setItem sec (foldItem (!item.folding) item)) := by
  have hobject := objectAtIndex_ok.mpr hitem
  have hhidden : (headerFor item sec).hidden .foldingContent = decide (item.contentLabelHeight ≤ 104) := by
    rw [headerFor_hidden, hidden]
  simp only [tapFoldingButton, viewForHeaderInSection, foldingContent, hobject, bind, Except.bind,
    pure, Except.pure, hhidden, decide_eq_true_eq, clickFoldingButton]
  split_ifs <;> rfl

theorem tap_item {sec : ℕ} {vc vc' : FriendCircleViewController} {item : CircleModel}
    (hitem : vc.dataArray[sec]? = some item) (h : TapStep sec vc () vc') :
    vc'.dataArray[sec]? = some (tapItem item) := by
  have hsec : sec < vc.dataArray.length := (List.getElem?_eq_some_iff.mp hitem).1
  rw [TapStep, tapFoldingButton_eq hitem] at h
  rw [← Except.ok.inj h, tapItem]
  split_ifs with hshort
  · exact hitem
  · exact List.getElem?_set_self hsec

theorem exists_taps {sec : ℕ} {vc : FriendCircleViewController} {item : CircleModel}
    (hitem : vc.dataArray[sec]? = some item) (n : ℕ) :
    ∃ tr, Trace (TapStep sec) vc tr ∧ tr.length = n := by
  induction n generalizing vc item with
  | zero => exact ⟨[], .nil vc, rfl⟩
  | succ n ih =>
    have hstep : TapStep sec vc () _ := tapFoldingButton_eq hitem
    obtain ⟨tr, htr, hlen⟩ := ih (tap_item hitem hstep)
    exact ⟨_, .cons hstep htr, by rw [List.length_cons, hlen]⟩

theorem taps_item {sec : ℕ} {vc : FriendCircleViewController}
    {tr : List (Unit × FriendCircleViewController)} (htr : Trace (TapStep sec) vc tr)
    {item : CircleModel} (hitem : vc.dataArray[sec]? = some item) :
    (last vc tr).dataArray[sec]? = some (tapItem^[tr.length] item) := by
  induction htr generalizing item with
  | nil vc => exact hitem
  | cons hstep _ ih => exact ih (tap_item hitem hstep)

theorem laid_tap {item : CircleModel} (h : Laid item) : Laid (tapItem item) := by
  unfold tapItem
  split_ifs with hshort
  · exact h
  · exact ⟨h.nonneg, h.text, h.pictures, rfl, fun _ => not_le.mp hshort⟩

structure SameContent (item now : CircleModel) : Prop where
  message : now.message = item.message
  smallPics : now.smallPics = item.smallPics
  contentLabelHeight : now.contentLabelHeight = item.contentLabelHeight
  imageViewHeight : now.imageViewHeight = item.imageViewHeight

theorem sameContent_tap {item now : CircleModel} (h : SameContent item now) :
    SameContent item (tapItem now) := by
  unfold tapItem
  split_ifs
  · exact h
  · exact ⟨h.message, h.smallPics, h.contentLabelHeight, h.imageViewHeight⟩

theorem folding_tap (item : CircleModel) :
    (tapItem item).folding =
      if item.contentLabelHeight ≤ 104 then item.folding else !item.folding := by
  unfold tapItem
  split_ifs <;> rfl

theorem taps_laid {item : CircleModel} (h : Laid item) (hunfolded : item.folding = false) (n : ℕ) :
    Laid (tapItem^[n] item) ∧ SameContent item (tapItem^[n] item) ∧
      ((tapItem^[n] item).folding = true ↔ 104 < item.contentLabelHeight ∧ Odd n) := by
  induction n with
  | zero => exact ⟨h, ⟨rfl, rfl, rfl, rfl⟩, by simp [hunfolded]⟩
  | succ n ih =>
    obtain ⟨hlaid, hsame, hfolding⟩ := ih
    rw [Function.iterate_succ_apply']
    refine ⟨laid_tap hlaid, sameContent_tap hsame, ?_⟩
    rw [folding_tap, hsame.contentLabelHeight, Nat.odd_add_one]
    split_ifs with hshort
    · rw [hfolding]
      have hno : ¬ 104 < item.contentLabelHeight := not_lt.mpr hshort
      simp [hno]
    · have hlong : 104 < item.contentLabelHeight := not_le.mp hshort
      simp only [hlong, true_and] at hfolding ⊢
      rw [← hfolding]
      simp

theorem imageViewHeight_pos {item : CircleModel} (h : Laid item) (hne : item.smallPics ≠ []) :
    0 < item.imageViewHeight := by
  have hzero : item.smallPics.length ≠ 0 := by
    rw [Ne, List.length_eq_zero_iff]
    exact hne
  rw [h.pictures, getPictureImageViewHeight, if_neg hzero]
  split_ifs <;> norm_num

theorem header_matches {item : CircleModel} (h : Laid item)
    (hshows : hasText item ∨ item.smallPics ≠ []) (sec : ℕ) :
    HeaderMatches item (headerFor item sec) := by
  have hshown : ShowsSomething item := by
    rcases hshows with htext | hpics
    · exact .inl (h.text.mpr htext)
    · exact .inr (imageViewHeight_pos h hpics)
  refine ⟨⟨solution item, ?_⟩, ?_, PictureGrid.pictures_placed h.pictures sec⟩
  · rw [headerFor_installed]
    exact solution_solves hshown
  · intro frames hframes
    exact header_fits h hshown sec hframes

theorem laid_load {m : Metrics} (hm : ∀ text, text ≠ [] → 0 < m.contentHeight text) (rowDic : RowDic) :
    Laid (loadItem m rowDic) := by
  have hheight : 0 ≤ calculateContentHeight m rowDic.message ∧
      (0 < calculateContentHeight m rowDic.message ↔
        ∃ text, rowDic.message = some text ∧ text ≠ []) := by
    unfold calculateContentHeight
    cases hmessage : rowDic.message with
    | none => simp
    | some text =>
      by_cases hempty : text.length ≤ 0
      · have hnil : text = [] := List.length_eq_zero_iff.mp (Nat.le_zero.mp hempty)
        simp [hnil]
      · have hne : text ≠ [] := by
          rintro rfl
          exact hempty le_rfl
        have hpos : (0 : CGFloat) < ⌈m.contentHeight text⌉ := by
          exact_mod_cast Int.ceil_pos.mpr (hm text hne)
        simp only [if_neg hempty]
        refine ⟨hpos.le, fun _ => ⟨text, rfl, hne⟩, fun _ => hpos⟩
  refine ⟨hheight.1, hheight.2, rfl, rfl, ?_⟩
  intro hfold
  cases hfold

theorem header_height_matches (vc : FriendCircleViewController) (sec : ℕ) (item : CircleModel)
    (hitem : vc.dataArray[sec]? = some item) (hlaid : Laid item) (hunfolded : item.folding = false)
    (hshows : hasText item ∨ item.smallPics ≠ []) (n : ℕ) :
    (∃ tr, Trace (TapStep sec) vc tr ∧ tr.length = n) ∧
      ∀ tr, Trace (TapStep sec) vc tr → tr.length = n →
        ∃ now header, (last vc tr).dataArray[sec]? = some now ∧
          (last vc tr).viewForHeaderInSection sec = .ok header ∧ SameContent item now ∧
          (now.folding = true ↔ 104 < item.contentLabelHeight ∧ Odd n) ∧
          HeaderMatches now header := by
  refine ⟨exists_taps hitem n, ?_⟩
  rintro tr htr rfl
  have hnow := taps_item htr hitem
  obtain ⟨hlaidNow, hsame, hfolding⟩ := taps_laid hlaid hunfolded tr.length
  refine ⟨tapItem^[tr.length] item, headerFor (tapItem^[tr.length] item) sec, hnow, ?_, hsame,
    hfolding, ?_⟩
  · rw [viewForHeaderInSection, objectAtIndex_ok.mpr hnow]
    rfl
  · apply header_matches hlaidNow
    rcases hshows with ⟨text, hmessage, hne⟩ | hpics
    · exact .inl ⟨text, hsame.message.trans hmessage, hne⟩
    · exact .inr (hsame.smallPics ▸ hpics)

def longRow : RowDic where
  userId := 20
  userName := ns "刘希"
  message := some (ns "该")
  smallPics := [ns "a", ns "b", ns "c", ns "d"]

def longText : Metrics := ⟨fun _ => 150, fun _ => 18⟩

theorem long_row_matches :
    ∃ tr, Trace (TapStep 0) (viewDidLoad longText [longRow]) tr ∧ tr.length = 3 ∧
      ∃ now header, (last (viewDidLoad longText [longRow]) tr).dataArray[0]? = some now ∧
        (last (viewDidLoad longText [longRow]) tr).viewForHeaderInSection 0 = .ok header ∧
        SameContent (loadItem longText longRow) now ∧ now.folding = true ∧
        HeaderMatches now header := by
  have hlaid : Laid (loadItem longText longRow) := laid_load (fun _ _ => by norm_num [longText]) longRow
  have htext : hasText (loadItem longText longRow) := ⟨ns "该", rfl, by decide⟩
  obtain ⟨⟨tr, htr, hlen⟩, hafter⟩ := header_height_matches (viewDidLoad longText [longRow]) 0
    (loadItem longText longRow) rfl hlaid rfl (.inl htext) 3
  obtain ⟨now, header, hnow, hheader, hsame, hfolding, hmatches⟩ := hafter tr htr hlen
  have hlong : 104 < (loadItem longText longRow).contentLabelHeight := by decide +kernel
  exact ⟨tr, htr, hlen, now, header, hnow, hheader, hsame, hfolding.mpr ⟨hlong, by decide⟩, hmatches⟩

end MixedProject.HeaderLayout
