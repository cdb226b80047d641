import Mathlib.Tactic.Linarith
import Mathlib.Tactic.NormNum
import MixedProject.SectionHeadView

namespace MixedProject.PictureGrid

open SectionHeadView CircleModelViewModel

def Apart (a b : PictureView) : Prop :=
  a.left + a.width ≤ b.left ∨ b.left + b.width ≤ a.left ∨
    a.top + a.height ≤ b.top ∨ b.top + b.height ≤ a.top

structure Placed (item : CircleModel) (pictures : List PictureView) : Prop where
  pics : pictures.map (fun picture => picture.picURL) =
    item.smallPics.take (min item.smallPics.length 9)
  apart : pictures.Pairwise Apart
  inside : ∀ picture ∈ pictures, 0 ≤ picture.top ∧ picture.top + picture.height ≤ item.imageViewHeight
  lowest : item.smallPics ≠ [] →
    ∃ picture ∈ pictures, picture.top + picture.height = item.imageViewHeight

def placed (pics : List NSString) : List PictureView :=
  if pics.length = 1 then pics.map fun picURL => ⟨picURL, 0, 0, 140, 100⟩
  else pictureRow 3 0 0 0 pics ++ (pictureRow 6 3 75 3 (pics.drop 3) ++
    pictureRow 9 6 150 6 (pics.drop 6))

theorem setPictureImageViewConstraint_pictures (item : CircleModel) (header : SectionHeadView) :
    (setPictureImageViewConstraint item header).pictures = [] := by
  unfold setPictureImageViewConstraint
  simp only
  split_ifs <;> rfl

theorem setTimeAndCommentConstraint_pictures (header : SectionHeadView) :
    (setTimeAndCommentConstraint header).pictures = header.pictures := by
  unfold setTimeAndCommentConstraint
  simp only
  split_ifs <;> rfl

theorem addPicture_pictures {item : CircleModel} {header : SectionHeadView}
    (hfresh : header.pictures = []) : (addPicture item header).pictures = placed item.smallPics := by
  unfold addPicture placed
  by_cases hone : item.smallPics.length = 1
  · simp only [if_pos hone, hfresh, List.nil_append]
  · by_cases hthree : item.smallPics.length > 3
    · by_cases hsix : item.smallPics.length > 6
      · simp only [if_neg hone, if_pos hthree, if_pos hsix, hfresh, List.nil_append, List.append_assoc]
      · have hlow : item.smallPics.drop 6 = [] := List.drop_eq_nil_of_le (not_lt.mp hsix)
        simp only [if_neg hone, if_pos hthree, if_neg hsix, hfresh, List.nil_append, hlow, pictureRow,
          List.append_nil]
    · have hsix : ¬ item.smallPics.length > 6 := by omega
      have hmid : item.smallPics.drop 3 = [] := List.drop_eq_nil_of_le (not_lt.mp hthree)
      have hlow : item.smallPics.drop 6 = [] := List.drop_eq_nil_of_le (not_lt.mp hsix)
      simp only [if_neg hone, if_neg hthree, if_neg hsix, hfresh, List.nil_append, hmid, hlow,
        pictureRow, List.append_nil]

theorem headerFor_pictures (item : CircleModel) (sec : ℕ) :
    (headerFor item sec).pictures = placed item.smallPics := by
  rw [headerFor, setSectionMessage]
  apply addPicture_pictures
  rw [setTimeAndCommentConstraint_pictures, setPictureImageViewConstraint_pictures]

theorem pictureRow_pics (stop base : ℕ) (top : CGFloat) {i : ℕ} (hi : i ≤ stop) (pics : List NSString) :
    (pictureRow stop base top i pics).map (fun picture => picture.picURL) = pics.take (stop - i) := by
  induction pics generalizing i with
  | nil => simp [pictureRow]
  | cons picURL pics ih =>
    rw [pictureRow]
    split_ifs with hstop
    · simp [hstop]
    · obtain ⟨left, hleft⟩ : ∃ left, stop - i = left + 1 := ⟨stop - i - 1, by omega⟩
      have hrest := ih (i := i + 1) (by omega)
      rw [List.map_cons, hrest, hleft, List.take_succ_cons]
      congr 2
      omega

theorem mem_pictureRow {stop base i : ℕ} {top : CGFloat} {pics : List NSString} {picture : PictureView}
    (h : picture ∈ pictureRow stop base top i pics) :
    picture.top = top ∧ picture.width = 70 ∧ picture.height = 70 ∧
      ∃ j ≥ i, picture.left = (70 * (j - base) + (j - base) * 5 : ℕ) := by
  induction pics generalizing i with
  | nil => cases h
  | cons picURL pics ih =>
    rw [pictureRow] at h
    split_ifs at h with hstop
    · cases h
    · rcases List.mem_cons.mp h with rfl | hrest
      · exact ⟨rfl, rfl, rfl, i, le_rfl, rfl⟩
      · obtain ⟨htop, hwidth, hheight, j, hj, hleft⟩ := ih hrest
        exact ⟨htop, hwidth, hheight, j, by omega, hleft⟩

theorem pictureRow_apart {stop base i : ℕ} (top : CGFloat) (hbase : base ≤ i) (pics : List NSString) :
    (pictureRow stop base top i pics).Pairwise Apart := by
  induction pics generalizing i with
  | nil => exact List.Pairwise.nil
  | cons picURL pics ih =>
    rw [pictureRow]
    split_ifs with hstop
    · exact List.Pairwise.nil
    · apply List.Pairwise.cons
      · intro picture hpicture
        obtain ⟨-, -, -, j, hj, hleft⟩ := mem_pictureRow hpicture
        apply Or.inl
        have hshift : 70 * (i - base) + (i - base) * 5 + 70 ≤ 70 * (j - base) + (j - base) * 5 := by
          omega
        change ((70 * (i - base) + (i - base) * 5 : ℕ) : CGFloat) + 70 ≤ picture.left
        rw [hleft]
        exact_mod_cast hshift
      · exact ih (by omega)

theorem rows_apart {stop base i stop' base' i' : ℕ} {top top' : CGFloat} {pics pics' : List NSString}
    (htop : top + 70 ≤ top') :
    ∀ a ∈ pictureRow stop base top i pics, ∀ b ∈ pictureRow stop' base' top' i' pics', Apart a b := by
  intro a ha b hb
  obtain ⟨hatop, -, haheight, -⟩ := mem_pictureRow ha
  obtain ⟨hbtop, -⟩ := mem_pictureRow hb
  apply Or.inr
  apply Or.inr
  apply Or.inl
  rw [hatop, haheight, hbtop]
  exact htop

theorem pictureRow_exists {stop base i : ℕ} {top : CGFloat} {pics : List NSString} (hi : i < stop)
    (hne : pics ≠ []) : ∃ picture ∈ pictureRow stop base top i pics,
      picture.top + picture.height = top + 70 := by
  cases pics with
  | nil => exact absurd rfl hne
  | cons picURL pics =>
    rw [pictureRow, if_neg hi.ne]
    exact ⟨_, List.mem_cons_self, rfl⟩

theorem placed_pics (pics : List NSString) :
    (placed pics).map (fun picture => picture.picURL) = pics.take (min pics.length 9) := by
  have hmin : pics.take (min pics.length 9) = pics.take 9 := by
    rw [min_comm, ← List.take_eq_take_min]
  rw [hmin, placed]
  split_ifs with hone
  · rw [List.map_map, List.take_of_length_le (by omega)]
    exact List.map_id pics
  · rw [List.map_append, List.map_append, pictureRow_pics 3 0 0 (by omega),
      pictureRow_pics 6 3 75 (by omega), pictureRow_pics 9 6 150 (by omega)]
    have hsix : pics.drop 6 = (pics.drop 3).drop 3 := by rw [List.drop_drop]
    rw [hsix, ← List.take_add, ← List.take_add]

theorem placed_apart (pics : List NSString) : (placed pics).Pairwise Apart := by
  unfold placed
  split_ifs with hone
  · obtain ⟨picURL, rfl⟩ := List.length_eq_one_iff.mp hone
    exact List.pairwise_singleton _ _
  · rw [List.pairwise_append, List.pairwise_append]
    refine ⟨pictureRow_apart 0 le_rfl pics, ⟨pictureRow_apart 75 le_rfl _,
      pictureRow_apart 150 le_rfl _, rows_apart (by norm_num)⟩, ?_⟩
    intro a ha b hb
    rcases List.mem_append.mp hb with hmid | hlow
    · exact rows_apart (by norm_num) a ha b hmid
    · exact rows_apart (by norm_num) a ha b hlow

theorem row_bottom {stop base i : ℕ} {top height : CGFloat} {pics : List NSString}
    (hnonneg : 0 ≤ top) (hle : top + 70 ≤ height) :
    ∀ picture ∈ pictureRow stop base top i pics,
      0 ≤ picture.top ∧ picture.top + picture.height ≤ height := by
  intro picture hpicture
  obtain ⟨htop, -, hheight, -⟩ := mem_pictureRow hpicture
  rw [htop, hheight]
  exact ⟨hnonneg, hle⟩

theorem placed_inside (pics : List NSString) : ∀ picture ∈ placed pics,
    0 ≤ picture.top ∧ picture.top + picture.height ≤ getPictureImageViewHeight pics := by
  intro picture hpicture
  by_cases hone : pics.length = 1
  · have hzero : pics.length ≠ 0 := by omega
    rw [placed, if_pos hone] at hpicture
    obtain ⟨picURL, -, rfl⟩ := List.mem_map.mp hpicture
    rw [getPictureImageViewHeight, if_neg hzero, if_pos hone]
    norm_num
  · rw [placed, if_neg hone, List.mem_append, List.mem_append] at hpicture
    rw [getPictureImageViewHeight, if_neg hone]
    have hmid : pics.length ≤ 3 → pics.drop 3 = [] := List.drop_eq_nil_of_le
    have hlow : pics.length ≤ 6 → pics.drop 6 = [] := List.drop_eq_nil_of_le
    split_ifs with hzero hthree hsix
    · rw [List.length_eq_zero_iff.mp hzero] at hpicture
      simp [pictureRow] at hpicture
    · rw [hmid hthree, hlow (by omega)] at hpicture
      simp only [pictureRow, List.not_mem_nil, or_false] at hpicture
      exact row_bottom le_rfl (by norm_num) picture hpicture
    · rw [hlow hsix] at hpicture
      simp only [pictureRow, List.not_mem_nil, or_false] at hpicture
      rcases hpicture with htop | hbelow
      · exact row_bottom le_rfl (by norm_num) picture htop
      · exact row_bottom (by norm_num) (by norm_num) picture hbelow
    · rcases hpicture with htop | hbelow | hlast
      · exact row_bottom le_rfl (by norm_num) picture htop
      · exact row_bottom (by norm_num) (by norm_num) picture hbelow
      · exact row_bottom (by norm_num) (by norm_num) picture hlast

theorem placed_lowest {pics : List NSString} (hne : pics ≠ []) : ∃ picture ∈ placed pics,
    picture.top + picture.height = getPictureImageViewHeight pics := by
  have hzero : pics.length ≠ 0 := by
    rw [Ne, List.length_eq_zero_iff]
    exact hne
  by_cases hone : pics.length = 1
  · obtain ⟨picURL, rfl⟩ := List.length_eq_one_iff.mp hone
    exact ⟨⟨picURL, 0, 0, 140, 100⟩, List.mem_singleton_self _, by
      norm_num [getPictureImageViewHeight]⟩
  · rw [placed, if_neg hone, getPictureImageViewHeight, if_neg hzero, if_neg hone]
    have hrest : ∀ {k : ℕ}, k < pics.length → pics.drop k ≠ [] := by
      intro k hk hnil
      rw [List.drop_eq_nil_iff] at hnil
      omega
    by_cases hthree : pics.length ≤ 3
    · obtain ⟨picture, hin, hbottom⟩ :=
        (pictureRow_exists (by omega) hne : ∃ picture ∈ pictureRow 3 0 0 0 pics, _)
      refine ⟨picture, List.mem_append_left _ hin, ?_⟩
      rw [hbottom, if_pos hthree]
      norm_num
    · by_cases hsix : pics.length ≤ 6
      · obtain ⟨picture, hin, hbottom⟩ := (pictureRow_exists (by omega) (hrest (by omega)) :
          ∃ picture ∈ pictureRow 6 3 75 3 (pics.drop 3), _)
        refine ⟨picture, List.mem_append_right _ (List.mem_append_left _ hin), ?_⟩
        rw [hbottom, if_neg hthree, if_pos hsix]
        norm_num
      · obtain ⟨picture, hin, hbottom⟩ := (pictureRow_exists (by omega) (hrest (by omega)) :
          ∃ picture ∈ pictureRow 9 6 150 6 (pics.drop 6), _)
        refine ⟨picture, List.mem_append_right _ (List.mem_append_right _ hin), ?_⟩
        rw [hbottom, if_neg hthree, if_neg hsix]
        norm_num

theorem pictures_placed {item : CircleModel}
    (h : item.imageViewHeight = getPictureImageViewHeight item.smallPics) (sec : ℕ) :
    Placed item (headerFor item sec).pictures := by
  rw [headerFor_pictures]
  refine ⟨placed_pics _, placed_apart _, ?_, ?_⟩
  · rw [h]
    exact placed_inside _
  · rw [h]
    exact placed_lowest

end MixedProject.PictureGrid
