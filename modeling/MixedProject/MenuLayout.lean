import MixedProject.KeyedLoops
import MixedProject.MenuView

namespace MixedProject

open RowLayout KeyedLoops StepAnimation

namespace WMMenuItem

def InScale (scale : CGFloat) (item : WMMenuItem) : Prop :=
  min item.minScale 1 ≤ scale ∧ scale ≤ max item.minScale 1

/-- The item was laid out in its slot under one of the scales it can have. -/
structure Seated (slot : Span CGFloat) (item : WMMenuItem) : Prop where
  mid : item.midX = slot.x + slot.width / 2
  bounds : ∃ scale, item.InScale scale ∧ item.boundsWidth * scale = slot.width

structure Rated (item : WMMenuItem) : Prop where
  low : 0 ≤ item.rate
  high : item.rate ≤ 1

structure Sized (normalSize selectedSize : CGFloat) (item : WMMenuItem) : Prop where
  normal : item.normalSize = normalSize
  selected : item.selectedSize = selectedSize

def enlargement (item : WMMenuItem) : CGFloat :=
  max item.normalSize item.selectedSize / min item.normalSize item.selectedSize

variable {item : WMMenuItem} {slot : Span CGFloat}

theorem acceptsRate_eq_true {rate : CGFloat} : acceptsRate rate = true ↔ 0 ≤ rate ∧ rate ≤ 1 := by
  simp [acceptsRate]

theorem setRate_rated (rate : CGFloat) (h : item.Rated) : (item.setRate rate).Rated := by
  have hvalue := assign_value (P := fun x => 0 ≤ x ∧ x ≤ 1) (fun _ => acceptsRate_eq_true.mp) rate
    (m := item.motion) ⟨h.low, h.high⟩
  exact ⟨hvalue.1, hvalue.2⟩

theorem setSelected_rated (selected animation : Bool) (h : item.Rated) :
    (item.setSelected selected animation).Rated := by
  cases animation with
  | false => exact setRate_rated _ ⟨h.low, h.high⟩
  | true => exact ⟨h.low, h.high⟩

theorem rateChange_rated (h : item.Rated) : item.rateChange.Rated := by
  have hvalue := fire_value (P := fun x => 0 ≤ x ∧ x ≤ 1) (fun _ => acceptsRate_eq_true.mp)
    linkTolerance (m := item.motion) ⟨h.low, h.high⟩
  exact ⟨hvalue.1, hvalue.2⟩

theorem trueScale_inScale (h : item.Rated) : item.InScale item.trueScale :=
  ⟨le_blend (min_le_left _ _) (min_le_right _ _) h.low h.high,
    blend_le (le_max_left _ _) (le_max_right _ _) h.low h.high⟩

section

variable (hnormal : 0 < item.normalSize) (hselected : 0 < item.selectedSize)

include hnormal hselected

theorem InScale.pos {scale : CGFloat} (h : item.InScale scale) : 0 < scale :=
  (lt_min (div_pos hnormal hselected) one_pos).trans_le h.1

theorem setFrame_seated (h : item.Rated) : (item.setFrame slot).Seated slot := by
  have hscale := trueScale_inScale h
  refine ⟨rfl, item.trueScale, hscale, ?_⟩
  exact div_mul_cancel₀ _ (hscale.pos hnormal hselected).ne'

theorem InScale.le {scale scale' : CGFloat} (h : item.InScale scale) (h' : item.InScale scale') :
    scale ≤ item.enlargement * scale' := by
  have hpos := h.pos hnormal hselected
  have hmin : 0 < min item.normalSize item.selectedSize := lt_min hnormal hselected
  have hratio : item.selectedSize * item.minScale = item.normalSize :=
    mul_div_cancel₀ _ hselected.ne'
  have hupper : item.selectedSize * scale ≤ max item.normalSize item.selectedSize := by
    have hscaled := mul_le_mul_of_nonneg_left h.2 hselected.le
    rwa [mul_max_of_nonneg _ _ hselected.le, hratio, mul_one] at hscaled
  have hlower : min item.normalSize item.selectedSize ≤ item.selectedSize * scale' := by
    have hscaled := mul_le_mul_of_nonneg_left h'.1 hselected.le
    rwa [mul_min_of_nonneg _ _ hselected.le, hratio, mul_one] at hscaled
  rw [enlargement, div_mul_eq_mul_div, le_div_iff₀ hmin]
  calc scale * min item.normalSize item.selectedSize
      ≤ scale * (item.selectedSize * scale') := mul_le_mul_of_nonneg_left hlower hpos.le
    _ = item.selectedSize * scale * scale' := by ring
    _ ≤ max item.normalSize item.selectedSize * scale' :=
      mul_le_mul_of_nonneg_right hupper (h'.pos hnormal hselected).le

theorem Seated.bounds_nonneg (h : item.Seated slot) (hwidth : 0 ≤ slot.width) :
    0 ≤ item.boundsWidth := by
  obtain ⟨scale, hscale, heq⟩ := h.bounds
  rw [← heq] at hwidth
  exact nonneg_of_mul_nonneg_left hwidth (hscale.pos hnormal hselected)

theorem Seated.frame_width (h : item.Seated slot) (hrated : item.Rated) (hwidth : 0 ≤ slot.width) :
    0 ≤ item.frame.width ∧ item.frame.width ≤ item.enlargement * slot.width ∧
      slot.width ≤ item.enlargement * item.frame.width := by
  have hbounds := h.bounds_nonneg hnormal hselected hwidth
  have htrue := trueScale_inScale hrated
  obtain ⟨scale, hscale, heq⟩ := h.bounds
  have hframe : item.frame.width = item.boundsWidth * item.trueScale := rfl
  rw [hframe, ← heq, mul_left_comm item.enlargement, mul_left_comm item.enlargement]
  refine ⟨mul_nonneg hbounds (htrue.pos hnormal hselected).le, ?_, ?_⟩
  · exact mul_le_mul_of_nonneg_left (htrue.le hnormal hselected hscale) hbounds
  · exact mul_le_mul_of_nonneg_left (hscale.le hnormal hselected htrue) hbounds

end

theorem Seated.frame_eq (h : item.Seated slot) (hselected : 0 < item.selectedSize)
    (hrated : item.Rated)
    (hsizes : item.normalSize = item.selectedSize) : item.frame = slot := by
  have hmin : item.minScale = 1 := by rw [minScale, hsizes, div_self hselected.ne']
  have hone : ∀ scale, item.InScale scale → scale = 1 := by
    intro scale hscale
    rw [InScale, hmin, min_self, max_self] at hscale
    exact le_antisymm hscale.2 hscale.1
  obtain ⟨scale, hscale, heq⟩ := h.bounds
  rw [hone scale hscale, mul_one] at heq
  rw [frame, hone _ (trueScale_inScale hrated), mul_one, h.mid, heq]
  ext
  · simp
  · rfl

theorem Seated.frame_mid (h : item.Seated slot) :
    item.frame.x + item.frame.width / 2 = slot.x + slot.width / 2 := by
  rw [← h.mid, frame, sub_add_cancel]

end WMMenuItem

namespace WMMenuView

variable {delegate : WMMenuViewDelegate}

def naturalWidth (delegate : WMMenuViewDelegate) : CGFloat :=
  position (delegate.itemMarginAtIndex 0) delegate.widthForItemAtIndex
    (fun i => delegate.itemMarginAtIndex (i + 1)) delegate.numbersOfTitles

def spareRoom (delegate : WMMenuViewDelegate) (menu : WMMenuView) : CGFloat :=
  max 0 (menu.scrollFrame.width - naturalWidth delegate)

/-- The spare room that goes before the first title, between two titles, and after the last. -/
structure Shares where
  leading : CGFloat
  between : CGFloat
  trailing : CGFloat

def shares (titlesCount : ℕ) (room : CGFloat) : WMMenuViewLayoutMode → Shares
  | .scatter => ⟨room / (titlesCount + 1), room / (titlesCount + 1), room / (titlesCount + 1)⟩
  | .left => ⟨0, 0, room⟩
  | .right => ⟨room, 0, 0⟩
  | .center => ⟨room / 2, 0, room / 2⟩

def titleRow (delegate : WMMenuViewDelegate) (share : Shares) : List (Span CGFloat) :=
  row (delegate.itemMarginAtIndex 0 + share.leading) delegate.widthForItemAtIndex
    (fun i => delegate.itemMarginAtIndex (i + 1) + share.between) delegate.numbersOfTitles

theorem appendItemFrame_loop (frames : List (Span CGFloat)) (start : CGFloat) (n : ℕ) :
    (List.range n).foldl (appendItemFrame delegate) (frames, start) =
      (frames ++ row start delegate.widthForItemAtIndex
          (fun i => delegate.itemMarginAtIndex (i + 1)) n,
        position start delegate.widthForItemAtIndex
          (fun i => delegate.itemMarginAtIndex (i + 1)) n) := by
  induction n with
  | zero => simp [row]
  | succ n ih =>
    rw [List.range_succ, List.foldl_append, ih, row_succ, ← List.append_assoc]
    rfl

theorem shiftDis_step (mode : WMMenuViewLayoutMode) (distance : CGFloat) (n i : ℕ) :
    shiftDis mode distance n (i + 1) =
      shiftDis mode distance n i + (shares n distance mode).between := by
  cases mode <;> simp [shiftDis, shares]
  ring

theorem shiftDis_zero (mode : WMMenuViewLayoutMode) (distance : CGFloat) (n : ℕ) :
    shiftDis mode distance n 0 = (shares n distance mode).leading := by
  cases mode <;> simp [shiftDis, shares]

theorem shares_zero (n : ℕ) (mode : WMMenuViewLayoutMode) : shares n 0 mode = ⟨0, 0, 0⟩ := by
  cases mode <;> simp [shares]

theorem calculateItemFrames_row {menu : WMMenuView} (hframes : menu.frames = []) :
    calculateItemFrames delegate menu =
      { menu with
        frames := titleRow delegate
          (shares delegate.numbersOfTitles (spareRoom delegate menu) menu.layoutMode)
        contentWidth := max (naturalWidth delegate) menu.scrollFrame.width } := by
  rw [calculateItemFrames, hframes, appendItemFrame_loop, List.nil_append]
  by_cases hroom : naturalWidth delegate < menu.scrollFrame.width
  · have hspare : spareRoom delegate menu = menu.scrollFrame.width - naturalWidth delegate :=
      max_eq_right (sub_nonneg.mpr hroom.le)
    rw [if_pos (show position _ _ _ _ < _ from hroom), max_eq_right hroom.le, hspare]
    simp only [titleRow, ← shiftDis_zero]
    rw [← mapIdx_row (fun i => shiftDis_step _ _ _ i)]
    rfl
  · have hspare : spareRoom delegate menu = 0 := max_eq_left (sub_nonpos.mpr (not_lt.mp hroom))
    rw [if_neg (show ¬ position _ _ _ _ < _ from hroom), max_eq_left (not_lt.mp hroom), hspare,
      shares_zero]
    simp only [titleRow, add_zero]
    rfl

/-- The titles stand in their order with the margins between them, the spare room goes where the
layout mode puts it, and the content is no narrower than the scroll view. -/
structure TitlesLaid (delegate : WMMenuViewDelegate) (menu : WMMenuView) : Prop where
  count : menu.frames.length = delegate.numbersOfTitles
  content : menu.contentWidth = max (naturalWidth delegate) menu.scrollFrame.width
  titles : ∀ i f, menu.frames[i]? = some f → f.width = delegate.widthForItemAtIndex i
  first : ∀ f, menu.frames[0]? = some f →
    f.x = delegate.itemMarginAtIndex 0 +
      (shares delegate.numbersOfTitles (spareRoom delegate menu) menu.layoutMode).leading
  next : ∀ i f g, menu.frames[i]? = some f → menu.frames[i + 1]? = some g →
    g.x = f.maxX + delegate.itemMarginAtIndex (i + 1) +
      (shares delegate.numbersOfTitles (spareRoom delegate menu) menu.layoutMode).between
  last : ∀ i f, menu.frames[i]? = some f → i + 1 = delegate.numbersOfTitles →
    menu.contentWidth = f.maxX + delegate.itemMarginAtIndex (i + 1) +
      (shares delegate.numbersOfTitles (spareRoom delegate menu) menu.layoutMode).trailing

theorem spareRoom_nonneg (delegate : WMMenuViewDelegate) (menu : WMMenuView) :
    0 ≤ spareRoom delegate menu := le_max_left ..

theorem natural_add_spare (menu : WMMenuView) :
    naturalWidth delegate + spareRoom delegate menu =
      max (naturalWidth delegate) menu.scrollFrame.width := by
  rw [spareRoom, ← max_add_add_left, add_zero, add_sub_cancel]

theorem shares_nonneg (n : ℕ) {room : CGFloat} (h : 0 ≤ room) (mode : WMMenuViewLayoutMode) :
    0 ≤ (shares n room mode).leading ∧ 0 ≤ (shares n room mode).between ∧
      0 ≤ (shares n room mode).trailing := by
  have hscatter : 0 ≤ room / ((n : ℚ) + 1) := div_nonneg h (by positivity)
  have hcenter : 0 ≤ room / 2 := div_nonneg h (by norm_num)
  cases mode <;> simp [shares, h, hscatter, hcenter]

theorem shares_sum (n : ℕ) (room : CGFloat) (mode : WMMenuViewLayoutMode) :
    (shares (n + 1) room mode).leading + n * (shares (n + 1) room mode).between +
      (shares (n + 1) room mode).trailing = room := by
  have hpos : (n : ℚ) + 1 + 1 ≠ 0 := by positivity
  cases mode <;> simp [shares]
  field_simp
  ring

theorem titleRow_position (share : Shares) (n : ℕ) :
    position (delegate.itemMarginAtIndex 0 + share.leading) delegate.widthForItemAtIndex
        (fun i => delegate.itemMarginAtIndex (i + 1) + share.between) n =
      position (delegate.itemMarginAtIndex 0) delegate.widthForItemAtIndex
        (fun i => delegate.itemMarginAtIndex (i + 1)) n + (share.leading + n * share.between) := by
  have hstep : ∀ i : ℕ, share.leading + ((i + 1 : ℕ) : ℚ) * share.between =
      share.leading + i * share.between + share.between := by
    intro i
    push_cast
    ring
  have hshift := @position_shift CGFloat _ (delegate.itemMarginAtIndex 0)
    delegate.widthForItemAtIndex (fun i => delegate.itemMarginAtIndex (i + 1))
    (fun i => share.leading + i * share.between) share.between hstep n
  rw [hshift]
  simp

theorem titlesLaid_of_row {menu : WMMenuView}
    (hframes : menu.frames = titleRow delegate
      (shares delegate.numbersOfTitles (spareRoom delegate menu) menu.layoutMode))
    (hcontent : menu.contentWidth = max (naturalWidth delegate) menu.scrollFrame.width) :
    TitlesLaid delegate menu := by
  constructor
  case content => exact hcontent
  case count => rw [hframes, titleRow, length_row]
  case titles =>
    intro i f hf
    rw [hframes, titleRow, getElem?_row_eq_some] at hf
    rw [hf.2]
  case first =>
    intro f hf
    rw [hframes, titleRow, getElem?_row_eq_some] at hf
    rw [hf.2]
    rfl
  case next =>
    intro i f g hf hg
    rw [hframes, titleRow, getElem?_row_eq_some] at hf hg
    rw [hf.2, hg.2, Span.maxX]
    simp only [position_succ]
    ring
  case last =>
    intro i f hf hn
    rw [hframes, titleRow, getElem?_row_eq_some] at hf
    rw [hcontent, ← natural_add_spare, naturalWidth, hf.2, Span.maxX]
    simp only [titleRow_position, ← hn, position_succ]
    have hsum := shares_sum i (spareRoom delegate menu) menu.layoutMode
    linarith

structure SameLayout (menu t : WMMenuView) : Prop where
  frames : t.frames = menu.frames
  contentWidth : t.contentWidth = menu.contentWidth
  scrollFrame : t.scrollFrame = menu.scrollFrame
  layoutMode : t.layoutMode = menu.layoutMode

theorem TitlesLaid.congr {menu t : WMMenuView} (hmenu : TitlesLaid delegate menu)
    (h : SameLayout menu t) : TitlesLaid delegate t := by
  have hroom : spareRoom delegate t = spareRoom delegate menu := by
    rw [spareRoom, spareRoom, h.scrollFrame]
  constructor
  · rw [h.frames, hmenu.count]
  · rw [h.contentWidth, h.scrollFrame, hmenu.content]
  · rw [h.frames]
    exact hmenu.titles
  · rw [h.frames, h.layoutMode, hroom]
    exact hmenu.first
  · rw [h.frames, h.layoutMode, hroom]
    exact hmenu.next
  · rw [h.frames, h.contentWidth, h.layoutMode, hroom]
    exact hmenu.last

theorem TitlesLaid.content_covers {menu : WMMenuView} (h : TitlesLaid delegate menu) :
    menu.scrollFrame.width ≤ menu.contentWidth := by
  rw [h.content]
  exact le_max_right ..

section

variable {menu : WMMenuView} (hwidth : ∀ i, 0 ≤ delegate.widthForItemAtIndex i)
  (hmargin : ∀ i, 0 ≤ delegate.itemMarginAtIndex i)

include hwidth hmargin

theorem TitlesLaid.apart (h : TitlesLaid delegate menu) {i j : ℕ} (hij : i < j)
    {f g : Span CGFloat} (hf : menu.frames[i]? = some f) (hg : menu.frames[j]? = some g) :
    f.maxX ≤ g.x := by
  have hspare := spareRoom_nonneg delegate menu
  have hshare := (shares_nonneg delegate.numbersOfTitles hspare menu.layoutMode).2.1
  induction j, hij using Nat.le_induction generalizing g with
  | base =>
    have hmargin := hmargin (i + 1)
    rw [h.next i f g hf hg]
    linarith
  | succ j _ ih =>
    have hj : j < menu.frames.length := by
      have hlt := (List.getElem?_eq_some_iff.mp hg).1
      omega
    have hmid : menu.frames[j]? = some menu.frames[j] := List.getElem?_eq_getElem hj
    have hnext := h.next j _ g hmid hg
    have hle := ih hmid
    have hw := hwidth j
    have hm := hmargin (j + 1)
    rw [← h.titles j _ hmid] at hw
    simp only [Span.maxX] at hnext hle ⊢
    linarith

theorem TitlesLaid.inside (h : TitlesLaid delegate menu) {i : ℕ} {f : Span CGFloat}
    (hf : menu.frames[i]? = some f) : 0 ≤ f.x ∧ f.maxX ≤ menu.contentWidth := by
  have hshare := shares_nonneg delegate.numbersOfTitles (spareRoom_nonneg delegate menu) menu.layoutMode
  have hi : i < menu.frames.length := (List.getElem?_eq_some_iff.mp hf).1
  constructor
  · have hzero : menu.frames[0]? = some menu.frames[0] := List.getElem?_eq_getElem (by omega)
    have hfirst := h.first _ hzero
    have hm := hmargin 0
    have hw := hwidth 0
    rw [← h.titles 0 _ hzero] at hw
    rcases Nat.eq_zero_or_pos i with rfl | hpos
    · rw [hzero] at hf
      cases hf
      linarith
    · have hle := h.apart hwidth hmargin hpos hzero hf
      rw [Span.maxX] at hle
      linarith
  · have hlen := h.count
    have hlast : menu.frames[menu.frames.length - 1]? = some menu.frames[menu.frames.length - 1] :=
      List.getElem?_eq_getElem (by omega)
    have hend := h.last _ _ hlast (by omega)
    have hm := hmargin (menu.frames.length - 1 + 1)
    have hw := hwidth (menu.frames.length - 1)
    rw [← h.titles _ _ hlast] at hw
    rcases Nat.eq_or_lt_of_le (Nat.le_sub_one_of_lt hi) with rfl | hlt
    · rw [hlast] at hf
      cases hf
      linarith
    · have hle := h.apart hwidth hmargin hlt hf hlast
      simp only [Span.maxX] at hle hend ⊢
      linarith

end

theorem resetItemFrame_own (menu : WMMenuView) :
    Own (SameLayout menu) (fun t i => t.items[i]?) resetItemFrame := by
  constructor
  · intro t i h
    unfold resetItemFrame
    split
    · exact ⟨h.frames, h.contentWidth, h.scrollFrame, h.layoutMode⟩
    · exact h
  · intro t i j _ hj
    unfold resetItemFrame
    split
    · exact List.getElem?_modify_ne _ _ hj.symm
    · rfl

theorem resetItemFrame_self {menu : WMMenuView} {i : ℕ} {f : Span CGFloat}
    (hf : menu.frames[i]? = some f) :
    (resetItemFrame menu i).items[i]? = menu.items[i]?.map (WMMenuItem.setFrame f) := by
  simp [resetItemFrame, hf]

theorem resetItemFrame_loop (menu : WMMenuView) {keys : List ℕ} (hkeys : keys.Nodup) :
    SameLayout menu (keys.foldl resetItemFrame menu) ∧
      ∀ i ∈ keys, ∀ f, menu.frames[i]? = some f →
        (keys.foldl resetItemFrame menu).items[i]? = menu.items[i]?.map (WMMenuItem.setFrame f) := by
  have hsame : SameLayout menu menu := ⟨rfl, rfl, rfl, rfl⟩
  have hself : ∀ (t : WMMenuView) (i : ℕ), SameLayout menu t → ∀ f, menu.frames[i]? = some f →
      (resetItemFrame t i).items[i]? = t.items[i]?.map (WMMenuItem.setFrame f) := by
    intro t i ht f hf
    rw [← ht.frames] at hf
    exact resetItemFrame_self hf
  constructor
  · exact (resetItemFrame_own menu).foldl_keep keys hsame
  · intro i hi
    exact (resetItemFrame_own menu).foldl_of_mem (R := fun i before item => ∀ f,
      menu.frames[i]? = some f → item = before.map (WMMenuItem.setFrame f)) hself hkeys hsame hi

theorem calculateItemFrames_titlesLaid {menu : WMMenuView} (hframes : menu.frames = []) :
    TitlesLaid delegate (calculateItemFrames delegate menu) := by
  rw [calculateItemFrames_row hframes]
  apply titlesLaid_of_row
  · rfl
  · rfl

theorem calculateItemFrames_items (menu : WMMenuView) :
    (calculateItemFrames delegate menu).items = menu.items := by
  unfold calculateItemFrames
  dsimp only
  split <;> rfl

theorem resetFramesFromIndex_laid (menu : WMMenuView) :
    TitlesLaid delegate (resetFramesFromIndex delegate 0 menu) := by
  have hlaid : TitlesLaid delegate (calculateItemFrames delegate { menu with frames := [] }) :=
    calculateItemFrames_titlesLaid rfl
  have hsame := (resetItemFrame_loop (calculateItemFrames delegate { menu with frames := [] })
    (List.nodup_range' 1 (s := 0) (n := delegate.numbersOfTitles - 0))).1
  exact hlaid.congr ⟨hsame.frames, hsame.contentWidth, hsame.scrollFrame, hsame.layoutMode⟩

theorem resetFramesFromIndex_items {menu : WMMenuView} {i : ℕ} {f : Span CGFloat}
    (hf : (resetFramesFromIndex delegate 0 menu).frames[i]? = some f) :
    (resetFramesFromIndex delegate 0 menu).items[i]? =
      menu.items[i]?.map (WMMenuItem.setFrame f) := by
  have hi : i < delegate.numbersOfTitles := by
    rw [← (resetFramesFromIndex_laid menu).count]
    exact (List.getElem?_eq_some_iff.mp hf).1
  obtain ⟨hsame, hitems⟩ := resetItemFrame_loop
    (calculateItemFrames delegate { menu with frames := [] })
    (List.nodup_range' 1 (s := 0) (n := delegate.numbersOfTitles - 0))
  have hframe : (calculateItemFrames delegate { menu with frames := [] }).frames[i]? = some f := by
    rw [← hsame.frames]
    exact hf
  have hitem := hitems i (List.mem_range'_1.mpr ⟨Nat.zero_le i, by omega⟩) f hframe
  rwa [calculateItemFrames_items] at hitem

theorem makeStyle_layout (delegate : WMMenuViewDelegate) (menu : WMMenuView) :
    SameLayout menu (makeStyle delegate menu) := by
  unfold makeStyle
  split
  · exact ⟨rfl, rfl, rfl, rfl⟩
  · exact ⟨rfl, rfl, rfl, rfl⟩

theorem makeStyle_items (menu : WMMenuView) : (makeStyle delegate menu).items = menu.items := by
  unfold makeStyle
  split <;> rfl

theorem addItems_laid (delegate : WMMenuViewDelegate) {menu : WMMenuView} (hframes : menu.frames = []) :
    TitlesLaid delegate (addItems delegate menu) :=
  (calculateItemFrames_titlesLaid hframes).congr ⟨rfl, rfl, rfl, rfl⟩

theorem addItems_getElem? {menu : WMMenuView} (i : ℕ) :
    (addItems delegate menu).items[i]? = (addItems delegate menu).frames[i]?.map fun frame =>
      (initItem delegate (calculateItemFrames delegate menu) i frame).setSelected
        (decide (i = 0)) false := by
  simp only [addItems, List.getElem?_mapIdx]
  congr 1
  funext frame
  split
  · rename_i hi
    rw [decide_eq_true hi]
  · rename_i hi
    rw [decide_eq_false hi]

def cleared (menu : WMMenuView) : WMMenuView :=
  { menu with frames := [], progressView := none, items := [], selItem := none }

theorem reload_eq (menu : WMMenuView) :
    reload delegate menu = makeStyle delegate (addItems delegate (cleared menu)) := rfl

theorem reload_laid (menu : WMMenuView) : TitlesLaid delegate (reload delegate menu) := by
  rw [reload_eq]
  exact (addItems_laid delegate rfl).congr (makeStyle_layout delegate _)

end WMMenuView

end MixedProject
