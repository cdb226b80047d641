import MixedProject.MenuLayout

namespace MixedProject.WMMenuView

open RowLayout StepAnimation

variable {delegate : WMMenuViewDelegate}

def didPressedMenuItem (index : ℕ) (menu : WMMenuView) : WMMenuView :=
  if menu.selItem = some (index : ℤ) then menu else pressItem index (moveProgress index menu)

def selectItemAtIndex (index : ℤ) (menu : WMMenuView) : WMMenuView :=
  if menu.selItem = some index ∨ menu.selItem = none then menu
  else refreshContenOffset (selectItem index menu)

/-- One frame of the screen, at which every running link fires. -/
def screenFrame (menu : WMMenuView) : WMMenuView :=
  { menu with
    items := menu.items.map WMMenuItem.rateChange
    progressView := menu.progressView.map WMProgressView.progressChanged }

inductive MenuEvent
  | resize (width : CGFloat)
  | slide (progress : CGFloat)
  | select (index : ℤ)
  | press (index : ℕ)
  | refresh
  | deselect
  | screenFrame

def perform (delegate : WMMenuViewDelegate) (menu : WMMenuView) : MenuEvent → WMMenuView
  | .resize width => resetFrames delegate { menu with width }
  | .slide progress => slideMenuAtProgress progress menu
  | .select index => selectItemAtIndex index menu
  | .press index => if index < menu.items.length then didPressedMenuItem index menu else menu
  | .refresh => refreshContenOffset menu
  | .deselect => deselectedItemsIfNeeded menu
  | .screenFrame => screenFrame menu

structure Ready (delegate : WMMenuViewDelegate) (menu : WMMenuView) : Prop where
  laid : TitlesLaid delegate menu
  items : menu.items.length = delegate.numbersOfTitles
  bar : ∀ bar, menu.progressView = some bar →
    bar.itemFrames = convertProgressWidthsToFrames delegate menu

structure Placed (delegate : WMMenuViewDelegate) (menu : WMMenuView) : Prop where
  sized : ∀ (i : ℕ) item, menu.items[i]? = some item →
    item.Sized (delegate.titleSizeForState .normal i) (delegate.titleSizeForState .selected i)
  rated : ∀ (i : ℕ) item, menu.items[i]? = some item → item.Rated
  seated : ∀ (i : ℕ) slot item, menu.frames[i]? = some slot → menu.items[i]? = some item →
    item.Seated slot

structure Follows (before item : WMMenuItem) : Prop where
  midX : item.midX = before.midX
  boundsWidth : item.boundsWidth = before.boundsWidth
  normalSize : item.normalSize = before.normalSize
  selectedSize : item.selectedSize = before.selectedSize
  rated : before.Rated → item.Rated

theorem Follows.refl (item : WMMenuItem) : Follows item item := ⟨rfl, rfl, rfl, rfl, id⟩

theorem Follows.trans {item next last : WMMenuItem} (h : Follows item next) (h' : Follows next last) :
    Follows item last :=
  ⟨h'.midX.trans h.midX, h'.boundsWidth.trans h.boundsWidth, h'.normalSize.trans h.normalSize,
    h'.selectedSize.trans h.selectedSize, fun hrated => h'.rated (h.rated hrated)⟩

theorem Follows.seated {before item : WMMenuItem} {slot : Span CGFloat} (h : Follows before item)
    (hseated : before.Seated slot) : item.Seated slot := by
  have hscale : item.minScale = before.minScale := by
    rw [WMMenuItem.minScale, WMMenuItem.minScale, h.normalSize, h.selectedSize]
  obtain ⟨scale, hin, hwidth⟩ := hseated.bounds
  refine ⟨h.midX.trans hseated.mid, scale, ?_, ?_⟩
  · rw [WMMenuItem.InScale, hscale]
    exact hin
  · rw [h.boundsWidth]
    exact hwidth

theorem setRate_follows (rate : CGFloat) (item : WMMenuItem) : Follows item (item.setRate rate) :=
  ⟨rfl, rfl, rfl, rfl, WMMenuItem.setRate_rated rate⟩

theorem setSelected_follows (selected animation : Bool) (item : WMMenuItem) :
    Follows item (item.setSelected selected animation) := by
  refine ⟨?_, ?_, ?_, ?_, WMMenuItem.setSelected_rated selected animation⟩
  all_goals cases animation <;> rfl

theorem rateChange_follows (item : WMMenuItem) : Follows item item.rateChange :=
  ⟨rfl, rfl, rfl, rfl, WMMenuItem.rateChange_rated⟩

structure SamePlaces (menu t : WMMenuView) : Prop where
  layout : SameLayout menu t
  length : t.items.length = menu.items.length
  items : ∀ (i : ℕ) item, t.items[i]? = some item →
    ∃ before, menu.items[i]? = some before ∧ Follows before item
  widths : t.progressWidths = menu.progressWidths
  bar : ∀ bar, t.progressView = some bar →
    ∃ before, menu.progressView = some before ∧ bar.itemFrames = before.itemFrames

theorem SamePlaces.of_items {menu : WMMenuView} {items : List WMMenuItem}
    (hlength : items.length = menu.items.length)
    (h : ∀ (i : ℕ) item, items[i]? = some item →
      ∃ before, menu.items[i]? = some before ∧ Follows before item) :
    SamePlaces menu { menu with items } :=
  ⟨⟨rfl, rfl, rfl, rfl⟩, hlength, h, rfl, fun bar hbar => ⟨bar, hbar, rfl⟩⟩

theorem SamePlaces.refl (menu : WMMenuView) : SamePlaces menu menu :=
  .of_items rfl fun _ item hitem => ⟨item, hitem, .refl item⟩

theorem SamePlaces.trans {menu t u : WMMenuView} (h : SamePlaces menu t) (h' : SamePlaces t u) :
    SamePlaces menu u := by
  constructor
  · exact ⟨h'.layout.frames.trans h.layout.frames,
      h'.layout.contentWidth.trans h.layout.contentWidth,
      h'.layout.scrollFrame.trans h.layout.scrollFrame,
      h'.layout.layoutMode.trans h.layout.layoutMode⟩
  · exact h'.length.trans h.length
  · intro i item hitem
    obtain ⟨next, hnext, hfollows⟩ := h'.items i item hitem
    obtain ⟨before, hbefore, hfirst⟩ := h.items i next hnext
    exact ⟨before, hbefore, hfirst.trans hfollows⟩
  · exact h'.widths.trans h.widths
  · intro bar hbar
    obtain ⟨mid, hmid, hframes⟩ := h'.bar bar hbar
    obtain ⟨before, hbefore, hframes'⟩ := h.bar mid hmid
    exact ⟨before, hbefore, hframes.trans hframes'⟩

theorem Ready.samePlaces {menu t : WMMenuView} (hmenu : Ready delegate menu)
    (h : SamePlaces menu t) : Ready delegate t := by
  refine ⟨hmenu.laid.congr h.layout, h.length.trans hmenu.items, ?_⟩
  intro bar hbar
  obtain ⟨before, hbefore, hframes⟩ := h.bar bar hbar
  rw [hframes, hmenu.bar before hbefore, convertProgressWidthsToFrames,
    convertProgressWidthsToFrames, h.layout.frames, h.widths]

theorem Placed.samePlaces {menu t : WMMenuView} (hmenu : Placed delegate menu)
    (h : SamePlaces menu t) : Placed delegate t := by
  constructor
  · intro i item hitem
    obtain ⟨before, hbefore, hfollows⟩ := h.items i item hitem
    have hsized := hmenu.sized i before hbefore
    exact ⟨hfollows.normalSize.trans hsized.normal, hfollows.selectedSize.trans hsized.selected⟩
  · intro i item hitem
    obtain ⟨before, hbefore, hfollows⟩ := h.items i item hitem
    exact hfollows.rated (hmenu.rated i before hbefore)
  · intro i slot item hslot hitem
    obtain ⟨before, hbefore, hfollows⟩ := h.items i item hitem
    rw [h.layout.frames] at hslot
    exact hfollows.seated (hmenu.seated i slot before hslot hbefore)

theorem getElem?_modifyItem (f : WMMenuItem → WMMenuItem) (index : Option ℤ) (menu : WMMenuView)
    (i : ℕ) :
    (modifyItem f index menu).items[i]? =
      if index = some (i : ℤ) then menu.items[i]?.map f else menu.items[i]? := by
  unfold modifyItem
  split
  · rename_i k
    by_cases hk : 0 ≤ k
    · rw [if_pos hk, List.getElem?_modify]
      by_cases heq : k = i
      · simp [heq]
      · have hne : k.toNat ≠ i := by omega
        simp [heq, hne]
    · have hne : k ≠ i := by omega
      simp [hk, hne]
  · simp

theorem modifyItem_eq (f : WMMenuItem → WMMenuItem) (index : Option ℤ) (menu : WMMenuView) :
    modifyItem f index menu = { menu with items := (modifyItem f index menu).items } ∧
      (modifyItem f index menu).items.length = menu.items.length := by
  unfold modifyItem
  split
  · split
    · exact ⟨rfl, List.length_modify ..⟩
    · exact ⟨rfl, rfl⟩
  · exact ⟨rfl, rfl⟩

theorem modifyItem_rest (f : WMMenuItem → WMMenuItem) (index : Option ℤ) (menu : WMMenuView) :
    (modifyItem f index menu).progressView = menu.progressView ∧
      (modifyItem f index menu).selItem = menu.selItem ∧
      (modifyItem f index menu).items.length = menu.items.length := by
  obtain ⟨heq, hlength⟩ := modifyItem_eq f index menu
  refine ⟨?_, ?_, hlength⟩
  · rw [heq]
  · rw [heq]

theorem modifyItem_samePlaces {f : WMMenuItem → WMMenuItem} (hf : ∀ item, Follows item (f item))
    (index : Option ℤ) (menu : WMMenuView) : SamePlaces menu (modifyItem f index menu) := by
  obtain ⟨heq, hlength⟩ := modifyItem_eq f index menu
  rw [heq]
  apply SamePlaces.of_items hlength
  intro i item hitem
  rw [getElem?_modifyItem] at hitem
  split at hitem
  · obtain ⟨before, hbefore, rfl⟩ := Option.map_eq_some_iff.mp hitem
    exact ⟨before, hbefore, hf before⟩
  · exact ⟨item, hitem, .refl item⟩

theorem refreshContenOffset_samePlaces (menu : WMMenuView) :
    SamePlaces menu (refreshContenOffset menu) :=
  ⟨⟨rfl, rfl, rfl, rfl⟩, rfl, (SamePlaces.refl menu).items, rfl, fun bar hbar => ⟨bar, hbar, rfl⟩⟩

theorem setSelItem_samePlaces (index : Option ℤ) (menu : WMMenuView) :
    SamePlaces menu (setSelItem index menu) :=
  ⟨⟨rfl, rfl, rfl, rfl⟩, rfl, (SamePlaces.refl menu).items, rfl, fun bar hbar => ⟨bar, hbar, rfl⟩⟩

theorem updateProgressView_samePlaces (f : WMProgressView → WMProgressView)
    (hf : ∀ bar, (f bar).itemFrames = bar.itemFrames) (menu : WMMenuView) :
    SamePlaces menu (updateProgressView f menu) := by
  refine ⟨⟨rfl, rfl, rfl, rfl⟩, rfl, (SamePlaces.refl menu).items, rfl, ?_⟩
  intro bar hbar
  obtain ⟨before, hbefore, rfl⟩ := Option.map_eq_some_iff.mp hbar
  exact ⟨before, hbefore, hf before⟩

theorem reselect_samePlaces (index : Option ℤ) (menu : WMMenuView) :
    SamePlaces menu (reselect index menu) := by
  unfold reselect
  apply SamePlaces.trans (modifyItem_samePlaces (setSelected_follows false false) _ menu)
  apply SamePlaces.trans (setSelItem_samePlaces index _)
  exact modifyItem_samePlaces (setSelected_follows true false) _ _

theorem slideMenuAtProgress_samePlaces (progress : CGFloat) (menu : WMMenuView) :
    SamePlaces menu (slideMenuAtProgress progress menu) := by
  unfold slideMenuAtProgress
  dsimp only
  apply SamePlaces.trans (updateProgressView_samePlaces (WMProgressView.setProgress progress)
    (fun _ => rfl) menu)
  split
  · exact (reselect_samePlaces _ _).trans (refreshContenOffset_samePlaces _)
  · apply SamePlaces.trans (modifyItem_samePlaces (setRate_follows _) _ _)
    exact modifyItem_samePlaces (setRate_follows _) _ _

theorem selectItemAtIndex_samePlaces (index : ℤ) (menu : WMMenuView) :
    SamePlaces menu (selectItemAtIndex index menu) := by
  unfold selectItemAtIndex
  split
  · exact .refl menu
  · apply SamePlaces.trans (reselect_samePlaces _ _)
    apply SamePlaces.trans
      (updateProgressView_samePlaces (WMProgressView.setProgressWithOutAnimate index) (fun _ => rfl) _)
    exact refreshContenOffset_samePlaces _

theorem pressItem_samePlaces (index : ℤ) (menu : WMMenuView) :
    SamePlaces menu (pressItem index menu) := by
  unfold pressItem
  apply SamePlaces.trans (modifyItem_samePlaces (setSelected_follows true true) _ menu)
  apply SamePlaces.trans (modifyItem_samePlaces (setSelected_follows false true) _ _)
  exact setSelItem_samePlaces _ _

theorem didPressedMenuItem_samePlaces (index : ℕ) (menu : WMMenuView) :
    SamePlaces menu (didPressedMenuItem index menu) := by
  unfold didPressedMenuItem
  split
  · exact .refl menu
  · apply SamePlaces.trans
      (updateProgressView_samePlaces (WMProgressView.moveToPostion index) (fun _ => rfl) menu)
    exact pressItem_samePlaces _ _

theorem deselectedItemsIfNeeded_samePlaces (menu : WMMenuView) :
    SamePlaces menu (deselectedItemsIfNeeded menu) := by
  apply SamePlaces.of_items
  · simp
  · intro i item hitem
    rw [List.getElem?_mapIdx] at hitem
    obtain ⟨before, hbefore, rfl⟩ := Option.map_eq_some_iff.mp hitem
    refine ⟨before, hbefore, ?_⟩
    split
    · exact .refl before
    · exact setSelected_follows false false before

theorem screenFrame_samePlaces (menu : WMMenuView) : SamePlaces menu (screenFrame menu) := by
  refine ⟨⟨rfl, rfl, rfl, rfl⟩, List.length_map .., ?_, rfl, ?_⟩
  · intro i item hitem
    rw [screenFrame, List.getElem?_map] at hitem
    obtain ⟨before, hbefore, rfl⟩ := Option.map_eq_some_iff.mp hitem
    exact ⟨before, hbefore, rateChange_follows before⟩
  · intro bar hbar
    obtain ⟨before, hbefore, rfl⟩ := Option.map_eq_some_iff.mp hbar
    exact ⟨before, hbefore, rfl⟩

def unplaced (item : WMMenuItem) : WMMenuItem := { item with midX := 0, boundsWidth := 0 }

structure SameMotion (menu t : WMMenuView) : Prop where
  items : t.items.map unplaced = menu.items.map unplaced
  selItem : t.selItem = menu.selItem
  bar : ∀ bar, t.progressView = some bar →
    ∃ before, menu.progressView = some before ∧ bar.motion = before.motion ∧
      bar.speedFactor = before.speedFactor

theorem SameMotion.length {menu t : WMMenuView} (h : SameMotion menu t) :
    t.items.length = menu.items.length := by
  rw [← List.length_map (f := unplaced), h.items, List.length_map]

theorem SameMotion.item {menu t : WMMenuView} (h : SameMotion menu t) {i : ℕ} {item : WMMenuItem}
    (hitem : t.items[i]? = some item) :
    ∃ before, menu.items[i]? = some before ∧ unplaced item = unplaced before := by
  have hmap : (t.items.map unplaced)[i]? = some (unplaced item) := by
    rw [List.getElem?_map, hitem]
    rfl
  rw [h.items, List.getElem?_map, Option.map_eq_some_iff] at hmap
  obtain ⟨before, hbefore, heq⟩ := hmap
  exact ⟨before, hbefore, heq.symm⟩

theorem SameMotion.of_eq {menu t : WMMenuView} (hitems : t.items = menu.items)
    (hsel : t.selItem = menu.selItem) (hview : t.progressView = menu.progressView) :
    SameMotion menu t := by
  refine ⟨by rw [hitems], hsel, ?_⟩
  intro bar hbar
  exact ⟨bar, by rw [← hview, hbar], rfl, rfl⟩

theorem resetItemFrame_sameMotion (menu : WMMenuView) (i : ℕ) :
    SameMotion menu (resetItemFrame menu i) := by
  unfold resetItemFrame
  split
  · refine ⟨?_, rfl, fun bar hbar => ⟨bar, hbar, rfl, rfl⟩⟩
    apply List.ext_getElem?
    intro j
    rw [List.getElem?_map, List.getElem?_map, List.getElem?_modify]
    split
    · simp only [Option.map_eq_map, Option.map_map]
      rfl
    · simp
  · exact .of_eq rfl rfl rfl

theorem SameMotion.trans {menu t u : WMMenuView} (h : SameMotion menu t) (h' : SameMotion t u) :
    SameMotion menu u := by
  refine ⟨h'.items.trans h.items, h'.selItem.trans h.selItem, ?_⟩
  intro bar hbar
  obtain ⟨mid, hmid, hmotion, hspeed⟩ := h'.bar bar hbar
  obtain ⟨before, hbefore, hmotion', hspeed'⟩ := h.bar mid hmid
  exact ⟨before, hbefore, hmotion.trans hmotion', hspeed.trans hspeed'⟩

theorem resetItemFrame_loop_sameMotion (keys : List ℕ) (menu : WMMenuView) :
    SameMotion menu (keys.foldl resetItemFrame menu) := by
  induction keys generalizing menu with
  | nil => exact .of_eq rfl rfl rfl
  | cons i keys ih => exact (resetItemFrame_sameMotion menu i).trans (ih _)

theorem calculateItemFrames_sameMotion (delegate : WMMenuViewDelegate) (menu : WMMenuView) :
    SameMotion menu (calculateItemFrames delegate menu) := by
  unfold calculateItemFrames
  dsimp only
  split
  · exact .of_eq rfl rfl rfl
  · exact .of_eq rfl rfl rfl

theorem resetFramesFromIndex_sameMotion (delegate : WMMenuViewDelegate) (menu : WMMenuView) :
    SameMotion menu (resetFramesFromIndex delegate 0 menu) := by
  have hlaid := (calculateItemFrames_sameMotion delegate { menu with frames := [] }).trans
    (resetItemFrame_loop_sameMotion (List.range' 0 (delegate.numbersOfTitles - 0)) _)
  refine ⟨hlaid.items, hlaid.selItem, ?_⟩
  intro bar hbar
  simp only [resetFramesFromIndex, Option.map_eq_some_iff] at hbar
  obtain ⟨mid, hmid, rfl⟩ := hbar
  exact hlaid.bar mid hmid

theorem resetFrames_eq (delegate : WMMenuViewDelegate) (menu : WMMenuView) : ∃ scrollFrame,
    resetFrames delegate menu = resetFramesFromIndex delegate 0 { menu with scrollFrame } := ⟨_, rfl⟩

theorem resetFrames_ready {menu : WMMenuView}
    (hitems : menu.items.length = delegate.numbersOfTitles) :
    Ready delegate (resetFrames delegate menu) := by
  obtain ⟨scrollFrame, heq⟩ := resetFrames_eq delegate menu
  rw [heq]
  refine ⟨resetFramesFromIndex_laid _, ?_, ?_⟩
  · rw [(resetFramesFromIndex_sameMotion delegate _).length, hitems]
  · intro bar hbar
    obtain ⟨before, _, rfl⟩ := Option.map_eq_some_iff.mp hbar
    rfl

theorem calculateItemFrames_keeps (delegate : WMMenuViewDelegate) (menu : WMMenuView) :
    (calculateItemFrames delegate menu).speedFactor = menu.speedFactor ∧
      (calculateItemFrames delegate menu).selItem = menu.selItem ∧
      (calculateItemFrames delegate menu).progressView = menu.progressView := by
  unfold calculateItemFrames
  dsimp only
  split
  · exact ⟨rfl, rfl, rfl⟩
  · exact ⟨rfl, rfl, rfl⟩

theorem makeStyle_bar {menu : WMMenuView} {bar : WMProgressView} (hnone : menu.progressView = none)
    (hbar : (makeStyle delegate menu).progressView = some bar) :
    bar.motion = {} ∧ bar.speedFactor = menu.speedFactor ∧
      bar.itemFrames = convertProgressWidthsToFrames delegate (makeStyle delegate menu) := by
  unfold makeStyle at hbar ⊢
  split at hbar
  · rw [hnone] at hbar
    cases hbar
  · rename_i hstyle
    cases hbar
    rw [if_neg hstyle]
    exact ⟨rfl, rfl, rfl⟩

theorem reload_ready (menu : WMMenuView) : Ready delegate (reload delegate menu) := by
  have hlaid : TitlesLaid delegate (reload delegate menu) := reload_laid menu
  refine ⟨hlaid, ?_, ?_⟩
  · rw [← hlaid.count, reload, makeStyle_items, (makeStyle_layout delegate _).frames]
    simp [addItems]
  · intro bar hbar
    exact (makeStyle_bar (calculateItemFrames_keeps delegate _).2.2 hbar).2.2

theorem perform_cases (delegate : WMMenuViewDelegate) (menu : WMMenuView) (e : MenuEvent) :
    (∃ width, e = .resize width) ∨ SamePlaces menu (perform delegate menu e) := by
  cases e with
  | resize width => exact .inl ⟨width, rfl⟩
  | slide progress => exact .inr (slideMenuAtProgress_samePlaces progress menu)
  | select index => exact .inr (selectItemAtIndex_samePlaces index menu)
  | press index =>
    right
    rw [perform]
    split
    · exact didPressedMenuItem_samePlaces index menu
    · exact .refl menu
  | refresh => exact .inr (refreshContenOffset_samePlaces menu)
  | deselect => exact .inr (deselectedItemsIfNeeded_samePlaces menu)
  | screenFrame => exact .inr (screenFrame_samePlaces menu)

theorem perform_ready {menu : WMMenuView} (h : Ready delegate menu) (e : MenuEvent) :
    Ready delegate (perform delegate menu e) := by
  rcases perform_cases delegate menu e with ⟨width, rfl⟩ | hsame
  · exact resetFrames_ready h.items
  · exact h.samePlaces hsame

def run (delegate : WMMenuViewDelegate) (menu : WMMenuView) (events : List MenuEvent) : WMMenuView :=
  events.foldl (perform delegate) menu

theorem run_ready {menu : WMMenuView} (h : Ready delegate menu) (events : List MenuEvent) :
    Ready delegate (run delegate menu events) := by
  induction events generalizing menu with
  | nil => exact h
  | cons e events ih => exact ih (perform_ready h e)

theorem reload_placed (menu : WMMenuView) : Placed delegate (reload delegate menu) := by
  have hitem : ∀ (i : ℕ) item, (reload delegate menu).items[i]? = some item →
      ∃ slot first, (reload delegate menu).frames[i]? = some slot ∧
        Follows (initItem delegate first i slot) item := by
    intro i item hitem
    rw [reload_eq, makeStyle_items, addItems_getElem?, Option.map_eq_some_iff] at hitem
    obtain ⟨slot, hslot, rfl⟩ := hitem
    refine ⟨slot, _, ?_, setSelected_follows _ false _⟩
    rw [reload_eq, (makeStyle_layout delegate _).frames]
    exact hslot
  constructor
  · intro i item hi
    obtain ⟨slot, first, -, hfollows⟩ := hitem i item hi
    exact ⟨hfollows.normalSize, hfollows.selectedSize⟩
  · intro i item hi
    obtain ⟨slot, first, -, hfollows⟩ := hitem i item hi
    exact hfollows.rated ⟨le_rfl, zero_le_one⟩
  · intro i slot item hslot hi
    obtain ⟨slot', first, hslot', hfollows⟩ := hitem i item hi
    rw [hslot] at hslot'
    cases hslot'
    exact hfollows.seated ⟨rfl, 1, ⟨min_le_right _ _, le_max_right _ _⟩, mul_one _⟩

section

variable (hsize : ∀ state i, 0 < delegate.titleSizeForState state i)

include hsize

theorem Placed.sizes_pos {menu : WMMenuView} (h : Placed delegate menu) {i : ℕ} {item : WMMenuItem}
    (hitem : menu.items[i]? = some item) : 0 < item.normalSize ∧ 0 < item.selectedSize := by
  have hsized := h.sized i item hitem
  rw [hsized.normal, hsized.selected]
  exact ⟨hsize .normal i, hsize .selected i⟩

theorem resetFrames_placed {menu : WMMenuView} (h : Placed delegate menu) :
    Placed delegate (resetFrames delegate menu) := by
  obtain ⟨scrollFrame, heq⟩ := resetFrames_eq delegate menu
  have hsame := resetFramesFromIndex_sameMotion delegate { menu with scrollFrame }
  rw [heq]
  constructor
  · intro i item hitem
    obtain ⟨before, hbefore, hunplaced⟩ := hsame.item hitem
    have hsized := h.sized i before hbefore
    exact ⟨(congrArg WMMenuItem.normalSize hunplaced).trans hsized.normal,
      (congrArg WMMenuItem.selectedSize hunplaced).trans hsized.selected⟩
  · intro i item hitem
    obtain ⟨before, hbefore, hunplaced⟩ := hsame.item hitem
    have hrated := h.rated i before hbefore
    have hrate : item.rate = before.rate :=
      congrArg (fun unplaced => unplaced.motion.value) hunplaced
    refine ⟨?_, ?_⟩
    · rw [hrate]
      exact hrated.low
    · rw [hrate]
      exact hrated.high
  · intro i slot item hslot hitem
    rw [resetFramesFromIndex_items hslot] at hitem
    obtain ⟨before, hbefore, rfl⟩ := Option.map_eq_some_iff.mp hitem
    obtain ⟨hnormal, hselected⟩ := h.sizes_pos hsize hbefore
    exact WMMenuItem.setFrame_seated hnormal hselected (h.rated i before hbefore)

theorem run_placed {menu : WMMenuView} (h : Placed delegate menu) (events : List MenuEvent) :
    Placed delegate (run delegate menu events) := by
  induction events generalizing menu with
  | nil => exact h
  | cons e events ih =>
    apply ih
    rcases perform_cases delegate menu e with ⟨width, rfl⟩ | hsame
    · have hresized : Placed delegate { menu with width } := ⟨h.sized, h.rated, h.seated⟩
      exact resetFrames_placed hsize hresized
    · exact h.samePlaces hsame

end

def enlargement (delegate : WMMenuViewDelegate) (i : ℕ) : CGFloat :=
  max (delegate.titleSizeForState .normal i) (delegate.titleSizeForState .selected i) /
    min (delegate.titleSizeForState .normal i) (delegate.titleSizeForState .selected i)

/-- The slots do not overlap and stay inside the content, and each title is drawn around the middle
of its slot at a width that differs from the slot's by no more than the ratio of its two sizes. -/
structure InOrder (delegate : WMMenuViewDelegate) (menu : WMMenuView) : Prop where
  apart : ∀ (i j : ℕ) f g, i < j → menu.frames[i]? = some f → menu.frames[j]? = some g →
    f.maxX ≤ g.x
  inside : ∀ (i : ℕ) f, menu.frames[i]? = some f → 0 ≤ f.x ∧ f.maxX ≤ menu.contentWidth
  drawn : ∀ (i : ℕ) slot item, menu.frames[i]? = some slot → menu.items[i]? = some item →
    item.frame.x + item.frame.width / 2 = slot.x + slot.width / 2 ∧
      item.frame.width ≤ enlargement delegate i * slot.width ∧
      slot.width ≤ enlargement delegate i * item.frame.width
  fixed : ∀ (i : ℕ) slot item, menu.frames[i]? = some slot → menu.items[i]? = some item →
    delegate.titleSizeForState .normal i = delegate.titleSizeForState .selected i →
      item.frame = slot

def InView (menu : WMMenuView) (f : Span CGFloat) : Prop :=
  menu.contentOffset ≤ f.x ∧ f.maxX ≤ menu.contentOffset + menu.scrollFrame.width

theorem selItemFrame_eq {menu : WMMenuView} {i : ℕ} {item : WMMenuItem}
    (hsel : menu.selItem = some (i : ℤ)) (hitem : menu.items[i]? = some item) :
    menu.selItemFrame = item.frame := by
  have hat : itemAtIndex (i : ℤ) menu = some item := by
    rw [itemAtIndex, if_pos (Int.natCast_nonneg i), Int.toNat_natCast, hitem]
  rw [selItemFrame, hsel, Option.bind_some, hat]

theorem selItemFrame_cases (menu : WMMenuView) :
    menu.selItemFrame = ⟨0, 0⟩ ∨
      ∃ (i : ℕ) (item : WMMenuItem), menu.items[i]? = some item ∧ menu.selItemFrame = item.frame := by
  cases hitem : menu.selItem.bind menu.itemAtIndex with
  | none =>
    left
    rw [selItemFrame, hitem]
  | some item =>
    right
    obtain ⟨index, _, hat⟩ := Option.bind_eq_some_iff.mp hitem
    rw [itemAtIndex, Option.ite_none_right_eq_some] at hat
    refine ⟨index.toNat, item, hat.2, ?_⟩
    rw [selItemFrame, hitem]

/-- The offset keeps to the content, and the selected title as it is drawn is in view unless it is
wider than the window, sticks out of the content, or starts in the window's first half and runs
out of it. -/
structure Centered (menu : WMMenuView) : Prop where
  low : 0 ≤ menu.contentOffset
  high : menu.contentOffset + menu.scrollFrame.width ≤ menu.contentWidth
  shows : ∀ (i : ℕ) item, menu.selItem = some (i : ℤ) → menu.items[i]? = some item →
    (InView menu item.frame ↔ (0 ≤ item.frame.x ∧ item.frame.maxX ≤ menu.contentWidth) ∧
      item.frame.width ≤ menu.scrollFrame.width ∧
      (item.frame.x ≤ menu.scrollFrame.width / 2 → item.frame.maxX ≤ menu.scrollFrame.width))

section

variable {menu : WMMenuView}

theorem centeredOffset_bounds (hw : 0 ≤ menu.selItemFrame.width)
    (hcover : menu.scrollFrame.width ≤ menu.contentWidth) :
    0 ≤ menu.centeredOffset ∧ menu.centeredOffset + menu.scrollFrame.width ≤ menu.contentWidth := by
  unfold centeredOffset
  dsimp only
  split_ifs
  all_goals
    constructor <;> linarith

theorem centeredOffset_inView (hw : 0 ≤ menu.selItemFrame.width)
    (hcover : menu.scrollFrame.width ≤ menu.contentWidth) :
    menu.centeredOffset ≤ menu.selItemFrame.x ∧
        menu.selItemFrame.maxX ≤ menu.centeredOffset + menu.scrollFrame.width ↔
      (0 ≤ menu.selItemFrame.x ∧ menu.selItemFrame.maxX ≤ menu.contentWidth) ∧
        menu.selItemFrame.width ≤ menu.scrollFrame.width ∧
        (menu.selItemFrame.x ≤ menu.scrollFrame.width / 2 →
          menu.selItemFrame.maxX ≤ menu.scrollFrame.width) := by
  obtain ⟨hlow, hhigh⟩ := centeredOffset_bounds hw hcover
  rw [Span.maxX]
  constructor
  · rintro ⟨hleft, hright⟩
    refine ⟨⟨hlow.trans hleft, hright.trans hhigh⟩, by linarith, ?_⟩
    intro hhalf
    have hoffset : menu.centeredOffset = 0 := if_neg (not_lt.mpr hhalf)
    linarith
  · rintro ⟨⟨hzero, hx⟩, hfits, hhalf⟩
    by_cases hfar : menu.selItemFrame.x > menu.scrollFrame.width / 2
    · unfold centeredOffset
      dsimp only
      rw [if_pos hfar]
      split_ifs
      all_goals
        constructor <;> linarith
    · have hoffset : menu.centeredOffset = 0 := if_neg hfar
      have hend := hhalf (not_lt.mp hfar)
      rw [hoffset]
      constructor <;> linarith

end

section

variable (hwidth : ∀ i, 0 ≤ delegate.widthForItemAtIndex i)
  (hmargin : ∀ i, 0 ≤ delegate.itemMarginAtIndex i)
  (hsize : ∀ state i, 0 < delegate.titleSizeForState state i)

include hwidth hsize

theorem drawn_width {menu : WMMenuView} (h : Ready delegate menu) (hplaced : Placed delegate menu)
    {i : ℕ} {slot : Span CGFloat} {item : WMMenuItem} (hslot : menu.frames[i]? = some slot)
    (hitem : menu.items[i]? = some item) :
    0 ≤ item.frame.width ∧ item.frame.width ≤ enlargement delegate i * slot.width ∧
      slot.width ≤ enlargement delegate i * item.frame.width := by
  have hslotWidth : 0 ≤ slot.width := by
    rw [h.laid.titles i _ hslot]
    exact hwidth i
  have hsized := hplaced.sized i item hitem
  have henlarged : item.enlargement = enlargement delegate i := by
    rw [WMMenuItem.enlargement, hsized.normal, hsized.selected, enlargement]
  obtain ⟨hnormal, hselected⟩ := hplaced.sizes_pos hsize hitem
  rw [← henlarged]
  exact (hplaced.seated i slot item hslot hitem).frame_width hnormal hselected
    (hplaced.rated i item hitem) hslotWidth

theorem selItemFrame_width {menu : WMMenuView} (h : Ready delegate menu)
    (hplaced : Placed delegate menu) : 0 ≤ menu.selItemFrame.width := by
  rcases selItemFrame_cases menu with hzero | ⟨i, item, hitem, hframe⟩
  · rw [hzero]
  · have hi : i < menu.frames.length := by
      rw [h.laid.count, ← h.items]
      exact (List.getElem?_eq_some_iff.mp hitem).1
    rw [hframe]
    exact (drawn_width hwidth hsize h hplaced (List.getElem?_eq_getElem hi) hitem).1

theorem refreshContenOffset_centered {menu : WMMenuView} (h : Ready delegate menu)
    (hplaced : Placed delegate menu) : Centered (refreshContenOffset menu) := by
  have hw := selItemFrame_width hwidth hsize h hplaced
  obtain ⟨hlow, hhigh⟩ := centeredOffset_bounds hw h.laid.content_covers
  refine ⟨hlow, hhigh, ?_⟩
  intro i item hsel hitem
  have hframe : menu.selItemFrame = item.frame := selItemFrame_eq hsel hitem
  have hview := centeredOffset_inView hw h.laid.content_covers
  rw [hframe] at hview
  exact hview

include hmargin

theorem run_titles_in_order (menu : WMMenuView) (events : List MenuEvent) :
    Ready delegate (run delegate (reload delegate menu) events) ∧
      InOrder delegate (run delegate (reload delegate menu) events) := by
  have hready : Ready delegate (run delegate (reload delegate menu) events) :=
    run_ready (reload_ready menu) events
  have hplaced : Placed delegate (run delegate (reload delegate menu) events) :=
    run_placed hsize (reload_placed menu) events
  refine ⟨hready, ?_, ?_, ?_, ?_⟩
  · intro i j f g hij hf hg
    exact hready.laid.apart hwidth hmargin hij hf hg
  · intro i f hf
    exact hready.laid.inside hwidth hmargin hf
  · intro i slot item hslot hitem
    exact ⟨(hplaced.seated i slot item hslot hitem).frame_mid,
      (drawn_width hwidth hsize hready hplaced hslot hitem).2⟩
  · intro i slot item hslot hitem hsame
    have hsized := hplaced.sized i item hitem
    rw [← hsized.normal, ← hsized.selected] at hsame
    exact (hplaced.seated i slot item hslot hitem).frame_eq (hplaced.sizes_pos hsize hitem).2
      (hplaced.rated i item hitem) hsame

omit hmargin in
theorem run_refresh_centered (menu : WMMenuView) (events : List MenuEvent) :
    Centered (refreshContenOffset (run delegate (reload delegate menu) events)) :=
  refreshContenOffset_centered hwidth hsize (run_ready (reload_ready menu) events)
    (run_placed hsize (reload_placed menu) events)

end

def sizeForState : WMMenuItemState → CGFloat
  | .selected => 18
  | .normal => 15

def twoTitles : WMMenuViewDelegate := ⟨2, fun _ => 65, fun _ => 0, fun state _ => sizeForState state⟩

theorem twoTitles_width (i : ℕ) : 0 ≤ twoTitles.widthForItemAtIndex i := by
  norm_num [twoTitles]

theorem twoTitles_margin (i : ℕ) : 0 ≤ twoTitles.itemMarginAtIndex i := le_rfl

theorem twoTitles_size (state : WMMenuItemState) (i : ℕ) : 0 < twoTitles.titleSizeForState state i := by
  cases state <;> norm_num [twoTitles, sizeForState]

theorem two_titles_in_order :
    Ready twoTitles (run twoTitles (reload twoTitles {}) [.resize 100, .press 1, .slide (1 / 2)]) ∧
      InOrder twoTitles
        (run twoTitles (reload twoTitles {}) [.resize 100, .press 1, .slide (1 / 2)]) :=
  run_titles_in_order twoTitles_width twoTitles_margin twoTitles_size {}
    [.resize 100, .press 1, .slide (1 / 2)]

theorem two_titles_centered :
    Centered (refreshContenOffset (run twoTitles (reload twoTitles {}) [.resize 100, .press 1])) :=
  run_refresh_centered twoTitles_width twoTitles_size {} [.resize 100, .press 1]

end MixedProject.WMMenuView
