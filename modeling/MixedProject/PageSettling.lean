import MixedProject.MenuAnimation
import MixedProject.PageRuns

namespace MixedProject

open StepAnimation Traces

namespace WMMenuView

structure SameSelection (menu t : WMMenuView) : Prop where
  items : t.items.length = menu.items.length
  selItem : t.selItem = menu.selItem

theorem SameMotion.sameSelection {menu t : WMMenuView} (h : SameMotion menu t) :
    SameSelection menu t := ⟨h.length, h.selItem⟩

theorem resetFrames_sameSelection (delegate : WMMenuViewDelegate) (menu : WMMenuView) :
    SameSelection menu (resetFrames delegate menu) := by
  have hreset := (resetFramesFromIndex_sameMotion delegate { menu with
    scrollFrame := ⟨0 + menu.leftViewWidth + menu.contentMargin,
      menu.width - menu.rightViewWidth - menu.leftViewWidth - menu.contentMargin * 2⟩ }).sameSelection
  exact ⟨hreset.items, hreset.selItem⟩

theorem setUserInteractionEnabled_sameSelection (enabled : Bool) (menu : WMMenuView) :
    SameSelection menu (menu.setUserInteractionEnabled enabled) := ⟨rfl, rfl⟩

theorem deselectedItemsIfNeeded_sameSelection (menu : WMMenuView) :
    SameSelection menu (deselectedItemsIfNeeded menu) :=
  ⟨(deselectedItemsIfNeeded_samePlaces menu).length, rfl⟩

theorem screenFrame_sameSelection (menu : WMMenuView) : SameSelection menu (screenFrame menu) :=
  ⟨(screenFrame_samePlaces menu).length, rfl⟩

theorem reselect_selItem (index : Option ℤ) (menu : WMMenuView) :
    (reselect index menu).selItem = index := by
  unfold reselect
  exact (modifyItem_rest _ _ _).2.1

theorem viewWithTag_of_lt {menu : WMMenuView} {page : ℕ} (hpage : page < menu.items.length) :
    viewWithTag page menu = some (page : ℤ) :=
  if_pos ⟨Int.natCast_nonneg page, by exact_mod_cast hpage⟩

theorem slideMenuAtProgress_selItem (progress : CGFloat) (menu : WMMenuView) :
    (slideMenuAtProgress progress menu).selItem =
      if progress - truncate progress = 0 then viewWithTag (truncate progress) menu
      else menu.selItem := by
  unfold slideMenuAtProgress
  dsimp only
  split
  · exact reselect_selItem _ _
  · rw [(modifyItem_rest _ _ _).2.1, (modifyItem_rest _ _ _).2.1]
    rfl

theorem selectItem_selItem (index : ℤ) (menu : WMMenuView) :
    (selectItem index menu).selItem = viewWithTag index menu :=
  reselect_selItem _ _

theorem selectItem_length (index : ℤ) (menu : WMMenuView) :
    (selectItem index menu).items.length = menu.items.length :=
  (reselect_samePlaces (viewWithTag index menu) menu).length

theorem addItems_length (delegate : WMMenuViewDelegate) {menu : WMMenuView}
    (hframes : menu.frames = []) :
    (addItems delegate menu).items.length = delegate.numbersOfTitles := by
  have hlaid : TitlesLaid delegate (calculateItemFrames delegate menu) :=
    calculateItemFrames_titlesLaid hframes
  rw [addItems, List.length_mapIdx]
  exact hlaid.count

theorem addItems_first (delegate : WMMenuViewDelegate) {menu : WMMenuView}
    (hframes : menu.frames = []) (hnone : menu.selItem = none) (htitles : 0 < delegate.numbersOfTitles) :
    (addItems delegate menu).selItem = some 0 := by
  rcases addItems_selItem delegate hnone with ⟨hnil, _⟩ | ⟨hfirst, _⟩
  · have hlength := addItems_length delegate hframes
    rw [hnil, List.length_nil] at hlength
    omega
  · exact hfirst

theorem reload_first (delegate : WMMenuViewDelegate) (menu : WMMenuView)
    (htitles : 0 < delegate.numbersOfTitles) :
    (reload delegate menu).items.length = delegate.numbersOfTitles ∧
      (reload delegate menu).selItem = some 0 := by
  rw [reload_eq, makeStyle_items, makeStyle_selItem]
  exact ⟨addItems_length delegate rfl, addItems_first delegate rfl rfl htitles⟩

theorem willMoveToSuperview_first (delegate : WMMenuViewDelegate) {menu : WMMenuView}
    (hframes : menu.frames = []) (hnone : menu.selItem = none) (htitles : 0 < delegate.numbersOfTitles) :
    (willMoveToSuperview delegate menu).items.length = delegate.numbersOfTitles ∧
      (willMoveToSuperview delegate menu).selItem = some 0 := by
  unfold willMoveToSuperview
  rw [makeStyle_items, makeStyle_selItem]
  exact ⟨addItems_length delegate hframes, addItems_first delegate hframes hnone htitles⟩

end WMMenuView

namespace WMPageController

open WMMenuView

variable {keeps : NSCacheKeeps} {callsBack : Bool} {c d e : WMPageController}

/-- The menu has an item for every page, and at the offset of a page its item is the selected one. -/
structure Tracks (c : WMPageController) (menu : WMMenuView) : Prop where
  items : menu.items.length = c.childControllersCount
  selected : ∃ page : ℕ, page < c.childControllersCount ∧ menu.selItem = some (page : ℤ)
  atPage : ∀ page : ℕ, page < c.childControllersCount →
    c.scrollView.contentOffsetX = page * c.viewWidth → menu.selItem = some (page : ℤ)

structure SettledAt (page : ℕ) (c : WMPageController) : Prop where
  inRange : page < c.childControllersCount
  offset : c.scrollView.contentOffsetX = page * c.viewWidth
  selectIndex : c.selectIndex = page
  current : ∃ vc, c.displayVC page = some vc ∧ vc.page = page ∧ c.currentViewController = some vc
  title : ∃ menu, c.menuView = some menu ∧ menu.selItem = some (page : ℤ)

structure Steady (c : WMPageController) (menu : WMMenuView) : Prop where
  windowed : Windowed c
  plain : c.pageAnimatable = false
  inited : c.hasInited = true
  menuView : c.menuView = some menu
  items : menu.items.length = c.childControllersCount
  selected : ∃ page : ℕ, page < c.childControllersCount ∧ menu.selItem = some (page : ℤ)

structure Opening (c : WMPageController) (menu : WMMenuView) : Prop where
  menuView : c.menuView = some menu
  items : menu.items.length = c.childControllersCount
  inRange : c.selectIndex < c.childControllersCount
  current : c.currentViewController = c.displayVC c.selectIndex
  selected : ∃ page : ℕ, page < c.childControllersCount ∧ menu.selItem = some (page : ℤ)
  unmarked : c.markedSelectIndex = -1 → menu.selItem = some c.selectIndex
  marked : c.markedSelectIndex ≠ -1 → c.markedSelectIndex < c.childControllersCount ∧
    (menu.selItem = some c.markedSelectIndex → c.markedSelectIndex = c.selectIndex)

structure Synced (c : WMPageController) : Prop where
  windowed : Windowed c
  plain : c.pageAnimatable = false
  shows : c.menuView ≠ none
  marked : c.hasInited = true → c.markedSelectIndex = -1
  tracks : c.hasInited = true → ∃ menu, c.menuView = some menu ∧ Tracks c menu
  before : c.hasInited = false → 0 < c.childControllersCount → ∃ menu, Opening c menu

theorem Tracks.congr {menu t : WMMenuView} (h : Tracks c menu)
    (hcount : d.childControllersCount = c.childControllersCount) (hwidth : d.viewWidth = c.viewWidth)
    (hscroll : d.scrollView = c.scrollView) (hsame : SameSelection menu t) : Tracks d t := by
  constructor
  · rw [hsame.items, hcount]
    exact h.items
  · rw [hsame.selItem, hcount]
    exact h.selected
  · rw [hsame.selItem, hcount, hwidth, hscroll]
    exact h.atPage

theorem Fitted.page_unique (h : Fitted c) {page other : ℕ}
    (hpage : c.scrollView.contentOffsetX = page * c.viewWidth)
    (hother : c.scrollView.contentOffsetX = other * c.viewWidth) : page = other := by
  rw [hpage] at hother
  exact_mod_cast mul_right_cancel₀ h.wide.ne' hother

theorem Tracks.of_page (h : Fitted c) {menu : WMMenuView} {page : ℕ}
    (hitems : menu.items.length = c.childControllersCount) (hpage : page < c.childControllersCount)
    (hoffset : c.scrollView.contentOffsetX = page * c.viewWidth)
    (hselected : menu.selItem = some (page : ℤ)) : Tracks c menu := by
  refine ⟨hitems, ⟨page, hpage, hselected⟩, ?_⟩
  intro other _ hother
  rw [← h.page_unique hoffset hother]
  exact hselected

theorem wmLayout_selectIndex {page : ℤ} (hscreen : ∀ i, c.isInScreen i = true → i = page)
    (hselect : c.selectIndex = page) :
    (c.wmLayoutChildViewControllers keeps).selectIndex = page := by
  unfold wmLayoutChildViewControllers
  refine (List.foldlRecOn (motive := fun d => SameScreen c d ∧ d.selectIndex = page) _ _
    ⟨.refl c, hselect⟩ ?_).2
  rintro d ⟨hsame, hd⟩ i _
  refine ⟨hsame.trans (layoutChild_same keeps _ _ d i), ?_⟩
  unfold layoutChildViewController
  split
  · split
    · rename_i hon
      rw [hsame.isInScreen] at hon
      rw [← hscreen i hon]
      unfold wmInitializedControllerWithIndexIfNeeded
      split
      · rfl
      · rfl
    · exact hd
  · split_ifs
    · exact (wmRemove_selectIndex keeps _ _ d).trans hd
    · exact hd
    · exact hd

theorem jumpTo_same (keeps : NSCacheKeeps) (callsBack : Bool)
    (hunlocked : c.shouldNotScroll = false) (hin : c.hasInited = true)
    (hrest : c.startDragging = false) (x : CGFloat) :
    SameScreen (c.setContentOffset x 0) (c.jumpTo keeps callsBack x) ∧
      (c.jumpTo keeps callsBack x = c.setContentOffset x 0 ∨
        c.jumpTo keeps callsBack x = (c.setContentOffset x 0).wmLayoutChildViewControllers keeps) := by
  have hscroll : (c.setContentOffset x 0).scrollViewDidScroll keeps =
      (c.setContentOffset x 0).wmLayoutChildViewControllers keeps := by
    have hsame := wmLayout_same keeps (c.setContentOffset x 0)
    have hpass : (c.setContentOffset x 0).didScroll keeps =
        (c.setContentOffset x 0).wmLayoutChildViewControllers keeps := by
      have hquiet : ((c.setContentOffset x 0).wmLayoutChildViewControllers keeps).startDragging =
          false := hsame.startDragging.trans hrest
      have hfree : ((c.setContentOffset x 0).shouldNotScroll ||
          !(c.setContentOffset x 0).hasInited) = false := by
        change (c.shouldNotScroll || !c.hasInited) = false
        rw [hunlocked, hin]
        rfl
      rw [didScroll, hfree, if_neg Bool.false_ne_true, slide, hquiet, if_neg Bool.false_ne_true]
    have hzero : ((c.setContentOffset x 0).wmLayoutChildViewControllers keeps).scrollView.contentOffsetY =
        0 := by
      rw [hsame.scrollView]
      rfl
    have hfree : ((c.setContentOffset x 0).shouldNotScroll ||
        !(c.setContentOffset x 0).hasInited) = false := by
      change (c.shouldNotScroll || !c.hasInited) = false
      rw [hunlocked, hin]
      rfl
    rw [scrollViewDidScroll, hfree, if_neg Bool.false_ne_true]
    dsimp only
    rw [hpass, if_pos hzero]
  unfold jumpTo
  dsimp only
  rw [hscroll]
  split
  · exact ⟨wmLayout_same keeps _, .inr rfl⟩
  · exact ⟨.refl _, .inl rfl⟩

structure Landed (index : ℕ) (c d : WMPageController) : Prop where
  count : d.childControllersCount = c.childControllersCount
  viewWidth : d.viewWidth = c.viewWidth
  offset : d.scrollView.contentOffsetX = index * c.viewWidth
  menuView : d.menuView = c.menuView
  hasInited : d.hasInited = c.hasInited
  marked : d.markedSelectIndex = c.markedSelectIndex
  pageAnimatable : d.pageAnimatable = c.pageAnimatable
  selectIndex : d.selectIndex = index
  current : ∃ vc, d.displayVC index = some vc ∧ d.currentViewController = some vc

theorem didEnter_assigns (c : WMPageController) {index : ℤ} (hindex : c.selectIndex = index) :
    (c.didEnterController index).selectIndex = index := by
  subst hindex
  exact didEnter_selectIndex c

theorem removeCurrent_selectIndex (keeps : NSCacheKeeps) (currentIndex : ℤ) (c : WMPageController) :
    (c.removeCurrent keeps currentIndex).selectIndex = c.selectIndex := by
  unfold removeCurrent
  split
  · exact wmRemove_selectIndex _ _ _ _
  · rfl

theorem Movable.landed (h : Movable c) (hplain : c.pageAnimatable = false) {index : ℕ}
    (hindex : index < c.childControllersCount) (currentIndex : ℤ) :
    Landed index c (c.didSelesctedIndex keeps callsBack index currentIndex) := by
  have hset : Movable ((c.assignSelectIndex index).setStartDragging false) :=
    h.congr ⟨rfl, rfl, rfl, rfl, rfl, rfl, rfl⟩
      ⟨Int.natCast_nonneg index, h.owned.shown, h.owned.cached, h.owned.background⟩ rfl
  have hrun : c.didSelesctedIndex keeps callsBack index currentIndex =
      ((((((c.assignSelectIndex index).setStartDragging false).jumpTo keeps callsBack
        (c.viewWidth * index)).removeCurrent keeps currentIndex).wmLayoutChildViewControllers
        keeps).showCurrent).didEnterController index := by
    rw [didSelesctedIndex, h.inited, Bool.not_true, if_neg Bool.false_ne_true]
    exact if_neg (fun hanimated => Bool.false_ne_true (hplain.symm.trans hanimated))
  rw [hrun]
  obtain ⟨hsame, hpass⟩ := jumpTo_same keeps callsBack hset.unlocked hset.inited rfl
    (c.viewWidth * index)
  have hjumped := hset.jumpTo keeps callsBack (c.viewWidth * index)
  have hplace : (((c.assignSelectIndex index).setStartDragging false).setContentOffset
      (c.viewWidth * index) 0).scrollView.contentOffsetX =
        ((index : ℤ) : ℚ) * c.viewWidth := by
    rw [Int.cast_natCast]
    exact mul_comm _ _
  have hselect : (((c.assignSelectIndex index).setStartDragging false).jumpTo keeps callsBack
      (c.viewWidth * index)).selectIndex = index := by
    rcases hpass with hstays | hlays
    · rw [hstays]
      rfl
    · rw [hlays]
      apply wmLayout_selectIndex _ rfl
      intro i hon
      exact ((hset.setContentOffset _ _).fitted.isInScreen_page hplace i).mp hon
  generalize ((c.assignSelectIndex index).setStartDragging false).jumpTo keeps callsBack
    (c.viewWidth * index) = jumped at hsame hjumped hselect ⊢
  have hremoved := hjumped.removeCurrent keeps currentIndex
  have hstill := removeCurrent_same keeps currentIndex jumped
  have hkept := (removeCurrent_selectIndex keeps currentIndex jumped).trans hselect
  generalize jumped.removeCurrent keeps currentIndex = removed at hremoved hstill hkept ⊢
  have hoffset : removed.scrollView.contentOffsetX = ((index : ℤ) : ℚ) * removed.viewWidth := by
    rw [hstill.scrollView, hsame.scrollView, hstill.viewWidth, hsame.viewWidth]
    exact hplace
  have hscreen := hremoved.fitted.isInScreen_page hoffset
  have hlaid := wmLayout_same keeps removed
  have hlast : (removed.wmLayoutChildViewControllers keeps).selectIndex = index :=
    wmLayout_selectIndex (fun i hon => (hscreen i).mp hon) hkept
  have hcount : index < removed.childControllersCount := by
    rw [hstill.count, hsame.count]
    exact hindex
  obtain ⟨vc, hvc⟩ := Option.ne_none_iff_exists'.mp
    ((wmLayout_window keeps removed hcount).1 ((hscreen index).mpr rfl))
  generalize removed.wmLayoutChildViewControllers keeps = laid at hlaid hlast hvc ⊢
  have hgrows := didEnter_grows index laid.showCurrent
  have hscreens := (hsame.trans hstill).trans hlaid
  constructor
  · exact hgrows.same.count.trans hscreens.count
  · exact hgrows.same.viewWidth.trans hscreens.viewWidth
  · rw [hgrows.same.scrollView]
    exact (congrArg WMScrollView.contentOffsetX hscreens.scrollView).trans
      (hplace.trans (by rw [Int.cast_natCast]))
  · exact hgrows.same.menuView.trans hscreens.menuView
  · exact hgrows.same.hasInited.trans hscreens.hasInited
  · exact hgrows.same.marked.trans hscreens.marked
  · exact hgrows.same.pageAnimatable.trans hscreens.pageAnimatable
  · exact didEnter_assigns laid.showCurrent hlast
  · refine ⟨vc, hgrows.shown index vc hvc, ?_⟩
    rw [hgrows.same.currentViewController, WMPageController.showCurrent, hlast]
    exact hvc

theorem Landed.settled {index : ℕ} (h : Landed index c d) (hd : Windowed d)
    (hindex : index < c.childControllersCount) {menu : WMMenuView}
    (hmenu : e.menuView = some menu) (hsame : SameWindow d e) (hselect : e.selectIndex = d.selectIndex)
    (hcurrent : e.currentViewController = d.currentViewController)
    (hselected : menu.selItem = some (index : ℤ)) : SettledAt index e := by
  obtain ⟨vc, hvc, hshown⟩ := h.current
  constructor
  · rw [hsame.count, h.count]
    exact hindex
  · rw [hsame.scrollView, hsame.viewWidth, h.viewWidth]
    exact h.offset
  · rw [hselect]
    exact h.selectIndex
  · rw [hsame.displayVC, hcurrent]
    exact ⟨vc, hvc, (hd.owned.shown _ vc hvc).1, hshown⟩
  · exact ⟨menu, hmenu, hselected⟩

theorem Synced.steady (h : Synced c) (hin : c.hasInited = true) :
    ∃ menu, Steady c menu ∧ Tracks c menu := by
  obtain ⟨menu, hmenu, htracks⟩ := h.tracks hin
  exact ⟨menu, ⟨h.windowed, h.plain, hin, hmenu, htracks.items, htracks.selected⟩, htracks⟩

theorem Steady.synced {menu : WMMenuView} (h : Steady c menu) (hmarked : c.markedSelectIndex = -1)
    (htracks : Tracks c menu) : Synced c := by
  refine ⟨h.windowed, h.plain, ?_, fun _ => hmarked, fun _ => ⟨menu, h.menuView, htracks⟩, ?_⟩
  · rw [h.menuView]
    exact Option.some_ne_none menu
  · intro hout
    exact absurd (h.inited.symm.trans hout) Bool.false_ne_true.symm

theorem Synced.updateMenuView (h : Synced c) {f : WMMenuView → WMMenuView}
    (hf : ∀ menu, SameSelection menu (f menu)) : Synced (c.updateMenuView f) := by
  refine ⟨h.windowed.updateMenuView f, h.plain, ?_, h.marked, ?_, ?_⟩
  · intro hnone
    exact h.shows (Option.map_eq_none_iff.mp hnone)
  · intro hin
    obtain ⟨menu, hmenu, htracks⟩ := h.tracks hin
    refine ⟨f menu, ?_, htracks.congr rfl rfl rfl (hf menu)⟩
    exact congrArg (Option.map f) hmenu
  · intro hout hcount
    obtain ⟨menu, hopen⟩ := h.before hout hcount
    refine ⟨f menu, congrArg (Option.map f) hopen.menuView, ?_, hopen.inRange, hopen.current, ?_, ?_,
      ?_⟩
    · rw [(hf menu).items]
      exact hopen.items
    · rw [(hf menu).selItem]
      exact hopen.selected
    · rw [(hf menu).selItem]
      exact hopen.unmarked
    · rw [(hf menu).selItem]
      exact hopen.marked

theorem Steady.select (keeps : NSCacheKeeps) (callsBack : Bool) {menu : WMMenuView}
    (h : Steady c menu) (hmarked : c.markedSelectIndex = -1) {index : ℕ}
    (hindex : index < c.childControllersCount) (currentIndex : ℤ)
    (f g : WMMenuView → WMMenuView) (hitems : (g (f menu)).items.length = menu.items.length)
    (hselected : (g (f menu)).selItem = some (index : ℤ)) :
    Synced (((c.updateMenuView f).didSelesctedIndex keeps callsBack index currentIndex).updateMenuView
        g) ∧
      SettledAt index (((c.updateMenuView f).didSelesctedIndex keeps callsBack index
        currentIndex).updateMenuView g) := by
  have hwindowed := h.windowed.updateMenuView f
  have hland : Landed index (c.updateMenuView f)
      ((c.updateMenuView f).didSelesctedIndex keeps callsBack index currentIndex) :=
    (hwindowed.movable h.inited).landed h.plain hindex currentIndex
  have hd : Windowed ((c.updateMenuView f).didSelesctedIndex keeps callsBack index currentIndex) :=
    hwindowed.didSelesctedIndex (Int.natCast_nonneg index) currentIndex
  generalize (c.updateMenuView f).didSelesctedIndex keeps callsBack index currentIndex = d at hland hd ⊢
  have hview : d.menuView = some (f menu) :=
    hland.menuView.trans (congrArg (Option.map f) h.menuView)
  have hgone := hd.updateMenuView g
  have hsteady : Steady (d.updateMenuView g) (g (f menu)) := by
    refine ⟨hgone, hland.pageAnimatable.trans h.plain, hland.hasInited.trans h.inited,
      congrArg (Option.map g) hview, ?_, ⟨index, hland.count.symm ▸ hindex, hselected⟩⟩
    exact hitems.trans (h.items.trans hland.count.symm)
  refine ⟨hsteady.synced (hland.marked.trans hmarked) ?_,
    hland.settled hd hindex hsteady.menuView (updateMenuView_sameWindow g d) rfl rfl hselected⟩
  refine Tracks.of_page (hgone.laid hsteady.inited).fitted hsteady.items (hland.count.symm ▸ hindex) ?_
    hselected
  exact hland.offset.trans (congrArg (fun width => (index : ℚ) * width) hland.viewWidth.symm)

def Elsewhere (index : ℕ) (c : WMPageController) : Prop :=
  ∃ menu, c.menuView = some menu ∧ menu.selItem ≠ some (index : ℤ)

theorem Synced.didPressedMenuItem (h : Synced c) (hin : c.hasInited = true) {index : ℕ}
    (hindex : index < c.childControllersCount) :
    Synced (c.didPressedMenuItem keeps callsBack index) ∧
      (Elsewhere index c → SettledAt index (c.didPressedMenuItem keeps callsBack index)) := by
  obtain ⟨menu, hsteady, htracks⟩ := h.steady hin
  unfold WMPageController.didPressedMenuItem
  rw [hsteady.menuView]
  dsimp only
  by_cases hsel : menu.selItem = some (index : ℤ)
  · rw [if_pos hsel]
    refine ⟨h, ?_⟩
    rintro ⟨other, hother, hne⟩
    obtain rfl : menu = other := Option.some.inj (hsteady.menuView.symm.trans hother)
    exact absurd hsel hne
  · rw [if_neg hsel]
    have hlength : (pressItem index (moveProgress index menu)).items.length = menu.items.length :=
      (pressItem_samePlaces (index : ℤ) (moveProgress index menu)).length
    have hselect := hsteady.select keeps callsBack (h.marked hin) hindex (currentIndex menu)
      (moveProgress index) (pressItem index) hlength rfl
    exact ⟨hselect.1, fun _ => hselect.2⟩

theorem Steady.selectItemAtIndex {menu : WMMenuView} (h : Steady c menu)
    (hmarked : c.markedSelectIndex = -1) {index : ℕ} (hindex : index < c.childControllersCount)
    (hne : menu.selItem ≠ some (index : ℤ)) :
    Synced (c.selectItemAtIndex keeps callsBack index) ∧
      SettledAt index (c.selectItemAtIndex keeps callsBack index) := by
  obtain ⟨page, _, hpage⟩ := h.selected
  have hgoes : ¬ ((index : ℤ) = currentIndex menu ∨ menu.selItem = none) := by
    rw [currentIndex, hpage, Option.getD_some, not_or]
    refine ⟨?_, Option.some_ne_none _⟩
    intro hsame
    rw [hpage, hsame] at hne
    exact hne rfl
  unfold WMPageController.selectItemAtIndex
  rw [h.menuView]
  dsimp only
  rw [if_neg hgoes]
  apply h.select keeps callsBack hmarked hindex (currentIndex menu) (selectItem index) refreshContenOffset
  · exact selectItem_length index menu
  · rw [← h.items] at hindex
    exact (selectItem_selItem index menu).trans (viewWithTag_of_lt hindex)

theorem selectItem_same {menu : WMMenuView} (hmenu : c.menuView = some menu) {index : ℤ}
    (hsel : menu.selItem = some index) : c.selectItemAtIndex keeps callsBack index = c := by
  have hstays : index = currentIndex menu ∨ menu.selItem = none := by
    rw [currentIndex, hsel]
    exact .inl rfl
  unfold WMPageController.selectItemAtIndex
  rw [hmenu]
  exact if_pos hstays

theorem Steady.assign {menu : WMMenuView} (h : Steady c menu) (index : ℕ) :
    Steady ((c.assignSelectIndex index).setMarkedSelectIndex (-1)) menu :=
  ⟨h.windowed.assign h.inited (Int.natCast_nonneg index) (.inl rfl), h.plain, h.inited, h.menuView,
    h.items, h.selected⟩

theorem Steady.setSelectIndex_eq {menu : WMMenuView} (h : Steady c menu) (index : ℤ) :
    c.setSelectIndex keeps callsBack index =
      ((c.assignSelectIndex index).setMarkedSelectIndex (-1)).selectItemAtIndex keeps callsBack
        index := by
  have hready : (((c.assignSelectIndex index).setMarkedSelectIndex (-1)).menuView.isSome &&
      ((c.assignSelectIndex index).setMarkedSelectIndex (-1)).hasInited) = true := by
    change (c.menuView.isSome && c.hasInited) = true
    rw [h.menuView, h.inited]
    rfl
  exact if_pos hready

theorem Synced.setSelectIndex (h : Synced c) (hin : c.hasInited = true) {index : ℕ}
    (hindex : index < c.childControllersCount) :
    Synced (c.setSelectIndex keeps callsBack index) ∧
      (Elsewhere index c → SettledAt index (c.setSelectIndex keeps callsBack index)) := by
  obtain ⟨menu, hsteady, htracks⟩ := h.steady hin
  rw [hsteady.setSelectIndex_eq]
  have hset := hsteady.assign index
  by_cases hsel : menu.selItem = some (index : ℤ)
  · rw [selectItem_same hset.menuView hsel]
    refine ⟨hset.synced rfl (htracks.congr rfl rfl rfl ⟨rfl, rfl⟩), ?_⟩
    rintro ⟨other, hother, hne⟩
    obtain rfl : menu = other := Option.some.inj (hsteady.menuView.symm.trans hother)
    exact absurd hsel hne
  · obtain ⟨hsynced, hsettled⟩ := hset.selectItemAtIndex rfl hindex hsel
    exact ⟨hsynced, fun _ => hsettled⟩

theorem Fitted.progress_bounds (h : Fitted c) : ∀ x : CGFloat,
    x = (if max 0 c.scrollView.contentOffsetX > c.scrollView.contentWidth - c.viewWidth then
      c.scrollView.contentWidth - c.viewWidth else max 0 c.scrollView.contentOffsetX) →
    0 ≤ x / c.viewWidth ∧ x / c.viewWidth ≤ c.childControllersCount - 1 := by
  intro x hx
  have hcount : (1 : ℚ) ≤ c.childControllersCount := by exact_mod_cast h.count
  have hlimit : c.scrollView.contentWidth - c.viewWidth =
      (c.childControllersCount - 1) * c.viewWidth := by
    rw [h.content]
    ring
  have hlow : 0 ≤ (c.childControllersCount - 1 : ℚ) * c.viewWidth :=
    mul_nonneg (by linarith) h.wide.le
  rw [hlimit] at hx
  rw [div_le_iff₀ h.wide]
  constructor
  · apply div_nonneg _ h.wide.le
    rw [hx]
    split
    · exact hlow
    · exact le_max_left _ _
  · rw [hx]
    split
    · exact le_rfl
    · rename_i hinside
      exact not_lt.mp hinside

theorem slide_tracks (h : Fitted c) (hdrag : c.startDragging = true) {menu : WMMenuView}
    (hmenu : c.menuView = some menu) (hitems : menu.items.length = c.childControllersCount)
    (hselected : ∃ page : ℕ, page < c.childControllersCount ∧ menu.selItem = some (page : ℤ)) :
    ∃ t, c.slide.menuView = some t ∧ Tracks c.slide t := by
  obtain ⟨x, hx⟩ : ∃ x : CGFloat, x =
      (if max 0 c.scrollView.contentOffsetX > c.scrollView.contentWidth - c.viewWidth then
        c.scrollView.contentWidth - c.viewWidth else max 0 c.scrollView.contentOffsetX) := ⟨_, rfl⟩
  have hslide : c.slide = c.updateMenuView (slideMenuAtProgress (x / c.viewWidth)) := by
    rw [slide, if_pos hdrag, hx]
  obtain ⟨hlow, hhigh⟩ := h.progress_bounds x hx
  have hpage := truncate_nonneg hlow
  have hfloor := truncate_le hlow
  rw [hslide]
  refine ⟨slideMenuAtProgress (x / c.viewWidth) menu, ?_, ?_, ?_, ?_⟩
  · exact congrArg (Option.map (slideMenuAtProgress (x / c.viewWidth))) hmenu
  · exact (slideMenuAtProgress_samePlaces _ menu).length.trans hitems
  · rw [slideMenuAtProgress_selItem]
    split
    · lift truncate (x / c.viewWidth) to ℕ using hpage with page
      have hcount : page < c.childControllersCount := by
        have hreal : (page : ℚ) < c.childControllersCount := by
          rw [Int.cast_natCast] at hfloor
          linarith
        exact_mod_cast hreal
      exact ⟨page, hcount, viewWithTag_of_lt (hcount.trans_eq hitems.symm)⟩
    · exact hselected
  · intro page hcount hoffset
    have hcount : page < c.childControllersCount := hcount
    have hoffset : c.scrollView.contentOffsetX = page * c.viewWidth := hoffset
    have hplace : x / c.viewWidth = page := by
      have hlast : (page : ℚ) + 1 ≤ c.childControllersCount := by exact_mod_cast hcount
      have hroom : ((page : ℚ) + 1) * c.viewWidth ≤ c.childControllersCount * c.viewWidth :=
        mul_le_mul_of_nonneg_right hlast h.wide.le
      have hzero : (0 : ℚ) ≤ page * c.viewWidth := mul_nonneg (Nat.cast_nonneg _) h.wide.le
      rw [hoffset, max_eq_right hzero, h.content, if_neg (by linarith)] at hx
      rw [hx, mul_div_assoc, div_self h.wide.ne', mul_one]
    have hwhole : truncate (page : ℚ) = page := by exact_mod_cast truncate_intCast page
    rw [slideMenuAtProgress_selItem, hplace, hwhole, Int.cast_natCast, sub_self, if_pos rfl]
    exact viewWithTag_of_lt (hcount.trans_eq hitems.symm)

structure SameCourse (c d : WMPageController) : Prop where
  count : d.childControllersCount = c.childControllersCount
  pageAnimatable : d.pageAnimatable = c.pageAnimatable
  startDragging : d.startDragging = c.startDragging
  hasInited : d.hasInited = c.hasInited
  marked : d.markedSelectIndex = c.markedSelectIndex

theorem SameScreen.course (h : SameScreen c d) : SameCourse c d :=
  ⟨h.count, h.pageAnimatable, h.startDragging, h.hasInited, h.marked⟩

theorem SameCourse.trans (h : SameCourse c d) (h' : SameCourse d e) : SameCourse c e :=
  ⟨h'.count.trans h.count, h'.pageAnimatable.trans h.pageAnimatable,
    h'.startDragging.trans h.startDragging, h'.hasInited.trans h.hasInited, h'.marked.trans h.marked⟩

theorem slide_course (c : WMPageController) : SameCourse c c.slide := by
  unfold slide
  split
  · exact ⟨rfl, rfl, rfl, rfl, rfl⟩
  · exact ⟨rfl, rfl, rfl, rfl, rfl⟩

theorem setContentOffset_course (x y : CGFloat) (c : WMPageController) :
    SameCourse c (c.setContentOffset x y) := ⟨rfl, rfl, rfl, rfl, rfl⟩

theorem Movable.didScroll_tracks (h : Movable c) (keeps : NSCacheKeeps)
    (hdrag : c.startDragging = true) {menu : WMMenuView} (hmenu : c.menuView = some menu)
    (hitems : menu.items.length = c.childControllersCount)
    (hselected : ∃ page : ℕ, page < c.childControllersCount ∧ menu.selItem = some (page : ℤ)) :
    SameCourse c (c.didScroll keeps) ∧
      ∃ t, (c.didScroll keeps).menuView = some t ∧ Tracks (c.didScroll keeps) t := by
  have hrun : c.didScroll keeps = (c.wmLayoutChildViewControllers keeps).slide := by
    rw [WMPageController.didScroll, h.unlocked, h.inited]
    rfl
  have hsame := wmLayout_same keeps c
  rw [hrun]
  refine ⟨hsame.course.trans (slide_course _), ?_⟩
  apply slide_tracks (h.fitted.same hsame) (hsame.startDragging.trans hdrag)
    (hsame.menuView.trans hmenu)
  · rw [hsame.count]
    exact hitems
  · rw [hsame.count]
    exact hselected

theorem Movable.scrollViewDidScroll_tracks (h : Movable c) (keeps : NSCacheKeeps)
    (hdrag : c.startDragging = true) {menu : WMMenuView} (hmenu : c.menuView = some menu)
    (hitems : menu.items.length = c.childControllersCount)
    (hselected : ∃ page : ℕ, page < c.childControllersCount ∧ menu.selItem = some (page : ℤ)) :
    SameCourse c (c.scrollViewDidScroll keeps) ∧
      ∃ t, (c.scrollViewDidScroll keeps).menuView = some t ∧
        Tracks (c.scrollViewDidScroll keeps) t := by
  obtain ⟨hcourse, t, ht, htracks⟩ := h.didScroll_tracks keeps hdrag hmenu hitems hselected
  unfold WMPageController.scrollViewDidScroll
  rw [h.unlocked, h.inited]
  simp only [Bool.not_true, Bool.or_false, Bool.false_eq_true, if_false]
  split
  · exact ⟨hcourse, t, ht, htracks⟩
  · have hagain := ((h.didScroll keeps).1.setContentOffset
      (c.didScroll keeps).scrollView.contentOffsetX 0).didScroll_tracks keeps
        (hcourse.startDragging.trans hdrag) ht htracks.items htracks.selected
    exact ⟨hcourse.trans ((setContentOffset_course _ _ _).trans hagain.1), hagain.2⟩

theorem Synced.scroll (h : Synced c) (hcontent : 0 < c.scrollView.contentWidth)
    (hdrag : c.startDragging = true) (x y : CGFloat) :
    Synced ((c.setContentOffset x y).scrollViewDidScroll keeps) := by
  have hwindowed : Windowed ((c.setContentOffset x y).scrollViewDidScroll keeps) :=
    h.windowed.scroll hcontent x y
  rcases hin : c.hasInited with _ | _
  · have hquiet : (c.setContentOffset x y).scrollViewDidScroll keeps = c.setContentOffset x y := by
      have hout : (c.setContentOffset x y).hasInited = false := hin
      rw [WMPageController.scrollViewDidScroll, hout, Bool.not_false, Bool.or_true, if_pos rfl]
    rw [hquiet] at hwindowed ⊢
    refine ⟨hwindowed, h.plain, h.shows, h.marked, ?_, ?_⟩
    · intro hinited
      exact absurd (hin.symm.trans hinited) Bool.false_ne_true
    · intro hout hcount
      obtain ⟨menu, hopen⟩ := h.before hout hcount
      exact ⟨menu, hopen.menuView, hopen.items, hopen.inRange, hopen.current, hopen.selected,
        hopen.unmarked, hopen.marked⟩
  · obtain ⟨menu, hsteady, _⟩ := h.steady hin
    obtain ⟨hcourse, t, ht, htracks⟩ :=
      ((h.windowed.movable hin).setContentOffset x y).scrollViewDidScroll_tracks keeps hdrag
        hsteady.menuView hsteady.items hsteady.selected
    have hdone : Steady ((c.setContentOffset x y).scrollViewDidScroll keeps) t :=
      ⟨hwindowed, hcourse.pageAnimatable.trans h.plain, hcourse.hasInited.trans hin, ht, htracks.items,
        htracks.selected⟩
    exact hdone.synced (hcourse.marked.trans (h.marked hin)) htracks

theorem AtPage.inRange (h : Fitted c) {page : ℕ} {x : CGFloat} (hpage : c.AtPage page x) :
    page < c.childControllersCount := by
  obtain ⟨hx, hend⟩ := hpage
  rw [h.content, hx] at hend
  have hfits : ((page : ℚ) + 1) * c.viewWidth ≤ c.childControllersCount * c.viewWidth := by linarith
  have hcount := le_of_mul_le_mul_right hfits h.wide
  exact_mod_cast hcount

theorem Windowed.empty_of_atPage (h : Windowed c) (hout : c.hasInited = false) {page : ℕ}
    {x : CGFloat} (hpage : c.AtPage page x) : c.childControllersCount = 0 :=
  (h.before hout).resolve_right fun hwait => hwait.not_atPage h.wide page x hpage

theorem Synced.didEndDragging (h : Synced c)
    (hrest : c.targetX = c.scrollView.contentOffsetX ∧ ∃ page, c.AtPage page c.targetX) :
    Synced (c.scrollViewDidEndDragging false) := by
  obtain ⟨hoffset, page, hpage⟩ := hrest
  have hwindowed : Windowed (c.scrollViewDidEndDragging false) := h.windowed.updateMenuView _
  refine ⟨hwindowed, h.plain, ?_, h.marked, ?_, ?_⟩
  · intro hnone
    exact h.shows (Option.map_eq_none_iff.mp hnone)
  · intro hin
    have hinited : c.hasInited = true := hin
    obtain ⟨menu, hsteady, _⟩ := h.steady hinited
    have hfitted := (h.windowed.laid hinited).fitted
    have hcount := hpage.inRange hfitted
    have hplace : c.targetX / c.viewWidth = page := by
      rw [hpage.1, mul_div_assoc, div_self hfitted.wide.ne', mul_one]
    have hwhole : truncate (page : ℚ) = page := by exact_mod_cast truncate_intCast page
    refine ⟨_, congrArg (Option.map _) hsteady.menuView, ?_⟩
    refine Tracks.of_page (hwindowed.laid hin).fitted ?_ hcount ?_ ?_
    · rw [(deselectedItemsIfNeeded_sameSelection _).items, (slideMenuAtProgress_samePlaces _ _).length]
      exact hsteady.items
    · exact hoffset.symm.trans hpage.1
    · rw [(deselectedItemsIfNeeded_sameSelection _).selItem, slideMenuAtProgress_selItem, hplace,
        hwhole, Int.cast_natCast, sub_self, if_pos rfl]
      exact viewWithTag_of_lt (hcount.trans_eq hsteady.items.symm)
  · intro hout hcount
    exact absurd (h.windowed.empty_of_atPage hout hpage) hcount.ne'

theorem Synced.didEnter (h : Synced c) : Synced (c.didEnterController c.selectIndex) := by
  have hgrows := didEnter_grows c.selectIndex c
  have hselect := didEnter_selectIndex c
  have hwindowed := h.windowed.didEnter
  generalize c.didEnterController c.selectIndex = d at hgrows hselect hwindowed ⊢
  have hsame := hgrows.same
  refine ⟨hwindowed, hsame.pageAnimatable.trans h.plain, ?_, ?_, ?_, ?_⟩
  · rw [hsame.menuView]
    exact h.shows
  · intro hin
    rw [hsame.marked]
    exact h.marked (hsame.hasInited.symm.trans hin)
  · intro hin
    obtain ⟨menu, hmenu, htracks⟩ := h.tracks (hsame.hasInited.symm.trans hin)
    exact ⟨menu, hsame.menuView.trans hmenu,
      htracks.congr hsame.count hsame.viewWidth hsame.scrollView ⟨rfl, rfl⟩⟩
  · intro hout hcount
    rw [hsame.count] at hcount
    obtain ⟨menu, hopen⟩ := h.before (hsame.hasInited.symm.trans hout) hcount
    have hwait := (h.windowed.before (hsame.hasInited.symm.trans hout)).resolve_left hcount.ne'
    obtain ⟨vc, hvc⟩ := Option.ne_none_iff_exists'.mp hwait.shows
    refine ⟨menu, hsame.menuView.trans hopen.menuView, ?_, ?_, ?_, ?_, ?_, ?_⟩
    · rw [hsame.count]
      exact hopen.items
    · rw [hselect, hsame.count]
      exact hopen.inRange
    · rw [hsame.currentViewController, hopen.current, hselect, hvc, hgrows.shown _ vc hvc]
    · rw [hsame.count]
      exact hopen.selected
    · rw [hsame.marked, hselect]
      exact hopen.unmarked
    · rw [hsame.marked, hselect, hsame.count]
      exact hopen.marked

theorem Synced.keepsPages (h : Synced c) (honly : KeepsPages c d) : Synced d := by
  have hsame := honly.window
  refine ⟨h.windowed.keepsPages honly, honly.pageAnimatable.trans h.plain, ?_, ?_, ?_, ?_⟩
  · rw [honly.menuView]
    exact h.shows
  · intro hin
    rw [honly.marked]
    exact h.marked (hsame.hasInited.symm.trans hin)
  · intro hin
    obtain ⟨menu, hmenu, htracks⟩ := h.tracks (hsame.hasInited.symm.trans hin)
    exact ⟨menu, honly.menuView.trans hmenu,
      htracks.congr hsame.count hsame.viewWidth hsame.scrollView ⟨rfl, rfl⟩⟩
  · intro hout hcount
    rw [hsame.count] at hcount
    obtain ⟨menu, hopen⟩ := h.before (hsame.hasInited.symm.trans hout) hcount
    refine ⟨menu, honly.menuView.trans hopen.menuView, ?_, ?_, ?_, ?_, ?_, ?_⟩
    · rw [hsame.count]
      exact hopen.items
    · rw [honly.selectIndex, hsame.count]
      exact hopen.inRange
    · rw [honly.currentViewController, honly.selectIndex, hsame.displayVC]
      exact hopen.current
    · rw [hsame.count]
      exact hopen.selected
    · rw [honly.marked, honly.selectIndex]
      exact hopen.unmarked
    · rw [honly.marked, honly.selectIndex, hsame.count]
      exact hopen.marked

theorem SettledAt.updateMenuView {page : ℕ} (h : SettledAt page c) {f : WMMenuView → WMMenuView}
    (hf : ∀ menu, SameSelection menu (f menu)) : SettledAt page (c.updateMenuView f) := by
  obtain ⟨menu, hmenu, hselected⟩ := h.title
  refine ⟨h.inRange, h.offset, h.selectIndex, h.current, f menu, congrArg (Option.map f) hmenu, ?_⟩
  rw [(hf menu).selItem]
  exact hselected

theorem SettledAt.didEnter {page : ℕ} (h : SettledAt page c) :
    SettledAt page (c.didEnterController c.selectIndex) := by
  have hgrows := didEnter_grows c.selectIndex c
  obtain ⟨vc, hvc, hpage, hcurrent⟩ := h.current
  constructor
  · rw [hgrows.same.count]
    exact h.inRange
  · rw [hgrows.same.scrollView, hgrows.same.viewWidth]
    exact h.offset
  · rw [didEnter_selectIndex]
    exact h.selectIndex
  · refine ⟨vc, hgrows.shown _ vc hvc, hpage, ?_⟩
    rw [hgrows.same.currentViewController]
    exact hcurrent
  · rw [hgrows.same.menuView]
    exact h.title

theorem Synced.settles (h : Synced c) (hin : c.hasInited = true) {page : ℕ}
    (hpage : c.AtPage page c.scrollView.contentOffsetX) :
    Synced (c.assignSelectIndex page).showCurrent ∧
      SettledAt page (c.assignSelectIndex page).showCurrent := by
  obtain ⟨menu, hsteady, htracks⟩ := h.steady hin
  have hshown := h.windowed.laid hin
  have hinside := hpage.inRange hshown.fitted
  have hon : c.isInScreen page = true := by
    rw [hshown.fitted.isInScreen_page (hpage.1.trans (by rw [Int.cast_natCast]))]
  obtain ⟨vc, hvc⟩ := Option.ne_none_iff_exists'.mp (hshown.covers page hinside hon)
  have hassigned : Windowed (c.assignSelectIndex page) :=
    h.windowed.congr ⟨rfl, rfl, rfl, rfl, rfl, rfl, rfl⟩
      ⟨Int.natCast_nonneg page, h.windowed.owned.shown, h.windowed.owned.cached,
        h.windowed.owned.background⟩ rfl (fun hout => absurd (hin.symm.trans hout) (by decide))
  have hdone : Steady (c.assignSelectIndex page).showCurrent menu :=
    ⟨hassigned.showCurrent, h.plain, hin, hsteady.menuView, hsteady.items, hsteady.selected⟩
  refine ⟨hdone.synced (h.marked hin) (htracks.congr rfl rfl rfl ⟨rfl, rfl⟩), hinside, hpage.1, rfl,
    ?_, ?_⟩
  · exact ⟨vc, hvc, (h.windowed.owned.shown _ vc hvc).1, hvc⟩
  · exact ⟨menu, hsteady.menuView, htracks.atPage page hinside hpage.1⟩

theorem synced_empty (hwindowed : Windowed c) (hplain : c.pageAnimatable = false)
    (hshows : c.menuView ≠ none) (hout : c.hasInited = false) (hnone : c.childControllersCount = 0) :
    Synced c := by
  refine ⟨hwindowed, hplain, hshows, ?_, ?_, ?_⟩
  · intro hin
    exact absurd (hout.symm.trans hin) Bool.false_ne_true
  · intro hin
    exact absurd (hout.symm.trans hin) Bool.false_ne_true
  · intro _ hpos
    exact absurd hnone hpos.ne'

theorem didEnter_empty (hnone : c.childControllersCount = 0) (index : ℤ) :
    c.didEnterController index = c := if_pos hnone

theorem Synced.scrollViewDidEndDecelerating (h : Synced c)
    (hrest : ∃ page, c.AtPage page c.scrollView.contentOffsetX) :
    Synced c.scrollViewDidEndDecelerating ∧
      (c.hasInited = true → ∃ page, c.AtPage page c.scrollView.contentOffsetX ∧
        SettledAt page c.scrollViewDidEndDecelerating) := by
  have hdone : Windowed c.scrollViewDidEndDecelerating :=
    h.windowed.scrollViewDidEndDecelerating hrest
  obtain ⟨page, hpage⟩ := hrest
  have hcurrent := hpage.currentPage h.windowed.wide
  have hmenu : Synced (c.updateMenuView (setUserInteractionEnabled true)) :=
    h.updateMenuView (setUserInteractionEnabled_sameSelection true)
  have hrun : c.scrollViewDidEndDecelerating =
      ((((c.updateMenuView (setUserInteractionEnabled true)).assignSelectIndex
        c.currentPage).showCurrent).didEnterController c.currentPage).updateMenuView
          deselectedItemsIfNeeded := rfl
  rw [hcurrent] at hrun
  rcases hin : c.hasInited with _ | _
  · have hnone := h.windowed.empty_of_atPage hin hpage
    have hquiet : (((c.updateMenuView (setUserInteractionEnabled true)).assignSelectIndex
        page).showCurrent).didEnterController page =
          ((c.updateMenuView (setUserInteractionEnabled true)).assignSelectIndex
            page).showCurrent := by
      apply didEnter_empty
      exact hnone
    refine ⟨?_, fun hinited => by cases hinited⟩
    rw [hrun, hquiet] at hdone ⊢
    apply synced_empty hdone h.plain _ hin hnone
    intro hgone
    exact h.shows (Option.map_eq_none_iff.mp (Option.map_eq_none_iff.mp hgone))
  · obtain ⟨hsynced, hsettled⟩ := hmenu.settles hin hpage
    rw [hrun]
    exact ⟨hsynced.didEnter.updateMenuView deselectedItemsIfNeeded_sameSelection,
      fun _ => ⟨page, hpage,
        hsettled.didEnter.updateMenuView deselectedItemsIfNeeded_sameSelection⟩⟩

theorem wmAdjustMenuViewFrame_menuView {menu : WMMenuView} (hmenu : c.menuView = some menu) :
    ∃ t, c.wmAdjustMenuViewFrame.menuView = some t ∧ SameSelection menu t := by
  unfold wmAdjustMenuViewFrame
  dsimp only
  have hreset := resetFrames_sameSelection c.menuDelegate
    { menu with width := c.viewWidth - c.viewX }
  refine ⟨_, congrArg (Option.map _) hmenu, ?_⟩
  dsimp only
  split
  · exact ⟨hreset.items, hreset.selItem⟩
  · exact ⟨hreset.items, hreset.selItem⟩

def adjusted (width : CGFloat) (c : WMPageController) : WMPageController :=
  (c.wmCalculateSize width).wmAdjustScrollViewFrame.wmAdjustMenuViewFrame.setHasInited true

/-- The page that a layout of `count` pages comes to rest at: the one asked for, if one was. -/
def restingPage (count : ℕ) (c : WMPageController) : ℤ :=
  if c.markedSelectIndex = -1 then min c.selectIndex (count - 1) else c.markedSelectIndex

/-- The layout from `c` to `d` settles the page it is to show. -/
def SettlesPage (count : ℕ) (c d : WMPageController) : Prop :=
  ∃ page : ℕ, page = c.restingPage count ∧ SettledAt page d

theorem viewDidLayoutSubviews_eq (hcount : c.childControllersCount ≠ 0) (width : CGFloat) :
    c.viewDidLayoutSubviews keeps callsBack false width =
      (c.adjusted width).wmDelaySelectIndexIfNeeded keeps callsBack := by
  unfold viewDidLayoutSubviews
  rw [if_neg hcount, Bool.and_false, if_neg Bool.false_ne_true]
  rfl

theorem adjusted_windowed (howned : Owned c) (hunlocked : c.shouldNotScroll = false)
    (hmarked : c.markedSelectIndex = -1 ∨ 0 ≤ c.markedSelectIndex) {width : CGFloat}
    (hwidth : 0 < width) (hpages : Shown c ∨ Waiting c) : Windowed (c.adjusted width) := by
  have hshown : Shown (c.wmCalculateSize width).wmAdjustScrollViewFrame := by
    rcases hpages with h | h
    · exact h.relaid hwidth
    · exact h.laid hwidth
  exact .of_shown ⟨howned.index, howned.shown, howned.cached, howned.background⟩ hunlocked hmarked rfl
    ⟨⟨hshown.fitted.count, hwidth, rfl, rfl⟩, hshown.covers, hshown.exact⟩

theorem Opening.page {menu : WMMenuView} (h : Opening c menu) (howned : Owned c) :
    ∃ page : ℕ, c.selectIndex = page ∧ page < c.childControllersCount := by
  obtain ⟨page, hpage⟩ : ∃ page : ℕ, c.selectIndex = page :=
    ⟨c.selectIndex.toNat, (Int.toNat_of_nonneg howned.index).symm⟩
  refine ⟨page, hpage, ?_⟩
  have hrange := h.inRange
  rw [hpage] at hrange
  exact_mod_cast hrange

theorem Waiting.adjusted_offset (hwait : Waiting c) {page : ℕ} (hpage : c.selectIndex = page)
    (width : CGFloat) :
    (c.adjusted width).scrollView.contentOffsetX = page * (c.adjusted width).viewWidth := by
  have hstart : (c.adjusted width).scrollView.contentOffsetX = c.selectIndex * width :=
    if_pos hwait.content
  rw [hstart, hpage, Int.cast_natCast]
  rfl

theorem Opening.settledAt {menu : WMMenuView} (h : Opening c menu) (howned : Owned c)
    (hwait : Waiting c) {page : ℕ}
    (hpage : c.selectIndex = page) (hinRange : page < c.childControllersCount) {width : CGFloat}
    {t : WMMenuView} (hwindow : SameWindow (c.adjusted width) d) (hselect : d.selectIndex = page)
    (hkept : d.currentViewController = c.currentViewController) (hmenu : d.menuView = some t)
    (hselected : t.selItem = some (page : ℤ)) : SettledAt page d := by
  obtain ⟨vc, hvc⟩ := Option.ne_none_iff_exists'.mp hwait.shows
  have hcurrent : c.currentViewController = some vc := h.current.trans hvc
  rw [hpage] at hvc
  constructor
  · rw [hwindow.count]
    exact hinRange
  · rw [hwindow.scrollView, hwindow.viewWidth]
    exact hwait.adjusted_offset hpage width
  · exact hselect
  · rw [hwindow.displayVC, hkept]
    exact ⟨vc, hvc, (howned.shown _ vc hvc).1, hcurrent⟩
  · exact ⟨t, hmenu, hselected⟩

theorem Opening.laid (keeps : NSCacheKeeps) (callsBack : Bool) {menu : WMMenuView}
    (h : Opening c menu) (hplain : c.pageAnimatable = false)
    (howned : Owned c) (hunlocked : c.shouldNotScroll = false)
    (hmarked : c.markedSelectIndex = -1 ∨ 0 ≤ c.markedSelectIndex) (hwait : Waiting c)
    {width : CGFloat} (hwidth : 0 < width) :
    Synced (c.viewDidLayoutSubviews keeps callsBack false width) ∧
      SettlesPage c.childControllersCount c
        (c.viewDidLayoutSubviews keeps callsBack false width) := by
  have hwindowed := adjusted_windowed howned hunlocked hmarked hwidth (.inr hwait)
  obtain ⟨t, ht, hsame⟩ : ∃ t, (c.adjusted width).menuView = some t ∧ SameSelection menu t := by
    have hmenu : (c.wmCalculateSize width).wmAdjustScrollViewFrame.menuView = some menu := h.menuView
    exact wmAdjustMenuViewFrame_menuView hmenu
  have hsteady : Steady (c.adjusted width) t := by
    refine ⟨hwindowed, hplain, rfl, ht, hsame.items.trans h.items, ?_⟩
    rw [hsame.selItem]
    exact h.selected
  obtain ⟨page, hpage, hinRange⟩ := h.page howned
  have hoffset := hwait.adjusted_offset hpage width
  have htracks (hselected : t.selItem = some (page : ℤ)) : Tracks (c.adjusted width) t :=
    Tracks.of_page (hwindowed.laid rfl).fitted hsteady.items hinRange hoffset hselected
  rw [viewDidLayoutSubviews_eq hwait.count.ne', wmDelaySelectIndexIfNeeded]
  split
  · rename_i hdelayed
    have hdelayed : c.markedSelectIndex ≠ -1 := hdelayed
    obtain ⟨hlast, hagain⟩ := h.marked hdelayed
    obtain ⟨index, hindex⟩ : ∃ index : ℕ, c.markedSelectIndex = index :=
      ⟨c.markedSelectIndex.toNat, (Int.toNat_of_nonneg (hmarked.resolve_left hdelayed)).symm⟩
    rw [hindex] at hlast hagain
    have hasked : (c.adjusted width).markedSelectIndex = index := hindex
    have hresting : (index : ℤ) = c.restingPage c.childControllersCount := by
      rw [restingPage, if_neg hdelayed, hindex]
    have hset := hsteady.assign index
    rw [hasked, hsteady.setSelectIndex_eq]
    by_cases hselected : t.selItem = some (index : ℤ)
    · have hpages : index = page := by
        have hsameIndex := (hagain (hsame.selItem.symm.trans hselected)).trans hpage
        exact_mod_cast hsameIndex
      subst hpages
      rw [selectItem_same hset.menuView hselected]
      refine ⟨hset.synced rfl ((htracks hselected).congr rfl rfl rfl ⟨rfl, rfl⟩), index, hresting,
        ?_⟩
      exact h.settledAt howned hwait hpage hinRange ⟨rfl, rfl, rfl, rfl, rfl, rfl, rfl⟩ rfl rfl ht hselected
    · obtain ⟨hsynced, hsettled⟩ := hset.selectItemAtIndex rfl (by exact_mod_cast hlast) hselected
      exact ⟨hsynced, index, hresting, hsettled⟩
  · rename_i hnone
    have hnone : c.markedSelectIndex = -1 := not_not.mp hnone
    have hselected : t.selItem = some (page : ℤ) := by
      rw [hsame.selItem, ← hpage]
      exact h.unmarked hnone
    have hresting : (page : ℤ) = c.restingPage c.childControllersCount := by
      rw [restingPage, if_pos hnone, hpage]
      omega
    refine ⟨hsteady.synced hnone (htracks hselected), page, hresting, ?_⟩
    exact h.settledAt howned hwait hpage hinRange ⟨rfl, rfl, rfl, rfl, rfl, rfl, rfl⟩ hpage rfl ht hselected

theorem Synced.relaid (h : Synced c) (hin : c.hasInited = true) {width : CGFloat}
    (hwidth : 0 < width) (hcount : c.childControllersCount ≠ 0) :
    Synced (c.viewDidLayoutSubviews keeps callsBack false width) := by
  have hwindowed := adjusted_windowed h.windowed.owned h.windowed.unlocked h.windowed.marked hwidth
    (.inl (h.windowed.laid hin))
  obtain ⟨menu, hsteady, htracks⟩ := h.steady hin
  obtain ⟨t, ht, hsame⟩ : ∃ t, (c.adjusted width).menuView = some t ∧ SameSelection menu t := by
    have hmenu : (c.wmCalculateSize width).wmAdjustScrollViewFrame.menuView = some menu :=
      hsteady.menuView
    exact wmAdjustMenuViewFrame_menuView hmenu
  have hfitted := (h.windowed.laid hin).fitted
  have hpages : (0 : ℚ) < c.childControllersCount := by exact_mod_cast hfitted.count
  have hnone : (c.adjusted width).markedSelectIndex = -1 := h.marked hin
  rw [viewDidLayoutSubviews_eq hcount, wmDelaySelectIndexIfNeeded, hnone, if_neg (not_not.mpr rfl)]
  have hdone : Steady (c.adjusted width) t := by
    refine ⟨hwindowed, h.plain, rfl, ht, hsame.items.trans hsteady.items, ?_⟩
    rw [hsame.selItem]
    exact hsteady.selected
  apply hdone.synced hnone
  refine ⟨hdone.items, hdone.selected, ?_⟩
  intro page hpage hoffset
  rw [hsame.selItem]
  apply htracks.atPage page hpage
  have hwide := hfitted.wide
  have hcontent : c.scrollView.contentWidth ≠ 0 := by
    rw [hfitted.content]
    exact (mul_pos hpages hwide).ne'
  have hmoved : (c.adjusted width).scrollView.contentOffsetX =
      c.scrollView.contentOffsetX / c.scrollView.contentWidth * c.childControllersCount * width :=
    if_neg hcontent
  have hplace : c.scrollView.contentOffsetX / c.viewWidth * width = page * width := by
    calc c.scrollView.contentOffsetX / c.viewWidth * width
        = c.scrollView.contentOffsetX / (c.childControllersCount * c.viewWidth) *
            c.childControllersCount * width := by
          field_simp
      _ = (c.adjusted width).scrollView.contentOffsetX := by
          rw [hmoved, hfitted.content]
      _ = page * width := hoffset
  have hpassed := mul_right_cancel₀ hwidth.ne' hplace
  rwa [div_eq_iff hwide.ne'] at hpassed

theorem Synced.viewDidLayoutSubviews (h : Synced c) {width : CGFloat} (hwidth : 0 < width)
    (sameBounds : Bool) :
    Synced (c.viewDidLayoutSubviews keeps callsBack sameBounds width) ∧
      (c.hasInited = false → 0 < c.childControllersCount →
        SettlesPage c.childControllersCount c
          (c.viewDidLayoutSubviews keeps callsBack sameBounds width)) := by
  by_cases hcount : c.childControllersCount = 0
  · rw [WMPageController.viewDidLayoutSubviews, if_pos hcount]
    exact ⟨h, fun _ hpos => absurd hcount hpos.ne'⟩
  · rcases hin : c.hasInited with _ | _
    · have hlays : c.viewDidLayoutSubviews keeps callsBack sameBounds width =
          c.viewDidLayoutSubviews keeps callsBack false width := by
        unfold WMPageController.viewDidLayoutSubviews
        rw [hin, Bool.false_and, Bool.false_and]
      rw [hlays]
      obtain ⟨menu, hopen⟩ := h.before hin (Nat.pos_of_ne_zero hcount)
      have hwait := (h.windowed.before hin).resolve_left hcount
      obtain ⟨hsynced, hsettled⟩ := hopen.laid keeps callsBack h.plain
        h.windowed.owned h.windowed.unlocked h.windowed.marked hwait hwidth
      exact ⟨hsynced, fun _ _ => hsettled⟩
    · refine ⟨?_, fun hout => by cases hout⟩
      cases sameBounds with
      | false => exact h.relaid hin hwidth hcount
      | true =>
        rw [WMPageController.viewDidLayoutSubviews, if_neg hcount, hin, Bool.and_true, if_pos rfl]
        exact h

theorem Synced.forceLayoutSubviews (h : Synced c) {width : CGFloat} (hwidth : 0 < width) :
    Synced (c.forceLayoutSubviews keeps callsBack width) ∧
      (c.hasInited = false → 0 < c.childControllersCount →
        SettlesPage c.childControllersCount c (c.forceLayoutSubviews keeps callsBack width)) := by
  have hwindowed : Windowed (c.forceLayoutSubviews keeps callsBack width) :=
    h.windowed.forceLayoutSubviews hwidth
  unfold WMPageController.forceLayoutSubviews at hwindowed ⊢
  by_cases hcount : c.childControllersCount = 0
  · have hnone : (c.setHasInited false).childControllersCount = 0 := hcount
    rw [WMPageController.viewDidLayoutSubviews, if_pos hnone] at hwindowed ⊢
    exact ⟨synced_empty hwindowed h.plain h.shows rfl hcount,
      fun _ hpos => absurd hcount hpos.ne'⟩
  · have hlays : (c.setHasInited false).viewDidLayoutSubviews keeps callsBack false width =
        c.viewDidLayoutSubviews keeps callsBack false width := by
      rw [viewDidLayoutSubviews_eq hcount]
      exact viewDidLayoutSubviews_eq (c := c.setHasInited false) hcount width
    rw [hlays]
    exact h.viewDidLayoutSubviews hwidth false

theorem selectItem_menu_before_layout (hout : c.hasInited = false) {menu : WMMenuView}
    (hmenu : c.menuView = some menu) {index : ℤ}
    (hgoes : ¬ (index = currentIndex menu ∨ menu.selItem = none)) :
    (c.selectItemAtIndex keeps callsBack index).menuView =
      some (refreshContenOffset (selectItem index menu)) := by
  have hquiet : (c.updateMenuView (selectItem index)).didSelesctedIndex keeps callsBack index
      (currentIndex menu) = c.updateMenuView (selectItem index) := by
    have hstill : (c.updateMenuView (selectItem index)).hasInited = false := hout
    rw [didSelesctedIndex, hstill, Bool.not_false, if_pos rfl]
  unfold WMPageController.selectItemAtIndex
  rw [hmenu]
  dsimp only
  rw [if_neg hgoes, hquiet]
  exact congrArg (Option.map refreshContenOffset) (congrArg (Option.map (selectItem index)) hmenu)

theorem wmResetMenuView_selected (keeps : NSCacheKeeps) (callsBack : Bool)
    (hout : c.hasInited = false) (hmenu : c.menuView ≠ none) {page : ℕ}
    (hpage : page < c.childControllersCount) (hselect : c.selectIndex = page) :
    ∃ t, (c.wmResetMenuView keeps callsBack).menuView = some t ∧
      t.items.length = c.childControllersCount ∧ t.selItem = some (page : ℤ) := by
  obtain ⟨menu, hsome⟩ := Option.ne_none_iff_exists'.mp hmenu
  obtain ⟨hitems, hfirst⟩ := reload_first c.menuDelegate menu (Nat.zero_lt_of_lt hpage)
  have hview : (c.updateMenuView fun menu =>
      (reload c.menuDelegate menu).setUserInteractionEnabled true).menuView =
        some ((reload c.menuDelegate menu).setUserInteractionEnabled true) :=
    congrArg (Option.map _) hsome
  have hkept : ¬ c.menuView.isNone = true := by
    rw [hsome]
    exact Bool.false_ne_true
  unfold wmResetMenuView
  rw [if_neg hkept]
  dsimp only
  split
  · rename_i hother
    have hother : c.selectIndex ≠ 0 := hother
    have hreloaded : (c.updateMenuView fun menu =>
        (reload c.menuDelegate menu).setUserInteractionEnabled true).hasInited = false := hout
    have hwanted : (c.updateMenuView fun menu =>
        (reload c.menuDelegate menu).setUserInteractionEnabled true).selectIndex = page := hselect
    rw [hselect] at hother
    have hloaded : ((reload c.menuDelegate menu).setUserInteractionEnabled true).selItem = some 0 :=
      hfirst
    have hcount : ((reload c.menuDelegate menu).setUserInteractionEnabled true).items.length =
        c.childControllersCount := hitems
    rw [hwanted]
    generalize (reload c.menuDelegate menu).setUserInteractionEnabled true = fresh
      at hview hloaded hcount
    have hgoes : ¬ ((page : ℤ) = currentIndex fresh ∨ fresh.selItem = none) := by
      rw [currentIndex, hloaded, not_or]
      exact ⟨hother, Option.some_ne_none 0⟩
    refine ⟨_, selectItem_menu_before_layout hreloaded hview hgoes, ?_, ?_⟩
    · exact (selectItem_length (page : ℤ) fresh).trans hcount
    · exact (selectItem_selItem (page : ℤ) fresh).trans
        (viewWithTag_of_lt (hpage.trans_eq hcount.symm))
  · rename_i hzero
    have hzero : c.selectIndex = 0 := not_not.mp hzero
    refine ⟨_, hview, hitems, ?_⟩
    rw [hselect] at hzero
    rw [hzero]
    exact hfirst

theorem Waiting.reloaded (keeps : NSCacheKeeps) (callsBack : Bool) (h : Waiting c)
    (howned : Owned c) (hout : c.hasInited = false)
    (hunlocked : c.shouldNotScroll = false) (hplain : c.pageAnimatable = false)
    (hmarked : c.markedSelectIndex = -1 ∨ 0 ≤ c.markedSelectIndex)
    (hasked : c.markedSelectIndex < c.childControllersCount) (hshows : c.menuView ≠ none)
    (hindex : c.selectIndex < c.childControllersCount)
    (hcurrent : c.currentViewController = c.displayVC c.selectIndex) {width : CGFloat}
    (hwidth : 0 < width) :
    Synced ((c.wmResetMenuView keeps callsBack).viewDidLayoutSubviews keeps callsBack false width) ∧
      SettlesPage c.childControllersCount c
        ((c.wmResetMenuView keeps callsBack).viewDidLayoutSubviews keeps callsBack false width) := by
  obtain ⟨page, hpage⟩ : ∃ page : ℕ, c.selectIndex = page :=
    ⟨c.selectIndex.toNat, (Int.toNat_of_nonneg howned.index).symm⟩
  have hinside : page < c.childControllersCount := by
    rw [hpage] at hindex
    exact_mod_cast hindex
  have honly : OnlyMenu c (c.wmResetMenuView keeps callsBack) := wmResetMenuView_onlyMenu hout
  obtain ⟨t, ht, hitems, hselected⟩ := wmResetMenuView_selected keeps callsBack hout hshows hinside hpage
  generalize c.wmResetMenuView keeps callsBack = loaded at honly ht ⊢
  have hsame := honly.window
  have hopen : Opening loaded t := by
    constructor
    · exact ht
    · rw [hsame.count]
      exact hitems
    · rw [honly.selectIndex, hsame.count]
      exact hindex
    · rw [honly.currentViewController, honly.selectIndex, hsame.displayVC]
      exact hcurrent
    · exact ⟨page, hinside.trans_eq hsame.count.symm, hselected⟩
    · intro _
      rw [honly.selectIndex, hpage]
      exact hselected
    · intro _
      rw [honly.marked, hsame.count, honly.selectIndex, hpage]
      refine ⟨hasked, ?_⟩
      intro hagain
      exact Option.some.inj (hagain.symm.trans hselected)
  have hresting : loaded.restingPage loaded.childControllersCount =
      c.restingPage c.childControllersCount := by
    rw [restingPage, restingPage, honly.marked, honly.selectIndex, hsame.count]
  have hlaid := hopen.laid keeps callsBack (honly.pageAnimatable.trans hplain) (honly.owned howned)
    (hsame.shouldNotScroll.trans hunlocked) (honly.marked.symm ▸ hmarked)
    (h.congr hsame honly.selectIndex) hwidth
  rw [SettlesPage, hresting] at hlaid
  exact hlaid

theorem Synced.reloadData (h : Synced c) (count : ℕ) {width : CGFloat} (hwidth : 0 < width)
    (hasked : c.markedSelectIndex < count) :
    Synced (c.reloadData keeps callsBack count width) ∧
      (0 < count → SettlesPage count c (c.reloadData keeps callsBack count width)) := by
  have hdone : Windowed (c.reloadData keeps callsBack count width) := h.windowed.reloadData count hwidth
  have hcleared := wmClearDatas_cleared count c
  have howned := hcleared.owned h.windowed.owned
  have hindex := (hcleared.index h.windowed.owned.index).2
  have hshows : (c.wmClearDatas count).menuView ≠ none := fun hnone => h.shows (hcleared.menuView hnone)
  have hplain := hcleared.pageAnimatable.trans h.plain
  have hmarked := h.windowed.marked
  have hresting (hpos : 0 < count) :
      (c.wmClearDatas count).restingPage count = c.restingPage count := by
    rw [restingPage, restingPage, hcleared.marked, hcleared.selectIndex]
    split_ifs <;> omega
  rw [← hcleared.marked] at hmarked hasked
  unfold WMPageController.reloadData at hdone ⊢
  generalize c.wmClearDatas count = cleared
    at hcleared howned hindex hshows hplain hmarked hasked hresting hdone ⊢
  dsimp only at hdone ⊢
  by_cases hnone : cleared.childControllersCount = 0
  · rw [if_pos hnone] at hdone ⊢
    refine ⟨synced_empty hdone hplain hshows hcleared.hasInited hnone, ?_⟩
    intro hpos
    exact absurd (hcleared.pages.symm.trans hnone) hpos.ne'
  · rw [if_neg hnone]
    rw [hcleared.pages] at hnone
    have hlast : cleared.selectIndex < cleared.childControllersCount := by
      rw [hcleared.pages]
      exact hindex hnone
    obtain ⟨hwait, hmade⟩ := wmReset_waiting howned hcleared.displayVC hlast
    have hemptied : Owned cleared.wmResetScrollView.removeCachedControllers := by
      refine ⟨hmade.index, hmade.shown, ?_, hmade.background⟩
      intro i vc hvc
      cases hvc
    have hwaiting : Waiting cleared.wmResetScrollView.removeCachedControllers :=
      ⟨hwait.count, hwait.content, hwait.shows, hwait.exact⟩
    have hreloaded := hwaiting.reloaded keeps callsBack hemptied hcleared.hasInited
      (hcleared.shouldNotScroll.trans h.windowed.unlocked) hplain hmarked
      (hasked.trans_eq (congrArg Nat.cast hcleared.pages.symm)) hshows hlast rfl hwidth
    refine ⟨hreloaded.1, ?_⟩
    intro hpos
    obtain ⟨page, hpage, hsettled⟩ := hreloaded.2
    refine ⟨page, ?_, hsettled⟩
    rw [← hresting hpos, hpage, ← hcleared.pages]
    rfl

/-- A page that was asked for before the first layout is still there after a reload. -/
def PlainStep (c : WMPageController) (event : Event) (d : WMPageController) : Prop :=
  Step c event d ∧ match event with
    | .reload count _ => c.markedSelectIndex < count
    | _ => True

/-- The steps that bring the component to rest, and the page they bring it to. -/
def ComesToRest (c : WMPageController) (event : Event) (d : WMPageController) : Prop :=
  match event with
  | .didEndDecelerating => c.hasInited = true →
      ∃ page, c.AtPage page c.scrollView.contentOffsetX ∧ SettledAt page d
  | .press index => Elsewhere index c → SettledAt index d
  | .setSelectIndex index => Elsewhere index c → SettledAt index d
  | .reload count _ => 0 < count → SettlesPage count c d
  | .layout _ _ | .forceLayout _ => c.hasInited = false → 0 < c.childControllersCount →
      SettlesPage c.childControllersCount c d
  | _ => True

theorem Synced.step {event : Event} (h : Synced c) (hstep : PlainStep c event d) :
    Synced d ∧ ComesToRest c event d := by
  obtain ⟨⟨hpermitted, keeps, callsBack, rfl⟩, hplain⟩ := hstep
  cases event with
  | scroll x y =>
    have hdrag := hpermitted.2.resolve_right fun hanimated =>
      Bool.false_ne_true (h.plain.symm.trans hanimated)
    exact ⟨h.scroll hpermitted.1 hdrag x y, trivial⟩
  | willBeginDragging =>
    have hdrag : Synced (c.setStartDragging true) := h.keepsPages
      ⟨⟨rfl, rfl, rfl, rfl, rfl, rfl, rfl⟩, rfl, rfl, rfl, rfl, rfl, fun _ _ h => .inl h,
        fun _ _ h => .inl h⟩
    exact ⟨hdrag.updateMenuView (setUserInteractionEnabled_sameSelection false), trivial⟩
  | willEndDragging target =>
    exact ⟨h.keepsPages ⟨⟨rfl, rfl, rfl, rfl, rfl, rfl, rfl⟩, rfl, rfl, rfl, rfl, rfl,
      fun _ _ h => .inl h, fun _ _ h => .inl h⟩, trivial⟩
  | didEndDragging decelerate =>
    cases decelerate with
    | false => exact ⟨h.didEndDragging (hpermitted.resolve_left Bool.false_ne_true), trivial⟩
    | true => exact ⟨h, trivial⟩
  | didEndDecelerating => exact h.scrollViewDidEndDecelerating hpermitted
  | didEndScrollingAnimation => exact absurd (h.plain.symm.trans hpermitted) Bool.false_ne_true
  | press index => exact h.didPressedMenuItem hpermitted.2.1 hpermitted.1
  | setSelectIndex index => exact h.setSelectIndex hpermitted.2 hpermitted.1
  | refreshMenu => exact ⟨h.updateMenuView fun _ => ⟨rfl, rfl⟩, trivial⟩
  | screenFrame => exact ⟨h.updateMenuView screenFrame_sameSelection, trivial⟩
  | layout sameBounds width => exact h.viewDidLayoutSubviews hpermitted sameBounds
  | forceLayout width => exact h.forceLayoutSubviews hpermitted
  | appear =>
    refine ⟨?_, trivial⟩
    rw [handle, viewDidAppear]
    split
    · exact h
    · exact h.didEnter
  | reload count width => exact h.reloadData count hpermitted hplain
  | memoryWarning => exact ⟨h.keepsPages (didReceiveMemoryWarning_keepsPages c), trivial⟩
  | wait duration =>
    exact ⟨h.keepsPages ⟨⟨rfl, rfl, rfl, rfl, rfl, rfl, rfl⟩, rfl, rfl, rfl, rfl, rfl,
      fun _ _ h => .inl h, fun _ _ h => .inl h⟩, trivial⟩
  | performRequest request => exact ⟨h.keepsPages (perform_keepsPages request c), trivial⟩
  | evict key => exact ⟨h.keepsPages (evict_keepsPages key c), trivial⟩
  | resignActive => exact ⟨h.keepsPages (willResignActive_keepsPages c), trivial⟩
  | enterForeground keys => exact ⟨h.keepsPages (willEnterForeground_keepsPages keys c), trivial⟩

theorem wmAddMenuView_first (c : WMPageController) (hcount : 0 < c.childControllersCount) :
    ∃ t, c.wmAddMenuView.menuView = some t ∧ t.items.length = c.childControllersCount ∧
      t.selItem = some 0 :=
  ⟨_, rfl, willMoveToSuperview_first c.menuDelegate rfl rfl hcount⟩

theorem Fresh.synced (h : Fresh c) (hplain : c.pageAnimatable = false) {width : CGFloat}
    (hwidth : 0 < width) : Synced (c.viewDidLoad width) := by
  have hwindowed : Windowed (c.viewDidLoad width) := h.windowed hwidth
  obtain ⟨hlow, hhigh⟩ := h.index
  unfold viewDidLoad at hwindowed ⊢
  rw [if_neg h.count.ne'] at hwindowed ⊢
  obtain ⟨t, ht, hitems, hfirst⟩ := wmAddMenuView_first (((c.wmCalculateSize
    width).wmAddScrollView).wmAddViewControllerAtIndex c.selectIndex).showCurrent h.count
  refine ⟨hwindowed, hplain, ?_, ?_, ?_, ?_⟩
  · exact fun hnone => Option.some_ne_none t (ht.symm.trans hnone)
  · intro hin
    exact absurd (h.hasInited.symm.trans hin) Bool.false_ne_true
  · intro hin
    exact absurd (h.hasInited.symm.trans hin) Bool.false_ne_true
  · intro _ _
    refine ⟨t, ht, hitems, hhigh, rfl, ⟨0, h.count, hfirst⟩, ?_, ?_⟩
    · intro hnone
      rcases h.marked with hsame | ⟨_, hzero⟩
      · have hselect : c.selectIndex = -1 := hsame.symm.trans hnone
        omega
      · exact hfirst.trans (congrArg some hzero.symm)
    · intro hsome
      rcases h.marked with hsame | ⟨hnone, _⟩
      · exact ⟨hsame.trans_lt hhigh, fun _ => hsame⟩
      · exact absurd hnone hsome

theorem run_comes_to_rest {width : CGFloat} {tr : List (Event × WMPageController)} (hfresh : Fresh c)
    (hplain : c.pageAnimatable = false) (hwidth : 0 < width)
    (htr : Trace PlainStep (c.viewDidLoad width) tr) :
    Steps ComesToRest (c.viewDidLoad width) tr := by
  apply htr.steps _ _ (hfresh.synced hplain hwidth)
  · intro d event e h hstep
    exact (h.step hstep).1
  · intro d event e h hstep
    exact (h.step hstep).2

theorem twoPages_come_to_rest :
    Steps ComesToRest twoPagesLoaded [(Event.layout false 100, twoPagesLaid),
     (Event.press 1, twoPagesLaid.handle keepAll true (.press 1))] := by
  apply run_comes_to_rest twoPages_fresh rfl (by norm_num)
  have hpress : twoPagesLaid.Permitted (.press 1) := by
    refine ⟨by decide, rfl, Option.map_eq_some_iff.mp ?_⟩
    decide +kernel
  exact .cons ⟨twoPages_layout, trivial⟩ (.cons ⟨⟨hpress, keepAll, true, rfl⟩, trivial⟩ (.nil _))

end WMPageController

end MixedProject
