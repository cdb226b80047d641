import MixedProject.MenuRuns

namespace MixedProject.WMMenuView

open RowLayout StepAnimation

variable {delegate : WMMenuViewDelegate}

def MenuEvent.IsTap : MenuEvent → Prop
  | .press _ | .screenFrame | .resize _ | .refresh => True
  | .slide _ | .select _ | .deselect => False

def goal (selected : Bool) : ℕ := if selected then 1 else 0

/-- Each title is on its way to being highlighted exactly if it is the selected one, and the bar is
on its way to the selected title; all links stop within the frames left. -/
structure Settling (factor : ℚ) (left : ℕ) (menu : WMMenuView) : Prop where
  items : ∀ (i : ℕ) item, menu.items[i]? = some item →
    positiveSpeedFactor item.speedFactor = factor ∧
      item.selected = decide (menu.selItem = some (i : ℤ)) ∧
      Due linkTolerance 0 1 factor (goal item.selected) left item.motion
  bar : ∀ bar, menu.progressView = some bar →
    positiveSpeedFactor bar.speedFactor = factor ∧
      ∀ k : ℕ, menu.selItem = some (k : ℤ) →
        Due linkTolerance 0 ((menu.items.length : ℚ) - 1) factor k left bar.motion
  selected : menu.items = [] ∧ menu.selItem = none ∨
    ∃ k : ℕ, menu.selItem = some (k : ℤ) ∧ k < menu.items.length

theorem positiveSpeedFactor_pos (speedFactor : CGFloat) : 0 < positiveSpeedFactor speedFactor := by
  unfold positiveSpeedFactor
  split_ifs with hneg
  · norm_num
  · exact not_le.mp hneg

theorem linkTolerance_bounds : 0 ≤ linkTolerance ∧ linkTolerance < 1 / 2 := by
  constructor <;> norm_num [linkTolerance]

theorem goal_unit (selected : Bool) : (0 : ℚ) ≤ goal selected ∧ (goal selected : ℚ) ≤ 1 := by
  cases selected <;> norm_num [goal]

theorem lt_length {k : ℕ} {menu : WMMenuView} (hk : k < menu.items.length) :
    (0 : ℚ) ≤ k ∧ (k : ℚ) ≤ (menu.items.length : ℚ) - 1 := by
  have hcast : (k : ℚ) + 1 ≤ menu.items.length := by exact_mod_cast hk
  exact ⟨Nat.cast_nonneg k, le_sub_iff_add_le.mpr hcast⟩

theorem distance_le {low high x y : ℚ} (hx : low ≤ x ∧ x ≤ high) (hy : low ≤ y ∧ y ≤ high) :
    |x - y| ≤ high - low := by
  rw [abs_le]
  constructor <;> linarith [hx.1, hx.2, hy.1, hy.2]

theorem setSelected_due {factor : ℚ} {left : ℕ} {item : WMMenuItem}
    (hspeed : positiveSpeedFactor item.speedFactor = factor) (hlands : Lands factor 1)
    (h : Due linkTolerance 0 1 factor (goal item.selected) left item.motion) (selected : Bool) :
    Due linkTolerance 0 1 factor (goal selected) (⌈factor⌉₊ + 1)
      (item.setSelected selected true).motion := by
  have hfactor : 0 < factor := hspeed ▸ positiveSpeedFactor_pos _
  have hrate := h.value hfactor (goal_unit _)
  have hshort : Lands factor |item.motion.value - (goal selected : ℕ)| := by
    apply hlands.mono
    have hdistance := distance_le hrate (goal_unit selected)
    rwa [sub_zero] at hdistance
  cases selected with
  | true =>
    have hgap : |item.motion.value - (goal true : ℕ)| = 1 - item.motion.value := by
      rw [abs_of_nonpos (sub_nonpos.mpr (by simpa [goal] using hrate.2))]
      simp [goal]
    have hdirection : ((1 : ℤ) : ℚ) * |item.motion.value - (goal true : ℕ)| =
        (goal true : ℕ) - item.motion.value := by
      rw [hgap]
      simp [goal]
    have hdue : Due linkTolerance 0 1 factor (goal true) _ (launch 1 _ factor item.motion) :=
      due_launch 1 hdirection hfactor hrate hshort
    rw [hgap] at hdue
    simpa [WMMenuItem.setSelected, WMMenuItem.rate, hspeed] using hdue
  | false =>
    have hgap : |item.motion.value - (goal false : ℕ)| = item.motion.value := by
      rw [abs_of_nonneg (sub_nonneg.mpr (by simpa [goal] using hrate.1))]
      simp [goal]
    have hdirection : ((-1 : ℤ) : ℚ) * |item.motion.value - (goal false : ℕ)| =
        (goal false : ℕ) - item.motion.value := by
      rw [hgap]
      simp [goal]
    have hdue : Due linkTolerance 0 1 factor (goal false) _ (launch (-1) _ factor item.motion) :=
      due_launch (-1) hdirection hfactor hrate hshort
    rw [hgap] at hdue
    simpa [WMMenuItem.setSelected, WMMenuItem.rate, hspeed] using hdue

theorem moveToPostion_due {factor high : ℚ} {k : ℕ} {bar : WMProgressView}
    (hspeed : positiveSpeedFactor bar.speedFactor = factor) (hlands : Lands factor high)
    (hprogress : 0 ≤ bar.motion.value ∧ bar.motion.value ≤ high) (hk : 0 ≤ (k : ℚ) ∧ (k : ℚ) ≤ high) :
    Due linkTolerance 0 high factor k (⌈factor⌉₊ + 1) (bar.moveToPostion k).motion := by
  have hfactor : 0 < factor := hspeed ▸ positiveSpeedFactor_pos _
  rw [WMProgressView.moveToPostion, hspeed]
  apply due_launch _ _ hfactor hprogress
  · apply hlands.mono
    have hdistance := distance_le hprogress hk
    rwa [sub_zero] at hdistance
  · rw [WMProgressView.progress, Int.cast_natCast]
    split
    · rename_i hgt
      rw [abs_of_pos (sub_pos.mpr hgt)]
      push_cast
      ring
    · rename_i hle
      rw [abs_of_nonpos (sub_nonpos.mpr (not_lt.mp hle))]
      push_cast
      ring

theorem Settling.mono {factor : ℚ} {left left' : ℕ} {menu : WMMenuView}
    (h : Settling factor left menu) (hle : left ≤ left') : Settling factor left' menu := by
  constructor
  · intro i item hitem
    obtain ⟨hspeed, hselected, hdue⟩ := h.items i item hitem
    exact ⟨hspeed, hselected, hdue.mono hle⟩
  · intro bar hbar
    obtain ⟨hspeed, hdue⟩ := h.bar bar hbar
    exact ⟨hspeed, fun k hk => (hdue k hk).mono hle⟩
  · exact h.selected

theorem Settling.selected_lt {factor : ℚ} {left k : ℕ} {menu : WMMenuView}
    (h : Settling factor left menu) (hsel : menu.selItem = some (k : ℤ)) : k < menu.items.length := by
  rcases h.selected with ⟨-, hnone⟩ | ⟨j, hj, hlt⟩
  · rw [hsel] at hnone
    cases hnone
  · rw [hsel] at hj
    obtain rfl : k = j := by exact_mod_cast Option.some.inj hj
    exact hlt

theorem screenFrame_settling {factor : ℚ} {left : ℕ} {menu : WMMenuView}
    (h : Settling factor (left + 1) menu) : Settling factor left (screenFrame menu) := by
  obtain ⟨hlow, hhigh⟩ := linkTolerance_bounds
  have hlength : (screenFrame menu).items.length = menu.items.length := List.length_map ..
  constructor
  · intro i item hitem
    simp only [screenFrame, List.getElem?_map, Option.map_eq_some_iff] at hitem
    obtain ⟨before, hbefore, rfl⟩ := hitem
    obtain ⟨hspeed, hselected, hdue⟩ := h.items i before hbefore
    have hfactor : 0 < factor := hspeed ▸ positiveSpeedFactor_pos _
    exact ⟨hspeed, hselected, hdue.fire hfactor hlow hhigh (goal_unit _)
      fun _ => WMMenuItem.acceptsRate_eq_true.mpr⟩
  · intro bar hbar
    simp only [screenFrame, Option.map_eq_some_iff] at hbar
    obtain ⟨before, hbefore, rfl⟩ := hbar
    obtain ⟨hspeed, hdue⟩ := h.bar before hbefore
    have hfactor : 0 < factor := hspeed ▸ positiveSpeedFactor_pos _
    refine ⟨hspeed, ?_⟩
    intro k hk
    rw [hlength]
    exact (hdue k hk).fire hfactor hlow hhigh (lt_length (h.selected_lt hk)) fun _ _ => rfl
  · rcases h.selected with ⟨hnil, hnone⟩ | ⟨k, hk, hlt⟩
    · left
      simp [screenFrame, hnil, hnone]
    · exact .inr ⟨k, hk, by rwa [hlength]⟩

theorem pressItem_items {k i : ℕ} {menu : WMMenuView} {item : WMMenuItem}
    (hne : menu.selItem ≠ some (k : ℤ)) (hitem : (pressItem k menu).items[i]? = some item) :
    ∃ before, menu.items[i]? = some before ∧
      item = if i = k then before.setSelected true true
        else if menu.selItem = some (i : ℤ) then before.setSelected false true else before := by
  have hkeep := (modifyItem_rest (WMMenuItem.setSelected true true) (some (k : ℤ)) menu).2.1
  simp only [pressItem, setSelItem, hkeep, getElem?_modifyItem, Option.some.injEq, Nat.cast_inj,
    eq_comm (a := k)] at hitem
  by_cases hi : i = k
  · subst hi
    rw [if_neg hne, if_pos rfl, Option.map_eq_some_iff] at hitem
    obtain ⟨before, hbefore, rfl⟩ := hitem
    exact ⟨before, hbefore, by rw [if_pos rfl]⟩
  · simp only [if_neg hi] at hitem ⊢
    split at hitem
    · rename_i hsel
      obtain ⟨before, hbefore, rfl⟩ := Option.map_eq_some_iff.mp hitem
      exact ⟨before, hbefore, by rw [if_pos hsel]⟩
    · rename_i hsel
      exact ⟨item, hitem, by rw [if_neg hsel]⟩

theorem pressItem_rest (k : ℕ) (menu : WMMenuView) :
    (pressItem k menu).progressView = menu.progressView ∧
      (pressItem k menu).selItem = some (k : ℤ) ∧
      (pressItem k menu).items.length = menu.items.length := by
  have hfirst := modifyItem_rest (WMMenuItem.setSelected true true) (some (k : ℤ)) menu
  have hsecond := modifyItem_rest (WMMenuItem.setSelected false true)
    (modifyItem (WMMenuItem.setSelected true true) (some (k : ℤ)) menu).selItem
    (modifyItem (WMMenuItem.setSelected true true) (some (k : ℤ)) menu)
  exact ⟨hsecond.1.trans hfirst.1, rfl, hsecond.2.2.trans hfirst.2.2⟩

theorem Settling.progress {factor : ℚ} {left : ℕ} {menu : WMMenuView} {bar : WMProgressView}
    (h : Settling factor left menu) (hitems : menu.items ≠ []) (hbar : menu.progressView = some bar) :
    0 ≤ bar.motion.value ∧ bar.motion.value ≤ (menu.items.length : ℚ) - 1 := by
  rcases h.selected with ⟨hnil, _⟩ | ⟨k, hk, hlt⟩
  · exact absurd hnil hitems
  · obtain ⟨hspeed, hdue⟩ := h.bar bar hbar
    have hfactor : 0 < factor := hspeed ▸ positiveSpeedFactor_pos _
    exact (hdue k hk).value hfactor (lt_length hlt)

theorem press_settling {factor : ℚ} {left k : ℕ} {menu : WMMenuView} (h : Settling factor left menu)
    (hleft : left ≤ ⌈factor⌉₊ + 1) (hlands : Lands factor ((menu.items.length : ℚ) - 1))
    (hk : k < menu.items.length) : Settling factor (⌈factor⌉₊ + 1) (didPressedMenuItem k menu) := by
  unfold didPressedMenuItem
  split
  · exact h.mono hleft
  · rename_i hne
    have hmoved : (moveProgress k menu).selItem ≠ some (k : ℤ) := hne
    obtain ⟨hview, hsel, hlength⟩ := pressItem_rest k (moveProgress k menu)
    have hunit : Lands factor 1 := by
      apply hlands.mono
      rcases h.selected with ⟨hnil, -⟩ | ⟨j, hj, hlt⟩
      · rw [hnil] at hk
        cases hk
      · have hother : j ≠ k := by
          rintro rfl
          exact hne hj
        have htwo : (2 : ℚ) ≤ menu.items.length := by exact_mod_cast (show 2 ≤ _ by omega)
        linarith
    constructor
    · intro i item hitem
      obtain ⟨before, hbefore, rfl⟩ := pressItem_items hmoved hitem
      obtain ⟨hspeed, hselected, hdue⟩ := h.items i before hbefore
      rw [hsel]
      by_cases hi : i = k
      · simp only [if_pos hi]
        exact ⟨hspeed, by simp [WMMenuItem.setSelected, hi], setSelected_due hspeed hunit hdue true⟩
      · have hother : ¬ (some (k : ℤ) = some (i : ℤ)) := by
          simpa using fun h => hi h.symm
        simp only [if_neg hi]
        split
        · exact ⟨hspeed, by simp [WMMenuItem.setSelected, hother],
            setSelected_due hspeed hunit hdue false⟩
        · rename_i hnot
          have hold : ¬ (menu.selItem = some (i : ℤ)) := hnot
          refine ⟨hspeed, ?_, hdue.mono hleft⟩
          rw [hselected, decide_eq_false hold, decide_eq_false hother]
    · intro bar hbar
      rw [hview] at hbar
      simp only [moveProgress, updateProgressView, Option.map_eq_some_iff] at hbar
      obtain ⟨before, hbefore, rfl⟩ := hbar
      have hnonempty : menu.items ≠ [] := List.ne_nil_of_length_pos (by omega)
      refine ⟨(h.bar before hbefore).1, ?_⟩
      intro l hl
      rw [hsel] at hl
      obtain rfl : k = l := by exact_mod_cast Option.some.inj hl
      rw [hlength]
      exact moveToPostion_due (h.bar before hbefore).1 hlands (h.progress hnonempty hbefore)
        (lt_length hk)
    · right
      exact ⟨k, hsel, by rwa [hlength]⟩

theorem Settling.congr {factor : ℚ} {left : ℕ} {menu t : WMMenuView}
    (h : Settling factor left menu) (hsame : SameMotion menu t) : Settling factor left t := by
  have hlength := hsame.length
  constructor
  · intro i item hitem
    obtain ⟨before, hbefore, heq⟩ := hsame.item hitem
    have hmotion : (unplaced item).motion = (unplaced before).motion :=
      congrArg WMMenuItem.motion heq
    have hselected : (unplaced item).selected = (unplaced before).selected :=
      congrArg WMMenuItem.selected heq
    have hspeed : (unplaced item).speedFactor = (unplaced before).speedFactor :=
      congrArg WMMenuItem.speedFactor heq
    simp only [unplaced] at hmotion hselected hspeed
    rw [hmotion, hselected, hspeed, hsame.selItem]
    exact h.items i before hbefore
  · intro bar hbar
    obtain ⟨before, hbefore, hmotion, hspeed⟩ := hsame.bar bar hbar
    rw [hmotion, hspeed, hlength, hsame.selItem]
    exact h.bar before hbefore
  · rw [hlength, hsame.selItem]
    rcases h.selected with ⟨hnil, hnone⟩ | hk
    · left
      exact ⟨List.eq_nil_of_length_eq_zero (by rw [hlength, hnil]; rfl), hnone⟩
    · exact .inr hk

theorem addItems_items {menu : WMMenuView} {i : ℕ} {item : WMMenuItem}
    (hitem : (addItems delegate menu).items[i]? = some item) :
    item.speedFactor = menu.speedFactor ∧ item.selected = decide (i = 0) ∧
      Arrived (goal item.selected) item.motion := by
  simp only [addItems, List.getElem?_mapIdx, Option.map_eq_some_iff] at hitem
  obtain ⟨f, _, rfl⟩ := hitem
  split
  · rename_i hi
    refine ⟨(calculateItemFrames_keeps delegate menu).1, ?_, rfl, ?_⟩
    · simp [WMMenuItem.setSelected, WMMenuItem.setRate, hi]
    · simp [WMMenuItem.setSelected, WMMenuItem.setRate, assign, WMMenuItem.acceptsRate, goal]
  · rename_i hi
    refine ⟨(calculateItemFrames_keeps delegate menu).1, ?_, rfl, ?_⟩
    · simp [WMMenuItem.setSelected, WMMenuItem.setRate, hi]
    · simp [WMMenuItem.setSelected, WMMenuItem.setRate, assign, WMMenuItem.acceptsRate, goal]

theorem addItems_selItem (delegate : WMMenuViewDelegate) {menu : WMMenuView}
    (hnone : menu.selItem = none) :
    (addItems delegate menu).items = [] ∧ (addItems delegate menu).selItem = none ∨
      (addItems delegate menu).selItem = some 0 ∧ 0 < (addItems delegate menu).items.length := by
  simp only [addItems, (calculateItemFrames_keeps delegate menu).2.1, hnone]
  split
  · rename_i hempty
    exact .inl ⟨List.isEmpty_iff.mp hempty, rfl⟩
  · rename_i hempty
    exact .inr ⟨rfl, List.length_pos_iff.mpr (by simpa using hempty)⟩

theorem makeStyle_selItem (delegate : WMMenuViewDelegate) (menu : WMMenuView) :
    (makeStyle delegate menu).selItem = menu.selItem := by
  unfold makeStyle
  split <;> rfl

theorem reload_settling (menu : WMMenuView) :
    Settling (positiveSpeedFactor menu.speedFactor) 0 (reload delegate menu) := by
  rw [reload_eq]
  have hsel := makeStyle_selItem delegate (addItems delegate (cleared menu))
  have hitems : (makeStyle delegate (addItems delegate (cleared menu))).items = _ := makeStyle_items _
  have hcases := addItems_selItem delegate (show (cleared menu).selItem = none from rfl)
  constructor
  · intro i item hitem
    rw [hitems] at hitem
    obtain ⟨hfactor, hselected, harrived⟩ := addItems_items hitem
    refine ⟨?_, ?_, .inl harrived⟩
    · rw [hfactor]
      rfl
    · rcases hcases with ⟨hnil, _⟩ | ⟨hzero, _⟩
      · rw [hnil] at hitem
        cases hitem
      · rw [hselected, hsel, hzero]
        simp [eq_comm]
  · intro bar hbar
    have hnone : (addItems delegate (cleared menu)).progressView = none :=
      (calculateItemFrames_keeps delegate (cleared menu)).2.2
    obtain ⟨hmotion, hfactor, _⟩ := makeStyle_bar hnone hbar
    constructor
    · rw [hfactor]
      have hkeeps := (calculateItemFrames_keeps delegate (cleared menu)).1
      exact congrArg positiveSpeedFactor hkeeps
    · intro k hk
      rw [hsel] at hk
      rcases hcases with ⟨_, hnil⟩ | ⟨hzero, _⟩
      · rw [hnil] at hk
        cases hk
      · rw [hzero] at hk
        obtain rfl : 0 = k := by exact_mod_cast Option.some.inj hk
        rw [hmotion]
        exact .inl ⟨rfl, by simp⟩
  · rw [hitems, hsel]
    rcases hcases with hnil | ⟨hzero, hpos⟩
    · exact .inl hnil
    · exact .inr ⟨0, by simpa using hzero, hpos⟩

theorem perform_settling {factor : ℚ} {left : ℕ} {menu : WMMenuView} {e : MenuEvent}
    (htap : e.IsTap) (hlands : Lands factor ((menu.items.length : ℚ) - 1))
    (h : Settling factor left menu) (hleft : left ≤ ⌈factor⌉₊ + 1) :
    Settling factor (⌈factor⌉₊ + 1) (perform delegate menu e) := by
  cases e with
  | press k =>
    rw [perform]
    split
    · rename_i hk
      exact press_settling h hleft hlands hk
    · exact h.mono hleft
  | screenFrame =>
    have hnext : Settling factor (⌈factor⌉₊ + 1 + 1) menu := h.mono (hleft.trans (by omega))
    exact screenFrame_settling hnext
  | resize width =>
    have hresized : ∀ t, SameMotion menu t →
        Settling factor (⌈factor⌉₊ + 1) (resetFramesFromIndex delegate 0 t) :=
      fun t ht => ((h.congr ht).congr (resetFramesFromIndex_sameMotion delegate t)).mono hleft
    exact hresized _ (.of_eq rfl rfl rfl)
  | refresh =>
    have hrefreshed : Settling factor left (refreshContenOffset menu) := h.congr (.of_eq rfl rfl rfl)
    exact hrefreshed.mono hleft
  | slide progress => cases htap
  | select index => cases htap
  | deselect => cases htap

theorem run_settling {factor : ℚ} {menu : WMMenuView} (hready : Ready delegate menu)
    (hlands : Lands factor ((delegate.numbersOfTitles : ℚ) - 1))
    (h : Settling factor (⌈factor⌉₊ + 1) menu) (events : List MenuEvent)
    (htaps : ∀ e ∈ events, e.IsTap) : Settling factor (⌈factor⌉₊ + 1) (run delegate menu events) := by
  induction events generalizing menu with
  | nil => exact h
  | cons e events ih =>
    obtain ⟨htap, htaps⟩ := List.forall_mem_cons.mp htaps
    have hreach : Lands factor ((menu.items.length : ℚ) - 1) := by rwa [hready.items]
    exact ih (perform_ready hready e) (perform_settling htap hreach h (Nat.le_refl _)) htaps

theorem frames_settling (delegate : WMMenuViewDelegate) {factor : ℚ} {left : ℕ} {menu : WMMenuView}
    (h : Settling factor left menu) (j : ℕ) :
    Settling factor (left - j) (run delegate menu (List.replicate j .screenFrame)) := by
  induction j generalizing left menu with
  | zero => exact h
  | succ j ih =>
    have hfirst : Settling factor (left - 1) (screenFrame menu) :=
      screenFrame_settling (h.mono (by omega))
    have hrest := ih hfirst
    rwa [Nat.sub_sub, Nat.add_comm 1 j] at hrest

theorem convertProgressWidthsToFrames_mid {menu : WMMenuView} {i : ℕ} {title : Span CGFloat}
    (hi : i < delegate.numbersOfTitles) (htitle : menu.frames[i]? = some title) :
    ∃ f, (convertProgressWidthsToFrames delegate menu)[i]? = some f ∧
      f.x + f.width / 2 = title.x + title.width / 2 ∧
      (f.width = title.width ∨ ∃ w ∈ menu.progressWidths, f.width = numberWithFloat w) := by
  unfold convertProgressWidthsToFrames
  split
  · exact ⟨title, htitle, rfl, .inl rfl⟩
  · have hlt : i < menu.progressWidths.length := by omega
    have hwidth : menu.progressWidths[i]? = some menu.progressWidths[i] :=
      List.getElem?_eq_getElem hlt
    refine ⟨_, List.getElem?_zipWith_eq_some.mpr ⟨_, _, htitle, hwidth, rfl⟩, ?_, ?_⟩
    · ring
    · exact .inr ⟨_, List.getElem_mem hlt, rfl⟩

theorem convertProgressWidthsToFrames_length {menu : WMMenuView}
    (h : menu.frames.length = delegate.numbersOfTitles) :
    (convertProgressWidthsToFrames delegate menu).length = delegate.numbersOfTitles := by
  unfold convertProgressWidthsToFrames
  split
  · exact h
  · rw [List.length_zipWith]
    omega

theorem stretched_zero (naughty : Bool) (current next : Span CGFloat) :
    WMProgressView.stretched naughty current next 0 = current := by
  cases naughty <;> simp [WMProgressView.stretched, Span.maxX]

theorem frameAt_natCast {bar : WMProgressView} {i : ℕ} {f : Span CGFloat}
    (hf : bar.itemFrames[i]? = some f) : bar.frameAt (i : ℤ) = .ok f :=
  objectAtIndex_ok.mpr hf

theorem drawRect_eq {bar : WMProgressView} {i : ℕ} {current next : Span CGFloat}
    (hlow : (i : ℚ) ≤ bar.progress) (hhigh : bar.progress < i + 1)
    (hcurrent : bar.itemFrames[i]? = some current)
    (hnext : bar.itemFrames[if i + 1 < bar.itemFrames.length then i + 1 else i]? = some next) :
    bar.drawRect = .ok (WMProgressView.stretched bar.naughty current next (bar.progress - i)) := by
  have hi : i < bar.itemFrames.length := (List.getElem?_eq_some_iff.mp hcurrent).1
  have htruncate : truncate bar.progress = i := by
    rw [truncate_of_nonneg ((Nat.cast_nonneg i).trans hlow), Int.floor_eq_iff]
    push_cast
    exact ⟨hlow, hhigh⟩
  have hindex : bar.drawnIndex = i := by
    simp only [WMProgressView.drawnIndex, htruncate]
    rw [if_pos (by omega)]
  have hnextIndex : (if (i : ℤ) + 1 < bar.itemFrames.length then (i : ℤ) + 1 else i) =
      ((if i + 1 < bar.itemFrames.length then i + 1 else i : ℕ) : ℤ) := by
    split_ifs <;> omega
  simp only [WMProgressView.drawRect, hindex, hnextIndex, frameAt_natCast hcurrent,
    frameAt_natCast hnext]
  rfl

theorem drawRect_at {bar : WMProgressView} {k : ℕ} {f : Span CGFloat} (hprogress : bar.progress = k)
    (hf : bar.itemFrames[k]? = some f) : bar.drawRect = .ok f := by
  have hk : k < bar.itemFrames.length := (List.getElem?_eq_some_iff.mp hf).1
  obtain ⟨next, hnext⟩ : ∃ next,
      bar.itemFrames[if k + 1 < bar.itemFrames.length then k + 1 else k]? = some next := by
    split
    · rename_i hlt
      exact ⟨bar.itemFrames[k + 1], List.getElem?_eq_getElem hlt⟩
    · exact ⟨f, hf⟩
  have hdraw := drawRect_eq (by rw [hprogress]) (by rw [hprogress]; exact lt_add_one _) hf hnext
  rw [hdraw, hprogress, sub_self, stretched_zero]

theorem didPressedMenuItem_selItem (k : ℕ) (menu : WMMenuView) :
    (didPressedMenuItem k menu).selItem = some (k : ℤ) := by
  unfold didPressedMenuItem
  split
  · assumption
  · exact (pressItem_rest k _).2.1

theorem frames_selItem (j : ℕ) (menu : WMMenuView) :
    (run delegate menu (List.replicate j .screenFrame)).selItem = menu.selItem := by
  induction j generalizing menu with
  | zero => rfl
  | succ j ih => exact ih (screenFrame menu)

theorem run_append (menu : WMMenuView) (events later : List MenuEvent) :
    run delegate menu (events ++ later) = run delegate (run delegate menu events) later :=
  List.foldl_append

structure Settled (k : ℕ) (menu : WMMenuView) : Prop where
  rates : ∀ (i : ℕ) item, menu.items[i]? = some item → item.rate = if i = k then 1 else 0
  bar : ∀ bar title, menu.progressView = some bar → menu.frames[k]? = some title →
    ∃ f, bar.drawRect = .ok f ∧ f.x + f.width / 2 = title.x + title.width / 2

theorem Settling.settled {factor : ℚ} {k : ℕ} {menu : WMMenuView} (h : Settling factor 0 menu)
    (hready : Ready delegate menu) (hsel : menu.selItem = some (k : ℤ)) : Settled k menu := by
  constructor
  · intro i item hitem
    obtain ⟨_, hselected, hdue⟩ := h.items i item hitem
    rw [WMMenuItem.rate, hdue.arrived.value, hselected, hsel]
    by_cases hi : i = k
    · simp [goal, hi]
    · have hne : ¬ ((k : ℤ) = i) := by
        intro heq
        exact hi (by exact_mod_cast heq.symm)
      simp [goal, hi, hne]
  · intro bar title hbar htitle
    have hk : k < delegate.numbersOfTitles := by
      rw [← hready.laid.count]
      exact (List.getElem?_eq_some_iff.mp htitle).1
    have hprogress := ((h.bar bar hbar).2 k hsel).arrived.value
    obtain ⟨f, hf, hmid, _⟩ := convertProgressWidthsToFrames_mid hk htitle
    rw [← hready.bar bar hbar] at hf
    exact ⟨f, drawRect_at hprogress hf, hmid⟩

theorem reload_run_settling (menu : WMMenuView) (events : List MenuEvent)
    (htaps : ∀ e ∈ events, e.IsTap)
    (hlands : Lands (positiveSpeedFactor menu.speedFactor) ((delegate.numbersOfTitles : ℚ) - 1)) :
    Settling (positiveSpeedFactor menu.speedFactor) (⌈positiveSpeedFactor menu.speedFactor⌉₊ + 1)
      (run delegate (reload delegate menu) events) :=
  run_settling (reload_ready menu) hlands ((reload_settling menu).mono (Nat.zero_le _)) events htaps

theorem taps_settle (menu : WMMenuView)
    (hlands : Lands (positiveSpeedFactor menu.speedFactor) ((delegate.numbersOfTitles : ℚ) - 1))
    (events : List MenuEvent) (htaps : ∀ e ∈ events, e.IsTap) {k : ℕ}
    (hk : k < delegate.numbersOfTitles) {j : ℕ} (hj : ⌈positiveSpeedFactor menu.speedFactor⌉₊ < j) :
    Settled k (run delegate (reload delegate menu)
      (events ++ .press k :: List.replicate j .screenFrame)) := by
  have hready : Ready delegate (run delegate (reload delegate menu) events) :=
    run_ready (reload_ready menu) events
  have hbefore := reload_run_settling menu events htaps hlands
  have hlt : k < (run delegate (reload delegate menu) events).items.length := by
    rw [hready.items]
    exact hk
  have hpress : perform delegate (run delegate (reload delegate menu) events) (.press k) =
      didPressedMenuItem k (run delegate (reload delegate menu) events) := if_pos hlt
  rw [← hready.items] at hlands
  have hend := frames_settling delegate (press_settling hbefore le_rfl hlands hlt) j
  rw [Nat.sub_eq_zero_of_le hj] at hend
  rw [run_append, run, List.foldl_cons, hpress]
  apply hend.settled
  · exact run_ready (hpress ▸ perform_ready hready _) _
  · rw [frames_selItem]
    exact didPressedMenuItem_selItem k _

theorem two_titles_settle : Settled 1 (run twoTitles (reload twoTitles { style := .line })
    ([.press 1, .screenFrame, .press 0] ++ .press 1 :: List.replicate 16 .screenFrame)) := by
  have htaps : ∀ e ∈ [MenuEvent.press 1, .screenFrame, .press 0], e.IsTap := by
    simp [MenuEvent.IsTap]
  exact taps_settle { style := .line } (lands_natCast (n := 15) (by decide) _) _ htaps (by decide)
    (by decide +kernel)

-- A factor that is not whole may take the last step so far that it is rounded to the wrong title.
example : (run { twoTitles with numbersOfTitles := 4 }
      (reload { twoTitles with numbersOfTitles := 4 } { style := .line, speedFactor := 3 / 2 })
      (.press 2 :: List.replicate 4 .screenFrame)).progressView.map WMProgressView.progress =
    some 3 := by
  decide +kernel

structure Spanned (current next f : Span CGFloat) : Prop where
  width : 0 ≤ f.width
  left : min current.x next.x ≤ f.x
  right : f.maxX ≤ max current.maxX next.maxX

theorem stretched_spanned (naughty : Bool) {current next : Span CGFloat} {rate : CGFloat}
    (hzero : 0 ≤ rate) (hone : rate ≤ 1) (hcurrent : 0 ≤ current.width) (hnext : 0 ≤ next.width)
    (hmid : current.x + current.width / 2 ≤ next.x + next.width / 2) :
    Spanned current next (WMProgressView.stretched naughty current next rate) := by
  have hx := min_le_left current.x next.x
  have hx' := min_le_right current.x next.x
  have hmax := le_max_left current.maxX next.maxX
  have hmax' := le_max_right current.maxX next.maxX
  have hcurrentMax : current.maxX = current.x + current.width := rfl
  have hnextMax : next.maxX = next.x + next.width := rfl
  cases naughty with
  | false =>
    constructor
    · exact le_blend hcurrent hnext hzero hone
    · exact le_blend hx hx' hzero hone
    · have hright := blend_le hmax hmax' hzero hone
      simp only [WMProgressView.stretched, Span.maxX, Bool.false_eq_true, if_false] at hright ⊢
      linarith
  | true =>
    by_cases hhalf : rate ≤ 1 / 2
    · have hlow : 0 ≤ rate * 2 := by linarith
      have hhigh : rate * 2 ≤ 1 := by linarith
      have hstart : current.x ≤ current.x + (current.x + current.width / 2 - current.x) * (rate * 2) :=
        le_blend le_rfl (by linarith) hlow hhigh
      have hstart' : current.x + (current.x + current.width / 2 - current.x) * (rate * 2) ≤
          current.x + current.width / 2 := blend_le (by linarith) le_rfl hlow hhigh
      have hend : current.x + current.width / 2 ≤
          current.maxX + (next.x + next.width / 2 - current.maxX) * (rate * 2) :=
        le_blend (by linarith) hmid hlow hhigh
      have hend' : current.maxX + (next.x + next.width / 2 - current.maxX) * (rate * 2) ≤
          max current.maxX next.maxX := blend_le hmax (by linarith) hlow hhigh
      constructor
      all_goals
        simp only [WMProgressView.stretched, Span.maxX, if_true, if_pos hhalf, mul_assoc] at *
        linarith
    · have hlow : 0 ≤ (rate - 1 / 2) * 2 := by linarith
      have hhigh : (rate - 1 / 2) * 2 ≤ 1 := by linarith
      have hstart : min current.x next.x ≤ current.x + current.width / 2 +
          (next.x - (current.x + current.width / 2)) * ((rate - 1 / 2) * 2) :=
        le_blend (by linarith) hx' hlow hhigh
      have hstart' : current.x + current.width / 2 +
          (next.x - (current.x + current.width / 2)) * ((rate - 1 / 2) * 2) ≤
            next.x + next.width / 2 := blend_le hmid (by linarith) hlow hhigh
      have hend : next.x + next.width / 2 ≤ next.x + next.width / 2 +
          (next.maxX - (next.x + next.width / 2)) * ((rate - 1 / 2) * 2) :=
        le_blend le_rfl (by linarith) hlow hhigh
      have hend' : next.x + next.width / 2 +
          (next.maxX - (next.x + next.width / 2)) * ((rate - 1 / 2) * 2) ≤
            max current.maxX next.maxX := blend_le (by linarith) hmax' hlow hhigh
      constructor
      all_goals
        simp only [WMProgressView.stretched, Span.maxX, if_true, if_neg hhalf, mul_assoc] at *
        linarith

theorem resetItemFrame_loop_widths (keys : List ℕ) (menu : WMMenuView) :
    (keys.foldl resetItemFrame menu).progressWidths = menu.progressWidths := by
  induction keys generalizing menu with
  | nil => rfl
  | cons i keys ih =>
    rw [List.foldl_cons, ih]
    unfold resetItemFrame
    split <;> rfl

theorem calculateItemFrames_widths (delegate : WMMenuViewDelegate) (menu : WMMenuView) :
    (calculateItemFrames delegate menu).progressWidths = menu.progressWidths := by
  unfold calculateItemFrames
  dsimp only
  split <;> rfl

theorem perform_widths (menu : WMMenuView) (e : MenuEvent) :
    (perform delegate menu e).progressWidths = menu.progressWidths := by
  rcases perform_cases delegate menu e with ⟨width, rfl⟩ | hsame
  · simp only [perform, resetFrames, resetFramesFromIndex]
    rw [resetItemFrame_loop_widths, calculateItemFrames_widths]
  · exact hsame.widths

theorem run_widths (menu : WMMenuView) (events : List MenuEvent) :
    (run delegate menu events).progressWidths = menu.progressWidths := by
  induction events generalizing menu with
  | nil => rfl
  | cons e events ih => exact (ih _).trans (perform_widths menu e)

theorem reload_widths (menu : WMMenuView) :
    (reload delegate menu).progressWidths = menu.progressWidths := by
  unfold reload makeStyle
  split
  · exact calculateItemFrames_widths delegate _
  · exact calculateItemFrames_widths delegate _

def DrawnBetween (bar : WMProgressView) : Prop :=
  ∃ (i : ℕ) (f current next : Span CGFloat), (i : ℚ) ≤ bar.progress ∧ bar.progress < i + 1 ∧
    bar.itemFrames[i]? = some current ∧
    bar.itemFrames[if i + 1 < bar.itemFrames.length then i + 1 else i]? = some next ∧
    bar.drawRect = .ok f ∧ Spanned current next f

theorem Ready.progressFrame {menu : WMMenuView} {bar : WMProgressView} {i : ℕ}
    (h : Ready delegate menu) (hbar : menu.progressView = some bar)
    (hwidth : ∀ i, 0 ≤ delegate.widthForItemAtIndex i)
    (hprogress : ∀ w ∈ menu.progressWidths, 0 ≤ numberWithFloat w)
    (hi : i < delegate.numbersOfTitles) :
    ∃ title f, menu.frames[i]? = some title ∧ bar.itemFrames[i]? = some f ∧
      f.x + f.width / 2 = title.x + title.width / 2 ∧ 0 ≤ f.width ∧ 0 ≤ title.width := by
  obtain ⟨title, htitle⟩ : ∃ title, menu.frames[i]? = some title := by
    rw [← h.laid.count] at hi
    exact ⟨menu.frames[i], List.getElem?_eq_getElem hi⟩
  obtain ⟨f, hf, hmid, hcases⟩ := convertProgressWidthsToFrames_mid hi htitle
  have htw : 0 ≤ title.width := by
    rw [h.laid.titles i _ htitle]
    exact hwidth i
  refine ⟨title, f, htitle, by rw [h.bar bar hbar, hf], hmid, ?_, htw⟩
  rcases hcases with hsame | ⟨w, hw, hsame⟩
  · rwa [hsame]
  · rw [hsame]
    exact hprogress w hw

theorem Ready.drawnBetween {menu : WMMenuView} {bar : WMProgressView} (h : Ready delegate menu)
    (hbar : menu.progressView = some bar) (hwidth : ∀ i, 0 ≤ delegate.widthForItemAtIndex i)
    (hmargin : ∀ i, 0 ≤ delegate.itemMarginAtIndex i)
    (hprogress : ∀ w ∈ menu.progressWidths, 0 ≤ numberWithFloat w) (hlow : 0 ≤ bar.progress)
    (hhigh : bar.progress ≤ (delegate.numbersOfTitles : ℚ) - 1) : DrawnBetween bar := by
  have hlength : bar.itemFrames.length = delegate.numbersOfTitles := by
    rw [h.bar bar hbar, convertProgressWidthsToFrames_length h.laid.count]
  have hfloor := Nat.floor_le hlow
  have hnext := Nat.lt_floor_add_one bar.progress
  generalize ⌊bar.progress⌋₊ = i at hfloor hnext
  have hi : i < delegate.numbersOfTitles := by
    have hcast : (i : ℚ) < delegate.numbersOfTitles := by linarith
    exact_mod_cast hcast
  obtain ⟨title, current, htitle, hcurrent, hmid, hcw, htw⟩ :=
    h.progressFrame hbar hwidth hprogress hi
  have hzero : 0 ≤ bar.progress - i := sub_nonneg.mpr hfloor
  have hone : bar.progress - i ≤ 1 := by linarith
  by_cases hlast : i + 1 < bar.itemFrames.length
  · obtain ⟨title', next, htitle', hnextFrame, hmid', hnw, htw'⟩ :=
      h.progressFrame hbar hwidth hprogress (hlength ▸ hlast)
    have hapart := h.laid.apart hwidth hmargin (Nat.lt_succ_self i) htitle htitle'
    rw [Span.maxX] at hapart
    have hdrawn := stretched_spanned bar.naughty hzero hone hcw hnw (by linarith)
    have hat : bar.itemFrames[if i + 1 < bar.itemFrames.length then i + 1 else i]? = some next := by
      rwa [if_pos hlast]
    exact ⟨i, _, current, next, hfloor, hnext, hcurrent, hat,
      drawRect_eq hfloor hnext hcurrent hat, hdrawn⟩
  · have hdrawn := stretched_spanned bar.naughty hzero hone hcw hcw le_rfl
    have hat : bar.itemFrames[if i + 1 < bar.itemFrames.length then i + 1 else i]? =
        some current := by
      rwa [if_neg hlast]
    exact ⟨i, _, current, current, hfloor, hnext, hcurrent, hat,
      drawRect_eq hfloor hnext hcurrent hat, hdrawn⟩

end MixedProject.WMMenuView
