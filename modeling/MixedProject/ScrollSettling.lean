import MixedProject.ScrollOwnership

namespace MixedProject.NestedScroll

def pageOffsets (s : State) : List CGFloat := s.pages.map fun p => p.contentOffset

theorem pageOffsets_posted (s : State) : pageOffsets (posted .homeGoTop s) = pageOffsets s := by
  rw [posted, foldl_hear]
  apply List.ext_getElem?
  intro i
  simp only [pageOffsets, List.getElem?_map, List.getElem?_mapIdx]
  cases s.pages[i]? with
  | none => rfl
  | some p => simp only [Option.map_some, apply_ite ChildTableViewController.contentOffset, effect, ite_self]

theorem contentOffset_posted (name : NotificationName) (s : State) :
    (posted name s).contentOffset = s.contentOffset := by
  rw [posted, foldl_hear]

structure Settled (screen : Screen) (s t : State) : Prop where
  nonneg : 0 ≤ t.contentOffset
  le_max : t.contentOffset ≤ screen.maxOffsetY
  pageOffsets : pageOffsets t = pageOffsets s

theorem settled_set {screen : Screen} {didScroll : State → Option State} {y : CGFloat} {s t : State}
    (hrec : ∀ r, didScroll (moved y s) = some r → Settled screen (moved y s) r)
    (hy : 0 ≤ y ∧ y ≤ screen.maxOffsetY) (ht : setContainerOffset didScroll y s = some t) :
    Settled screen s t := by
  rw [setContainerOffset_eq] at ht
  split_ifs at ht with hoffset
  · rw [← Option.some.inj ht]
    subst hoffset
    exact ⟨hy.1, hy.2, rfl⟩
  · have hsettled := hrec t ht
    exact ⟨hsettled.nonneg, hsettled.le_max, hsettled.pageOffsets⟩

/-- By induction on the depth of re-entrant calls, with no assumption on who observes what. -/
theorem containerDidScroll_settles {screen : Screen} (hmax : 0 < screen.maxOffsetY) (fuel : ℕ) :
    ∀ s t : State, containerDidScroll screen fuel s = some t → Settled screen s t := by
  induction fuel with
  | zero =>
    intro s t ht
    cases ht
  | succ fuel ih =>
    intro s t ht
    have hset : ∀ y r, 0 ≤ y ∧ y ≤ screen.maxOffsetY →
        setContainerOffset (containerDidScroll screen fuel) y (shaded screen s) = some r →
        Settled screen s r := by
      intro y r hy hr
      have hsettled := settled_set (fun u hu => ih _ u hu) hy hr
      exact ⟨hsettled.nonneg, hsettled.le_max, hsettled.pageOffsets⟩
    rw [containerDidScroll_succ] at ht
    split_ifs at ht with habove hbelow hcan
    · obtain ⟨r, hr, ht⟩ := Option.bind_eq_some_iff.mp ht
      obtain ⟨u, hu, ht⟩ := Option.bind_eq_some_iff.mp ht
      have hsettled := hset _ r ⟨hmax.le, le_rfl⟩ hr
      rw [post_sound hu] at ht
      rw [← Option.some.inj ht]
      constructor
      · exact (contentOffset_posted .homeGoTop r).symm ▸ hsettled.nonneg
      · exact (contentOffset_posted .homeGoTop r).symm ▸ hsettled.le_max
      · exact (pageOffsets_posted r).trans hsettled.pageOffsets
    · exact hset 0 t ⟨le_rfl, hmax.le⟩ ht
    · rw [← Option.some.inj ht]
      exact ⟨(not_le.mp hbelow).le, (not_le.mp habove).le, rfl⟩
    · exact hset _ t ⟨hmax.le, le_rfl⟩ ht

theorem handle_scroll_total (screen : Screen) (fuel : ℕ) (s : State) (y : CGFloat) :
    (∃ t, handle screen (fuel + 4) s (.containerScroll y) = some t) ∧
      ∀ i < s.pages.length, ∃ t, handle screen (fuel + 4) s (.pageScroll i y) = some t := by
  constructor
  · exact containerDidScroll_total screen fuel (moved y s)
  · intro i hi
    rw [handle, if_pos hi]
    exact ⟨_, pageDidScroll_total (fuel + 2) i _⟩

theorem one_scroll_settles (screen : Screen) (hmax : 0 < screen.maxOffsetY) (s : State) (y : CGFloat) :
    (∀ fuel ≥ 4, ∃ t, handle screen fuel s (.containerScroll y) = some t) ∧
      (∀ i < s.pages.length, ∀ fuel ≥ 4, ∃ t, handle screen fuel s (.pageScroll i y) = some t) ∧
      ∀ t, Step screen s (.containerScroll y) t →
        0 ≤ t.contentOffset ∧ t.contentOffset ≤ screen.maxOffsetY ∧
          t.pages.map (fun p => p.contentOffset) = s.pages.map (fun p => p.contentOffset) := by
  refine ⟨?_, ?_, ?_⟩
  · intro fuel hfuel
    obtain ⟨extra, rfl⟩ := Nat.exists_eq_add_of_le' hfuel
    exact (handle_scroll_total screen extra s y).1
  · intro i hi fuel hfuel
    obtain ⟨extra, rfl⟩ := Nat.exists_eq_add_of_le' hfuel
    exact (handle_scroll_total screen extra s y).2 i hi
  · rintro t ⟨fuel, ht⟩
    have hsettled := containerDidScroll_settles hmax fuel _ t ht
    exact ⟨hsettled.nonneg, hsettled.le_max, hsettled.pageOffsets⟩

def twoPages : State where
  contentOffset := 30
  canScroll := false
  pages := [{ contentOffset := -7, canScroll := true }, { contentOffset := 12 }]
  observers := [(.homeGoTop, .page 0), (.homeLeaveTop, .page 0), (.homeGoTop, .page 1),
    (.homeLeaveTop, .page 1), (.homeLeaveTop, .container)]

theorem twoPages_settle :
    (∀ fuel ≥ 4, ∃ t, handle phone fuel twoPages (.containerScroll 500) = some t) ∧
      (∀ i < twoPages.pages.length, ∀ fuel ≥ 4,
        ∃ t, handle phone fuel twoPages (.pageScroll i 500) = some t) ∧
      ∀ t, Step phone twoPages (.containerScroll 500) t →
        0 ≤ t.contentOffset ∧ t.contentOffset ≤ phone.maxOffsetY ∧
          t.pages.map (fun p => p.contentOffset) =
            twoPages.pages.map (fun p => p.contentOffset) := by
  exact one_scroll_settles phone (by decide +kernel) twoPages 500

end MixedProject.NestedScroll
