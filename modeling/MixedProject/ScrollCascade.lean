import MixedProject.NestedScroll

namespace MixedProject.NestedScroll

theorem foldlM_sound {α β : Type} {f : β → α → Option β} {g : β → α → β}
    (h : ∀ b a c, f b a = some c → c = g b a) (xs : List α) (b c : β)
    (hc : xs.foldlM f b = some c) : c = xs.foldl g b := by
  induction xs generalizing b with
  | nil => cases hc; rfl
  | cons x xs ih =>
    obtain ⟨d, hd, hrest⟩ := Option.bind_eq_some_iff.mp hc
    rw [List.foldl_cons, ← h b x d hd]
    exact ih d hrest

theorem foldlM_total {α β : Type} {f : β → α → Option β} {g : β → α → β}
    (h : ∀ b a, f b a = some (g b a)) (xs : List α) (b : β) :
    xs.foldlM f b = some (xs.foldl g b) := by
  induction xs generalizing b with
  | nil => rfl
  | cons x xs ih => rw [List.foldlM_cons, h, List.foldl_cons]; exact ih (g b x)

def effect : NotificationName → ChildTableViewController → ChildTableViewController
  | .homeGoTop, p => { p with canScroll := true }
  | .homeLeaveTop, _ => { contentOffset := 0, canScroll := false }
  | .changeVideo, p => p

theorem effect_idem (name : NotificationName) (p : ChildTableViewController) :
    effect name (effect name p) = effect name p := by cases name <;> rfl

def hear (name : NotificationName) (s : State) : Observer → State
  | .container => { s with canScroll := true }
  | .page i => modifyPage s i (effect name)

def posted (name : NotificationName) (s : State) : State :=
  (observersOf name s).foldl (hear name) s

theorem modifyPage_page (s : State) (i : ℕ)
    (f : ChildTableViewController → ChildTableViewController) (hf : f {} = {}) :
    page (modifyPage s i f) i = f (page s i) := by
  simp only [page, modifyPage, List.getD_eq_getElem?_getD, List.getElem?_modify_eq]
  cases s.pages[i]? with
  | none => exact hf.symm
  | some p => rfl

theorem modifyPage_modifyPage (s : State) (i : ℕ)
    (f g : ChildTableViewController → ChildTableViewController) :
    modifyPage (modifyPage s i f) i g = modifyPage s i (g ∘ f) := by
  simp only [modifyPage, List.modify_modify_eq]

theorem modifyPage_self (s : State) (i : ℕ)
    (f : ChildTableViewController → ChildTableViewController) (hf : f (page s i) = page s i) :
    modifyPage s i f = s := by
  have hpages : s.pages.modify i f = s.pages := by
    apply List.ext_getElem?
    intro j
    rw [List.getElem?_modify]
    split_ifs with hij
    · subst hij
      simp only [page, List.getD_eq_getElem?_getD] at hf
      cases hp : s.pages[i]? with
      | none => rfl
      | some p =>
        rw [hp, Option.getD_some] at hf
        exact congrArg some hf
    · simp
  rw [modifyPage, hpages]

theorem pageDidScroll_rest (fuel i : ℕ) (s : State) (h : (page s i).contentOffset = 0) :
    pageDidScroll (fuel + 1) i s = some s := by
  simp only [pageDidScroll, pinPage, setPageOffset, h, ↓reduceIte, ite_self, Option.bind_eq_bind,
    Option.bind_some, lt_irrefl]

theorem pageDidScroll_rest_sound {fuel i : ℕ} {s t : State} (h : (page s i).contentOffset = 0)
    (ht : pageDidScroll fuel i s = some t) : t = s := by
  cases fuel with
  | zero => cases ht
  | succ fuel =>
    rw [pageDidScroll_rest fuel i s h] at ht
    exact (Option.some.inj ht).symm

def rested (i : ℕ) (s : State) : State := modifyPage s i fun p => { p with contentOffset := 0 }

theorem rested_offset (i : ℕ) (s : State) : (page (rested i s) i).contentOffset = 0 := by
  rw [rested, modifyPage_page s i _ rfl]

theorem setPageOffset_sound {fuel i : ℕ} {s t : State}
    (h : setPageOffset (pageDidScroll fuel) i 0 s = some t) : t = rested i s := by
  unfold setPageOffset at h
  split_ifs at h with hzero
  · cases h
    exact (modifyPage_self s i _ (by rw [← hzero])).symm
  · exact pageDidScroll_rest_sound (rested_offset i s) h

theorem setPageOffset_total (fuel i : ℕ) (s : State) :
    setPageOffset (pageDidScroll (fuel + 1)) i 0 s = some (rested i s) := by
  unfold setPageOffset
  split_ifs with hzero
  · rw [rested, modifyPage_self s i _ (by rw [← hzero])]
  · exact pageDidScroll_rest fuel i _ (rested_offset i s)

theorem rested_leave (i : ℕ) (s : State) :
    (modifyPage (rested i s) i fun p => { p with canScroll := false }) =
      modifyPage s i (effect .homeLeaveTop) := by
  rw [rested, modifyPage_modifyPage]
  rfl

theorem deliver_sound {fuel : ℕ} {name : NotificationName} {s t : State} {o : Observer}
    (h : deliver (pageDidScroll fuel) ⟨name, ns "1"⟩ s o = some t) : t = hear name s o := by
  cases o with
  | container => exact (Option.some.inj h).symm
  | page i =>
    cases name with
    | homeGoTop => exact (Option.some.inj h).symm
    | homeLeaveTop =>
      obtain ⟨r, hr, ht⟩ := Option.bind_eq_some_iff.mp h
      rw [setPageOffset_sound hr] at ht
      rw [← Option.some.inj ht]
      exact rested_leave i s
    | changeVideo =>
      rw [← Option.some.inj h]
      exact (modifyPage_self s i _ rfl).symm

theorem deliver_total (fuel : ℕ) (name : NotificationName) (s : State) (o : Observer) :
    deliver (pageDidScroll (fuel + 1)) ⟨name, ns "1"⟩ s o = some (hear name s o) := by
  cases o with
  | container => rfl
  | page i =>
    cases name with
    | homeGoTop => rfl
    | homeLeaveTop =>
      simp only [deliver, pageAcceptMsg, setPageOffset_total, Option.bind_eq_bind, Option.bind_some]
      exact congrArg some (rested_leave i s)
    | changeVideo => exact congrArg some (modifyPage_self s i _ rfl).symm

theorem post_sound {fuel : ℕ} {name : NotificationName} {s t : State}
    (h : postNotification (pageDidScroll fuel) ⟨name, ns "1"⟩ s = some t) : t = posted name s :=
  foldlM_sound (fun _ _ _ => deliver_sound) _ s t h

theorem post_total (fuel : ℕ) (name : NotificationName) (s : State) :
    postNotification (pageDidScroll (fuel + 1)) ⟨name, ns "1"⟩ s = some (posted name s) :=
  foldlM_total (deliver_total fuel name) _ s

def pinned (i : ℕ) (s : State) : State := if (page s i).canScroll then s else rested i s

theorem pinPage_sound {fuel i : ℕ} {s t : State} (h : pinPage (pageDidScroll fuel) i s = some t) :
    t = pinned i s := by
  unfold pinPage at h
  unfold pinned
  split_ifs at h ⊢ with hcan
  · exact (Option.some.inj h).symm
  · exact setPageOffset_sound h

theorem pinPage_total (fuel i : ℕ) (s : State) :
    pinPage (pageDidScroll (fuel + 1)) i s = some (pinned i s) := by
  unfold pinPage pinned
  split_ifs with hcan
  · rfl
  · exact setPageOffset_total fuel i s

def pageSettled (i : ℕ) (s : State) : State :=
  if (page (pinned i s) i).contentOffset < 0 then posted .homeLeaveTop (pinned i s) else pinned i s

theorem pageDidScroll_sound {fuel i : ℕ} {s t : State} (h : pageDidScroll fuel i s = some t) :
    t = pageSettled i s := by
  cases fuel with
  | zero => cases h
  | succ fuel =>
    rw [pageDidScroll] at h
    obtain ⟨r, hr, ht⟩ := Option.bind_eq_some_iff.mp h
    rw [pinPage_sound hr] at ht
    unfold pageSettled
    split_ifs at ht ⊢ with hneg
    · exact post_sound ht
    · exact (Option.some.inj ht).symm

theorem pageDidScroll_total (fuel i : ℕ) (s : State) :
    pageDidScroll (fuel + 2) i s = some (pageSettled i s) := by
  rw [pageDidScroll, pinPage_total, Option.bind_eq_bind, Option.bind_some]
  unfold pageSettled
  split_ifs with hneg
  · exact post_total fuel .homeLeaveTop _
  · rfl

structure Registered (s : State) : Prop where
  goTop : ∀ o, o ∈ observersOf .homeGoTop s ↔ ∃ i < s.pages.length, o = .page i
  leaveTop : ∀ i, .page i ∈ observersOf .homeLeaveTop s ↔ i < s.pages.length

def observing (s : State) : Bool := decide (.container ∈ observersOf .homeLeaveTop s)

theorem Registered.congr {s t : State} (h : Registered s) (hobs : t.observers = s.observers)
    (hlen : t.pages.length = s.pages.length) : Registered t := by
  have hof : ∀ name, observersOf name t = observersOf name s := by
    intro name
    rw [observersOf, hobs, observersOf]
  constructor
  · intro o
    rw [hof, hlen]
    exact h.goTop o
  · intro i
    rw [hof, hlen]
    exact h.leaveTop i

theorem foldl_hear (name : NotificationName) (heard : List Observer) (s : State) :
    heard.foldl (hear name) s =
      { s with
        canScroll := s.canScroll || decide (.container ∈ heard)
        pages := s.pages.mapIdx fun i p => if .page i ∈ heard then effect name p else p } := by
  induction heard generalizing s with
  | nil =>
    have hpages : (s.pages.mapIdx fun _ p => p) = s.pages := by
      apply List.ext_getElem?
      intro i
      simp
    simp [hpages]
  | cons o heard ih =>
    rw [List.foldl_cons, ih]
    cases o with
    | container => simp [hear]
    | page j =>
      have hpages : ((s.pages.modify j (effect name)).mapIdx fun i p =>
          if .page i ∈ heard then effect name p else p) =
          s.pages.mapIdx fun i p => if .page i ∈ Observer.page j :: heard then effect name p else p := by
        apply List.ext_getElem?
        intro i
        rw [List.getElem?_mapIdx, List.getElem?_mapIdx, List.getElem?_modify]
        cases s.pages[i]? with
        | none => rfl
        | some p =>
          by_cases hij : j = i
          · subst hij
            simp [effect_idem]
          · simp [hij, Ne.symm hij]
      simp [hear, modifyPage, hpages]

theorem mapIdx_all {name : NotificationName} {heard : List Observer}
    {pages : List ChildTableViewController} (h : ∀ i < pages.length, .page i ∈ heard) :
    (pages.mapIdx fun i p => if .page i ∈ heard then effect name p else p) =
      pages.map (effect name) := by
  apply List.ext_getElem?
  intro i
  rw [List.getElem?_mapIdx, List.getElem?_map]
  cases hp : pages[i]? with
  | none => rfl
  | some p => simp [h i (List.getElem?_eq_some_iff.mp hp).1]

theorem posted_goTop {s : State} (h : Registered s) :
    posted .homeGoTop s = { s with pages := s.pages.map (effect .homeGoTop) } := by
  have hcontainer : .container ∉ observersOf .homeGoTop s := by
    rw [h.goTop]
    rintro ⟨i, -, hi⟩
    cases hi
  rw [posted, foldl_hear, mapIdx_all fun i hi => (h.goTop _).mpr ⟨i, hi, rfl⟩,
    decide_eq_false hcontainer, Bool.or_false]

theorem posted_leaveTop {s : State} (h : Registered s) :
    posted .homeLeaveTop s =
      { s with
        canScroll := s.canScroll || observing s
        pages := s.pages.map (effect .homeLeaveTop) } := by
  rw [posted, foldl_hear, mapIdx_all fun i hi => (h.leaveTop i).mpr hi, observing]

def topped (screen : Screen) (s : State) : State :=
  { s with
    contentOffset := screen.maxOffsetY
    alpha := screen.maxOffsetY / screen.maxOffsetY
    canScroll := false
    pages := s.pages.map (effect .homeGoTop) }

theorem Registered.topped {screen : Screen} {s : State} (h : Registered s) :
    Registered (topped screen s) := h.congr rfl (by simp [NestedScroll.topped])

theorem topped_topped (screen : Screen) (s : State) :
    topped screen (topped screen s) = topped screen s := by
  simp only [topped, List.map_map]
  rfl

theorem posted_topped {screen : Screen} {s : State} (h : Registered s)
    (hoffset : s.contentOffset = screen.maxOffsetY)
    (halpha : s.alpha = screen.maxOffsetY / screen.maxOffsetY) :
    { posted .homeGoTop s with canScroll := false } = topped screen s := by
  rw [posted_goTop h, topped, ← hoffset, halpha, hoffset]

def shaded (screen : Screen) (s : State) : State :=
  { s with alpha := s.contentOffset / screen.maxOffsetY }

theorem Registered.shaded {screen : Screen} {s : State} (h : Registered s) :
    Registered (shaded screen s) := h.congr rfl rfl

@[simp] theorem shaded_contentOffset (screen : Screen) (s : State) :
    (shaded screen s).contentOffset = s.contentOffset := rfl

def moved (y : CGFloat) (s : State) : State := { s with contentOffset := y }

theorem Registered.moved {y : CGFloat} {s : State} (h : Registered s) : Registered (moved y s) :=
  h.congr rfl rfl

theorem setContainerOffset_eq (didScroll : State → Option State) (y : CGFloat) (s : State) :
    setContainerOffset didScroll y s = if s.contentOffset = y then some s else didScroll (moved y s) :=
  rfl

theorem containerDidScroll_succ (screen : Screen) (fuel : ℕ) (s : State) :
    containerDidScroll screen (fuel + 1) s =
      if s.contentOffset ≥ screen.maxOffsetY then
        (setContainerOffset (containerDidScroll screen fuel) screen.maxOffsetY (shaded screen s)).bind
          fun r => (postNotification (pageDidScroll fuel) ⟨.homeGoTop, ns "1"⟩ r).bind
            fun r => some { r with canScroll := false }
      else if s.contentOffset ≤ 0 then
        setContainerOffset (containerDidScroll screen fuel) 0 (shaded screen s)
      else if s.canScroll then some (shaded screen s)
      else setContainerOffset (containerDidScroll screen fuel) screen.maxOffsetY (shaded screen s) :=
  rfl

theorem atTop_sound {screen : Screen} {fuel : ℕ} {s t : State} (h : Registered s)
    (hoffset : s.contentOffset = screen.maxOffsetY)
    (ht : containerDidScroll screen fuel s = some t) : t = topped screen s := by
  cases fuel with
  | zero => cases ht
  | succ fuel =>
    have hset : (shaded screen s).contentOffset = screen.maxOffsetY := hoffset
    rw [containerDidScroll_succ, if_pos hoffset.ge, setContainerOffset, if_pos hset,
      Option.bind_some] at ht
    obtain ⟨r, hr, ht⟩ := Option.bind_eq_some_iff.mp ht
    rw [post_sound hr] at ht
    rw [← Option.some.inj ht, posted_topped h.shaded hset (by rw [shaded, hoffset])]
    rfl

theorem atTop_total (screen : Screen) (fuel : ℕ) {s : State}
    (hoffset : s.contentOffset = screen.maxOffsetY) :
    ∃ t, containerDidScroll screen (fuel + 2) s = some t := by
  have hset : (shaded screen s).contentOffset = screen.maxOffsetY := hoffset
  rw [containerDidScroll_succ, if_pos hoffset.ge, setContainerOffset, if_pos hset,
    Option.bind_some, post_total, Option.bind_some]
  exact ⟨_, rfl⟩

theorem climb_sound {screen : Screen} {fuel : ℕ} {s r : State} (h : Registered s)
    (halpha : s.alpha = s.contentOffset / screen.maxOffsetY)
    (hr : setContainerOffset (containerDidScroll screen fuel) screen.maxOffsetY s = some r) :
    { posted .homeGoTop r with canScroll := false } = topped screen s := by
  rw [setContainerOffset_eq] at hr
  split_ifs at hr with hoffset
  · rw [← Option.some.inj hr]
    exact posted_topped h hoffset (by rw [halpha, hoffset])
  · have htop := atTop_sound h.moved rfl hr
    have hreg : Registered r := htop ▸ h.moved.topped
    have hoff : r.contentOffset = screen.maxOffsetY := by rw [htop]; rfl
    have hagain := posted_topped hreg hoff (by rw [htop]; rfl)
    rw [hagain, htop, topped_topped]
    rfl

theorem climb_total (screen : Screen) (fuel : ℕ) (s : State) :
    ∃ r, setContainerOffset (containerDidScroll screen (fuel + 2)) screen.maxOffsetY s = some r := by
  rw [setContainerOffset_eq]
  split_ifs with hoffset
  · exact ⟨s, rfl⟩
  · exact atTop_total screen fuel rfl

theorem above_sound {screen : Screen} {fuel : ℕ} {s t : State} (h : Registered s)
    (hoffset : screen.maxOffsetY ≤ s.contentOffset)
    (ht : containerDidScroll screen fuel s = some t) : t = topped screen s := by
  cases fuel with
  | zero => cases ht
  | succ fuel =>
    rw [containerDidScroll_succ, if_pos hoffset] at ht
    obtain ⟨r, hr, ht⟩ := Option.bind_eq_some_iff.mp ht
    obtain ⟨u, hu, ht⟩ := Option.bind_eq_some_iff.mp ht
    rw [post_sound hu] at ht
    rw [← Option.some.inj ht, climb_sound h.shaded rfl hr]
    rfl

theorem above_total (screen : Screen) (fuel : ℕ) {s : State}
    (hoffset : screen.maxOffsetY ≤ s.contentOffset) :
    ∃ t, containerDidScroll screen (fuel + 3) s = some t := by
  obtain ⟨r, hr⟩ := climb_total screen fuel (shaded screen s)
  rw [containerDidScroll_succ, if_pos hoffset, hr, Option.bind_some, post_total, Option.bind_some]
  exact ⟨_, rfl⟩

def containerSettled (screen : Screen) (s : State) : State :=
  if screen.maxOffsetY ≤ s.contentOffset then topped screen s
  else if s.contentOffset ≤ 0 then
    if screen.maxOffsetY ≤ 0 then topped screen s else shaded screen (moved 0 s)
  else if s.canScroll then shaded screen s
  else topped screen s

theorem atZero_sound {screen : Screen} {fuel : ℕ} {s t : State} (h : Registered s)
    (hoffset : s.contentOffset = 0) (ht : containerDidScroll screen fuel s = some t) :
    t = if screen.maxOffsetY ≤ 0 then topped screen s else shaded screen s := by
  split_ifs with hmax
  · exact above_sound h (hoffset ▸ hmax) ht
  · cases fuel with
    | zero => cases ht
    | succ fuel =>
      rw [containerDidScroll_succ, if_neg (by rw [hoffset]; exact hmax), if_pos hoffset.le,
        setContainerOffset_eq, if_pos ((shaded_contentOffset screen s).trans hoffset)] at ht
      exact (Option.some.inj ht).symm

theorem atZero_total (screen : Screen) (fuel : ℕ) {s : State}
    (hoffset : s.contentOffset = 0) : ∃ t, containerDidScroll screen (fuel + 3) s = some t := by
  by_cases hmax : screen.maxOffsetY ≤ 0
  · exact above_total screen fuel (hoffset ▸ hmax)
  · rw [containerDidScroll_succ, if_neg (by rw [hoffset]; exact hmax), if_pos hoffset.le,
      setContainerOffset_eq, if_pos ((shaded_contentOffset screen s).trans hoffset)]
    exact ⟨_, rfl⟩

theorem containerDidScroll_sound {screen : Screen} {fuel : ℕ} {s t : State} (h : Registered s)
    (ht : containerDidScroll screen fuel s = some t) : t = containerSettled screen s := by
  unfold containerSettled
  by_cases habove : screen.maxOffsetY ≤ s.contentOffset
  · rw [if_pos habove]
    exact above_sound h habove ht
  · rw [if_neg habove]
    cases fuel with
    | zero => cases ht
    | succ fuel =>
      rw [containerDidScroll_succ, if_neg habove] at ht
      split_ifs at ht ⊢ with hzero hmax hcan
      · rw [setContainerOffset_eq, shaded_contentOffset] at ht
        split_ifs at ht with hoffset
        · exact absurd (hmax.trans_eq hoffset.symm) habove
        · rw [atZero_sound h.shaded.moved rfl ht, if_pos hmax]
          rfl
      · rw [setContainerOffset_eq, shaded_contentOffset] at ht
        split_ifs at ht with hoffset
        · rw [← Option.some.inj ht, shaded, shaded, moved, hoffset]
        · rw [atZero_sound h.shaded.moved rfl ht, if_neg hmax]
          rfl
      · exact (Option.some.inj ht).symm
      · rw [setContainerOffset_eq, shaded_contentOffset] at ht
        split_ifs at ht with hoffset
        · exact absurd hoffset.ge habove
        · rw [atTop_sound h.shaded.moved rfl ht]
          rfl

theorem containerDidScroll_total (screen : Screen) (fuel : ℕ) (s : State) :
    ∃ t, containerDidScroll screen (fuel + 4) s = some t := by
  by_cases habove : screen.maxOffsetY ≤ s.contentOffset
  · exact above_total screen (fuel + 1) habove
  · rw [containerDidScroll_succ, if_neg habove]
    split_ifs with hzero hcan
    · rw [setContainerOffset_eq]
      split_ifs with hoffset
      · exact ⟨_, rfl⟩
      · exact atZero_total screen fuel rfl
    · exact ⟨_, rfl⟩
    · exact climb_total screen (fuel + 1) _

end MixedProject.NestedScroll
