import MixedProject.ServerAnswer

namespace MixedProject

structure NSURL where
  absoluteString : NSString
  deriving DecidableEq

/-- What Foundation decides about URLs: which strings are URLs, and what `nil` does. -/
structure URLLoading where
  URLWithString : NSString → Option NSURL
  URLWithNil : Except NSException (Option NSURL)

def URLLoading.spaceless : URLLoading where
  URLWithString := fun s => if 0x20 ∈ s then none else some ⟨s⟩
  URLWithNil := .error .invalidArgument

def URLWithString (u : URLLoading) : Option Value → Except NSException (Option NSURL)
  | none => u.URLWithNil
  | some (.string s) => .ok (u.URLWithString s)
  | some _ => .error .invalidArgument

structure NewsTableViewCell where
  title : Option NSString := none
  author : Option NSString := none
  smallImage : Option NSURL := none
  deriving DecidableEq

namespace NewsTableViewCell

def pictureURL (u : URLLoading) (item : Value) : Except NSException (Option NSURL) := do
  let url ← objectForKeyedSubscript (ns "url") (some item)
  URLWithString u url

def sdSetImageWithURL (url : Option NSURL) (cell : NewsTableViewCell) : NewsTableViewCell :=
  { cell with smallImage := url }

def setPicture (u : URLLoading) (cell : NewsTableViewCell) (item : Value) :
    Except NSException NewsTableViewCell := do
  let url ← pictureURL u item
  return cell.sdSetImageWithURL url

def setCellData (u : URLLoading) (model : NewsModel) (cell : NewsTableViewCell) :
    Except NSException NewsTableViewCell :=
  let cell := { cell with title := model.title, author := model.source }
  (model.picInfo.getD []).foldlM (setPicture u) cell

end NewsTableViewCell

def NewsViewController.cellForRowAtIndexPath (u : URLLoading) (c : NewsViewController)
    (dequeued : Option NewsTableViewCell) (row : ℕ) : Except NSException NewsTableViewCell := do
  let cell := dequeued.getD {}
  let model ← objectAtIndex c.dataArray row
  cell.setCellData u model

namespace NewsTableViewCell

open ServerAnswer

variable {u : URLLoading}

def pictures (model : NewsModel) : List Value := model.picInfo.getD []

def Showable (u : URLLoading) (model : NewsModel) : Prop :=
  ∀ item ∈ pictures model, ∃ url, pictureURL u item = .ok url

/-- The request left in the image view when these pictures are set over an older one. -/
def requested (u : URLLoading) (items : List Value) (older : Option NSURL) : Option NSURL :=
  (OverwriteLoop.last (pictureURL u) items).getD older

theorem setPicture_eq (u : URLLoading) :
    setPicture u = OverwriteLoop.step (pictureURL u) sdSetImageWithURL := by
  funext cell item
  unfold setPicture OverwriteLoop.step
  cases pictureURL u item with
  | error e => rfl
  | ok url => rfl

theorem setCellData_ok {model : NewsModel} {cell shown : NewsTableViewCell} :
    cell.setCellData u model = .ok shown ↔
      Showable u model ∧
        shown = ⟨model.title, model.source, requested u (pictures model) cell.smallImage⟩ := by
  unfold setCellData
  rw [setPicture_eq, OverwriteLoop.loop_ok]
  · apply and_congr_right
    intro _
    unfold requested pictures
    cases OverwriteLoop.last (pictureURL u) (model.picInfo.getD []) with
    | none => rfl
    | some url => rfl
  · intro b c s
    rfl

theorem URLWithString_ok {value : Option Value} :
    (∃ url, URLWithString u value = .ok url) ↔
      (∃ s, value = some (.string s)) ∨ value = none ∧ ∃ url, u.URLWithNil = .ok url := by
  cases value with
  | none => simp [URLWithString]
  | some value => cases value <;> simp [URLWithString]

theorem pictureURL_ok {item : Value} {url : Option NSURL} :
    pictureURL u item = .ok url ↔
      (∃ entries, item = .dictionary entries) ∧
        URLWithString u (member (ns "url") (some item)) = .ok url := by
  constructor
  · intro h
    obtain ⟨field, hfield, hurl⟩ := bind_ok h
    obtain ⟨hitem, rfl⟩ := subscript_ok.mp hfield
    exact ⟨nilOrObject_some.mp hitem, hurl⟩
  · rintro ⟨hitem, hurl⟩
    exact bind_eq_ok.mpr ⟨_, subscript_ok.mpr ⟨nilOrObject_some.mpr hitem, rfl⟩, hurl⟩

theorem requested_append {xs ys : List Value} (older : Option NSURL)
    (hys : ∀ item ∈ ys, ∃ url, pictureURL u item = .ok url) :
    requested u (xs ++ ys) older = requested u ys (requested u xs older) := by
  unfold requested
  rw [OverwriteLoop.last_append hys]
  cases OverwriteLoop.last (pictureURL u) ys with
  | none => rfl
  | some url => rfl

theorem requested_eq_fresh_iff {items : List Value} {older : Option NSURL}
    (hitems : ∀ item ∈ items, ∃ url, pictureURL u item = .ok url) :
    requested u items older = requested u items none ↔ items ≠ [] ∨ older = none := by
  by_cases hne : items = []
  · subst hne
    simp [requested, OverwriteLoop.last_nil]
  · obtain ⟨url, hurl⟩ := OverwriteLoop.last_isSome hitems hne
    simp [requested, hurl, hne]

theorem requested_none_iff {items : List Value}
    (hitems : ∀ item ∈ items, ∃ url, pictureURL u item = .ok url) :
    requested u items none = none ↔
      ∀ item, items.getLast? = some item → pictureURL u item = .ok none := by
  unfold requested OverwriteLoop.last
  cases hlast : items.getLast? with
  | none => simp
  | some item =>
    obtain ⟨url, hurl⟩ := hitems item (List.mem_of_getLast? hlast)
    simp [hurl, Except.toOption]

def configureAll (u : URLLoading) (models : List NewsModel) (cell : NewsTableViewCell) :
    Except NSException NewsTableViewCell :=
  models.foldlM (fun cell model => cell.setCellData u model) cell

theorem configureAll_append {models later : List NewsModel} {cell shown : NewsTableViewCell} :
    configureAll u (models ++ later) cell = .ok shown ↔
      ∃ mid, configureAll u models cell = .ok mid ∧ configureAll u later mid = .ok shown := by
  unfold configureAll
  rw [List.foldlM_append, bind_eq_ok]

theorem configureAll_singleton (model : NewsModel) (cell : NewsTableViewCell) :
    configureAll u [model] cell = cell.setCellData u model := by
  unfold configureAll
  rw [List.foldlM_cons]
  cases cell.setCellData u model with
  | error e => rfl
  | ok shown => rfl

theorem configureAll_smallImage {models : List NewsModel} {cell shown : NewsTableViewCell}
    (h : configureAll u models cell = .ok shown) :
    (∀ item ∈ models.flatMap pictures, ∃ url, pictureURL u item = .ok url) ∧
      shown.smallImage = requested u (models.flatMap pictures) cell.smallImage := by
  induction models generalizing cell with
  | nil =>
    cases h
    constructor
    · simp
    · rfl
  | cons model models ih =>
    obtain ⟨mid, hmid, hrest⟩ := bind_ok h
    obtain ⟨hshow, rfl⟩ := setCellData_ok.mp hmid
    obtain ⟨hall, himage⟩ := ih hrest
    rw [List.flatMap_cons]
    constructor
    · intro item hitem
      obtain hitem | hitem := List.mem_append.mp hitem
      · exact hshow item hitem
      · exact hall item hitem
    · rw [requested_append _ hall]
      exact himage

theorem reused_cell_iff {earlier : List NewsModel} {model : NewsModel} {shown : NewsTableViewCell}
    (h : configureAll u (earlier ++ [model]) {} = .ok shown) :
    setCellData u model {} = .ok shown ↔
      pictures model ≠ [] ∨
        ∀ item, (earlier.flatMap pictures).getLast? = some item → pictureURL u item = .ok none := by
  obtain ⟨mid, hmid, hlast⟩ := configureAll_append.mp h
  rw [configureAll_singleton] at hlast
  obtain ⟨hshow, rfl⟩ := setCellData_ok.mp hlast
  obtain ⟨hall, himage⟩ := configureAll_smallImage hmid
  rw [← requested_none_iff hall, ← himage, ← requested_eq_fresh_iff hshow, setCellData_ok]
  simp [hshow]

def pictured : NewsModel :=
  ⟨none, some [.dictionary [(ns "url", .string (ns "a.png"))]], none, none⟩

def unpictured : NewsModel := ⟨none, none, none, none⟩

theorem picture_row_after_blank :
    setCellData .spaceless pictured {} = .ok ⟨none, none, some ⟨ns "a.png"⟩⟩ := by
  have hrun : configureAll .spaceless ([unpictured] ++ [pictured]) {} =
      .ok ⟨none, none, some ⟨ns "a.png"⟩⟩ := rfl
  exact (reused_cell_iff hrun).mpr (Or.inl (List.cons_ne_nil _ _))

theorem blank_row_after_picture :
    ¬ ∀ shown, configureAll .spaceless [pictured, unpictured] {} = .ok shown →
      setCellData .spaceless unpictured {} = .ok shown := by
  intro h
  cases h _ rfl

end NewsTableViewCell

end MixedProject
