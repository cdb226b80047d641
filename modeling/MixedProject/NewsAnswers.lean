import MixedProject.NewsCell

namespace MixedProject.NewsViewController

open ServerAnswer NewsModel NewsTableViewCell

variable {mj : MJExtension} {u : URLLoading}

def newsObjects (newsCategory : NSString) (responseObject : Option Value) : List NSDictionary :=
  (elements (member newsCategory (member (ns "data") responseObject))).filterMap object

/-- After the handler: no exception, one row for each offered object, and each new row can be
shown, in a fresh cell or in any reused one. -/
def Survives (mj : MJExtension) (u : URLLoading) (completion : Completion)
    (c : NewsViewController) : Prop :=
  ∃ d, loadDataCompleted mj completion c = .ok d ∧
    d.dataArray = c.dataArray ++
      (newsObjects c.newsCategory (HttpTool.responseObject completion)).map (setKeyValues mj) ∧
    ∀ row, c.dataArray.length ≤ row → row < d.dataArray.length →
      ∀ dequeued, ∃ shown, d.cellForRowAtIndexPath u dequeued row = .ok shown

def PictureReadable (u : URLLoading) (item : Value) : Prop :=
  (∃ entries, item = .dictionary entries) ∧
    ((∃ s, member (ns "url") (some item) = some (.string s)) ∨
      member (ns "url") (some item) = none ∧ ∃ url, u.URLWithNil = .ok url)

structure WellFormed (u : URLLoading) (newsCategory : NSString) (responseObject : Option Value) :
    Prop where
  body : NilOrObject responseObject
  data : NilOrObject (member (ns "data") responseObject)
  items : Lists (fun itemDic => ∃ entries, itemDic = .dictionary entries)
    (member newsCategory (member (ns "data") responseObject))
  pictures : ∀ item ∈ newsObjects newsCategory responseObject,
    ∀ xs, item.lookup (ns "picInfo") = some (.array xs) → ∀ x ∈ xs, PictureReadable u x

def newItem (mj : MJExtension) (itemDic : Value) : Except NSException (Option NewsModel) :=
  match initWithItem mj itemDic with
  | some item => .ok (some item)
  | none => .error .invalidArgument

theorem addItem_eq (mj : MJExtension) : addItem mj = AppendLoop.step (newItem mj) := by
  funext dataArray itemDic
  unfold AppendLoop.step addItem newItem
  cases initWithItem mj itemDic with
  | none => rfl
  | some item => rfl

theorem itemReadable_iff {itemDic : Value} :
    newItem mj itemDic = .ok ((object itemDic).map (setKeyValues mj)) ↔
      ∃ entries, itemDic = .dictionary entries := by
  constructor
  · intro h
    cases hobject : object itemDic with
    | some entries => exact ⟨entries, object_some.mp hobject⟩
    | none =>
      rw [hobject] at h
      unfold newItem at h
      split at h
      · cases h
      · cases h
  · rintro ⟨entries, rfl⟩
    rfl

theorem not_skipped (itemDic : Value) : newItem mj itemDic ≠ .ok none := by
  unfold newItem
  split
  · intro h
    cases h
  · intro h
    cases h

theorem itemDics_ok {newsCategory : NSString} {responseObject : Option Value} {dics : List Value} :
    itemDics newsCategory responseObject = .ok dics ↔
      NilOrObject responseObject ∧ NilOrObject (member (ns "data") responseObject) ∧
        fastEnumeration (member newsCategory (member (ns "data") responseObject)) = .ok dics := by
  constructor
  · intro h
    obtain ⟨data, hdata, hnext⟩ := bind_ok h
    obtain ⟨hbody, rfl⟩ := subscript_ok.mp hdata
    obtain ⟨dataDic, hdic, hdics⟩ := bind_ok hnext
    obtain ⟨hobject, rfl⟩ := dictionaryWithDictionary_ok.mp hdic
    rw [lookup_fields] at hdics
    exact ⟨hbody, hobject, hdics⟩
  · rintro ⟨hbody, hobject, hdics⟩
    refine bind_eq_ok.mpr ⟨_, subscript_ok.mpr ⟨hbody, rfl⟩, ?_⟩
    refine bind_eq_ok.mpr ⟨_, dictionaryWithDictionary_ok.mpr ⟨hobject, rfl⟩, ?_⟩
    rw [lookup_fields, hdics]

theorem items_appended_iff (mj : MJExtension) (newsCategory : NSString)
    (responseObject : Option Value) (acc : List NewsModel) :
    (∃ dics, fastEnumeration (member newsCategory (member (ns "data") responseObject)) = .ok dics ∧
      dics.foldlM (addItem mj) acc =
        .ok (acc ++ (newsObjects newsCategory responseObject).map (setKeyValues mj))) ↔
      Lists (fun itemDic => ∃ entries, itemDic = .dictionary entries)
        (member newsCategory (member (ns "data") responseObject)) := by
  rw [addItem_eq, newsObjects, List.map_filterMap]
  apply enumeration_appends_iff
  · intro itemDic
    exact itemReadable_iff
  · intro itemDic hskip
    exact absurd hskip (not_skipped itemDic)
  · intro itemDic item model hitem hmodel
    obtain ⟨entries, hobject, rfl⟩ := Option.map_eq_some_iff.mp hmodel
    rw [object_some] at hobject
    subst hobject
    cases hitem
    rfl
  · intro s
    simp [object]

theorem pictureReadable_iff {item : Value} :
    (∃ url, pictureURL u item = .ok url) ↔ PictureReadable u item := by
  simp only [pictureURL_ok, exists_and_left, URLWithString_ok, PictureReadable]

theorem showable_iff {item : NSDictionary} :
    Showable u (setKeyValues mj item) ↔
      ∀ xs, item.lookup (ns "picInfo") = some (.array xs) → ∀ x ∈ xs, PictureReadable u x := by
  unfold Showable
  simp only [pictureReadable_iff]
  unfold NewsTableViewCell.pictures setKeyValues
  cases item.lookup (ns "picInfo") with
  | none => simp [MJExtension.arrayProperty]
  | some value => cases value <;> simp [MJExtension.arrayProperty]

theorem row_shown_iff {d : NewsViewController} {row : ℕ} {model : NewsModel}
    (hrow : d.dataArray[row]? = some model) :
    (∀ dequeued, ∃ shown, d.cellForRowAtIndexPath u dequeued row = .ok shown) ↔
      Showable u model := by
  have hcell : ∀ dequeued : Option NewsTableViewCell,
      d.cellForRowAtIndexPath u dequeued row = (dequeued.getD {}).setCellData u model := by
    intro dequeued
    unfold cellForRowAtIndexPath
    rw [objectAtIndex_ok.mpr hrow]
    rfl
  simp only [hcell, setCellData_ok]
  constructor
  · intro h
    obtain ⟨shown, hshow, -⟩ := h none
    exact hshow
  · intro hshow dequeued
    exact ⟨_, hshow, rfl⟩

theorem newRows_shown_iff {c d : NewsViewController} {items : List NSDictionary}
    (hd : d.dataArray = c.dataArray ++ items.map (setKeyValues mj)) :
    (∀ row, c.dataArray.length ≤ row → row < d.dataArray.length →
      ∀ dequeued, ∃ shown, d.cellForRowAtIndexPath u dequeued row = .ok shown) ↔
      ∀ item ∈ items, Showable u (setKeyValues mj item) := by
  rw [← List.forall_mem_map (f := setKeyValues mj) (P := Showable u),
    ← AppendLoop.forall_appended_iff c.dataArray, ← hd]
  apply forall_congr'
  intro row
  constructor
  · intro h model hle hrow
    obtain ⟨hlt, -⟩ := List.getElem?_eq_some_iff.mp hrow
    exact (row_shown_iff hrow).mp (h hle hlt)
  · intro h hle hlt
    have hrow := List.getElem?_eq_getElem hlt
    exact (row_shown_iff hrow).mpr (h _ hle hrow)

theorem answer_survived_iff (mj : MJExtension) (u : URLLoading) (completion : Completion)
    (c : NewsViewController) :
    Survives mj u completion c ↔
      WellFormed u c.newsCategory (HttpTool.responseObject completion) := by
  constructor
  · rintro ⟨d, hload, hdata, hrows⟩
    obtain ⟨dics, hdics, hnext⟩ := bind_ok hload
    obtain ⟨dataArray, hloop, hd⟩ := bind_ok hnext
    cases hd
    obtain ⟨hbody, hobject, hdics⟩ := itemDics_ok.mp hdics
    change dataArray = _ at hdata
    rw [hdata] at hloop
    exact {
      body := hbody
      data := hobject
      items := (items_appended_iff mj _ _ _).mp ⟨dics, hdics, hloop⟩
      pictures := fun item hitem =>
        showable_iff.mp ((newRows_shown_iff hdata).mp hrows item hitem) }
  · intro h
    obtain ⟨dics, hdics, hloop⟩ := (items_appended_iff mj _ _ c.dataArray).mpr h.items
    refine ⟨{ c with dataArray := _ }, ?_, rfl, ?_⟩
    · have hdics := itemDics_ok.mpr ⟨h.body, h.data, hdics⟩
      exact bind_eq_ok.mpr ⟨dics, hdics, bind_eq_ok.mpr ⟨_, hloop, rfl⟩⟩
    · exact (newRows_shown_iff rfl).mpr fun item hitem => showable_iff.mpr (h.pictures item hitem)

theorem null_data_and_null_picture :
    ¬ Survives plain .spaceless (.success (some (.dictionary [(ns "data", .null)])))
        { newsCategory := ns "tech" } ∧
      ¬ Survives plain .spaceless (.success (response "tech" [[(ns "picInfo", .array [.null])]]))
        { newsCategory := ns "tech" } := by
  constructor
  · rintro ⟨d, hload, -⟩
    cases hload
  · rintro ⟨d, hload, -, hrows⟩
    cases hload
    obtain ⟨shown, hshown⟩ := hrows 0 (Nat.le_refl 0) Nat.one_pos none
    cases hshown

end MixedProject.NewsViewController
