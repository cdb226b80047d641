import MixedProject.VideoModels

namespace MixedProject.VideoTable

open ServerAnswer VideoModel

variable {mj : MJExtension}

def cardType (temp : Value) : Option Value := member (ns "type") (some temp)

def cardData (temp : Value) : Option Value :=
  member (ns "data") (member (ns "content") (member (ns "data") (some temp)))

def followCard (temp : Value) : Option NSDictionary :=
  if cardType temp = some (.string (ns "followCard")) then (cardData temp).bind object else none

def followCards (responseObject : Option Value) : List NSDictionary :=
  (elements (member (ns "result") responseObject)).filterMap followCard

/-- After the handler: no exception, one row for each offered object, and each new row can be
selected. -/
def Survives (mj : MJExtension) (completion : Completion) (c : VideoTable) : Prop :=
  ∃ d, loadDataCompleted mj completion c = .ok d ∧
    d.dataArray = c.dataArray ++
      (followCards (HttpTool.responseObject completion)).map (setKeyValues mj) ∧
    ∀ row (model : VideoModel), c.dataArray.length ≤ row → d.dataArray[row]? = some model →
      ∃ posted, d.didSelectRowAtIndexPath row = .ok posted ∧
        ∀ playUrl, model.playUrl = some playUrl →
          posted = ⟨.changeVideo, [(ns "playUrl", .string playUrl)]⟩

def CardReadable (temp : Value) : Prop :=
  (∃ entries, temp = .dictionary entries) ∧
    (cardType temp = none ∨ ∃ s, cardType temp = some (.string s)) ∧
    (cardType temp = some (.string (ns "followCard")) →
      ∃ item, cardData temp = some (.dictionary item))

def Playable (item : NSDictionary) : Prop :=
  (∃ s, item.lookup (ns "playUrl") = some (.string s)) ∨
    ∃ n, item.lookup (ns "playUrl") = some (.number n)

structure WellFormed (responseObject : Option Value) : Prop where
  body : NilOrObject responseObject
  result : Lists CardReadable (member (ns "result") responseObject)
  playable : ∀ item ∈ followCards responseObject, Playable item

def dataOfCard (temp : Value) : Except NSException (Option Value) := do
  let data ← objectForKeyedSubscript (ns "data") (some temp)
  let content ← objectForKeyedSubscript (ns "content") data
  objectForKeyedSubscript (ns "data") content

def newModel (mj : MJExtension) (data : Option Value) : Except NSException (Option VideoModel) :=
  match videoInitWithItem mj data with
  | some item => .ok (some item)
  | none => .error .invalidArgument

def newItem (mj : MJExtension) (temp : Value) : Except NSException (Option VideoModel) := do
  let type ← objectForKeyedSubscript (ns "type") (some temp)
  if ← isEqualToString (ns "followCard") type then
    let data ← dataOfCard temp
    newModel mj data
  else return none

theorem addItem_eq (mj : MJExtension) : addItem mj = AppendLoop.step (newItem mj) := by
  funext dataArray temp
  rw [AppendLoop.step_eq_bind]
  unfold addItem newItem dataOfCard
  rw [bind_assoc]
  apply bind_congr
  intro type
  rw [bind_assoc]
  apply bind_congr
  intro followCard
  cases followCard with
  | false => simp [bind, Except.bind, pure, Except.pure]
  | true =>
    simp only [if_true, bind_assoc]
    apply bind_congr
    intro data
    apply bind_congr
    intro content
    apply bind_congr
    intro item
    unfold newModel
    cases videoInitWithItem mj item with
    | none => rfl
    | some model => rfl

theorem isEqualToString_ok {aString : NSString} {value : Option Value} {equal : Bool} :
    isEqualToString aString value = .ok equal ↔
      (value = none ∨ ∃ s, value = some (.string s)) ∧
        (equal = true ↔ value = some (.string aString)) := by
  cases value with
  | none => cases equal <;> simp [isEqualToString]
  | some value =>
    cases value with
    | string s => cases equal <;> simp [isEqualToString]
    | null => simp [isEqualToString]
    | number n => simp [isEqualToString]
    | array xs => simp [isEqualToString]
    | dictionary entries => simp [isEqualToString]

theorem dataOfCard_ok {temp : Value} {data : Option Value} :
    dataOfCard temp = .ok data ↔
      (∃ entries, temp = .dictionary entries) ∧
        NilOrObject (member (ns "data") (some temp)) ∧
        NilOrObject (member (ns "content") (member (ns "data") (some temp))) ∧
        data = cardData temp := by
  constructor
  · intro h
    obtain ⟨first, hfirst, h⟩ := bind_ok h
    obtain ⟨second, hsecond, hlast⟩ := bind_ok h
    obtain ⟨htemp, rfl⟩ := subscript_ok.mp hfirst
    obtain ⟨hdata, rfl⟩ := subscript_ok.mp hsecond
    obtain ⟨hcontent, rfl⟩ := subscript_ok.mp hlast
    exact ⟨nilOrObject_some.mp htemp, hdata, hcontent, rfl⟩
  · rintro ⟨htemp, hdata, hcontent, rfl⟩
    refine bind_eq_ok.mpr ⟨_, subscript_ok.mpr ⟨nilOrObject_some.mpr htemp, rfl⟩, ?_⟩
    exact bind_eq_ok.mpr ⟨_, subscript_ok.mpr ⟨hdata, rfl⟩, subscript_ok.mpr ⟨hcontent, rfl⟩⟩

theorem newModel_ok {data : Option Value} {found : Option VideoModel} :
    newModel mj data = .ok found ↔ found.isSome ∧ videoInitWithItem mj data = found := by
  unfold newModel
  cases videoInitWithItem mj data with
  | none => cases found <;> simp
  | some item => cases found <;> simp

theorem newItem_ok {temp : Value} {found : Option VideoModel} :
    newItem mj temp = .ok found ↔
      (∃ entries, temp = .dictionary entries) ∧
        (cardType temp = none ∨ ∃ s, cardType temp = some (.string s)) ∧
        if cardType temp = some (.string (ns "followCard")) then
          dataOfCard temp = .ok (cardData temp) ∧ found.isSome ∧
            videoInitWithItem mj (cardData temp) = found
        else found = none := by
  constructor
  · intro h
    obtain ⟨type, htype, hnext⟩ := bind_ok h
    obtain ⟨htemp, rfl⟩ := subscript_ok.mp htype
    obtain ⟨equal, hequal, hbranch⟩ := bind_ok hnext
    obtain ⟨hstring, hequal⟩ := isEqualToString_ok.mp hequal
    change equal = true ↔ cardType temp = _ at hequal
    refine ⟨nilOrObject_some.mp htemp, hstring, ?_⟩
    by_cases hfollow : cardType temp = some (.string (ns "followCard"))
    · rw [if_pos (hequal.mpr hfollow)] at hbranch
      rw [if_pos hfollow]
      obtain ⟨data, hdata, hmodel⟩ := bind_ok hbranch
      obtain ⟨-, -, -, rfl⟩ := dataOfCard_ok.mp hdata
      exact ⟨hdata, newModel_ok.mp hmodel⟩
    · rw [if_neg fun h => hfollow (hequal.mp h)] at hbranch
      rw [if_neg hfollow]
      cases hbranch
      rfl
  · rintro ⟨htemp, hstring, h⟩
    refine bind_eq_ok.mpr ⟨_, subscript_ok.mpr ⟨nilOrObject_some.mpr htemp, rfl⟩, ?_⟩
    by_cases hfollow : cardType temp = some (.string (ns "followCard"))
    · rw [if_pos hfollow] at h
      have hequal := isEqualToString_ok.mpr ⟨hstring, iff_of_true rfl hfollow⟩
      have hmodel := bind_eq_ok.mpr ⟨_, h.1, newModel_ok.mpr h.2⟩
      exact bind_eq_ok.mpr ⟨true, hequal, hmodel⟩
    · rw [if_neg hfollow] at h
      subst h
      have hequal := isEqualToString_ok.mpr ⟨hstring, iff_of_false Bool.false_ne_true hfollow⟩
      exact bind_eq_ok.mpr ⟨false, hequal, rfl⟩

theorem followCard_some {temp : Value} {item : NSDictionary} :
    followCard temp = some item ↔
      cardType temp = some (.string (ns "followCard")) ∧ cardData temp = some (.dictionary item) := by
  unfold followCard
  by_cases hfollow : cardType temp = some (.string (ns "followCard"))
  · rw [if_pos hfollow, Option.bind_eq_some_iff]
    simp only [object_some, exists_eq_right, hfollow, true_and]
  · rw [if_neg hfollow]
    simp [hfollow]

theorem skipped_card {temp : Value} (h : newItem mj temp = .ok none) :
    (followCard temp).map (setKeyValues mj) = none := by
  obtain ⟨-, -, hfound⟩ := newItem_ok.mp h
  by_cases hfollow : cardType temp = some (.string (ns "followCard"))
  · rw [if_pos hfollow] at hfound
    cases hfound.2.1
  · rw [followCard, if_neg hfollow, Option.map_none]

theorem appended_card {temp : Value} {item model : VideoModel}
    (h : newItem mj temp = .ok (some item))
    (hcard : (followCard temp).map (setKeyValues mj) = some model) : item = model := by
  obtain ⟨keyValues, hfound, rfl⟩ := Option.map_eq_some_iff.mp hcard
  obtain ⟨hfollow, hdata⟩ := followCard_some.mp hfound
  obtain ⟨-, -, hitem⟩ := newItem_ok.mp h
  rw [if_pos hfollow, hdata, videoInitWithItem_dictionary] at hitem
  exact (Option.some.inj hitem.2.2).symm

theorem cardReadable_iff {temp : Value} :
    newItem mj temp = .ok ((followCard temp).map (setKeyValues mj)) ↔ CardReadable temp := by
  rw [newItem_ok]
  unfold CardReadable
  apply and_congr_right
  intro htemp
  apply and_congr_right
  intro _
  by_cases hfollow : cardType temp = some (.string (ns "followCard"))
  · rw [if_pos hfollow]
    constructor
    · rintro ⟨-, hsome, -⟩ _
      rw [Option.isSome_map, Option.isSome_iff_exists] at hsome
      obtain ⟨item, hitem⟩ := hsome
      exact ⟨item, (followCard_some.mp hitem).2⟩
    · intro h
      obtain ⟨item, hitem⟩ := h hfollow
      have hcontent := nilOrObject_of_member hitem
      have hdata : NilOrObject (member (ns "data") (some temp)) := by
        obtain hnone | ⟨content, hsome⟩ := hcontent
        · rw [cardData, hnone] at hitem
          cases hitem
        · exact nilOrObject_of_member hsome
      refine ⟨dataOfCard_ok.mpr ⟨htemp, hdata, hcontent, rfl⟩, ?_, ?_⟩
      · rw [followCard_some.mpr ⟨hfollow, hitem⟩]
        rfl
      · rw [followCard_some.mpr ⟨hfollow, hitem⟩, hitem]
        rfl
  · rw [if_neg hfollow, followCard, if_neg hfollow]
    simp [hfollow]

theorem string_not_card (s : NSString) :
    (followCard (.string s)).map (setKeyValues mj) = none ∧ ¬ CardReadable (.string s) := by
  constructor
  · rfl
  · rintro ⟨⟨entries, h⟩, -⟩
    cases h

theorem loadDataSuccess_ok {responseObject : Option Value} {c d : VideoTable} :
    loadDataSuccess mj responseObject c = .ok d ↔
      NilOrObject responseObject ∧
        ∃ temps, fastEnumeration (member (ns "result") responseObject) = .ok temps ∧
          temps.foldlM (addItem mj) c.dataArray = .ok d.dataArray := by
  constructor
  · intro h
    obtain ⟨message, hmessage, hnext⟩ := bind_ok h
    obtain ⟨result, hresult, hnext⟩ := bind_ok hnext
    obtain ⟨temps, htemps, hnext⟩ := bind_ok hnext
    obtain ⟨dataArray, hdata, hd⟩ := bind_ok hnext
    obtain ⟨hbody, rfl⟩ := subscript_ok.mp hresult
    cases hd
    exact ⟨hbody, temps, htemps, hdata⟩
  · rintro ⟨hbody, temps, htemps, hdata⟩
    refine bind_eq_ok.mpr ⟨_, subscript_ok.mpr ⟨hbody, rfl⟩, ?_⟩
    refine bind_eq_ok.mpr ⟨_, subscript_ok.mpr ⟨hbody, rfl⟩, ?_⟩
    exact bind_eq_ok.mpr ⟨temps, htemps, bind_eq_ok.mpr ⟨_, hdata, rfl⟩⟩

theorem didSelectRow_ok {d : VideoTable} {row : ℕ} {model : VideoModel} {posted : PostedNotification}
    (hrow : d.dataArray[row]? = some model) :
    d.didSelectRowAtIndexPath row = .ok posted ↔
      ∃ playUrl, model.playUrl = some playUrl ∧
        posted = ⟨.changeVideo, [(ns "playUrl", .string playUrl)]⟩ := by
  unfold didSelectRowAtIndexPath
  rw [objectAtIndex_ok.mpr hrow]
  cases hurl : model.playUrl with
  | none => simp [bind, Except.bind, dictionaryWithObject, hurl]
  | some playUrl =>
    simp [bind, Except.bind, pure, Except.pure, dictionaryWithObject, hurl, eq_comm]

theorem row_selectable_iff {d : VideoTable} {row : ℕ} {model : VideoModel}
    (hrow : d.dataArray[row]? = some model) :
    (∃ posted, d.didSelectRowAtIndexPath row = .ok posted ∧
      ∀ playUrl, model.playUrl = some playUrl →
        posted = ⟨.changeVideo, [(ns "playUrl", .string playUrl)]⟩) ↔
      model.playUrl.isSome := by
  rw [Option.isSome_iff_exists]
  constructor
  · rintro ⟨posted, hposted, -⟩
    obtain ⟨playUrl, hurl, -⟩ := (didSelectRow_ok hrow).mp hposted
    exact ⟨playUrl, hurl⟩
  · rintro ⟨playUrl, hurl⟩
    refine ⟨_, (didSelectRow_ok hrow).mpr ⟨playUrl, hurl, rfl⟩, ?_⟩
    intro other hother
    rw [hurl] at hother
    cases hother
    rfl

theorem playUrl_isSome_iff {item : NSDictionary} :
    (setKeyValues mj item).playUrl.isSome ↔ Playable item := by
  unfold setKeyValues Playable
  cases item.lookup (ns "playUrl") with
  | none => simp [MJExtension.stringProperty]
  | some value => cases value <;> simp [MJExtension.stringProperty]

theorem newRows_selectable_iff {c d : VideoTable} {items : List NSDictionary}
    (hd : d.dataArray = c.dataArray ++ items.map (setKeyValues mj)) :
    (∀ row (model : VideoModel), c.dataArray.length ≤ row → d.dataArray[row]? = some model →
      ∃ posted, d.didSelectRowAtIndexPath row = .ok posted ∧
        ∀ playUrl, model.playUrl = some playUrl →
          posted = ⟨.changeVideo, [(ns "playUrl", .string playUrl)]⟩) ↔
      ∀ item ∈ items, Playable item := by
  have hrows : ∀ item : NSDictionary, Playable item ↔ (setKeyValues mj item).playUrl.isSome :=
    fun item => playUrl_isSome_iff.symm
  simp only [hrows]
  rw [← List.forall_mem_map (f := setKeyValues mj) (P := fun model => model.playUrl.isSome = true),
    ← AppendLoop.forall_appended_iff c.dataArray, ← hd]
  apply forall₂_congr
  intro row model
  apply imp_congr_right
  intro _
  apply imp_congr_right
  intro hrow
  exact row_selectable_iff hrow

theorem cards_appended_iff (mj : MJExtension) (responseObject : Option Value)
    (acc : List VideoModel) :
    (∃ temps, fastEnumeration (member (ns "result") responseObject) = .ok temps ∧
      temps.foldlM (addItem mj) acc =
        .ok (acc ++ (followCards responseObject).map (setKeyValues mj))) ↔
      Lists CardReadable (member (ns "result") responseObject) := by
  rw [addItem_eq, followCards, List.map_filterMap]
  apply enumeration_appends_iff
  · intro temp
    exact cardReadable_iff
  · intro temp
    exact skipped_card
  · intro temp item model
    exact appended_card
  · exact string_not_card

theorem survives_iff_wellFormed (mj : MJExtension) (completion : Completion) (c : VideoTable) :
    Survives mj completion c ↔ WellFormed (HttpTool.responseObject completion) := by
  constructor
  · rintro ⟨d, hload, hdata, hrows⟩
    obtain ⟨hbody, temps, htemps, hloop⟩ := loadDataSuccess_ok.mp hload
    rw [hdata] at hloop
    exact {
      body := hbody
      result := (cards_appended_iff mj _ _).mp ⟨temps, htemps, hloop⟩
      playable := (newRows_selectable_iff hdata).mp hrows }
  · intro h
    obtain ⟨temps, htemps, hloop⟩ := (cards_appended_iff mj _ c.dataArray).mpr h.result
    refine ⟨⟨_⟩, loadDataSuccess_ok.mpr ⟨h.body, temps, htemps, hloop⟩, rfl, ?_⟩
    exact (newRows_selectable_iff rfl).mpr h.playable

def cardAnswer (card : List (NSString × Value)) : Completion :=
  .success (some (.dictionary [(ns "result",
    .array [.dictionary ((ns "type", .string (ns "followCard")) :: card)])]))

def itemAnswer (item : NSDictionary) : Completion :=
  cardAnswer [(ns "data", .dictionary [(ns "content", .dictionary [(ns "data", .dictionary item)])])]

theorem dataless_card_and_unplayable_row :
    ¬ Survives NewsViewController.plain (cardAnswer []) {} ∧
      ¬ Survives NewsViewController.plain (itemAnswer []) {} := by
  constructor
  · rintro ⟨d, hload, -⟩
    have hraise : loadDataCompleted NewsViewController.plain (cardAnswer []) {} =
        .error .invalidArgument := rfl
    rw [hraise] at hload
    cases hload
  · rintro ⟨d, hload, -, hrows⟩
    have hrow : loadDataCompleted NewsViewController.plain (itemAnswer []) {} =
        .ok ⟨[⟨none, none, none, none⟩]⟩ := rfl
    rw [hrow] at hload
    cases hload
    obtain ⟨posted, hposted, -⟩ := hrows 0 _ (Nat.le_refl 0) rfl
    cases hposted

end MixedProject.VideoTable
