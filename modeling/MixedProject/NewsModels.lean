import MixedProject.Foundation

namespace MixedProject

abbrev NSDictionary := List (NSString × Value)

def objectForKeyedSubscript (key : NSString) : Option Value → Except NSException (Option Value)
  | none => .ok none
  | some (.dictionary entries) => .ok (entries.lookup key)
  | some _ => .error .invalidArgument

def dictionaryWithDictionary : Option Value → Except NSException NSDictionary
  | none => .ok []
  | some (.dictionary entries) => .ok entries
  | some _ => .error .invalidArgument

/-- The objects of a `for`-`in` loop; over a dictionary these are its keys. -/
def fastEnumeration : Option Value → Except NSException (List Value)
  | none => .ok []
  | some (.array xs) => .ok xs
  | some (.dictionary entries) => .ok (entries.map fun entry => .string entry.1)
  | some _ => .error .invalidArgument

def addObject {α : Type} (xs : List α) : Option α → Except NSException (List α)
  | some x => .ok (xs ++ [x])
  | none => .error .invalidArgument

/-- What MJExtension takes from Foundation: JSON parsing and `[NSNumber description]`. -/
structure MJExtension where
  JSONObjectWithData : NSString → Option Value
  description : ℚ → NSString

namespace MJExtension

def JSONObject (mj : MJExtension) : Value → Option Value
  | .string s => mj.JSONObjectWithData s
  | .null => some (.dictionary [])
  | value => some value

def stringProperty (mj : MJExtension) : Option Value → Option NSString
  | some (.string s) => some s
  | some (.number n) => some (mj.description n)
  | _ => none

def arrayProperty : Option Value → Option (List Value)
  | some (.array xs) => some xs
  | _ => none

end MJExtension

structure NewsModel where
  title : Option NSString
  picInfo : Option (List Value)
  link : Option NSString
  source : Option NSString
  deriving DecidableEq

namespace NewsModel

def setKeyValues (mj : MJExtension) (keyValues : NSDictionary) : NewsModel where
  title := mj.stringProperty (keyValues.lookup (ns "title"))
  picInfo := MJExtension.arrayProperty (keyValues.lookup (ns "picInfo"))
  link := mj.stringProperty (keyValues.lookup (ns "link"))
  source := mj.stringProperty (keyValues.lookup (ns "source"))

def initWithItem (mj : MJExtension) (item : Value) : Option NewsModel :=
  match mj.JSONObject item with
  | some (.dictionary keyValues) => some (setKeyValues mj keyValues)
  | _ => none

@[simp] theorem initWithItem_dictionary (mj : MJExtension) (keyValues : NSDictionary) :
    initWithItem mj (.dictionary keyValues) = some (setKeyValues mj keyValues) := rfl

end NewsModel

inductive Completion
  | success (responseObject : Option Value)
  | failure
  deriving DecidableEq

/-- `GET:parameters:success:` reports a failure to the success block with `nil`. -/
def HttpTool.responseObject : Completion → Option Value
  | .success responseObject => responseObject
  | .failure => none

def deleteAllObjectsFromTable (result : Bool) (table : List NewsModel) : List NewsModel :=
  if result then [] else table

def insertOrReplaceObjects (result : Bool) (objects table : List NewsModel) : List NewsModel :=
  if result then table ++ objects else table

structure NewsViewController where
  newsCategory : NSString
  dataArray : List NewsModel := []
  deriving DecidableEq

namespace NewsViewController

def addItem (mj : MJExtension) (dataArray : List NewsModel) (itemDic : Value) :
    Except NSException (List NewsModel) :=
  addObject dataArray (NewsModel.initWithItem mj itemDic)

def itemDics (newsCategory : NSString) (responseObject : Option Value) :
    Except NSException (List Value) := do
  let data ← objectForKeyedSubscript (ns "data") responseObject
  let dataDic ← dictionaryWithDictionary data
  fastEnumeration (dataDic.lookup newsCategory)

def loadDataSuccess (mj : MJExtension) (responseObject : Option Value) (c : NewsViewController) :
    Except NSException NewsViewController := do
  let dics ← itemDics c.newsCategory responseObject
  let dataArray ← dics.foldlM (addItem mj) c.dataArray
  return { c with dataArray }

def loadDataCompleted (mj : MJExtension) (completion : Completion) (c : NewsViewController) :
    Except NSException NewsViewController :=
  loadDataSuccess mj (HttpTool.responseObject completion) c

def save (c : NewsViewController) (table : List NewsModel) : List NewsModel :=
  if c.dataArray.length ≠ 0 then
    insertOrReplaceObjects true c.dataArray (deleteAllObjectsFromTable true table)
  else table

def showCacheData (cacheData : List NewsModel) (c : NewsViewController) : NewsViewController :=
  if cacheData.length = 0 then c else { c with dataArray := cacheData }

def newsItems (mj : MJExtension) (newsCategory : NSString) (responseObject : Option Value) :
    Except NSException (List NewsModel) := do
  let dics ← itemDics newsCategory responseObject
  dics.foldlM (addItem mj) []

theorem addItems_ok {mj : MJExtension} (dics : List Value) (xs ys : List NewsModel) :
    dics.foldlM (addItem mj) xs = .ok ys ↔
      ∃ zs, dics.foldlM (addItem mj) [] = .ok zs ∧ ys = xs ++ zs := by
  suffices hacc : ∀ ws, dics.foldlM (addItem mj) (xs ++ ws) = .ok ys ↔
      ∃ zs, dics.foldlM (addItem mj) ws = .ok zs ∧ ys = xs ++ zs by
    simpa using hacc []
  induction dics with
  | nil =>
    intro ws
    simp [pure, Except.pure, eq_comm]
  | cons itemDic dics ih =>
    intro ws
    rw [List.foldlM_cons, List.foldlM_cons]
    cases hitem : NewsModel.initWithItem mj itemDic with
    | none => simp [addItem, addObject, hitem, bind, Except.bind]
    | some x =>
      simp only [addItem, addObject, hitem, bind, Except.bind, List.append_assoc]
      exact ih (ws ++ [x])

theorem loadDataSuccess_ok {mj : MJExtension} {responseObject : Option Value}
    {c d : NewsViewController} :
    loadDataSuccess mj responseObject c = .ok d ↔
      ∃ items, newsItems mj c.newsCategory responseObject = .ok items ∧
        d = { c with dataArray := c.dataArray ++ items } := by
  constructor
  · intro h
    obtain ⟨dics, hdics, h⟩ := bind_ok h
    obtain ⟨dataArray, hdata, hd⟩ := bind_ok h
    obtain ⟨items, hitems, rfl⟩ := (addItems_ok dics _ _).mp hdata
    cases hd
    refine ⟨items, ?_, rfl⟩
    rw [newsItems, hdics]
    exact hitems
  · rintro ⟨items, h, rfl⟩
    obtain ⟨dics, hdics, hitems⟩ := bind_ok h
    have hdata := (addItems_ok dics c.dataArray _).mpr ⟨items, hitems, rfl⟩
    exact bind_eq_ok.mpr ⟨dics, hdics, bind_eq_ok.mpr ⟨_, hdata, rfl⟩⟩

theorem newsItems_nil (mj : MJExtension) (newsCategory : NSString) :
    newsItems mj newsCategory none = .ok [] := rfl

def Payload (newsCategory : NSString) (items : List NSDictionary) (responseObject : Option Value) :
    Prop :=
  ∃ entries data, responseObject = some (.dictionary entries) ∧
    entries.lookup (ns "data") = some (.dictionary data) ∧
    data.lookup newsCategory = some (.array (items.map .dictionary))

theorem addItems_dictionaries (mj : MJExtension) (items : List NSDictionary)
    (xs : List NewsModel) :
    (items.map Value.dictionary).foldlM (addItem mj) xs =
      .ok (xs ++ items.map (NewsModel.setKeyValues mj)) := by
  induction items generalizing xs with
  | nil => simp [pure, Except.pure]
  | cons item items ih =>
    rw [List.map_cons, List.foldlM_cons, addItem, NewsModel.initWithItem_dictionary]
    have htail := ih (xs ++ [NewsModel.setKeyValues mj item])
    rw [List.append_assoc] at htail
    exact htail

theorem Payload.newsItems {mj : MJExtension} {newsCategory : NSString} {items : List NSDictionary}
    {responseObject : Option Value} (h : Payload newsCategory items responseObject) :
    newsItems mj newsCategory responseObject = .ok (items.map (NewsModel.setKeyValues mj)) := by
  obtain ⟨entries, data, rfl, hdata, hitems⟩ := h
  have hdics : itemDics newsCategory (some (.dictionary entries)) =
      .ok (items.map Value.dictionary) := by
    simp only [itemDics, objectForKeyedSubscript, hdata, dictionaryWithDictionary, bind, Except.bind,
      hitems, fastEnumeration]
  unfold NewsViewController.newsItems
  rw [hdics]
  exact addItems_dictionaries mj items []

def article (title : String) : NSDictionary := [(ns "title", .string (ns title))]

def response (newsCategory : String) (items : List NSDictionary) : Option Value :=
  some (.dictionary [(ns "data",
    .dictionary [(ns newsCategory, .array (items.map .dictionary))])])

theorem payload_response (newsCategory : String) (items : List NSDictionary) :
    Payload (ns newsCategory) items (response newsCategory items) := by
  refine ⟨_, [(ns newsCategory, .array (items.map .dictionary))], rfl, ?_, ?_⟩
  · simp
  · simp

def plain : MJExtension where
  JSONObjectWithData := fun _ => none
  description := fun n => ns (toString n.num)

end NewsViewController

end MixedProject
