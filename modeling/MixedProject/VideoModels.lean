import MixedProject.NestedScroll
import MixedProject.ServerAnswer

namespace MixedProject

def isEqualToString (aString : NSString) : Option Value → Except NSException Bool
  | none => .ok false
  | some (.string s) => .ok (s = aString)
  | some _ => .error .invalidArgument

/-- A dictionary literal; `nil` cannot be inserted. -/
def dictionaryWithObject (key : NSString) : Option Value → Except NSException NSDictionary
  | some value => .ok [(key, value)]
  | none => .error .invalidArgument

def MJExtension.dictionaryProperty : Option Value → Option NSDictionary
  | some (.dictionary entries) => some entries
  | _ => none

structure VideoModel where
  title : Option NSString
  playUrl : Option NSString
  category : Option NSString
  cover : Option NSDictionary
  deriving DecidableEq

namespace VideoModel

def setKeyValues (mj : MJExtension) (keyValues : NSDictionary) : VideoModel where
  title := mj.stringProperty (keyValues.lookup (ns "title"))
  playUrl := mj.stringProperty (keyValues.lookup (ns "playUrl"))
  category := mj.stringProperty (keyValues.lookup (ns "category"))
  cover := MJExtension.dictionaryProperty (keyValues.lookup (ns "cover"))

def videoInitWithItem (mj : MJExtension) (item : Option Value) : Option VideoModel :=
  match item.bind mj.JSONObject with
  | some (.dictionary keyValues) => some (setKeyValues mj keyValues)
  | _ => none

@[simp] theorem videoInitWithItem_dictionary (mj : MJExtension) (keyValues : NSDictionary) :
    videoInitWithItem mj (some (.dictionary keyValues)) = some (setKeyValues mj keyValues) := rfl

end VideoModel

structure PostedNotification where
  name : NotificationName
  userInfo : NSDictionary
  deriving DecidableEq

structure VideoTable where
  dataArray : List VideoModel := []
  deriving DecidableEq

namespace VideoTable

def addItem (mj : MJExtension) (dataArray : List VideoModel) (temp : Value) :
    Except NSException (List VideoModel) := do
  let type ← objectForKeyedSubscript (ns "type") (some temp)
  let followCard ← isEqualToString (ns "followCard") type
  if followCard then
    let data ← objectForKeyedSubscript (ns "data") (some temp)
    let content ← objectForKeyedSubscript (ns "content") data
    let data ← objectForKeyedSubscript (ns "data") content
    addObject dataArray (VideoModel.videoInitWithItem mj data)
  else return dataArray

def loadDataSuccess (mj : MJExtension) (responseObject : Option Value) (c : VideoTable) :
    Except NSException VideoTable := do
  let _message ← objectForKeyedSubscript (ns "message") responseObject
  let result ← objectForKeyedSubscript (ns "result") responseObject
  let temps ← fastEnumeration result
  let dataArray ← temps.foldlM (addItem mj) c.dataArray
  return { c with dataArray }

def loadDataCompleted (mj : MJExtension) (completion : Completion) (c : VideoTable) :
    Except NSException VideoTable :=
  loadDataSuccess mj (HttpTool.responseObject completion) c

def didSelectRowAtIndexPath (c : VideoTable) (row : ℕ) : Except NSException PostedNotification := do
  let model ← objectAtIndex c.dataArray row
  let userInfo ← dictionaryWithObject (ns "playUrl") (model.playUrl.map Value.string)
  return ⟨.changeVideo, userInfo⟩

end VideoTable

end MixedProject
