import MixedProject.CommentInput

namespace MixedProject.CommentTyping

open Traces FriendCircleViewController

inductive Key
  | character
  | returnKey
  deriving DecidableEq

def key (text : NSString) : Key := if text = ns "\n" then .returnKey else .character

/-- The controller and its text view; `keys` is the key each character of the text came from. -/
structure Screen where
  vc : FriendCircleViewController
  commentsTextV : NSString := []
  keys : List Key := []

inductive Event
  | clickComment (sec : ℕ)
  | change (range : NSRange) (text : NSString)
  | dismiss
  deriving DecidableEq

def handle (m : Metrics) (s : Screen) : Event → Except NSException Screen
  | .clickComment sec => do
    let (vc, _) ← s.vc.didClickCommentButton sec
    return { s with vc }
  | .change range text => do
    let (allowed, vc, commentsTextV) ← s.vc.shouldChangeText m s.commentsTextV text
    let keys := s.keys.take commentsTextV.length
    if allowed then
      return { vc
               commentsTextV := replaceCharacters range text commentsTextV
               keys := replaceCharacters range (List.replicate text.length (key text)) keys }
    else return { vc, commentsTextV, keys }
  | .dismiss => .ok s

def Step (m : Metrics) (s : Screen) (e : Event) (t : Screen) : Prop := handle m s e = .ok t

def opened (m : Metrics) (rows : List RowDic) : Screen := { vc := viewDidLoad m rows }

def entered (s : Screen) : NSString :=
  ((s.commentsTextV.zip s.keys).filter fun character => character.2 = .character).map Prod.fst

def Stores (s t : Screen) (text : NSString) : Prop :=
  ∃ sec comments, commentsAt sec s.vc = some comments ∧
    commentsAt sec t.vc = some (comments ++ [viewerComment text])

def StoresEntered (s t : Screen) : Prop := ∀ text, Stores s t text → text ≠ [] ∧ text = entered s

def EmptiedBySubmission (s t : Screen) : Prop := ∀ text, Stores s t text → t.commentsTextV = []

def PostsNothing (s : Screen) (e : Event) (t : Screen) : Prop :=
  ∀ range, e = .change range (ns "\n") → entered s = [] → t.vc = s.vc

structure Faithful (s : Screen) (e : Event) (t : Screen) : Prop where
  stores : StoresEntered s t
  emptied : EmptiedBySubmission s t
  nothing : PostsNothing s e t

def ReturnsOnEmpty (s : Screen) (e : Event) : Prop :=
  ∀ range, e = .change range (ns "\n") → s.commentsTextV = []

theorem length_replaceCharacters {α β : Type} (range : NSRange) {text contents : List α}
    {text' contents' : List β} (htext : text.length = text'.length)
    (hcontents : contents.length = contents'.length) :
    (replaceCharacters range text contents).length =
      (replaceCharacters range text' contents').length := by
  simp [replaceCharacters, htext, hcontents]

theorem replaceCharacters_nil {α : Type} (range : NSRange) (text : List α) :
    replaceCharacters range text [] = text := by
  simp [replaceCharacters]

def Keyed (s : Screen) : Prop := s.keys.length = s.commentsTextV.length

variable {m : Metrics} {s t : Screen} {e : Event}

theorem step_type {range : NSRange} {text : NSString} (h : Keyed s) (htext : text ≠ ns "\n")
    (hst : Step m s (.change range text) t) :
    t = { s with
      commentsTextV := replaceCharacters range text s.commentsTextV
      keys := replaceCharacters range (List.replicate text.length .character) s.keys } := by
  have hkeys : s.keys.take s.commentsTextV.length = s.keys := List.take_of_length_le h.le
  have hkey : key text = .character := if_neg htext
  rw [Step, handle, shouldChangeText_type m s.vc s.commentsTextV htext] at hst
  have ht := Except.ok.inj hst
  simp only [hkeys, hkey] at ht
  exact ht.symm

theorem step_return_empty {range : NSRange} (h : Keyed s) (hempty : s.commentsTextV = [])
    (hst : Step m s (.change range (ns "\n")) t) : t = s := by
  obtain ⟨vc, commentsTextV, keys⟩ := s
  subst hempty
  have hkeys : keys = [] := List.eq_nil_of_length_eq_zero h
  subst hkeys
  rw [Step, handle, shouldChangeText_empty] at hst
  exact (Except.ok.inj hst).symm

theorem step_submit {range : NSRange} (hentered : s.commentsTextV ≠ [])
    (hst : Step m s (.change range (ns "\n")) t) :
    s.vc.addCommnets m s.commentsTextV = .ok t.vc ∧ t.commentsTextV = ns "\n" ∧
      t.keys = [.returnKey] := by
  rw [Step, handle, shouldChangeText_submit hentered] at hst
  cases hadd : s.vc.addCommnets m s.commentsTextV with
  | error e =>
    rw [hadd] at hst
    cases hst
  | ok vc =>
    rw [hadd] at hst
    have ht := Except.ok.inj hst
    rw [← ht]
    exact ⟨rfl, replaceCharacters_nil .., replaceCharacters_nil ..⟩

theorem step_clickComment {sec : ℕ} (hst : Step m s (.clickComment sec) t) :
    t = { s with vc := { s.vc with commentsSection := sec } } := by
  obtain ⟨⟨vc, path⟩, hclick, ht⟩ := bind_ok hst
  obtain ⟨-, -, rfl, -⟩ := didClickCommentButton_ok.mp hclick
  exact (Except.ok.inj ht).symm

theorem keyed_step (h : Keyed s) (hst : Step m s e t) : Keyed t := by
  cases e with
  | clickComment sec =>
    rw [step_clickComment hst]
    exact h
  | change range text =>
    by_cases htext : text = ns "\n"
    · subst htext
      by_cases hempty : s.commentsTextV = []
      · rw [step_return_empty h hempty hst]
        exact h
      · obtain ⟨-, htextV, hkeys⟩ := step_submit hempty hst
        rw [Keyed, htextV, hkeys]
        rfl
    · rw [step_type h htext hst]
      exact length_replaceCharacters range (by simp) h
  | dismiss =>
    rw [← Except.ok.inj hst]
    exact h

theorem not_stores_of_kept {text : NSString} (hkept : t.vc.dataArray = s.vc.dataArray) :
    ¬ Stores s t text := by
  rintro ⟨sec, comments, hold, hnew⟩
  have hsame : commentsAt sec t.vc = commentsAt sec s.vc := by rw [commentsAt, hkept, commentsAt]
  rw [hsame, hold, Option.some.injEq] at hnew
  simp at hnew

theorem stores_iff_of_submission (hadd : s.vc.addCommnets m s.commentsTextV = .ok t.vc)
    {text : NSString} : Stores s t text ↔ text = s.commentsTextV := by
  constructor
  · rintro ⟨sec, comments, hold, hnew⟩
    have hst : FriendCircleViewController.Step m s.vc (.comment s.vc.commentsSection s.commentsTextV)
      t.vc := hadd
    rw [commentsAt_step sec s.vc _ t.vc hst, addComment, hold] at hnew
    split_ifs at hnew
    · simp [viewerComment] at hnew
      exact hnew.symm
    · simp at hnew
  · rintro rfl
    obtain ⟨old, hold, hnew⟩ := commentsAt_addCommnets hadd
    exact ⟨_, old, hold, hnew⟩

theorem stores_iff (h : Keyed s) (hst : Step m s e t)
    {text : NSString} : Stores s t text ↔
      text = s.commentsTextV ∧ text ≠ [] ∧ ∃ range, e = .change range (ns "\n") := by
  by_cases hreturn : ∃ range, e = .change range (ns "\n")
  · obtain ⟨range, rfl⟩ := hreturn
    by_cases hempty : s.commentsTextV = []
    · have hkept : t.vc.dataArray = s.vc.dataArray := by rw [step_return_empty h hempty hst]
      simp [not_stores_of_kept hkept, hempty]
    · rw [stores_iff_of_submission (step_submit hempty hst).1]
      constructor
      · rintro rfl
        exact ⟨rfl, hempty, range, rfl⟩
      · exact fun hstores => hstores.1
  · have hkept : t.vc.dataArray = s.vc.dataArray := by
      cases e with
      | clickComment sec => rw [step_clickComment hst]
      | change range text =>
        have htext : text ≠ ns "\n" := by
          rintro rfl
          exact hreturn ⟨range, rfl⟩
        rw [step_type h htext hst]
      | dismiss => rw [← Except.ok.inj hst]
    simp [not_stores_of_kept hkept, hreturn]

theorem typed_comments_iff (m : Metrics) (rows : List RowDic) {tr : List (Event × Screen)}
    (htr : Trace (Step m) (opened m rows) tr) :
    Steps Faithful (opened m rows) tr ↔
      Steps (fun s e _ => ReturnsOnEmpty s e) (opened m rows) tr := by
  apply htr.steps_iff (I := Keyed) _ _ rfl
  · intro s e t h hst hguard
    have hnone : ∀ text, ¬ Stores s t text := by
      intro text hstores
      obtain ⟨rfl, hne, range, he⟩ := (stores_iff h hst).mp hstores
      exact hne (hguard range he)
    refine ⟨keyed_step h hst, fun text hstores => absurd hstores (hnone text),
      fun text hstores => absurd hstores (hnone text), ?_⟩
    rintro range rfl -
    rw [step_return_empty h (hguard range rfl) hst]
  · rintro s e t h hst hlaw range rfl
    by_contra hne
    have hstores := (stores_iff h hst).mpr ⟨rfl, hne, range, rfl⟩
    have hempty := hlaw.emptied _ hstores
    rw [(step_submit hne hst).2.1] at hempty
    cases hempty

def lineHeight : Metrics := ⟨fun _ => 18, fun _ => 18⟩

def remark : CommentDic := { commentUserName := ns "帝天", commentText := ns "b" }

def post : RowDic := { userId := 20, userName := ns "刘希", comments := [remark] }

def typeAt (location : ℕ) (text : NSString) : Event := .change ⟨location, 0⟩ text

def outcome (s : Screen) (es : List Event) : List (Event × Screen) :=
  run (fun s e => (handle lineHeight s e).toOption) s es

theorem trace_outcome (es : List Event) :
    Trace (Step lineHeight) (opened lineHeight [post]) (outcome (opened lineHeight [post]) es) :=
  trace_run_ok (handle lineHeight) _ es

theorem withdrawn_comment_typed :
    Steps Faithful (opened lineHeight [post])
      (outcome (opened lineHeight [post])
        [.clickComment 0, typeAt 0 (ns "a"), .change ⟨0, 1⟩ [], typeAt 0 (ns "\n"), .dismiss]) := by
  apply (typed_comments_iff lineHeight [post] (trace_outcome _)).mpr
  refine ⟨?_, ?_, ?_, ?_, ?_, trivial⟩
  · rintro range ⟨⟩
  · rintro range ⟨⟩
  · rintro range ⟨⟩
  · rintro range -
    rfl
  · rintro range ⟨⟩

theorem submission_leaves_newline :
    ¬ ∀ (m : Metrics) (rows : List RowDic) (tr : List (Event × Screen)),
      Trace (Step m) (opened m rows) tr → Steps Faithful (opened m rows) tr := by
  intro h
  obtain ⟨-, -, hsubmit, -⟩ := h lineHeight [post] _
    (trace_outcome [.clickComment 0, typeAt 0 (ns "a"), typeAt 1 (ns "\n")])
  have hempty := hsubmit.emptied (ns "a") ⟨0, [remark], rfl, rfl⟩
  revert hempty
  decide +kernel

end MixedProject.CommentTyping
