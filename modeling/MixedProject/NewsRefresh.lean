import MixedProject.NewsModels
import MixedProject.Traces

namespace MixedProject.NewsRefresh

open Traces NewsViewController

inductive Event
  | loaded (completion : Completion)
  | cached (cacheData : List NewsModel)
  deriving DecidableEq

variable {mj : MJExtension}

def Step (mj : MJExtension) (c : NewsViewController) : Event → NewsViewController → Prop
  | .loaded completion, d => loadDataCompleted mj completion c = .ok d
  | .cached cacheData, d => showCacheData cacheData c = d

def Refreshes (e : Event) : Prop :=
  ∃ responseObject, e = .loaded (.success responseObject)

def Brings (mj : MJExtension) (newsCategory : NSString) : Event → Prop
  | .loaded completion =>
    ∃ items, newsItems mj newsCategory (HttpTool.responseObject completion) = .ok items ∧ items ≠ []
  | .cached cacheData => cacheData ≠ []

def Refreshed (mj : MJExtension) (c : NewsViewController) (e : Event) (d : NewsViewController) : Prop :=
  ∀ responseObject items, e = .loaded (.success responseObject) →
    newsItems mj c.newsCategory responseObject = .ok items → d.dataArray = items

theorem step_newsCategory {c d : NewsViewController} {e : Event} (hst : Step mj c e d) :
    d.newsCategory = c.newsCategory := by
  cases e with
  | loaded completion =>
    obtain ⟨items, -, rfl⟩ := loadDataSuccess_ok.mp hst
    rfl
  | cached cacheData =>
    cases hst
    unfold showCacheData
    split_ifs <;> rfl

theorem step_brings {c d : NewsViewController} {e : Event} (hst : Step mj c e d)
    (he : Brings mj c.newsCategory e) : d.dataArray ≠ [] := by
  cases e with
  | loaded completion =>
    obtain ⟨items, hitems, rfl⟩ := loadDataSuccess_ok.mp hst
    obtain ⟨items', hitems', hne⟩ := he
    rw [hitems] at hitems'
    cases hitems'
    simp [hne]
  | cached cacheData =>
    cases hst
    have hne : cacheData ≠ [] := he
    simp [showCacheData, hne]

theorem step_empty {c d : NewsViewController} {e : Event} (hst : Step mj c e d)
    (he : ¬ Brings mj c.newsCategory e) (hc : c.dataArray = []) : d.dataArray = [] := by
  cases e with
  | loaded completion =>
    obtain ⟨items, hitems, rfl⟩ := loadDataSuccess_ok.mp hst
    have hnil : items = [] := by
      by_contra hne
      exact he ⟨items, hitems, hne⟩
    simp [hc, hnil]
  | cached cacheData =>
    cases hst
    have hnil : cacheData = [] := by
      by_contra hne
      exact he hne
    simp [showCacheData, hc, hnil]

theorem step_kept {c d : NewsViewController} {e : Event} (hst : Step mj c e d)
    (hc : c.dataArray ≠ []) : d.dataArray ≠ [] := by
  cases e with
  | loaded completion =>
    obtain ⟨items, -, rfl⟩ := loadDataSuccess_ok.mp hst
    simp [hc]
  | cached cacheData =>
    cases hst
    unfold showCacheData
    split_ifs with hlen
    · exact hc
    · intro hnil
      exact hlen (by simpa using hnil)

theorem refreshed_iff {c d : NewsViewController} {e : Event} (hst : Step mj c e d) :
    Refreshed mj c e d ↔ (Refreshes e → c.dataArray = []) := by
  constructor
  · rintro h ⟨responseObject, rfl⟩
    obtain ⟨items, hitems, rfl⟩ := loadDataSuccess_ok.mp hst
    have hlist := h responseObject items rfl hitems
    simpa using hlist
  · rintro h responseObject items rfl hitems
    obtain ⟨models, hmodels, rfl⟩ := loadDataSuccess_ok.mp hst
    rw [HttpTool.responseObject, hitems] at hmodels
    cases hmodels
    rw [h ⟨responseObject, rfl⟩, List.nil_append]

theorem steps_refreshed_of_rows {c : NewsViewController} {tr : List (Event × NewsViewController)}
    (htr : Trace (Step mj) c tr) (hc : c.dataArray ≠ []) :
    Steps (Refreshed mj) c tr ↔ ∀ e ∈ tr.map Prod.fst, ¬ Refreshes e := by
  induction htr with
  | nil c => simp
  | cons hst _ ih =>
    have hrest := ih (step_kept hst hc)
    rw [steps_cons, hrest, refreshed_iff hst, List.map_cons, List.forall_mem_cons]
    apply and_congr_left'
    constructor
    · intro h he
      exact hc (h he)
    · intro h he
      exact absurd he h

theorem steps_refreshed_of_empty {c : NewsViewController} {tr : List (Event × NewsViewController)}
    (htr : Trace (Step mj) c tr) (hc : c.dataArray = []) :
    Steps (Refreshed mj) c tr ↔ (tr.map Prod.fst).Pairwise
      fun e f => Brings mj c.newsCategory e → ¬ Refreshes f := by
  induction htr with
  | nil c => simp
  | @cons c d e tr hst htail ih =>
    have hfirst : Refreshed mj c e d := (refreshed_iff hst).mpr fun _ => hc
    have hcat := step_newsCategory hst
    rw [steps_cons, List.map_cons, List.pairwise_cons]
    by_cases he : Brings mj c.newsCategory e
    · have hrest := steps_refreshed_of_rows htail (step_brings hst he)
      rw [hrest]
      constructor
      · rintro ⟨-, hnone⟩
        refine ⟨fun f hf _ => hnone f hf, ?_⟩
        apply List.pairwise_of_forall_mem_list
        intro f _ g hg _
        exact hnone g hg
      · rintro ⟨hnone, -⟩
        exact ⟨hfirst, fun f hf => hnone f hf he⟩
    · have hrest := ih (step_empty hst he hc)
      rw [hcat] at hrest
      rw [hrest]
      constructor
      · rintro ⟨-, hpairs⟩
        exact ⟨fun f _ hbrings => absurd hbrings he, hpairs⟩
      · rintro ⟨-, hpairs⟩
        exact ⟨hfirst, hpairs⟩

def viewDidLoad (newsCategory : NSString) : NewsViewController := { newsCategory }

theorem refresh_idempotent_iff (mj : MJExtension) (newsCategory : NSString)
    {tr : List (Event × NewsViewController)} (htr : Trace (Step mj) (viewDidLoad newsCategory) tr) :
    Steps (Refreshed mj) (viewDidLoad newsCategory) tr ↔ (tr.map Prod.fst).Pairwise
      fun e f => Brings mj newsCategory e → ¬ Refreshes f :=
  steps_refreshed_of_empty htr rfl

theorem step_response (newsCategory : String) (items : List NSDictionary) (xs : List NewsModel) :
    Step mj ⟨ns newsCategory, xs⟩ (.loaded (.success (response newsCategory items)))
      ⟨ns newsCategory, xs ++ items.map (NewsModel.setKeyValues mj)⟩ :=
  loadDataSuccess_ok.mpr ⟨_, (payload_response newsCategory items).newsItems, rfl⟩

theorem newsItems_response_of_ne {newsCategory category : String} (hne : ns newsCategory ≠ ns category)
    (items : List NSDictionary) :
    newsItems mj (ns newsCategory) (response category items) = .ok [] := by
  have hlookup : [(ns category, Value.array (items.map .dictionary))].lookup (ns newsCategory) =
      none := by
    rw [List.lookup_cons, beq_false_of_ne hne]
    rfl
  simp [newsItems, itemDics, response, objectForKeyedSubscript, dictionaryWithDictionary, hlookup,
    fastEnumeration, bind, Except.bind, pure, Except.pure]

theorem step_other {newsCategory category : String} (hne : ns newsCategory ≠ ns category)
    (items : List NSDictionary) :
    Step mj (viewDidLoad (ns newsCategory)) (.loaded (.success (response category items)))
      (viewDidLoad (ns newsCategory)) :=
  loadDataSuccess_ok.mpr ⟨[], newsItems_response_of_ne hne items, by simp [viewDidLoad]⟩

theorem step_failure (c : NewsViewController) : Step mj c (.loaded .failure) c :=
  loadDataSuccess_ok.mpr ⟨[], newsItems_nil mj _, by simp⟩

theorem not_brings_failure (newsCategory : NSString) :
    ¬ Brings mj newsCategory (.loaded .failure) := by
  rintro ⟨items, hitems, hne⟩
  rw [HttpTool.responseObject, newsItems_nil] at hitems
  cases hitems
  exact hne rfl

theorem not_brings_response {newsCategory category : String} (hne : ns newsCategory ≠ ns category)
    (items : List NSDictionary) :
    ¬ Brings mj (ns newsCategory) (.loaded (.success (response category items))) := by
  rintro ⟨models, hmodels, hnonempty⟩
  rw [HttpTool.responseObject, newsItems_response_of_ne hne] at hmodels
  cases hmodels
  exact hnonempty rfl

theorem retry_refreshes :
    Steps (Refreshed plain) (viewDidLoad (ns "dy"))
      [(.loaded .failure, viewDidLoad (ns "dy")),
        (.loaded (.success (response "tech" [article "b"])), viewDidLoad (ns "dy")),
        (.loaded (.success (response "dy" [article "a"])),
          ⟨ns "dy", [article "a"].map (NewsModel.setKeyValues plain)⟩)] := by
  apply (refresh_idempotent_iff plain (ns "dy") (.cons (step_failure _)
    (.cons (step_other (by decide) _) (.cons (step_response "dy" [article "a"] []) (.nil _))))).mpr
  simp only [List.map_cons, List.map_nil, List.pairwise_cons]
  refine ⟨fun f _ hbrings => absurd hbrings (not_brings_failure _), ?_, ?_⟩
  · exact fun f _ hbrings => absurd hbrings (not_brings_response (by decide) _)
  · simp

theorem second_refresh_doubles :
    ¬ ∀ (mj : MJExtension) (newsCategory : NSString) (tr : List (Event × NewsViewController)),
      Trace (Step mj) (viewDidLoad newsCategory) tr →
        Steps (Refreshed mj) (viewDidLoad newsCategory) tr := by
  intro h
  have hfirst : Step plain (viewDidLoad (ns "dy")) _ _ := step_response "dy" [article "a"] []
  have htr := Trace.cons hfirst (.cons (step_response "dy" [article "a"] _) (.nil _))
  have hsecond := (h plain (ns "dy") _ htr).2.1 _ _ rfl (payload_response "dy" [article "a"]).newsItems
  have hlen := congrArg List.length hsecond
  simp at hlen

end MixedProject.NewsRefresh
