import MixedProject.NewsApp
import MixedProject.RefreshSubviewRuns

namespace MixedProject

/-- The news pages with their tables: `headers` lists the `mj_header` of each controller. -/
structure NewsPages where
  app : NewsApp
  headers : List MJRefreshNormalHeader := []

namespace NewsPages

open Traces

inductive Event
  | app (e : NewsApp.Event)
  | header (i : ℕ) (e : MJRefreshNormalHeader.Event)
  deriving DecidableEq

def loads (s : NewsApp) : NewsApp.Event → Option ℕ
  | .deliver _ => s.manager.networkReachabilityStatusBlock
  | .display =>
    match s.shows with
    | (i, cacheData) :: _ => if cacheData.length = 0 then some i else none
    | [] => none
  | _ => none

def endRefreshing (i : ℕ) (s : NewsPages) : NewsPages :=
  { s with headers := s.headers.modify i MJRefreshNormalHeader.endRefreshing }

def loadsNow (header : MJRefreshNormalHeader) (e : MJRefreshNormalHeader.Event) : Bool :=
  e = .main ∧ header.mainQueue.head? = some .refreshingCallback

def handle (mj : MJExtension) (localized : NSString → NSString) (s : NewsPages) :
    Event → Option NewsPages
  | .app (.viewDidLoad newsCategory) => do
    let app ← NewsApp.handle mj s.app (.viewDidLoad newsCategory)
    return { app, headers := s.headers ++ [MJRefreshNormalHeader.setMj_header localized false {}] }
  | .app (.refresh _) => none
  | .app e => do
    let app ← NewsApp.handle mj s.app e
    let t := { s with app }
    return match loads s.app e with
      | some i => t.endRefreshing i
      | none => t
  | .header _ .finish => none
  | .header i e => do
    let header ← s.headers[i]?
    let t ← MJRefreshNormalHeader.handle header e
    let app := if loadsNow header e then s.app.loadData i else s.app
    return { app, headers := s.headers.set i t }

def Step (mj : MJExtension) (localized : NSString → NSString) (s : NewsPages) (e : Event)
    (t : NewsPages) : Prop :=
  handle mj localized s e = some t

def launch (table : List NewsModel) : NewsPages where
  app := NewsApp.launch table

def headerAt (localized : NSString → NSString) (i : ℕ) (s : NewsPages) : MJRefreshNormalHeader :=
  s.headers[i]?.getD (MJRefreshNormalHeader.setMj_header localized false {})

/-- The events of the news app that a step of its pages is. -/
def appEvents (localized : NSString → NSString) (s : NewsPages) (e : Event) (_ : NewsPages) :
    List NewsApp.Event :=
  match e with
  | .app e => [e]
  | .header i e => if loadsNow (s.headerAt localized i) e then [.refresh i] else []

def PullStarts (localized : NSString → NSString) (i : ℕ) (s : NewsPages) (_ : Event)
    (t : NewsPages) : Prop :=
  (s.headerAt localized i).state ≠ .refreshing ∧ (t.headerAt localized i).state = .refreshing

instance (localized : NSString → NSString) (i : ℕ) (s : NewsPages) (e : Event) (t : NewsPages) :
    Decidable (PullStarts localized i s e t) :=
  inferInstanceAs (Decidable (_ ∧ _))

def Paired (s : NewsPages) : Prop := s.headers.length = s.app.store.controllers.length

variable {mj : MJExtension} {localized : NSString → NSString} {s t : NewsPages} {e : Event}

theorem step_viewDidLoad {newsCategory : NSString}
    (hst : Step mj localized s (.app (.viewDidLoad newsCategory)) t) :
    NewsApp.Step mj s.app (.viewDidLoad newsCategory) t.app ∧
      t.headers = s.headers ++ [MJRefreshNormalHeader.setMj_header localized false {}] := by
  cases hst
  exact ⟨rfl, rfl⟩

theorem step_app {e : NewsApp.Event} (hst : Step mj localized s (.app e) t)
    (hopen : ∀ newsCategory, e ≠ .viewDidLoad newsCategory) :
    NewsApp.Step mj s.app e t.app ∧ (∀ i, e ≠ .refresh i) ∧
      (t.headers = s.headers ∨
        ∃ i, t.headers = s.headers.modify i MJRefreshNormalHeader.endRefreshing) := by
  cases e with
  | viewDidLoad newsCategory => exact absurd rfl (hopen newsCategory)
  | refresh => cases hst
  | probe | change | deliver | complete | save | read | display =>
    obtain ⟨app, happ, ht⟩ := Option.bind_eq_some_iff.mp hst
    cases ht
    refine ⟨?_, nofun, ?_⟩
    · split <;> exact happ
    · split
      · exact .inr ⟨_, rfl⟩
      · exact .inl rfl

theorem step_header {i : ℕ} {e : MJRefreshNormalHeader.Event}
    (hst : Step mj localized s (.header i e) t) :
    ∃ header, s.headers[i]? = some header ∧ ∃ next, MJRefreshNormalHeader.Step header e next ∧
      e ≠ .finish ∧ t.headers = s.headers.set i next ∧
      t.app = if loadsNow header e then s.app.loadData i else s.app := by
  cases e with
  | finish => cases hst
  | scroll | drag | window | adjust | draw | main | complete =>
    obtain ⟨header, hheader, hst⟩ := Option.bind_eq_some_iff.mp hst
    obtain ⟨next, hnext, ht⟩ := Option.bind_eq_some_iff.mp hst
    cases ht
    exact ⟨header, hheader, next, hnext, nofun, rfl, rfl⟩

theorem headerAt_of_some {i : ℕ} {header : MJRefreshNormalHeader}
    (h : s.headers[i]? = some header) : s.headerAt localized i = header := by
  rw [headerAt, h, Option.getD_some]

theorem step_headerAt (hst : Step mj localized s e t) (j : ℕ) :
    (∃ e', e = .header j e' ∧ e' ≠ .finish ∧
        MJRefreshNormalHeader.Step (s.headerAt localized j) e' (t.headerAt localized j)) ∨
      (∀ e', e ≠ .header j e') ∧
        (t.headerAt localized j = s.headerAt localized j ∨
          t.headerAt localized j = (s.headerAt localized j).endRefreshing) := by
  cases e with
  | app e =>
    refine .inr ⟨nofun, ?_⟩
    by_cases hopen : ∃ newsCategory, e = .viewDidLoad newsCategory
    · obtain ⟨newsCategory, rfl⟩ := hopen
      obtain ⟨-, hheaders⟩ := step_viewDidLoad hst
      left
      rw [headerAt, headerAt, hheaders]
      by_cases hj : j < s.headers.length
      · rw [List.getElem?_append_left hj]
      · rw [List.getElem?_append_right (by omega), List.getElem?_singleton,
          List.getElem?_eq_none (by omega)]
        split_ifs <;> rfl
    · obtain ⟨-, -, hheaders | ⟨i, hheaders⟩⟩ :=
        step_app hst fun newsCategory heq => hopen ⟨newsCategory, heq⟩
      · left
        rw [headerAt, headerAt, hheaders]
      · rw [headerAt, headerAt, hheaders, List.getElem?_modify]
        cases hj : s.headers[j]? with
        | none =>
          left
          split_ifs <;> rfl
        | some header =>
          by_cases hi : i = j
          · right
            simp [hi]
          · left
            simp [hi]
  | header i e =>
    obtain ⟨header, hheader, next, hnext, hfinish, hheaders, -⟩ := step_header hst
    by_cases hi : i = j
    · subst hi
      left
      have hlt := (List.getElem?_eq_some_iff.mp hheader).1
      rw [headerAt_of_some hheader, headerAt, hheaders, List.getElem?_set_self hlt]
      exact ⟨e, rfl, hfinish, hnext⟩
    · right
      refine ⟨fun e' heq => hi (Event.header.inj heq).1, .inl ?_⟩
      rw [headerAt, headerAt, hheaders, List.getElem?_set_ne hi]

theorem Paired.step (h : Paired s) (hst : Step mj localized s e t) : Paired t := by
  unfold Paired at h ⊢
  cases e with
  | app e =>
    by_cases hopen : ∃ newsCategory, e = .viewDidLoad newsCategory
    · obtain ⟨newsCategory, rfl⟩ := hopen
      obtain ⟨happ, hheaders⟩ := step_viewDidLoad hst
      rw [NewsApp.step_viewDidLoad happ, hheaders]
      simp [NewsApp.viewDidLoad, h]
    · have hopen' : ∀ newsCategory, e ≠ .viewDidLoad newsCategory :=
        fun newsCategory heq => hopen ⟨newsCategory, heq⟩
      obtain ⟨happ, -, hheaders | ⟨i, hheaders⟩⟩ := step_app hst hopen'
      · rw [hheaders, h, (NewsApp.step_registered happ hopen').2]
      · rw [hheaders, List.length_modify, h, (NewsApp.step_registered happ hopen').2]
  | header i e =>
    obtain ⟨header, -, next, -, -, hheaders, happ⟩ := step_header hst
    rw [hheaders, List.length_set, h, happ]
    split_ifs <;> rfl

theorem step_refines (h : Paired s) (hst : Step mj localized s e t) :
    ∃ tr, Trace (NewsApp.Step mj) s.app tr ∧ tr.map Prod.fst = appEvents localized s e t ∧
      last s.app tr = t.app := by
  cases e with
  | app e =>
    have happ : NewsApp.Step mj s.app e t.app := by
      by_cases hopen : ∃ newsCategory, e = .viewDidLoad newsCategory
      · obtain ⟨newsCategory, rfl⟩ := hopen
        exact (step_viewDidLoad hst).1
      · exact (step_app hst fun newsCategory heq => hopen ⟨newsCategory, heq⟩).1
    exact ⟨[(e, t.app)], .cons happ (.nil _), rfl, rfl⟩
  | header i e =>
    obtain ⟨header, hheader, next, -, -, -, happ⟩ := step_header hst
    have hlt := (List.getElem?_eq_some_iff.mp hheader).1
    rw [h] at hlt
    simp only [appEvents, headerAt_of_some hheader]
    by_cases hloads : loadsNow header e = true
    · rw [if_pos hloads] at happ ⊢
      have hrefresh : NewsApp.Step mj s.app (.refresh i) t.app := by
        rw [happ]
        exact if_pos hlt
      exact ⟨[(.refresh i, t.app)], .cons hrefresh (.nil _), rfl, rfl⟩
    · rw [if_neg hloads] at happ ⊢
      exact ⟨[], .nil _, rfl, happ.symm⟩

theorem count_refresh_other (hst : Step mj localized s e t) {i : ℕ} (hother : ∀ e', e ≠ .header i e') :
    (appEvents localized s e t).count (.refresh i) = 0 := by
  apply List.count_eq_zero.mpr
  intro hmem
  cases e with
  | app e =>
    cases e with
    | refresh => cases hst
    | viewDidLoad | probe | change | deliver | complete | save | read | display =>
      simp [appEvents] at hmem
  | header j e =>
    simp only [appEvents] at hmem
    split_ifs at hmem
    · rw [List.mem_singleton, NewsApp.Event.refresh.injEq] at hmem
      subst hmem
      exact hother e rfl
    · cases hmem

theorem step_loads (hst : Step mj localized s e t) (i : ℕ) :
    (t.headerAt localized i).loads =
      (s.headerAt localized i).loads + (appEvents localized s e t).count (.refresh i) := by
  obtain ⟨e', rfl, -, hnext⟩ | ⟨hother, hsame | hend⟩ := step_headerAt hst i
  · rw [hnext.loads]
    by_cases hloads : e' = .main ∧
        (s.headerAt localized i).mainQueue.head? = some .refreshingCallback
    · simp [appEvents, loadsNow, hloads]
    · simp [appEvents, loadsNow, hloads]
  · rw [hsame, count_refresh_other hst hother, Nat.add_zero]
  · rw [hend, count_refresh_other hst hother, Nat.add_zero]
    rfl

theorem step_balanced (hst : Step mj localized s e t) (i : ℕ) :
    (s.headerAt localized i).Balanced (t.headerAt localized i) := by
  obtain ⟨e', -, -, hnext⟩ | ⟨-, hsame | hend⟩ := step_headerAt hst i
  · exact hnext.balanced
  · rw [hsame]
    exact (MJRefreshNormalHeader.SameWork.refl _).balanced
  · rw [hend]
    exact MJRefreshNormalHeader.Step.balanced (e := .finish) rfl

theorem step_shows (hst : Step mj localized s e t) {i : ℕ}
    (h : (s.headerAt localized i).ShowsState localized) :
    (t.headerAt localized i).ShowsState localized := by
  obtain ⟨e', -, -, hnext⟩ | ⟨-, hsame | hend⟩ := step_headerAt hst i
  · exact h.step hnext
  · rw [hsame]
    exact h
  · rw [hend]
    exact h.step (e := .finish) rfl

theorem headers_show {table : List NewsModel} {tr : List (Event × NewsPages)}
    (htr : Trace (Step mj localized) (launch table) tr) :
    Always (fun s => ∀ i, (s.headerAt localized i).ShowsState localized) (launch table) tr :=
  htr.always (fun _ _ _ h hst i => step_shows hst (h i))
    fun _ => MJRefreshNormalHeader.setMj_header_shows _ _ _

theorem launch_paired (table : List NewsModel) : Paired (launch table) := rfl

def pulledPage : List Event :=
  [.app (.viewDidLoad (ns "top")), .app (.probe (some .reachableViaWiFi))] ++
    (MJRefreshNormalHeader.pullAndLetGo.take 5).map (.header 0) ++
    [.app (.deliver .reachableViaWiFi)] ++
    (MJRefreshNormalHeader.pullAndLetGo.drop 5).map (.header 0) ++ [.header 0 .main]

end NewsPages

end MixedProject
