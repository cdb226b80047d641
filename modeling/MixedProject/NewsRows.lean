import MixedProject.NewsApp

namespace MixedProject.NewsApp

open Traces NewsViewController

variable {mj : MJExtension}

def received (mj : MJExtension) (newsCategory : NSString) (i : ℕ) : Event → List NewsModel
  | .complete j completion =>
    if j = i then
      (newsItems mj newsCategory (HttpTool.responseObject completion)).toOption.getD []
    else []
  | _ => []

theorem controllers_viewDidLoad {s : NewsApp} {i : ℕ} {c : NewsViewController}
    (newsCategory : NSString) (hc : s.store.controllers[i]? = some c) :
    (s.viewDidLoad newsCategory).store.controllers[i]? = some c := by
  have hi : i < s.store.controllers.length := (List.getElem?_eq_some_iff.mp hc).1
  rw [← hc]
  exact List.getElem?_append_left hi

theorem controllers_complete {s t : NewsApp} {i j : ℕ} {c : NewsViewController}
    {completion : Completion} (hst : Step mj s (.complete j completion) t)
    (hc : s.store.controllers[i]? = some c) :
    t.store.controllers[i]? = some { c with
      dataArray := c.dataArray ++ received mj c.newsCategory i (.complete j completion) } := by
  obtain ⟨d, items, hd, hitems, rfl⟩ := step_complete hst
  by_cases hij : j = i
  · subst hij
    rw [hc] at hd
    cases hd
    have hrows : received mj c.newsCategory j (.complete j completion) = items := by
      rw [received, if_pos rfl, hitems]
      rfl
    rw [hrows]
    exact List.getElem?_set_self (List.getElem?_eq_some_iff.mp hc).1
  · have hrows : received mj c.newsCategory i (.complete j completion) = [] := by
      rw [received, if_neg hij]
    rw [hrows, List.append_nil, List.getElem?_set_ne hij]
    exact hc

theorem controllers_kept {s t : NewsApp} {e : Event} {i : ℕ} {c : NewsViewController}
    (h : CacheUnread s) (hst : Step mj s e t) (he : ∀ j completion, e ≠ .complete j completion)
    (hc : s.store.controllers[i]? = some c) : t.store.controllers[i]? = some c := by
  cases e with
  | viewDidLoad newsCategory =>
    rw [step_viewDidLoad hst]
    exact controllers_viewDidLoad newsCategory hc
  | complete j completion => exact absurd rfl (he j completion)
  | probe | change | deliver | refresh =>
    obtain ⟨manager, requests, rfl, -⟩ := step_pending hst rfl
    exact hc
  | save j =>
    obtain ⟨d, -, rfl⟩ := step_save hst
    exact hc
  | read j =>
    obtain ⟨-, rfl⟩ := step_read hst
    exact hc
  | display =>
    obtain ⟨j, cacheData, shows, hshows, -⟩ := step_display hst
    rw [h.shows] at hshows
    cases hshows

theorem controllers_step {s t : NewsApp} {e : Event} {i : ℕ} {c : NewsViewController}
    (h : CacheUnread s) (hst : Step mj s e t) (hc : s.store.controllers[i]? = some c) :
    t.store.controllers[i]? = some { c with
      dataArray := c.dataArray ++ received mj c.newsCategory i e } := by
  by_cases he : ∃ j completion, e = .complete j completion
  · obtain ⟨j, completion, rfl⟩ := he
    exact controllers_complete hst hc
  · have hother : ∀ j completion, e ≠ .complete j completion := by
      intro j completion heq
      exact he ⟨j, completion, heq⟩
    have hrows : received mj c.newsCategory i e = [] := by
      cases e with
      | complete j completion => exact absurd rfl (hother j completion)
      | _ => rfl
    rw [hrows, List.append_nil]
    exact controllers_kept h hst hother hc

theorem rows_accumulate {s : NewsApp} {tr : List (Event × NewsApp)} {i : ℕ}
    {c : NewsViewController} (h : CacheUnread s) (htr : Trace (Step mj) s tr)
    (hc : s.store.controllers[i]? = some c) :
    (last s tr).store.controllers[i]? = some { c with
      dataArray := c.dataArray ++ (tr.map Prod.fst).flatMap (received mj c.newsCategory i) } := by
  induction htr generalizing c with
  | nil s => simpa using hc
  | cons hst _ ih =>
    have hnext := ih (h.step hst) (controllers_step h hst hc)
    rw [last_cons, hnext, List.map_cons, List.flatMap_cons, List.append_assoc]

end MixedProject.NewsApp
