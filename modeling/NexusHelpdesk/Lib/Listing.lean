import NexusHelpdesk.Lib.Keyset

/-!
# Listings with a cursor

One source in the order of a key, listed by pages; a cursor names the last row of a page.

* `firstRows`, `cut`: the rows of one page and the row behind them, the page and its cursor;
* `Pages`: whatever a listing returns is a page of its candidates;
* `Follow`: the pages of a walk, each with the tables of its time;
* `Complete`, `Pages.complete`: **a walk over unchanged tables lists the candidates in order, and
  every walk lists what stays a candidate, once**.
-/

namespace Lib

section Listing
variable {α κ τ ε γ : Type} [LinearOrder κ]

def firstRows (key : α → κ) (limit : ℕ) (rows : List α) : List α :=
  (rows.insertionSort fun x y => key x ≤ key y).take (limit + 1)

def cut (cursor : α → γ) (limit : ℕ) (rows : List α) : List α × Option γ :=
  (rows.take limit, if limit < rows.length then (rows.take limit).getLast?.map cursor else none)

variable {key : α → κ} {cursor : α → γ} {list : τ → Option γ → Except ε (List α × Option γ)}
  {candidates : τ → List α} {t : τ} {pages : List (τ × List α)}

lemma ascending_insertionSort {rows : List α} (h : rows.Pairwise fun x y => key x ≠ key y) :
    (rows.insertionSort fun x y => key x ≤ key y).Pairwise fun x y => key x < key y := by
  have hsorted := List.pairwise_insertionSort (fun x y => key x ≤ key y) rows
  have hne : (rows.insertionSort fun x y => key x ≤ key y).Pairwise fun x y => key x ≠ key y :=
    (List.Perm.pairwise_iff (fun h => Ne.symm h) (List.perm_insertionSort _ _)).2 h
  exact (hsorted.and hne).imp fun h => lt_of_le_of_ne h.1 h.2

lemma mem_of_firstRows {limit : ℕ} {rows : List α} {x : α} (h : x ∈ firstRows key limit rows) :
    x ∈ rows := (List.mem_insertionSort _).1 (List.mem_of_mem_take h)

lemma isPage_cut {limit : ℕ} {rows : List α} {after : Option κ} (hlimit : 0 < limit)
    (h : rows.Pairwise fun x y => key x ≠ key y) :
    let page := firstRows key limit (rows.filter fun x => Beyond after (key x))
    ∃ last : Option α, (cut cursor limit page).2 = last.map cursor ∧
      IsPage key rows after (cut cursor limit page).1 (last.map key) := by
  intro page
  let source := (rows.filter fun x => Beyond after (key x)).insertionSort fun x y => key x ≤ key y
  have hsource : source.Pairwise fun x y => key x < key y :=
    ascending_insertionSort (h.sublist List.filter_sublist)
  have hmem : ∀ x, (∃ s ∈ [source], x ∈ s) ↔ x ∈ rows ∧ Beyond after (key x) := by
    intro x
    simp [source]
  have hpage : IsPage key rows after (page.take limit)
      (if limit < page.length then (page.take limit).getLast?.map key else none) := by
    refine isPage_merge hlimit ?_ hmem (hsource.sublist (List.take_sublist _ _)) fun x => ?_
    · intro s hs
      rw [List.mem_singleton.1 hs]
      exact hsource
    · simp [source, page, firstRows]
  refine ⟨if limit < page.length then (page.take limit).getLast? else none, ?_, ?_⟩
  · unfold cut
    split <;> rfl
  · rw [apply_ite (Option.map key)]
    exact hpage

/-- what `list` returns behind a row is a page of the candidates. -/
def Pages (list : τ → Option γ → Except ε (List α × Option γ)) (key : α → κ) (cursor : α → γ)
    (candidates : τ → List α) : Prop :=
  ∀ t (after : Option α) page next, list t (after.map cursor) = .ok (page, next) →
    ∃ last : Option α, next = last.map cursor ∧
      IsPage key (candidates t) (after.map key) page (last.map key)

/-- the cursor is followed to the end, over tables that may change from page to page. -/
inductive Follow (list : τ → Option γ → Except ε (List α × Option γ)) :
    Option γ → List (τ × List α) → Prop where
  | last {t c page} : list t c = .ok (page, none) → Follow list c [(t, page)]
  | more {t c page next pages} : list t c = .ok (page, some next) →
      Follow list (some next) pages → Follow list c ((t, page) :: pages)

def walked (pages : List (τ × List α)) : List α := pages.flatMap (·.2)

lemma Follow.walk (hp : Pages list key cursor candidates) {c : Option γ} (h : Follow list c pages) :
    ∀ after : Option α, c = after.map cursor →
      Walk key (after.map key) (pages.map fun p => (candidates p.1, p.2)) := by
  induction h with
  | @last t c page hlist =>
    rintro after rfl
    obtain ⟨last, hnext, hpage⟩ := hp _ _ _ _ hlist
    cases last with
    | none => exact Walk.last hpage
    | some row => cases hnext
  | @more t c page next pages hlist _ ih =>
    rintro after rfl
    obtain ⟨last, hnext, hpage⟩ := hp _ _ _ _ hlist
    cases last with
    | none => cases hnext
    | some row => exact Walk.more hpage (ih (some row) hnext)

lemma listed_walk : listed (pages.map fun p => (candidates p.1, p.2)) = walked pages := by
  unfold listed walked
  rw [List.flatMap_map]

lemma Follow.read {c : Option γ} (h : Follow list c pages) :
    ∀ p ∈ pages, ∃ c next, list p.1 c = .ok (p.2, next) := by
  induction h with
  | @last t c page hlist => exact List.forall_mem_singleton.2 ⟨c, none, hlist⟩
  | @more t c page next pages hlist _ ih =>
    exact List.forall_mem_cons.2 ⟨⟨c, some next, hlist⟩, ih⟩

/-- a page with a row that is not `allowed` is refused. -/
structure Complete (list : τ → Option γ → Except ε (List α × Option γ)) (key : α → κ)
    (candidates : τ → List α) (allowed : τ → α → Prop) : Prop where
  ends : ∀ t, (∃ pages, Follow list none pages ∧ ∀ p ∈ pages, p.1 = t) ↔
    ∀ x ∈ candidates t, allowed t x
  unchanged : ∀ t pages, Follow list none pages → (∀ p ∈ pages, p.1 = t) →
    walked pages = (candidates t).insertionSort fun x y => key x ≤ key y
  changed : ∀ pages, Follow list none pages → (walked pages).Nodup ∧
    ∀ x, (∀ p ∈ pages, x ∈ candidates p.1) → x ∈ walked pages

lemma Pages.follow_ends (hp : Pages list key cursor candidates)
    (htotal : ∀ after : Option α, ∃ page, list t (after.map cursor) = .ok page) (n : ℕ)
    (after : Option α)
    (hn : ((candidates t).filter fun x => Beyond (after.map key) (key x)).length < n) :
    ∃ pages, Follow list (after.map cursor) pages ∧ ∀ p ∈ pages, p.1 = t := by
  induction n generalizing after with
  | zero => exact absurd hn (Nat.not_lt_zero _)
  | succ n ih =>
    obtain ⟨⟨page, next⟩, hlist⟩ := htotal after
    obtain ⟨last, rfl, hpage⟩ := hp _ _ _ _ hlist
    cases last with
    | none => exact ⟨[(t, page)], Follow.last hlist, List.forall_mem_singleton.2 rfl⟩
    | some row =>
      have hless := hpage.fewer
      obtain ⟨pages, hpages, hfixed⟩ := ih (some row) (by rw [Option.map_some]; omega)
      exact ⟨(t, page) :: pages, Follow.more hlist hpages, List.forall_mem_cons.2 ⟨rfl, hfixed⟩⟩

theorem Pages.complete {allowed : τ → α → Prop} (hp : Pages list key cursor candidates)
    (hdistinct : ∀ t, (candidates t).Pairwise fun x y => key x ≠ key y)
    (htotal : ∀ t, (∀ x ∈ candidates t, allowed t x) →
      ∀ after : Option α, ∃ page, list t (after.map cursor) = .ok page)
    (hread : ∀ t c page, list t c = .ok page → ∀ x ∈ page.1, allowed t x) :
    Complete list key candidates allowed := by
  have hascending : ∀ {pages}, Follow list none pages →
      (walked pages).Pairwise fun x y => key x < key y := by
    intro pages h
    have hasc := (h.walk hp none rfl).ascending
    rw [listed_walk] at hasc
    exact hasc
  have hmem : ∀ {t pages}, Follow list none pages → (∀ p ∈ pages, p.1 = t) →
      ∀ x, x ∈ walked pages ↔ x ∈ candidates t := by
    intro t pages h hfixed x
    rw [← listed_walk, (h.walk hp none rfl).total
      (List.forall_mem_map.2 fun p hp => congrArg candidates (hfixed p hp))]
    exact and_iff_left (beyond_none _)
  refine ⟨fun t => ⟨?_, fun h => hp.follow_ends (htotal t h) _ none (Nat.lt_succ_self _)⟩, ?_, ?_⟩
  · rintro ⟨pages, h, hfixed⟩ x hx
    obtain ⟨p, hpage, hxp⟩ := List.mem_flatMap.1 ((hmem h hfixed x).2 hx)
    obtain ⟨c, next, hlist⟩ := h.read p hpage
    exact hfixed p hpage ▸ hread _ _ _ hlist x hxp
  · intro t pages h hfixed
    refine eq_of_ascending (hascending h) (ascending_insertionSort (hdistinct t)) fun x => ?_
    rw [hmem h hfixed, List.mem_insertionSort]
  · intro pages h
    refine ⟨(hascending h).imp ?_, ?_⟩
    · rintro x y hlt rfl
      exact lt_irrefl _ hlt
    · intro x hx
      rw [← listed_walk]
      exact (h.walk hp none rfl).complete (beyond_none _) (List.forall_mem_map.2 hx)

end Listing

end Lib
