import Mathlib

/-!
# Keyset pages

A listing by pages: each page continues behind the key of the last item before it, and is merged
from several sources, of which only the first items are read.

* `IsPage`: what one page has to do with the candidates behind its cursor;
* `isPage_merge`: **the first `limit` of the merged first `limit + 1` items of every source are a
  page of all of them**;
* `Walk`: pages that follow one another, over candidates that may change from page to page;
* `Walk.ascending`, `Walk.complete`: **no key comes twice, and what is a candidate of every page is
  listed**;
* `Walk.total`: over fixed candidates, every one is listed.
-/

namespace Lib

section Keyset
variable {α κ : Type} [LinearOrder κ] (key : α → κ)

def Beyond (after : Option κ) (k : κ) : Prop := ∀ c ∈ after, c < k

instance (after : Option κ) (k : κ) : Decidable (Beyond after k) :=
  match after with
  | none => isTrue (by
      intro c hc
      cases hc)
  | some c => decidable_of_iff (c < k) (by
      unfold Beyond
      simp)

@[simp] lemma beyond_none (k : κ) : Beyond none k := nofun

@[simp] lemma beyond_some {c k : κ} : Beyond (some c) k ↔ c < k := by
  unfold Beyond
  simp

/-- a page of the candidates behind `after`; it ends at `next`, or holds all of them. -/
structure IsPage (candidates : List α) (after : Option κ) (page : List α) (next : Option κ) :
    Prop where
  ascending : page.Pairwise fun x y => key x < key y
  sound : ∀ x ∈ page, x ∈ candidates ∧ Beyond after (key x)
  complete : ∀ x ∈ candidates, Beyond after (key x) → (∀ k ∈ next, key x ≤ k) → x ∈ page
  reached : ∀ k ∈ next, ∃ x ∈ page, key x = k
  upto : ∀ k ∈ next, ∀ x ∈ page, key x ≤ k

/-! ## one page -/

variable {key} {candidates : List α} {after : Option κ} {items : List α} {n : ℕ}

lemma mem_take_of_le {last x : α} (h : items.Pairwise fun x y => key x < key y)
    (hlast : last ∈ items.take n) (hx : x ∈ items) (hle : key x ≤ key last) : x ∈ items.take n := by
  rw [← List.take_append_drop n items] at hx h
  rcases List.mem_append.1 hx with htake | hdrop
  · exact htake
  · have hlt : key last < key x := (List.pairwise_append.1 h).2.2 last hlast x hdrop
    exact absurd hle (not_le_of_gt hlt)

lemma take_subset_of_not_mem {source items : List α} {last x : α}
    (hs : source.Pairwise fun x y => key x < key y)
    (hitems : items.Pairwise fun x y => key x < key y) (hsub : ∀ y ∈ source.take (n + 1), y ∈ items)
    (hlast : last ∈ items.take n) (hx : x ∈ source) (hnot : x ∉ source.take (n + 1))
    (hle : key x ≤ key last) : False := by
  have hdrop : x ∈ source.drop (n + 1) := by
    rw [← List.take_append_drop (n + 1) source] at hx
    exact (List.mem_append.1 hx).resolve_left hnot
  have hbefore : ∀ y ∈ source.take (n + 1), key y < key x := by
    rw [← List.take_append_drop (n + 1) source] at hs
    intro y hy
    exact (List.pairwise_append.1 hs).2.2 y hy x hdrop
  -- the whole head of the source would have to fit into the page
  have hfits : ∀ y ∈ source.take (n + 1), y ∈ items.take n := by
    intro y hy
    exact mem_take_of_le hitems hlast (hsub y hy) ((hbefore y hy).le.trans hle)
  have hnodup : (source.take (n + 1)).Nodup := by
    refine (hs.imp ?_).sublist (List.take_sublist _ _)
    rintro a b hab rfl
    exact lt_irrefl _ hab
  have hlength : (source.take (n + 1)).length ≤ (items.take n).length :=
    (hnodup.subperm hfits).length_le
  have hlong : n + 1 < source.length := by
    by_contra hshort
    rw [List.drop_eq_nil_of_le (not_lt.1 hshort)] at hdrop
    cases hdrop
  rw [List.length_take, List.length_take, min_eq_left hlong.le] at hlength
  have := min_le_left n items.length
  omega

theorem isPage_merge {sources : List (List α)} {limit : ℕ} (hlimit : 0 < limit)
    (hsources : ∀ source ∈ sources, source.Pairwise fun x y => key x < key y)
    (hmem : ∀ x, (∃ source ∈ sources, x ∈ source) ↔ x ∈ candidates ∧ Beyond after (key x))
    (hitems : items.Pairwise fun x y => key x < key y)
    (hmerge : ∀ x, x ∈ items ↔ ∃ source ∈ sources, x ∈ source.take (limit + 1)) :
    IsPage key candidates after (items.take limit)
      (if limit < items.length then (items.take limit).getLast?.map key else none) where
  ascending := hitems.sublist (List.take_sublist _ _)
  sound := by
    intro x hx
    obtain ⟨source, hsource, hx⟩ := (hmerge x).1 (List.mem_of_mem_take hx)
    exact (hmem x).1 ⟨source, hsource, List.mem_of_mem_take hx⟩
  complete := by
    intro x hx hafter hupto
    obtain ⟨source, hsource, hxs⟩ := (hmem x).2 ⟨hx, hafter⟩
    by_cases hmore : limit < items.length
    · rw [if_pos hmore] at hupto
      have hne : items.take limit ≠ [] := by
        intro hnil
        have hzero := congrArg List.length hnil
        rw [List.length_take, min_eq_left hmore.le, List.length_nil] at hzero
        omega
      have hlast := List.getLast_mem hne
      have hle : key x ≤ key ((items.take limit).getLast hne) := by
        refine hupto _ ?_
        rw [List.getLast?_eq_some_getLast hne]
        rfl
      by_cases htake : x ∈ source.take (limit + 1)
      · exact mem_take_of_le hitems hlast ((hmerge x).2 ⟨source, hsource, htake⟩) hle
      · refine (take_subset_of_not_mem (hsources source hsource) hitems ?_ hlast hxs htake
          hle).elim
        exact fun y hy => (hmerge y).2 ⟨source, hsource, hy⟩
    · -- nothing was cut off
      have htake : x ∈ source.take (limit + 1) := by
        have hshort : source.length ≤ limit := by
          by_contra hlong
          have hnodup : (source.take (limit + 1)).Nodup := by
            refine ((hsources source hsource).imp ?_).sublist (List.take_sublist _ _)
            rintro a b hab rfl
            exact lt_irrefl _ hab
          have hle := (hnodup.subperm fun y hy => (hmerge y).2 ⟨source, hsource, hy⟩).length_le
          rw [List.length_take, min_eq_left (not_le.1 hlong)] at hle
          omega
        rw [List.take_of_length_le (hshort.trans (Nat.le_succ limit))]
        exact hxs
      rw [List.take_of_length_le (not_lt.1 hmore)]
      exact (hmerge x).2 ⟨source, hsource, htake⟩
  reached := by
    intro k hk
    split at hk
    · obtain ⟨x, hx, rfl⟩ := Option.map_eq_some_iff.1 hk
      exact ⟨x, List.mem_of_getLast? hx, rfl⟩
    · cases hk
  upto := by
    intro k hk x hx
    split at hk
    · obtain ⟨last, hlast, rfl⟩ := Option.map_eq_some_iff.1 hk
      have hpage : (items.take limit).Pairwise fun x y => key x < key y :=
        hitems.sublist (List.take_sublist _ _)
      obtain ⟨front, hfront⟩ := List.getLast?_eq_some_iff.1 hlast
      rw [hfront] at hpage hx
      rcases List.mem_append.1 hx with hold | hnew
      · exact ((List.pairwise_append.1 hpage).2.2 x hold last (List.mem_singleton_self _)).le
      · rw [List.mem_singleton.1 hnew]
    · cases hk

lemma IsPage.fewer {page : List α} {k : κ} (h : IsPage key candidates after page (some k)) :
    (candidates.filter fun x => Beyond (some k) (key x)).length <
      (candidates.filter fun x => Beyond after (key x)).length := by
  obtain ⟨y, hy, hkey⟩ := h.reached k rfl
  obtain ⟨hmem, hbeyond⟩ := h.sound y hy
  have hsub : (candidates.filter fun x => Beyond (some k) (key x)) =
      (candidates.filter fun x => Beyond after (key x)).filter
        fun x => Beyond (some k) (key x) := by
    rw [List.filter_filter]
    refine List.filter_congr fun x _ => ?_
    rw [← Bool.decide_and, decide_eq_decide, iff_self_and]
    intro hx c hc
    have hlt : k < key x := hx _ rfl
    exact (hbeyond c hc).trans (hkey ▸ hlt)
  rw [hsub]
  -- the last item of the page is behind the old cursor, and not behind the new one
  refine List.length_filter_lt_length_iff_exists.2
    ⟨y, List.mem_filter.2 ⟨hmem, decide_eq_true hbeyond⟩, ?_⟩
  rw [decide_eq_true_iff, hkey]
  exact fun hlt => lt_irrefl _ (hlt _ rfl)

/-! ## pages that follow one another -/

/-- pages with the candidates of their time, each behind the last. -/
inductive Walk (key : α → κ) : Option κ → List (List α × List α) → Prop where
  | last {after candidates page} : IsPage key candidates after page none →
      Walk key after [(candidates, page)]
  | more {after candidates page k rest} : IsPage key candidates after page (some k) →
      Walk key (some k) rest → Walk key after ((candidates, page) :: rest)

def listed (pages : List (List α × List α)) : List α := pages.flatMap (·.2)

variable {pages : List (List α × List α)}

section
variable (h : Walk key after pages)
include h

lemma Walk.beyond : ∀ x ∈ listed pages, Beyond after (key x) := by
  induction h with
  | last hpage =>
    intro x hx
    rw [listed, List.flatMap_singleton] at hx
    exact (hpage.sound x hx).2
  | @more after candidates page k rest hpage hrest ih =>
    intro x hx
    rw [listed, List.flatMap_cons] at hx
    rcases List.mem_append.1 hx with hx | hx
    · exact (hpage.sound x hx).2
    · -- the cursor moved on to an item of this page
      obtain ⟨y, hy, hk⟩ := hpage.reached k rfl
      intro c hc
      have hlt : c < key y := (hpage.sound y hy).2 c hc
      have hbeyond : k < key x := ih x hx k rfl
      exact hlt.trans (hk ▸ hbeyond)

theorem Walk.ascending :
    (listed pages).Pairwise fun x y => key x < key y := by
  induction h with
  | last hpage =>
    rw [listed, List.flatMap_singleton]
    exact hpage.ascending
  | @more after candidates page k rest hpage hrest ih =>
    rw [listed, List.flatMap_cons]
    refine List.pairwise_append.2 ⟨hpage.ascending, ih, ?_⟩
    intro x hx y hy
    have hle : key x ≤ k := hpage.upto k rfl x hx
    exact hle.trans_lt (hrest.beyond y hy k rfl)

theorem Walk.complete {x : α} (hafter : Beyond after (key x)) (hx : ∀ p ∈ pages, x ∈ p.1) :
    x ∈ listed pages := by
  induction h with
  | last hpage =>
    rw [listed, List.flatMap_singleton]
    refine hpage.complete x (hx _ (List.mem_singleton_self _)) hafter ?_
    intro k hk
    cases hk
  | @more after candidates page k rest hpage hrest ih =>
    rw [listed, List.flatMap_cons]
    rcases le_or_gt (key x) k with hle | hlt
    · refine List.mem_append_left _ ?_
      refine hpage.complete x (hx _ (List.mem_cons_self ..)) hafter ?_
      intro k' hk'
      rw [← Option.mem_some_iff.1 hk']
      exact hle
    · refine List.mem_append_right _ (ih ?_ fun p hp => hx p (List.mem_cons_of_mem _ hp))
      intro k' hk'
      rw [← Option.mem_some_iff.1 hk']
      exact hlt

lemma Walk.sound {x : α} (hx : x ∈ listed pages) :
    ∃ p ∈ pages, x ∈ p.1 := by
  induction h with
  | last hpage =>
    rw [listed, List.flatMap_singleton] at hx
    exact ⟨_, List.mem_singleton_self _, (hpage.sound x hx).1⟩
  | more hpage hrest ih =>
    rw [listed, List.flatMap_cons] at hx
    rcases List.mem_append.1 hx with hx | hx
    · exact ⟨_, List.mem_cons_self .., (hpage.sound x hx).1⟩
    · obtain ⟨p, hp, hxp⟩ := ih hx
      exact ⟨p, List.mem_cons_of_mem _ hp, hxp⟩

theorem Walk.total {x : α} (hfixed : ∀ p ∈ pages, p.1 = candidates) :
    x ∈ listed pages ↔ x ∈ candidates ∧ Beyond after (key x) := by
  constructor
  · intro hx
    obtain ⟨p, hp, hxp⟩ := h.sound hx
    rw [hfixed p hp] at hxp
    exact ⟨hxp, h.beyond x hx⟩
  · rintro ⟨hx, hafter⟩
    exact h.complete hafter fun p hp => (hfixed p hp).symm ▸ hx

end

lemma eq_of_ascending {xs ys : List α} (hxs : xs.Pairwise fun x y => key x < key y)
    (hys : ys.Pairwise fun x y => key x < key y) (h : ∀ x, x ∈ xs ↔ x ∈ ys) : xs = ys := by
  have hnodup : ∀ {zs : List α}, zs.Pairwise (fun x y => key x < key y) → zs.Nodup := by
    intro zs hzs
    refine hzs.imp ?_
    rintro a b hab rfl
    exact lt_irrefl _ hab
  have hperm : xs.Perm ys := (List.perm_ext_iff_of_nodup (hnodup hxs) (hnodup hys)).2 h
  refine hperm.eq_of_pairwise ?_ hxs hys
  intro a b _ _ hab hba
  exact absurd (hab.trans hba) (lt_irrefl _)

end Keyset

end Lib
