import NexusHelpdesk.Lib.Keyset

/-!
# Replaying a log in batches

A reader calls `fetch` with a cursor.  A batch reads the first `n` entries of the log behind the
cursor, delivers what is visible of them until `k` are delivered, and names the last entry that it
read; the reader goes on behind it until a batch reads nothing.

* `scan view k`: the loop of one batch;
* `visible view`: what there is to see of some entries;
* `Fits view k`: **a batch that delivers all there is to see of its entries**;
* `Replayed fetch c out`: the reader, from the cursor `c`;
* `replayed_visible_iff`: **the reader gets all there is to see exactly if every batch fits**.
-/

namespace Lib

section Scan
variable {α β ε : Type} (view : α → Except ε (Option β))

/-- the entries one after the other, until `k` are delivered. -/
def scan : ℕ → List α → Except ε (List β)
  | 0, _ => .ok []
  | _ + 1, [] => .ok []
  | k + 1, a :: rest => do
    match ← view a with
    | none => scan (k + 1) rest
    | some b =>
      let out ← scan k rest
      return b :: out

def seen (a : α) : Option β :=
  match view a with
  | .ok b => b
  | .error _ => none

def visible (l : List α) : List β := l.filterMap (seen view)

/-- an entry that cannot be read. -/
def Raises (a : α) : Prop := ∃ e, view a = .error e

/-- at most `k` entries are visible, and one that cannot be read comes behind `k` of them. -/
structure Fits (k : ℕ) (l : List α) : Prop where
  few : (visible view l).length ≤ k
  readable : ∀ pre a post, l = pre ++ a :: post → Raises view a → k ≤ (visible view pre).length

variable {view} {k : ℕ} {l : List α} {a : α} {b : β} {e : ε}

lemma scan_cons_none (h : view a = .ok none) :
    scan view (k + 1) (a :: l) = scan view (k + 1) l := by
  show (view a >>= _) = _
  rw [h]
  rfl

lemma scan_cons_some (h : view a = .ok (some b)) :
    scan view (k + 1) (a :: l) = (scan view k l).map (b :: ·) := by
  show (view a >>= _) = _
  rw [h]
  show (scan view k l >>= fun out => .ok (b :: out)) = _
  cases scan view k l with
  | ok out => rfl
  | error e => rfl

lemma scan_cons_error (h : view a = .error e) : scan view (k + 1) (a :: l) = .error e := by
  show (view a >>= _) = _
  rw [h]
  rfl

lemma visible_cons_none (h : view a = .ok none) : visible view (a :: l) = visible view l := by
  have hseen : seen view a = none := by
    unfold seen
    rw [h]
  exact List.filterMap_cons_none hseen

lemma visible_cons_some (h : view a = .ok (some b)) :
    visible view (a :: l) = b :: visible view l := by
  have hseen : seen view a = some b := by
    unfold seen
    rw [h]
  exact List.filterMap_cons_some hseen

lemma visible_append (l l' : List α) : visible view (l ++ l') = visible view l ++ visible view l' :=
  List.filterMap_append ..

lemma scan_eq_take {out : List β} (h : scan view k l = .ok out) : out = (visible view l).take k := by
  induction l generalizing k out with
  | nil =>
    cases k with
    | zero => cases h; rfl
    | succ k => cases h; rfl
  | cons a l ih =>
    cases k with
    | zero => cases h; rfl
    | succ k =>
      cases hview : view a with
      | error e =>
        rw [scan_cons_error hview] at h
        cases h
      | ok seen =>
        cases seen with
        | none =>
          rw [scan_cons_none hview] at h
          rw [visible_cons_none hview]
          exact ih h
        | some b =>
          rw [scan_cons_some hview] at h
          rw [visible_cons_some hview, List.take_succ_cons]
          cases hscan : scan view k l with
          | error e =>
            rw [hscan] at h
            cases h
          | ok rest =>
            rw [hscan] at h
            cases h
            rw [ih hscan]

lemma Fits.tail_of_none (h : Fits view k (a :: l)) (hview : view a = .ok none) : Fits view k l where
  few := by
    have hfew := h.few
    rwa [visible_cons_none hview] at hfew
  readable := by
    intro pre x post heq hx
    have hread := h.readable (a :: pre) x post (by rw [heq]; rfl) hx
    rwa [visible_cons_none hview] at hread

lemma Fits.tail_of_some (h : Fits view (k + 1) (a :: l)) (hview : view a = .ok (some b)) :
    Fits view k l where
  few := by
    have hfew := h.few
    rw [visible_cons_some hview, List.length_cons] at hfew
    omega
  readable := by
    intro pre x post heq hx
    have hread := h.readable (a :: pre) x post (by rw [heq]; rfl) hx
    rw [visible_cons_some hview, List.length_cons] at hread
    omega

lemma Fits.scan_eq (h : Fits view k l) : scan view k l = .ok (visible view l) := by
  induction l generalizing k with
  | nil => cases k <;> rfl
  | cons a l ih =>
    cases k with
    | zero =>
      have hnil : visible view (a :: l) = [] := List.length_eq_zero_iff.1 (Nat.le_zero.1 h.few)
      rw [hnil]
      rfl
    | succ k =>
      cases hview : view a with
      | error e =>
        have hread := h.readable [] a l rfl ⟨e, hview⟩
        exact absurd hread (Nat.not_succ_le_zero k)
      | ok seen =>
        cases seen with
        | none =>
          rw [scan_cons_none hview, visible_cons_none hview]
          exact ih (h.tail_of_none hview)
        | some b =>
          rw [scan_cons_some hview, visible_cons_some hview, ih (h.tail_of_some hview)]
          rfl

lemma scan_raises {pre : List α} (post : List α) (h : view a = .error e) (hk : (visible view pre).length < k) :
    ∃ e', scan view k (pre ++ a :: post) = .error e' := by
  induction pre generalizing k with
  | nil =>
    obtain ⟨k, rfl⟩ := Nat.exists_eq_succ_of_ne_zero (Nat.ne_of_gt hk)
    exact ⟨e, scan_cons_error h⟩
  | cons x pre ih =>
    obtain ⟨k, rfl⟩ := Nat.exists_eq_succ_of_ne_zero (Nat.ne_of_gt (Nat.zero_lt_of_lt hk))
    rw [List.cons_append]
    cases hview : view x with
    | error e' => exact ⟨e', scan_cons_error hview⟩
    | ok seen =>
      cases seen with
      | none =>
        rw [scan_cons_none hview]
        rw [visible_cons_none hview] at hk
        exact ih hk
      | some b =>
        rw [visible_cons_some hview, List.length_cons] at hk
        obtain ⟨e', hscan⟩ := ih (k := k) (by omega)
        refine ⟨e', ?_⟩
        rw [scan_cons_some hview, hscan]
        rfl

lemma scan_visible_iff : scan view k l = .ok (visible view l) ↔ Fits view k l := by
  constructor
  · intro h
    constructor
    · have hlength := congrArg List.length (scan_eq_take h)
      rw [List.length_take] at hlength
      omega
    · rintro pre a post rfl ⟨e, hview⟩
      by_contra hlt
      obtain ⟨e', hscan⟩ := scan_raises post hview (not_le.1 hlt)
      rw [hscan] at h
      cases h
  · exact Fits.scan_eq

lemma mapM_eq_scan (h : l.length ≤ k) :
    (l.mapM view).map (fun out => out.filterMap id) = scan view k l := by
  induction l generalizing k with
  | nil => cases k <;> rfl
  | cons a l ih =>
    rw [List.length_cons] at h
    obtain ⟨k, rfl⟩ := Nat.exists_eq_succ_of_ne_zero (n := k) (by omega)
    rw [List.mapM_cons]
    cases hview : view a with
    | error e =>
      rw [scan_cons_error hview]
      rfl
    | ok seen =>
      cases seen with
      | none =>
        rw [scan_cons_none hview, ← ih (by omega)]
        show (l.mapM view >>= fun out => .ok (none :: out)).map _ = _
        cases l.mapM view with
        | ok out => rfl
        | error e => rfl
      | some b =>
        rw [scan_cons_some hview, ← ih (by omega)]
        show (l.mapM view >>= fun out => .ok (some b :: out)).map _ = _
        cases l.mapM view with
        | ok out => rfl
        | error e => rfl

end Scan

/-! ## the reader -/

/-- what a batch delivers, and the last entry that it read. -/
structure ReplayBatch (β : Type) where
  events : List β
  last : ℕ
deriving DecidableEq, Repr

section Reader
variable {α β ε : Type}

/-- the reader goes on until a batch reads nothing. -/
inductive Replayed (fetch : ℕ → Except ε (ReplayBatch β)) : ℕ → List β → Prop
  | last {c : ℕ} {b : ReplayBatch β} : fetch c = .ok b → b.last = c → Replayed fetch c b.events
  | more {c : ℕ} {b : ReplayBatch β} {out : List β} : fetch c = .ok b → b.last ≠ c →
      Replayed fetch b.last out → Replayed fetch c (b.events ++ out)

def behind (key : α → ℕ) (log : List α) (c : ℕ) : List α := log.filter fun a => c < key a

def fetchBatch (key : α → ℕ) (view : α → Except ε (Option β)) (log : List α) (n k : ℕ) (c : ℕ) :
    Except ε (ReplayBatch β) := do
  let rows := (behind key log c).take n
  let events ← scan view k rows
  return ⟨events, (rows.getLast?.map key).getD c⟩

variable {key : α → ℕ} {view : α → Except ε (Option β)} {log : List α} {n k c : ℕ}
  {out : List β}

lemma fetchBatch_eq_ok {b : ReplayBatch β} (h : fetchBatch key view log n k c = .ok b) :
    scan view k ((behind key log c).take n) = .ok b.events ∧
      b.last = (((behind key log c).take n).getLast?.map key).getD c := by
  unfold fetchBatch at h
  dsimp only at h
  cases hscan : scan view k ((behind key log c).take n) with
  | error e =>
    rw [hscan] at h
    cases h
  | ok events =>
    rw [hscan] at h
    cases h
    exact ⟨rfl, rfl⟩

lemma fetchBatch_of_scan {events : List β}
    (h : scan view k ((behind key log c).take n) = .ok events) :
    fetchBatch key view log n k c =
      .ok ⟨events, (((behind key log c).take n).getLast?.map key).getD c⟩ := by
  unfold fetchBatch
  dsimp only
  rw [h]
  rfl

lemma behind_pairwise (hlog : log.Pairwise fun a b => key a < key b) :
    (behind key log c).Pairwise fun a b => key a < key b := hlog.filter _

lemma behind_last (hlog : log.Pairwise fun a b => key a < key b) :
    behind key log ((((behind key log c).take n).getLast?.map key).getD c) =
      (behind key log c).drop n := by
  rcases List.eq_nil_or_concat ((behind key log c).take n) with hnil | ⟨front, last, hlast⟩
  · rw [hnil]
    have hdrop : (behind key log c).drop n = behind key log c := by
      conv_rhs => rw [← List.take_append_drop n (behind key log c), hnil, List.nil_append]
    exact hdrop.symm
  · have hsplit := List.take_append_drop n (behind key log c)
    have hsorted := behind_pairwise (c := c) hlog
    rw [← hsplit] at hsorted
    obtain ⟨htake, -, hcross⟩ := List.pairwise_append.1 hsorted
    rw [hlast, List.concat_eq_append] at htake hcross
    have hmem : last ∈ behind key log c := by
      rw [← hsplit, hlast, List.concat_eq_append]
      simp
    have hc : c < key last := by
      have hp := (List.mem_filter.1 hmem).2
      exact of_decide_eq_true hp
    have hafter : behind key log (key last) =
        (behind key log c).filter fun a => key last < key a := by
      unfold behind
      rw [List.filter_filter]
      refine List.filter_congr ?_
      intro a _
      rw [← Bool.decide_and, decide_eq_decide]
      exact ⟨fun h => ⟨h, hc.trans h⟩, fun h => h.1⟩
    rw [hlast, List.concat_eq_append, List.getLast?_concat]
    show behind key log (key last) = _
    rw [hafter]
    conv_lhs => rw [← hsplit, hlast, List.concat_eq_append, List.filter_append]
    have hfront : (front ++ [last]).filter (fun a => key last < key a) = [] := by
      refine List.filter_eq_nil_iff.2 ?_
      intro a ha
      rw [decide_eq_true_iff, not_lt]
      rcases List.mem_append.1 ha with hold | hnew
      · exact ((List.pairwise_append.1 htake).2.2 a hold last (List.mem_singleton_self _)).le
      · rw [List.mem_singleton.1 hnew]
    have hrest : ((behind key log c).drop n).filter (fun a => key last < key a) =
        (behind key log c).drop n := by
      refine List.filter_eq_self.2 ?_
      intro a ha
      exact decide_eq_true (hcross last (by simp) a ha)
    rw [hfront, hrest, List.nil_append]

lemma last_eq_iff (hn : 0 < n) :
    (((behind key log c).take n).getLast?.map key).getD c = c ↔ behind key log c = [] := by
  constructor
  · intro h
    by_contra hne
    have htake : (behind key log c).take n ≠ [] := by
      intro hnil
      rcases List.take_eq_nil_iff.1 hnil with hzero | hnil
      · omega
      · exact hne hnil
    rw [List.getLast?_eq_some_getLast htake] at h
    have hmem := List.mem_of_mem_take (List.getLast_mem htake)
    have hp := of_decide_eq_true (List.mem_filter.1 hmem).2
    change key (((behind key log c).take n).getLast htake) = c at h
    omega
  · intro h
    rw [h, List.take_nil]
    rfl

def batchAt (key : α → ℕ) (log : List α) (n c j : ℕ) : List α :=
  ((behind key log c).drop (j * n)).take n

lemma batchAt_last (hlog : log.Pairwise fun a b => key a < key b) (j : ℕ) :
    batchAt key log n ((((behind key log c).take n).getLast?.map key).getD c) j =
      batchAt key log n c (j + 1) := by
  unfold batchAt
  rw [behind_last hlog, List.drop_drop, Nat.succ_mul, Nat.add_comm]

lemma Replayed.length_le (hlog : log.Pairwise fun a b => key a < key b)
    (h : Replayed (fetchBatch key view log n k) c out) :
    out.length ≤ (visible view (behind key log c)).length := by
  induction h with
  | last hfetch hlast =>
    obtain ⟨hscan, -⟩ := fetchBatch_eq_ok hfetch
    rw [scan_eq_take hscan, List.length_take]
    refine (min_le_right _ _).trans ?_
    exact ((List.take_sublist _ _).filterMap _).length_le
  | @more c b out hfetch hlast hrest ih =>
    obtain ⟨hscan, hb⟩ := fetchBatch_eq_ok hfetch
    rw [hb, behind_last hlog] at ih
    have hall : visible view (behind key log c) =
        visible view ((behind key log c).take n) ++ visible view ((behind key log c).drop n) := by
      rw [← visible_append, List.take_append_drop]
    rw [hall, List.length_append, List.length_append, scan_eq_take hscan, List.length_take]
    have := min_le_right k (visible view ((behind key log c).take n)).length
    omega

lemma fits_nil : Fits view k [] where
  few := Nat.zero_le k
  readable := by
    intro pre a post h
    cases pre <;> cases h

section
variable (hlog : log.Pairwise fun a b => key a < key b) (hn : 0 < n)
include hlog hn

lemma Replayed.fits (h : Replayed (fetchBatch key view log n k) c out)
    (hout : out = visible view (behind key log c)) (j : ℕ) :
    Fits view k (batchAt key log n c j) := by
  induction h generalizing j with
  | @last c b hfetch hlast =>
    obtain ⟨-, hb⟩ := fetchBatch_eq_ok hfetch
    have hnil : behind key log c = [] := (last_eq_iff hn).1 (hb.symm.trans hlast)
    unfold batchAt
    rw [hnil, List.drop_nil, List.take_nil]
    exact fits_nil
  | @more c b out hfetch hlast hrest ih =>
    obtain ⟨hscan, hb⟩ := fetchBatch_eq_ok hfetch
    have hlength := hrest.length_le hlog
    rw [hb, behind_last hlog] at hlength ih
    have hall : visible view (behind key log c) =
        visible view ((behind key log c).take n) ++ visible view ((behind key log c).drop n) := by
      rw [← visible_append, List.take_append_drop]
    have htake := scan_eq_take hscan
    rw [hall] at hout
    -- what this batch leaves out the later ones cannot make up for
    have hevents : b.events = visible view ((behind key log c).take n) := by
      have htotal := congrArg List.length hout
      rw [List.length_append, List.length_append] at htotal
      rw [htake]
      refine List.take_of_length_le ?_
      rw [htake, List.length_take] at htotal
      omega
    rw [hevents] at hout hscan
    cases j with
    | zero =>
      unfold batchAt
      rw [Nat.zero_mul, List.drop_zero]
      exact scan_visible_iff.1 hscan
    | succ j =>
      have hfits := ih (List.append_cancel_left hout) j
      rwa [batchAt_last hlog] at hfits

lemma replayed_of_fits (h : ∀ j, Fits view k (batchAt key log n c j)) :
    Replayed (fetchBatch key view log n k) c (visible view (behind key log c)) := by
  induction hm : (behind key log c).length using Nat.strong_induction_on generalizing c with
  | _ m ih =>
    have hzero := h 0
    unfold batchAt at hzero
    rw [Nat.zero_mul, List.drop_zero] at hzero
    have hfetch := fetchBatch_of_scan hzero.scan_eq
    by_cases hnil : behind key log c = []
    · have hlast : (((behind key log c).take n).getLast?.map key).getD c = c :=
        (last_eq_iff hn).2 hnil
      have hdone := Replayed.last hfetch hlast
      rw [hnil, List.take_nil] at hdone
      rwa [hnil]
    · have hlast : (((behind key log c).take n).getLast?.map key).getD c ≠ c :=
        fun heq => hnil ((last_eq_iff hn).1 heq)
      have hrest := ih _ ?_ (fun j => by
        rw [batchAt_last hlog]
        exact h (j + 1)) rfl
      · rw [behind_last hlog] at hrest
        have hdone := Replayed.more hfetch hlast hrest
        rwa [← visible_append, List.take_append_drop] at hdone
      · rw [behind_last hlog, List.length_drop]
        have := List.length_pos_iff.2 hnil
        omega

theorem replayed_visible_iff :
    Replayed (fetchBatch key view log n k) c (visible view (behind key log c)) ↔
      ∀ j, Fits view k (batchAt key log n c j) :=
  ⟨fun h j => h.fits hlog hn rfl j, replayed_of_fits hlog hn⟩

end

lemma fits_all_iff (hk : 0 < k) :
    (∀ j, Fits view k (batchAt key log k c j)) ↔ ∀ a ∈ behind key log c, ¬Raises view a := by
  constructor
  · intro h a ha hraises
    obtain ⟨i, hi, rfl⟩ := List.mem_iff_getElem.1 ha
    -- the entry is the `i % k`-th of its batch
    have hmod : i % k < k := Nat.mod_lt i hk
    have hlast : i / k * k + i % k = i := Nat.div_add_mod' i k
    have hlength : i % k < (batchAt key log k c (i / k)).length := by
      unfold batchAt
      rw [List.length_take, List.length_drop]
      omega
    have hget : (batchAt key log k c (i / k))[i % k] = (behind key log c)[i] := by
      simp only [batchAt, List.getElem_take, List.getElem_drop, hlast]
    have hsplit : batchAt key log k c (i / k) = (batchAt key log k c (i / k)).take (i % k) ++
        (behind key log c)[i] :: (batchAt key log k c (i / k)).drop (i % k + 1) := by
      rw [← hget, ← List.drop_eq_getElem_cons, List.take_append_drop]
    have hread := (h (i / k)).readable _ _ _ hsplit hraises
    have hfew : (visible view ((batchAt key log k c (i / k)).take (i % k))).length ≤ i % k := by
      refine (List.length_filterMap_le ..).trans ?_
      rw [List.length_take]
      exact min_le_left _ _
    omega
  · intro h j
    constructor
    · refine (List.length_filterMap_le ..).trans ?_
      unfold batchAt
      rw [List.length_take]
      exact min_le_left _ _
    · intro pre a post heq ha
      have hmem : a ∈ batchAt key log k c j := by
        rw [heq]
        simp
      exact absurd ha (h a (List.mem_of_mem_drop (List.mem_of_mem_take hmem)))

lemma visible_pairwise {rank : β → ℕ} (hrank : ∀ a b, view a = .ok (some b) → rank b = key a)
    {l : List α} (hl : l.Pairwise fun a b => key a < key b) :
    (visible view l).Pairwise fun a b => rank a < rank b := by
  have hseen : ∀ a b, seen view a = some b → rank b = key a := by
    intro a b h
    unfold seen at h
    cases hview : view a with
    | error e =>
      rw [hview] at h
      cases h
    | ok o =>
      rw [hview] at h
      exact hrank a b (hview.trans (congrArg Except.ok h))
  refine List.Pairwise.filterMap _ ?_ hl
  intro a b hab x hx y hy
  rw [hseen a x hx, hseen b y hy]
  exact hab

lemma mem_visible {l : List α} {b : β} : b ∈ visible view l ↔ ∃ a ∈ l, view a = .ok (some b) := by
  unfold visible
  rw [List.mem_filterMap]
  refine exists_congr fun a => and_congr_right fun _ => ?_
  unfold seen
  cases view a with
  | error e => exact ⟨fun h => (by cases h), fun h => (by cases h)⟩
  | ok o => exact ⟨fun h => congrArg Except.ok h, fun h => Except.ok.inj h⟩

end Reader
end Lib
