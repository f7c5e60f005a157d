import NexusHelpdesk.Lib.WriteBack

/-!
# Numbered tickets

A dispenser issues, for each key, the tickets 1, 2, 3, …; a holder has at most one ticket, which it
uses or loses.

* `Tickets.issue`, `Tickets.use`, `Tickets.lose`: the moves;
* `Tickets.Ok`: the used tickets are distinct and were issued, and nobody holds a used ticket or the
  ticket of another holder;
* `Tickets.Ok.count_used`: **no key has more used than issued tickets**.
-/

set_option linter.unusedSectionVars false
namespace Lib

@[ext] structure Tickets (κ ω : Type) where
  issued : κ → ℕ
  held : InHand ω (κ × ℕ)
  used : List (κ × ℕ)

namespace Tickets
variable {κ ω : Type} [DecidableEq κ] [DecidableEq ω]

/-- `w` draws the next ticket of `k`; a ticket it still had is lost. -/
def issue (w : ω) (k : κ) (t : Tickets κ ω) : Tickets κ ω :=
  { t with
    issued := Function.update t.issued k (t.issued k + 1)
    held := t.held.take w (k, t.issued k + 1) }

/-- `w` uses its ticket. -/
def use (w : ω) (t : Tickets κ ω) : Tickets κ ω :=
  match t.held w with
  | some x => { t with held := t.held.release w, used := x :: t.used }
  | none => t

def lose (w : ω) (t : Tickets κ ω) : Tickets κ ω := { t with held := t.held.release w }

structure Ok (t : Tickets κ ω) : Prop where
  nodup : t.used.Nodup
  used_issued : ∀ k n, (k, n) ∈ t.used → 1 ≤ n ∧ n ≤ t.issued k
  held_issued : ∀ w k n, t.held w = some (k, n) → 1 ≤ n ∧ n ≤ t.issued k
  held_unused : ∀ w x, t.held w = some x → x ∉ t.used
  held_apart : ∀ v w x, t.held v = some x → t.held w = some x → v = w

lemma Ok.empty : Ok (⟨fun _ => 0, .empty, []⟩ : Tickets κ ω) := by
  constructor
  · exact List.nodup_nil
  · intro k n h
    cases h
  · intro w k n h
    cases h
  · intro w x h
    cases h
  · intro v w x h
    cases h

variable {t : Tickets κ ω}

lemma le_issue (w : ω) (j k : κ) : t.issued j ≤ (t.issue w k).issued j := by
  show t.issued j ≤ Function.update t.issued k (t.issued k + 1) j
  by_cases h : j = k
  · subst h
    rw [Function.update_self]
    omega
  · rw [Function.update_of_ne h]

lemma Ok.issue (h : t.Ok) (w : ω) (k : κ) : (t.issue w k).Ok := by
  have hnew : ∀ n, n ≤ t.issued k → (k, n) ≠ (k, t.issued k + 1) := by
    intro n hn heq
    have := (Prod.mk.inj heq).2
    omega
  constructor
  · exact h.nodup
  · intro j n hmem
    have hle := h.used_issued j n hmem
    exact ⟨hle.1, hle.2.trans (le_issue w j k)⟩
  · intro v j n hv
    rcases InHand.of_take hv with ⟨-, heq⟩ | ⟨-, hold⟩
    · cases heq
      have hself : (t.issue w k).issued k = t.issued k + 1 := Function.update_self ..
      omega
    · have hle := h.held_issued v j n hold
      exact ⟨hle.1, hle.2.trans (le_issue w j k)⟩
  · intro v x hv
    rcases InHand.of_take hv with ⟨-, rfl⟩ | ⟨-, hold⟩
    · intro hmem
      have hle := (h.used_issued _ _ hmem).2
      omega
    · exact h.held_unused v x hold
  · intro v u x hv hu
    rcases InHand.of_take hv with ⟨rfl, rfl⟩ | ⟨-, hold⟩
    · rcases InHand.of_take hu with ⟨rfl, -⟩ | ⟨-, hold'⟩
      · rfl
      · have hle := (h.held_issued u _ _ hold').2
        omega
    · rcases InHand.of_take hu with ⟨rfl, rfl⟩ | ⟨-, hold'⟩
      · have hle := (h.held_issued v _ _ hold).2
        omega
      · exact h.held_apart v u x hold hold'

lemma Ok.lose (h : t.Ok) (w : ω) : (t.lose w).Ok := by
  constructor
  · exact h.nodup
  · exact h.used_issued
  · intro v k n hv
    exact h.held_issued v k n (InHand.of_release hv).2
  · intro v x hv
    exact h.held_unused v x (InHand.of_release hv).2
  · intro v u x hv hu
    exact h.held_apart v u x (InHand.of_release hv).2 (InHand.of_release hu).2

lemma Ok.use (h : t.Ok) (w : ω) : (t.use w).Ok := by
  unfold Tickets.use
  cases hw : t.held w with
  | none => exact h
  | some x =>
    have hrest := h.lose w
    constructor
    · exact List.nodup_cons.2 ⟨h.held_unused w x hw, h.nodup⟩
    · intro k n hmem
      rcases List.mem_cons.1 hmem with rfl | hmem
      · exact h.held_issued w k n hw
      · exact h.used_issued k n hmem
    · exact hrest.held_issued
    · intro v y hv hmem
      obtain ⟨hne, hold⟩ := InHand.of_release hv
      rcases List.mem_cons.1 hmem with rfl | hmem
      · exact hne (h.held_apart v w y hold hw)
      · exact h.held_unused v y hold hmem
    · exact hrest.held_apart

lemma Ok.count_used (h : t.Ok) (k : κ) :
    (t.used.filter fun x => x.1 = k).length ≤ t.issued k := by
  have hnodup : ((t.used.filter fun x => x.1 = k).map (·.2)).Nodup := by
    refine List.Nodup.map_on ?_ (h.nodup.filter _)
    rintro ⟨i, m⟩ hi ⟨j, n⟩ hj rfl
    have hik := (List.mem_filter.1 hi).2
    have hjk := (List.mem_filter.1 hj).2
    simp only [decide_eq_true_eq] at hik hjk
    rw [hik, hjk]
  have hsub : ((t.used.filter fun x => x.1 = k).map (·.2)) ⊆ List.range' 1 (t.issued k) := by
    intro n hn
    obtain ⟨⟨j, m⟩, hmem, rfl⟩ := List.mem_map.1 hn
    obtain ⟨hused, hj⟩ := List.mem_filter.1 hmem
    simp only [decide_eq_true_eq] at hj
    subst hj
    have hle := h.used_issued j m hused
    refine List.mem_range'_1.2 ⟨hle.1, ?_⟩
    show m < 1 + t.issued j
    omega
  have hle := (hnodup.subperm hsub).length_le
  rw [List.length_map, List.length_range'] at hle
  exact hle

end Tickets
end Lib
