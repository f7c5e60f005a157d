import Mathlib

/-!
# Runs of a step function

A system is a step function `step : ι → σ → σ`; a run is a list of steps, the head first.

* `run step s l`: the state after the run `l` started at `s`;
* `Along step G s l`: the condition `G` on the state before each step holds at every step;
* `Along.invariant`: **what every step under the condition preserves, a whole run preserves**;
* `Along.relation`: the same for a reflexive and transitive relation between the states.
-/

namespace Lib

section Run
variable {σ ι : Type} (step : ι → σ → σ)

/-- the state after the run `l` started at `s`. -/
def run : σ → List ι → σ
  | s, [] => s
  | s, i :: l => run (step i s) l

/-- `G` holds of the state before each step and of the step. -/
def Along (G : σ → ι → Prop) : σ → List ι → Prop
  | _, [] => True
  | s, i :: l => G s i ∧ Along G (step i s) l

instance (G : σ → ι → Prop) [∀ s i, Decidable (G s i)] : ∀ s l, Decidable (Along step G s l)
  | _, [] => inferInstanceAs (Decidable True)
  | s, i :: l =>
    have := instDecidableAlong G (step i s) l
    inferInstanceAs (Decidable (G s i ∧ Along step G (step i s) l))

variable {step} {G : σ → ι → Prop} {s : σ} {l l' : List ι}

lemma run_append (s : σ) (l l' : List ι) :
    run step s (l ++ l') = run step (run step s l) l' := by
  induction l generalizing s with
  | nil => rfl
  | cons i l ih => exact ih (step i s)

lemma along_append (s : σ) (l l' : List ι) :
    Along step G s (l ++ l') ↔ Along step G s l ∧ Along step G (run step s l) l' := by
  induction l generalizing s with
  | nil =>
    show Along step G s l' ↔ True ∧ Along step G s l'
    rw [true_and]
  | cons i l ih =>
    show G s i ∧ Along step G (step i s) (l ++ l') ↔
      (G s i ∧ Along step G (step i s) l) ∧ Along step G (run step (step i s) l) l'
    rw [ih, and_assoc]

lemma along_cons {i : ι} :
    Along step G s (i :: l) ↔ G s i ∧ Along step G (step i s) l := Iff.rfl

lemma along_true (s : σ) (l : List ι) : Along step (fun _ _ => True) s l := by
  induction l generalizing s with
  | nil => trivial
  | cons i l ih => exact ⟨trivial, ih (step i s)⟩

lemma along_of_forall {P : ι → Prop} (h : ∀ i ∈ l, P i) (s : σ) :
    Along step (fun _ i => P i) s l := by
  induction l generalizing s with
  | nil => trivial
  | cons i l ih =>
    exact ⟨h i (List.mem_cons_self ..), ih (fun j hj => h j (List.mem_cons_of_mem _ hj)) _⟩

variable {H : σ → ι → Prop} {I : σ → Prop}

lemma along_congr (h : ∀ s i, G s i ↔ H s i) (s : σ) (l : List ι) :
    Along step G s l ↔ Along step H s l := by
  induction l generalizing s with
  | nil => exact Iff.rfl
  | cons i l ih => exact and_congr (h s i) (ih (step i s))

lemma along_and (s : σ) (l : List ι) :
    Along step (fun s i => G s i ∧ H s i) s l ↔ Along step G s l ∧ Along step H s l := by
  induction l generalizing s with
  | nil => exact (and_self_iff (a := True)).symm
  | cons i l ih =>
    show (G s i ∧ H s i) ∧ _ ↔ (G s i ∧ Along step G (step i s) l) ∧
      (H s i ∧ Along step H (step i s) l)
    rw [ih, and_and_and_comm]

lemma Along.invariant (hstep : ∀ s i, I s → G s i → I (step i s))
    (hs : I s) (h : Along step G s l) : I (run step s l) := by
  induction l generalizing s with
  | nil => exact hs
  | cons i l ih => exact ih (hstep s i hs h.1) h.2

lemma Along.imp (hstep : ∀ s i, I s → G s i → I (step i s))
    (h : ∀ s i, I s → G s i → H s i) (hs : I s) (hl : Along step G s l) : Along step H s l := by
  induction l generalizing s with
  | nil => trivial
  | cons i l ih => exact ⟨h s i hs hl.1, ih (hstep s i hs hl.1) hl.2⟩

/-- two conditions that agree in the states of an invariant, in a run along which `A` holds. -/
lemma Along.congr {A : σ → ι → Prop} (h : ∀ s i, I s → A s i → (G s i ↔ H s i))
    (hstep : ∀ s i, I s → A s i → H s i → I (step i s))
    (hs : I s) (hl : Along step A s l) : Along step G s l ↔ Along step H s l := by
  induction l generalizing s with
  | nil => exact Iff.rfl
  | cons i l ih =>
    have hone := h s i hs hl.1
    constructor
    · intro hG
      have hH := hone.1 hG.1
      exact ⟨hH, (ih (hstep s i hs hl.1 hH) hl.2).1 hG.2⟩
    · intro hH
      exact ⟨hone.2 hH.1, (ih (hstep s i hs hl.1 hH.1) hl.2).2 hH.2⟩

lemma Along.relation {R : σ → σ → Prop} (hrefl : ∀ s, R s s)
    (htrans : ∀ s t u, R s t → R t u → R s u)
    (hstep : ∀ s i, I s → G s i → I (step i s)) (hrel : ∀ s i, I s → G s i → R s (step i s))
    (hs : I s) (h : Along step G s l) : R s (run step s l) := by
  induction l generalizing s with
  | nil => exact hrefl s
  | cons i l ih =>
    have hone : R s (step i s) := hrel s i hs h.1
    have hrest : R (step i s) (run step (step i s) l) := ih (hstep s i hs h.1) h.2
    exact htrans _ _ _ hone hrest

lemma forall_prefix_iff {P : σ → Prop} (s : σ) (l : List ι) :
    (∀ p, p <+: l → P (run step s p)) ↔ P s ∧ Along step (fun s i => P (step i s)) s l := by
  induction l generalizing s with
  | nil =>
    constructor
    · intro h
      exact ⟨h [] List.nil_prefix, trivial⟩
    · rintro ⟨hs, -⟩ p hp
      rw [List.prefix_nil.1 hp]
      exact hs
  | cons i l ih =>
    constructor
    · intro h
      have htail : ∀ p, p <+: l → P (run step (step i s) p) := by
        intro p hp
        exact h (i :: p) (List.cons_prefix_cons.2 ⟨rfl, hp⟩)
      exact ⟨h [] List.nil_prefix, (ih _).1 htail⟩
    · rintro ⟨hs, hi, hrest⟩ p hp
      cases p with
      | nil => exact hs
      | cons j p =>
        obtain ⟨rfl, htail⟩ := List.cons_prefix_cons.1 hp
        exact (ih _).2 ⟨hi, hrest⟩ p htail

end Run

end Lib
