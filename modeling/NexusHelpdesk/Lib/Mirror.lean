import NexusHelpdesk.Lib.Txn

/-!
# Pairs of transactions

One body started in two states.  `Mirrors R m R'`: whenever `m` returns from the first state, it
returns the same from the second, and `R'` relates the states it leaves.

Nothing is said where the first run raises: the second may go on.
-/

namespace Lib
namespace Txn

section Mirrors
variable {σ ε α β : Type} {R R' S : σ → σ → Prop}

/-- what `m` returns from a state, it returns from the related one. -/
def Mirrors (R : σ → σ → Prop) (m : Txn σ ε α) (R' : σ → σ → Prop) : Prop :=
  ∀ s s' a t, R s s' → m s = (.ok a, t) → ∃ t', m s' = (.ok a, t') ∧ R' t t'

lemma Mirrors.pure {a : α} : Mirrors R (pure a : Txn σ ε α) R := by
  intro s s' b t hs hm
  cases hm
  exact ⟨s', rfl, hs⟩

lemma Mirrors.raise {e : ε} : Mirrors R (raise e : Txn σ ε α) R' := by
  intro s s' b t hs hm
  cases hm

lemma Mirrors.write {f : σ → σ} (h : ∀ s s', R s s' → R' (f s) (f s')) :
    Mirrors R (write f : Txn σ ε Unit) R' := by
  intro s s' b t hs hm
  cases hm
  exact ⟨f s', rfl, h s s' hs⟩

lemma Mirrors.bind {m : Txn σ ε β} {f : β → Txn σ ε α} (hm : Mirrors R m S)
    (hf : ∀ b, Mirrors S (f b) R') : Mirrors R (m >>= f) R' := by
  intro s s' a u hs h
  obtain ⟨b, t, hb, ha⟩ := (bind_eq_ok s).1 h
  obtain ⟨t', hb', ht⟩ := hm s s' b t hs hb
  obtain ⟨u', ha', hu⟩ := hf b t t' a u ht ha
  exact ⟨u', (bind_eq_ok s').2 ⟨b, t', hb', ha'⟩, hu⟩

lemma Mirrors.when {b : Bool} {m : Txn σ ε Unit} (h : Mirrors R m R) :
    Mirrors R (when b m) R := by
  cases b with
  | true => exact h
  | false => exact Mirrors.pure

lemma Mirrors.ite {c : Prop} [Decidable c] {m m' : Txn σ ε α} (h : Mirrors R m R')
    (h' : Mirrors R m' R') : Mirrors R (if c then m else m') R' := by
  by_cases hc : c
  · rw [if_pos hc]
    exact h
  · rw [if_neg hc]
    exact h'

lemma Mirrors.each {f : α → Txn σ ε Unit} (h : ∀ x, Mirrors R (f x) R) (xs : List α) :
    Mirrors R (each xs f) R := by
  induction xs with
  | nil => exact Mirrors.pure
  | cons x xs ih => exact Mirrors.bind (h x) fun _ => ih

end Mirrors

end Txn
end Lib
