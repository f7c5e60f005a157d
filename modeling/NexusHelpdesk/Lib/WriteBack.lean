import Mathlib

/-!
# Rows read, worked on and written back

A worker reads a row, works on its copy while other transactions commit, and writes the copy back by
primary key.

* `changed read new stored`: what is in a column afterwards.  A flush sends only the columns whose
  value in memory differs from the one that was read;
* `InHand κ α`: what each worker `κ` has in hand; `InHand.take`, `InHand.release`.
-/

namespace Lib

def changed {α : Type} [DecidableEq α] (read new stored : α) : α :=
  if new = read then stored else new

section Changed
variable {α : Type} [DecidableEq α] {read new stored : α}

lemma changed_of_eq (h : new = read) : changed read new stored = stored := if_pos h

lemma changed_of_ne (h : new ≠ read) : changed read new stored = new := if_neg h

end Changed

abbrev InHand (κ α : Type) : Type := κ → Option α

namespace InHand
variable {κ α : Type} [DecidableEq κ] (held : InHand κ α)

def empty : InHand κ α := fun _ => none

def take (w : κ) (a : α) : InHand κ α := Function.update held w (some a)

def release (w : κ) : InHand κ α := Function.update held w none

@[simp] lemma take_self (w : κ) (a : α) : held.take w a w = some a := Function.update_self ..

@[simp] lemma release_self (w : κ) : held.release w w = none := Function.update_self ..

lemma take_of_ne {v w : κ} (h : v ≠ w) (a : α) : held.take w a v = held v :=
  Function.update_of_ne h ..

lemma release_of_ne {v w : κ} (h : v ≠ w) : held.release w v = held v :=
  Function.update_of_ne h ..

variable {held}

lemma of_take {w v : κ} {a b : α} (h : held.take w a v = some b) :
    (v = w ∧ b = a) ∨ (v ≠ w ∧ held v = some b) := by
  by_cases hv : v = w
  · subst hv
    rw [take_self] at h
    cases h
    exact Or.inl ⟨rfl, rfl⟩
  · rw [take_of_ne _ hv] at h
    exact Or.inr ⟨hv, h⟩

lemma of_release {w v : κ} {b : α} (h : held.release w v = some b) :
    v ≠ w ∧ held v = some b := by
  by_cases hv : v = w
  · subst hv
    rw [release_self] at h
    cases h
  · rw [release_of_ne _ hv] at h
    exact ⟨hv, h⟩

end InHand

end Lib
