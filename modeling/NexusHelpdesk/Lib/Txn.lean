import Mathlib

/-!
# Transaction bodies

`Txn σ ε α` is the body of a transaction on a state `σ`: it reads and writes the state, and returns
an `α` or raises an `ε`.  What was written before an exception stays in the session until the
transaction ends: a caller that catches the exception goes on from there (`attempt`), and only the
end of the transaction (`commit`) throws it away.

* `Ensures P m Q`: started in `P`, whenever `m` returns `a`, it leaves a state in `Q a`;
* `Keeps I m`: `m` leaves `I` as it found it, whether it returns or raises;
* `Fixes v m`: `m` does not change what `v` sees of the state;
* `Yields P m Q E`: started in `P`, `m` returns an `a` in `Q a` or raises in `E`.

Each combinator has one rule for each of them.  **The loop rules** `Ensures.each` and
`Keeps.each` turn what one turn of a loop preserves into what the loop preserves.
-/

set_option linter.unusedSectionVars false
namespace Lib

def Txn (σ ε α : Type) : Type := σ → Except ε α × σ

namespace Txn

section Ops
variable {σ ε α β : Type}

instance : Monad (Txn σ ε) where
  pure a := fun s => (.ok a, s)
  bind m f := fun s =>
    match m s with
    | (.ok a, t) => f a t
    | (.error e, t) => (.error e, t)

def raise (e : ε) : Txn σ ε α := fun s => (.error e, s)

def read (f : σ → α) : Txn σ ε α := fun s => (.ok (f s), s)

def write (f : σ → σ) : Txn σ ε Unit := fun s => (.ok (), f s)

/-- read a value off the state, or raise. -/
def check (f : σ → Except ε α) : Txn σ ε α := fun s => (f s, s)

def refuseUnless (b : Bool) (e : ε) : Txn σ ε Unit := if b then pure () else raise e

def when (b : Bool) (m : Txn σ ε Unit) : Txn σ ε Unit := if b then m else pure ()

/-- run `m` and hand its exception to the caller. -/
def attempt (m : Txn σ ε α) : Txn σ ε (Except ε α) := fun s => (.ok (m s).1, (m s).2)

/-- `for x in xs: f(x)`. -/
def each : List α → (α → Txn σ ε Unit) → Txn σ ε Unit
  | [], _ => pure ()
  | x :: xs, f => do
    f x
    each xs f

/-- the elements for which `p` answers `True`, asked in order. -/
def filter : List α → (α → Txn σ ε Bool) → Txn σ ε (List α)
  | [], _ => pure []
  | x :: xs, p => do
    let b ← p x
    let ys ← filter xs p
    pure (if b then x :: ys else ys)

/-- the state the transaction leaves: an exception rolls everything back. -/
def commit (m : Txn σ ε α) (s : σ) : σ :=
  match m s with
  | (.ok _, t) => t
  | (.error _, _) => s

end Ops

section Run
variable {σ ε α β : Type} (s : σ)

@[simp] lemma run_pure (a : α) : (pure a : Txn σ ε α) s = (.ok a, s) := rfl
@[simp] lemma run_read (f : σ → α) : (read f : Txn σ ε α) s = (.ok (f s), s) := rfl
@[simp] lemma run_write (f : σ → σ) : (write f : Txn σ ε Unit) s = (.ok (), f s) := rfl
@[simp] lemma run_raise (e : ε) : (raise e : Txn σ ε α) s = (.error e, s) := rfl
@[simp] lemma run_check (f : σ → Except ε α) : (check f : Txn σ ε α) s = (f s, s) := rfl

@[simp] lemma run_attempt (m : Txn σ ε α) : attempt m s = (.ok (m s).1, (m s).2) := rfl

lemma run_bind (m : Txn σ ε α) (f : α → Txn σ ε β) :
    (m >>= f) s = match m s with
      | (.ok a, t) => f a t
      | (.error e, t) => (.error e, t) := rfl

variable {m : Txn σ ε α} {f : α → Txn σ ε β}

lemma run_bind_ok {a : α} {t : σ} (h : m s = (.ok a, t)) :
    (m >>= f) s = f a t := by
  rw [run_bind, h]

lemma run_bind_error {e : ε} {t : σ} (h : m s = (.error e, t)) : (m >>= f) s = (.error e, t) := by
  rw [run_bind, h]

lemma bind_eq_ok {b : β} {u : σ} :
    (m >>= f) s = (.ok b, u) ↔ ∃ a t, m s = (.ok a, t) ∧ f a t = (.ok b, u) := by
  rw [run_bind]
  cases hm : m s with
  | mk r t =>
    cases r with
    | ok a => simp
    | error e => simp

lemma commit_cases (m : Txn σ ε α) :
    (∃ a, m s = (.ok a, commit m s)) ∨ commit m s = s := by
  unfold commit
  cases hm : m s with
  | mk r t =>
    cases r with
    | ok a => exact .inl ⟨a, rfl⟩
    | error e => exact .inr rfl

end Run

section Ensures
variable {σ ε α β : Type} {P P' : σ → Prop} {Q Q' : α → σ → Prop}

/-- whenever `m`, started in `P`, returns `a`, it leaves a state in `Q a`. -/
def Ensures (P : σ → Prop) (m : Txn σ ε α) (Q : α → σ → Prop) : Prop :=
  ∀ s a t, P s → m s = (.ok a, t) → Q a t

variable {m : Txn σ ε α} {e : ε} {b : Bool} {f : β → Txn σ ε α}

lemma Ensures.conseq (h : Ensures P m Q) (hP : ∀ s, P' s → P s)
    (hQ : ∀ a s, Q a s → Q' a s) : Ensures P' m Q' := by
  intro s a t hs hm
  exact hQ a t (h s a t (hP s hs) hm)

lemma Ensures.pre (h : Ensures P m Q) (hP : ∀ s, P' s → P s) :
    Ensures P' m Q := h.conseq hP fun _ _ hq => hq

lemma Ensures.post (h : Ensures P m Q) (hQ : ∀ a s, Q a s → Q' a s) :
    Ensures P m Q' := h.conseq (fun _ hp => hp) hQ

lemma Ensures.pure {a : α} (h : ∀ s, P s → Q a s) : Ensures P (pure a : Txn σ ε α) Q := by
  intro s b t hs hm
  cases hm
  exact h s hs

lemma Ensures.raise : Ensures P (raise e : Txn σ ε α) Q := by
  intro s b t hs hm
  cases hm

lemma Ensures.read {f : σ → α} (h : ∀ s, P s → Q (f s) s) :
    Ensures P (read f : Txn σ ε α) Q := by
  intro s b t hs hm
  cases hm
  exact h s hs

lemma Ensures.write {f : σ → σ} {Q : Unit → σ → Prop} (h : ∀ s, P s → Q () (f s)) :
    Ensures P (write f : Txn σ ε Unit) Q := by
  intro s b t hs hm
  cases hm
  exact h s hs

lemma Ensures.check {f : σ → Except ε α} (h : ∀ s a, P s → f s = .ok a → Q a s) :
    Ensures P (check f : Txn σ ε α) Q := by
  intro s b t hs hm
  obtain ⟨hf, rfl⟩ := Prod.mk.inj hm
  exact h s b hs hf

lemma Ensures.refuseUnless :
    Ensures P (refuseUnless b e : Txn σ ε Unit) fun _ s => P s ∧ b = true := by
  intro s u t hs hm
  unfold Txn.refuseUnless at hm
  cases b with
  | true =>
    cases hm
    exact ⟨hs, rfl⟩
  | false => cases hm

lemma Ensures.bind {m : Txn σ ε β} {R : β → σ → Prop}
    (hm : Ensures P m R) (hf : ∀ b, Ensures (R b) (f b) Q) : Ensures P (m >>= f) Q := by
  intro s a u hs h
  obtain ⟨b, t, hb, ha⟩ := (bind_eq_ok s).1 h
  exact hf b t a u (hm s b t hs hb) ha

lemma Ensures.read_bind {g : σ → β}
    (h : ∀ b, Ensures (fun s => P s ∧ g s = b) (f b) Q) : Ensures P (Txn.read g >>= f) Q :=
  Ensures.bind (Ensures.read fun s hs => ⟨hs, rfl⟩) h

lemma Ensures.check_bind {g : σ → Except ε β}
    (h : ∀ b, Ensures (fun s => P s ∧ g s = .ok b) (f b) Q) : Ensures P (Txn.check g >>= f) Q :=
  Ensures.bind (Ensures.check fun s b hs hb => ⟨hs, hb⟩) h

lemma Ensures.refuseUnless_bind {f : Unit → Txn σ ε α}
    (h : b = true → Ensures P (f ()) Q) : Ensures P (Txn.refuseUnless b e >>= f) Q := by
  refine Ensures.bind Ensures.refuseUnless fun u => ?_
  intro s a t hs hm
  exact h hs.2 s a t hs.1 hm

lemma Ensures.when {m : Txn σ ε Unit} {Q : Unit → σ → Prop}
    (h : b = true → Ensures P m Q) (h' : b = false → ∀ s, P s → Q () s) :
    Ensures P (when b m) Q := by
  cases b with
  | true => exact h rfl
  | false => exact Ensures.pure (h' rfl)

lemma Ensures.ite {c : Prop} [Decidable c] {m' : Txn σ ε α} (h : c → Ensures P m Q)
    (h' : ¬c → Ensures P m' Q) : Ensures P (if c then m else m') Q := by
  by_cases hc : c
  · rw [if_pos hc]
    exact h hc
  · rw [if_neg hc]
    exact h' hc

lemma Ensures.each {I : List α → σ → Prop} {f : α → Txn σ ε Unit}
    (h : ∀ x xs, Ensures (I (x :: xs)) (f x) fun _ => I xs) (xs : List α) :
    Ensures (I xs) (each xs f) fun _ => I [] := by
  induction xs with
  | nil => exact Ensures.pure fun s hs => hs
  | cons x xs ih => exact Ensures.bind (h x xs) fun _ => ih

end Ensures

section Keeps
variable {σ ε α β : Type} {I : σ → Prop} {e : ε} {b : Bool}

/-- `m` leaves `I` as it found it, whether it returns or raises. -/
def Keeps (I : σ → Prop) (m : Txn σ ε α) : Prop := ∀ s, I s → I (m s).2

lemma Keeps.pure {a : α} : Keeps I (pure a : Txn σ ε α) := fun _ h => h

lemma Keeps.raise : Keeps I (raise e : Txn σ ε α) := fun _ h => h

lemma Keeps.read {f : σ → α} : Keeps I (read f : Txn σ ε α) := fun _ h => h

lemma Keeps.check {f : σ → Except ε α} : Keeps I (check f : Txn σ ε α) := fun _ h => h

lemma Keeps.write {f : σ → σ} (h : ∀ s, I s → I (f s)) : Keeps I (write f : Txn σ ε Unit) := h

lemma Keeps.refuseUnless : Keeps I (refuseUnless b e : Txn σ ε Unit) := by
  cases b
  · exact Keeps.raise
  · exact Keeps.pure

variable {m : Txn σ ε α} {f : β → Txn σ ε α}

lemma Keeps.attempt (h : Keeps I m) : Keeps I (attempt m) := h

lemma Keeps.bind {m : Txn σ ε β} (hm : Keeps I m)
    (hf : ∀ b, Keeps I (f b)) : Keeps I (m >>= f) := by
  intro s hs
  have h := hm s hs
  rw [run_bind]
  cases hr : m s with
  | mk r t =>
    rw [hr] at h
    cases r with
    | ok b => exact hf b t h
    | error e => exact h

lemma Keeps.check_bind {g : σ → Except ε β}
    (h : ∀ b s, I s → g s = .ok b → I (f b s).2) : Keeps I (Txn.check g >>= f) := by
  intro s hs
  rw [run_bind, run_check]
  cases hg : g s with
  | ok b => exact h b s hs hg
  | error e => exact hs

lemma Keeps.bind_ensures {m : Txn σ ε β} {R : β → σ → Prop}
    (hm : Keeps I m) (hr : Ensures I m R) (hf : ∀ b t, I t → R b t → I (f b t).2) :
    Keeps I (m >>= f) := by
  intro s hs
  have h := hm s hs
  rw [run_bind]
  cases he : m s with
  | mk r t =>
    rw [he] at h
    cases r with
    | ok b => exact hf b t h (hr s b t hs he)
    | error e => exact h

lemma Keeps.when {m : Txn σ ε Unit} (h : Keeps I m) : Keeps I (when b m) := by
  cases b
  · exact Keeps.pure
  · exact h

lemma Keeps.ite {c : Prop} [Decidable c] {m' : Txn σ ε α} (h : Keeps I m) (h' : Keeps I m') :
    Keeps I (if c then m else m') := by
  by_cases hc : c
  · rw [if_pos hc]
    exact h
  · rw [if_neg hc]
    exact h'

lemma Keeps.each {f : α → Txn σ ε Unit} (h : ∀ x, Keeps I (f x)) (xs : List α) :
    Keeps I (each xs f) := by
  induction xs with
  | nil => exact Keeps.pure
  | cons x xs ih => exact Keeps.bind (h x) fun _ => ih

lemma Keeps.ensures (h : Keeps I m) : Ensures I m fun _ => I := by
  intro s a t hs hm
  have := h s hs
  rwa [hm] at this

lemma Ensures.commit {P : σ → Prop} (h : Ensures P m fun _ => I) {s : σ}
    (hP : P s) (hI : I s) : I (commit m s) := by
  rcases commit_cases s m with ⟨a, ha⟩ | he
  · exact h s a _ hP ha
  · rw [he]
    exact hI

end Keeps

section Fixes
variable {σ ε α β γ : Type} {v : σ → γ} {m : Txn σ ε α} {e : ε}

/-- `m` does not change what `v` sees. -/
def Fixes (v : σ → γ) (m : Txn σ ε α) : Prop := ∀ s, v (m s).2 = v s

lemma Fixes.keeps {I : γ → Prop} (h : Fixes v m) : Keeps (fun s => I (v s)) m := by
  intro s hs
  rw [h s]
  exact hs

lemma Fixes.of_keeps (h : ∀ c, Keeps (fun s => v s = c) m) : Fixes v m :=
  fun s => h (v s) s rfl

lemma Fixes.pure {a : α} : Fixes v (pure a : Txn σ ε α) := fun _ => rfl

lemma Fixes.raise : Fixes v (raise e : Txn σ ε α) := fun _ => rfl

lemma Fixes.read {f : σ → α} : Fixes v (read f : Txn σ ε α) := fun _ => rfl

lemma Fixes.check {f : σ → Except ε α} : Fixes v (check f : Txn σ ε α) := fun _ => rfl

lemma Fixes.write {f : σ → σ} (h : ∀ s, v (f s) = v s) : Fixes v (write f : Txn σ ε Unit) := h

lemma Fixes.refuseUnless {b : Bool} : Fixes v (refuseUnless b e : Txn σ ε Unit) := by
  cases b
  · exact Fixes.raise
  · exact Fixes.pure

lemma Fixes.bind {m : Txn σ ε β} {f : β → Txn σ ε α} (hm : Fixes v m) (hf : ∀ b, Fixes v (f b)) :
    Fixes v (m >>= f) := by
  refine Fixes.of_keeps fun c => Keeps.bind ?_ fun b => ?_
  · exact hm.keeps (I := fun x => x = c)
  · exact (hf b).keeps (I := fun x => x = c)

lemma Fixes.ite {c : Prop} [Decidable c] {m m' : Txn σ ε α} (h : Fixes v m) (h' : Fixes v m') :
    Fixes v (if c then m else m') := by
  by_cases hc : c
  · rw [if_pos hc]
    exact h
  · rw [if_neg hc]
    exact h'

lemma Fixes.each {f : α → Txn σ ε Unit} (h : ∀ x, Fixes v (f x)) (xs : List α) :
    Fixes v (each xs f) := by
  induction xs with
  | nil => exact Fixes.pure
  | cons x xs ih => exact Fixes.bind (h x) fun _ => ih

lemma Fixes.filter {p : α → Txn σ ε Bool} (h : ∀ x, Fixes v (p x)) (xs : List α) :
    Fixes v (filter xs p) := by
  induction xs with
  | nil => exact Fixes.pure
  | cons x xs ih => exact Fixes.bind (h x) fun _ => Fixes.bind ih fun _ => Fixes.pure

end Fixes

section Yields
variable {σ ε α β : Type} {P P' E E' : σ → Prop} {Q Q' : α → σ → Prop}

/-- started in `P`, `m` returns an `a` and leaves a state in `Q a`, or raises and leaves one in
`E`. -/
def Yields (P : σ → Prop) (m : Txn σ ε α) (Q : α → σ → Prop) (E : σ → Prop) : Prop :=
  ∀ s, P s → match m s with
    | (.ok a, t) => Q a t
    | (.error _, t) => E t

variable {m : Txn σ ε α} {a : α} {R : β → σ → Prop} {I : σ → Prop}

section
variable (h : Yields P m Q E)
include h

lemma Yields.conseq (hP : ∀ s, P' s → P s) (hQ : ∀ a s, Q a s → Q' a s) (hE : ∀ s, E s → E' s) :
    Yields P' m Q' E' := by
  intro s hs
  have hm := h s (hP s hs)
  cases hr : m s with
  | mk r t =>
    rw [hr] at hm
    cases r with
    | ok a => exact hQ a t hm
    | error e => exact hE t hm

lemma Yields.pre (hP : ∀ s, P' s → P s) :
    Yields P' m Q E := h.conseq hP (fun _ _ hq => hq) fun _ he => he

lemma Yields.post (hQ : ∀ a s, Q a s → Q' a s) :
    Yields P m Q' E := h.conseq (fun _ hp => hp) hQ fun _ he => he

lemma Yields.error (hE : ∀ s, E s → E' s) :
    Yields P m Q E' := h.conseq (fun _ hp => hp) (fun _ _ hq => hq) hE

lemma Yields.of_ok {s t : σ} (hs : P s) (hm : m s = (.ok a, t)) : Q a t := by
  have hthis := h s hs
  rw [hm] at hthis
  exact hthis

lemma Yields.and (h' : Yields P' m Q' E') :
    Yields (fun s => P s ∧ P' s) m (fun a s => Q a s ∧ Q' a s) fun s => E s ∧ E' s := by
  rintro s ⟨hs, hs'⟩
  have hm := h s hs
  have hm' := h' s hs'
  cases hr : m s with
  | mk r t =>
    rw [hr] at hm hm'
    cases r with
    | ok a => exact ⟨hm, hm'⟩
    | error e => exact ⟨hm, hm'⟩

end

lemma Yields.assume {p : Prop} (h : p → Yields P m Q E) :
    Yields (fun s => P s ∧ p) m Q E := by
  rintro s ⟨hs, hp⟩
  exact h hp s hs

lemma Yields.pure (h : ∀ s, P s → Q a s) : Yields P (pure a : Txn σ ε α) Q E := h

lemma Yields.raise {e : ε} (h : ∀ s, P s → E s) : Yields P (raise e : Txn σ ε α) Q E := h

lemma Yields.read {f : σ → α} (h : ∀ s, P s → Q (f s) s) : Yields P (read f : Txn σ ε α) Q E := h

lemma Yields.write {f : σ → σ} {Q : Unit → σ → Prop} (h : ∀ s, P s → Q () (f s)) :
    Yields P (write f : Txn σ ε Unit) Q E := h

lemma Yields.check {f : σ → Except ε α} (h : ∀ s a, P s → f s = .ok a → Q a s)
    (h' : ∀ s, P s → E s) : Yields P (check f : Txn σ ε α) Q E := by
  intro s hs
  rw [run_check]
  cases hf : f s with
  | ok a => exact h s a hs hf
  | error e => exact h' s hs

lemma Yields.bind {m : Txn σ ε β} {f : β → Txn σ ε α} (hm : Yields P m R E)
    (hf : ∀ b, Yields (R b) (f b) Q E) : Yields P (m >>= f) Q E := by
  intro s hs
  have h := hm s hs
  rw [run_bind]
  cases hr : m s with
  | mk r t =>
    rw [hr] at h
    cases r with
    | ok b => exact hf b t h
    | error e => exact h

lemma Yields.attempt_bind {m : Txn σ ε β} {f : Except ε β → Txn σ ε α} {X : σ → Prop}
    (hm : Yields P m R X) (hok : ∀ b, Yields (R b) (f (.ok b)) Q E)
    (herr : ∀ e, Yields X (f (.error e)) Q E) : Yields P (attempt m >>= f) Q E := by
  intro s hs
  have h := hm s hs
  rw [run_bind, run_attempt]
  cases hr : m s with
  | mk r t =>
    rw [hr] at h
    cases r with
    | ok b => exact hok b t h
    | error e => exact herr e t h

lemma Yields.when {b : Bool} {m : Txn σ ε Unit} {Q : Unit → σ → Prop}
    (h : b = true → Yields P m Q E) (h' : b = false → ∀ s, P s → Q () s) :
    Yields P (when b m) Q E := by
  cases b with
  | true => exact h rfl
  | false => exact Yields.pure (h' rfl)

lemma Yields.ite {c : Prop} [Decidable c] {m' : Txn σ ε α} (h : c → Yields P m Q E)
    (h' : ¬c → Yields P m' Q E) : Yields P (if c then m else m') Q E := by
  by_cases hc : c
  · rw [if_pos hc]
    exact h hc
  · rw [if_neg hc]
    exact h' hc

lemma Yields.each {f : α → Txn σ ε Unit} (h : ∀ x, Yields P (f x) (fun _ => P) E)
    (xs : List α) : Yields P (each xs f) (fun _ => P) E := by
  induction xs with
  | nil => exact Yields.pure fun s hs => hs
  | cons x xs ih => exact Yields.bind (h x) fun _ => ih

lemma Keeps.yields (h : Keeps I m) : Yields I m (fun _ => I) I := by
  intro s hs
  have hm := h s hs
  cases hr : m s with
  | mk r t =>
    rw [hr] at hm
    cases r with
    | ok a => exact hm
    | error e => exact hm

lemma Yields.snd (h : Yields P m (fun _ => I) I) {s : σ} (hs : P s) : I (m s).2 := by
  have hm := h s hs
  cases hr : m s with
  | mk r t =>
    rw [hr] at hm
    cases r with
    | ok a => exact hm
    | error e => exact hm

end Yields

end Txn
end Lib
