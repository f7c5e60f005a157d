import NexusHelpdesk.Lib.Txn

/-!
# What a transaction can raise

* `Refuses P m X`: whatever `m` raises, started in `P`, is in `X`;
* `Returns P m Q`: started in `P`, `m` returns an `a` and leaves a state in `Q a`;
* `Returns.attempt_bind`: **a caller that catches goes on after what can be raised**, and needs to
  go on after nothing else.
-/

set_option linter.unusedSectionVars false
namespace Lib
namespace Txn

lemma Fixes.of_run {σ ε α γ : Type} {v : σ → γ} {m : Txn σ ε α} (h : Fixes v m) {s t : σ}
    {r : Except ε α} (hm : m s = (r, t)) : v t = v s := by
  have hs := h s
  rwa [hm] at hs

section Refuses
variable {σ ε α β : Type} {P P' : σ → Prop} {X : ε → Prop}

/-- what `m` raises, started in `P`, is in `X`. -/
def Refuses (P : σ → Prop) (m : Txn σ ε α) (X : ε → Prop) : Prop :=
  ∀ s e t, P s → m s = (.error e, t) → X e

lemma Refuses.pre {m : Txn σ ε α} (h : Refuses P m X) (hP : ∀ s, P' s → P s) :
    Refuses P' m X := fun s e t hs hm => h s e t (hP s hs) hm

lemma Refuses.pure {a : α} : Refuses P (pure a : Txn σ ε α) X := by
  intro s e t hs hm
  cases hm

lemma Refuses.read {f : σ → α} : Refuses P (read f : Txn σ ε α) X := by
  intro s e t hs hm
  cases hm

lemma Refuses.write {f : σ → σ} : Refuses P (write f : Txn σ ε Unit) X := by
  intro s e t hs hm
  cases hm

lemma Refuses.raise {e : ε} (h : X e) : Refuses P (raise e : Txn σ ε α) X := by
  intro s e' t hs hm
  cases hm
  exact h

lemma Refuses.check {f : σ → Except ε α} (h : ∀ s e, P s → f s = .error e → X e) :
    Refuses P (check f : Txn σ ε α) X := by
  intro s e t hs hm
  obtain ⟨hf, rfl⟩ := Prod.mk.inj hm
  exact h s e hs hf

lemma Refuses.refuseUnless {b : Bool} {e : ε} (h : X e) :
    Refuses P (refuseUnless b e : Txn σ ε Unit) X := by
  cases b with
  | true => exact Refuses.pure
  | false => exact Refuses.raise h

lemma Refuses.bind {m : Txn σ ε β} {f : β → Txn σ ε α} {R : β → σ → Prop}
    (hm : Refuses P m X) (hr : Ensures P m R) (hf : ∀ b, Refuses (R b) (f b) X) :
    Refuses P (m >>= f) X := by
  intro s e u hs h
  rw [run_bind] at h
  cases hr' : m s with
  | mk r t =>
    rw [hr'] at h
    cases r with
    | ok b => exact hf b t e u (hr s b t hs hr') h
    | error e' =>
      cases h
      exact hm s e _ hs hr'

end Refuses

section Returns
variable {σ ε α β : Type} {P P' : σ → Prop} {Q : α → σ → Prop}

/-- started in `P`, `m` returns an `a` and leaves a state in `Q a`. -/
def Returns (P : σ → Prop) (m : Txn σ ε α) (Q : α → σ → Prop) : Prop :=
  Yields P m Q fun _ => False

variable {m : Txn σ ε α} {f : β → Txn σ ε α} {X : ε → Prop} {g : σ → β}

lemma Returns.ok (h : Returns P m Q) {s : σ} (hs : P s) :
    ∃ a t, m s = (.ok a, t) ∧ Q a t := by
  have hm := h s hs
  cases hr : m s with
  | mk r t =>
    rw [hr] at hm
    cases r with
    | ok a => exact ⟨a, t, rfl, hm⟩
    | error e => exact hm.elim

lemma Returns.refuses (h : Returns P m Q) : Refuses P m X := by
  intro s e t hs hm
  have hthis := h s hs
  rw [hm] at hthis
  exact hthis.elim

lemma Returns.ensures (h : Returns P m Q) : Ensures P m Q :=
  fun s a t hs hm => Yields.of_ok h hs hm

lemma Returns.pre (h : Returns P m Q) (hP : ∀ s, P' s → P s) :
    Returns P' m Q := Yields.pre h hP

lemma Returns.assume {p : Prop} (h : p → Returns P m Q) :
    Returns (fun s => P s ∧ p) m Q := Yields.assume h

lemma Returns.pure {a : α} (h : ∀ s, P s → Q a s) : Returns P (pure a : Txn σ ε α) Q := h

lemma Returns.read_bind (h : ∀ b, Returns (fun s => P s ∧ g s = b) (f b) Q) :
    Returns P (Txn.read g >>= f) Q :=
  fun s hs => h (g s) s ⟨hs, rfl⟩

lemma Returns.skip_read (h : ∀ b, Returns P (f b) Q) :
    Returns P (Txn.read g >>= f) Q :=
  fun s hs => h (g s) s hs

lemma Returns.write {f : σ → σ} {Q : Unit → σ → Prop} (h : ∀ s, P s → Q () (f s)) :
    Returns P (write f : Txn σ ε Unit) Q := h

lemma Returns.bind {m : Txn σ ε β} {R : β → σ → Prop}
    (hm : Returns P m R) (hf : ∀ b, Returns (R b) (f b) Q) : Returns P (m >>= f) Q :=
  Yields.bind hm hf

lemma Returns.when {b : Bool} {m : Txn σ ε Unit} (h : Returns P m fun _ => P) :
    Returns P (when b m) fun _ => P := by
  cases b with
  | true => exact h
  | false => exact Returns.pure fun s hs => hs

lemma Returns.ite {c : Prop} [Decidable c] {m' : Txn σ ε α} (h : c → Returns P m Q)
    (h' : ¬c → Returns P m' Q) : Returns P (if c then m else m') Q := Yields.ite h h'

lemma Returns.each {f : α → Txn σ ε Unit} (h : ∀ x, Returns P (f x) fun _ => P) (xs : List α) :
    Returns P (each xs f) fun _ => P := Yields.each h xs

/-- what `m` raises is caught, and is in `X`. -/
lemma Returns.attempt_bind {m : Txn σ ε β} {f : Except ε β → Txn σ ε α} {R : σ → Prop}
    (hx : Refuses P m X) (hm : Yields P m (fun _ => R) R) (hok : ∀ b, Returns R (f (.ok b)) Q)
    (herr : ∀ e, X e → Returns R (f (.error e)) Q) :
    Returns P (attempt m >>= f) Q := by
  intro s hs
  have h := hm s hs
  have hx' := hx s
  rw [run_bind, run_attempt]
  cases hr : m s with
  | mk r t =>
    rw [hr] at h
    cases r with
    | ok b => exact hok b t h
    | error e => exact herr e (hx' e t hs hr) t h

end Returns

end Txn
end Lib
