import Mathlib.Data.Option.Basic
import Mathlib.Data.Bool.Basic

/-!
# Three-valued truth of query conditions

A condition on a column without a value is unknown (`none`).  A query keeps a row if its condition
is true; an unknown one drops the row as a false one does.

* `Truth.and`, `Truth.or`, `Truth.not`: the connectives; `Truth.test`: a test of a column;
* `Truth.selected_and`, `Truth.selected_or`: **keeping a row distributes over both connectives**,
  not over negation;
* `Truth.not_known`: negation where nothing is unknown.
-/

namespace Lib

abbrev Truth := Option Bool

namespace Truth

/-- a condition that is never unknown, such as `IS NULL` or `IS TRUE`. -/
def known (b : Bool) : Truth := some b

def and : Truth → Truth → Truth
  | some false, _ | _, some false => some false
  | some true, some true => some true
  | _, _ => none

def or : Truth → Truth → Truth
  | some true, _ | _, some true => some true
  | some false, some false => some false
  | _, _ => none

def not (p : Truth) : Truth := p.map (!·)

def test {α : Type} (f : α → Bool) (column : Option α) : Truth := column.map f

/-- the query keeps the row. -/
def selected (p : Truth) : Bool := p = some true

@[simp] lemma selected_known (b : Bool) : (known b).selected = b := by cases b <;> rfl

@[simp] lemma selected_and (p q : Truth) : (p.and q).selected = (p.selected && q.selected) := by
  cases p with
  | none => cases q with
    | none => rfl
    | some b => cases b <;> rfl
  | some a => cases q with
    | none => cases a <;> rfl
    | some b => cases a <;> cases b <;> rfl

@[simp] lemma selected_or (p q : Truth) : (p.or q).selected = (p.selected || q.selected) := by
  cases p with
  | none => cases q with
    | none => rfl
    | some b => cases b <;> rfl
  | some a => cases q with
    | none => cases a <;> rfl
    | some b => cases a <;> cases b <;> rfl

@[simp] lemma selected_test {α : Type} (f : α → Bool) (column : Option α) :
    (test f column).selected = column.any f := by
  cases column with
  | none => rfl
  | some a => exact selected_known (f a)

@[simp] lemma not_known (b : Bool) : (known b).not = known (!b) := rfl

@[simp] lemma and_known (a b : Bool) : (known a).and (known b) = known (a && b) := by
  cases a <;> cases b <;> rfl

@[simp] lemma or_known (a b : Bool) : (known a).or (known b) = known (a || b) := by
  cases a <;> cases b <;> rfl

end Truth

end Lib
