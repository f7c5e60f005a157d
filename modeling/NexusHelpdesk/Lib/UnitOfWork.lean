import Mathlib

/-!
# A unit of work over a transactional store

An object-relational session keeps three views of one database `D`:

* `committed`: what every other connection reads;
* `flushed`:   what a query of this connection reads, the statements sent in its own open
               transaction included;
* `pending`:   what the in-memory objects of the session say, the assignments that no statement
               has sent yet included.

Assignments to objects change `pending` only; `flush` sends them; `commit` flushes and publishes;
`rollback` forgets everything since the last commit.  With autoflush off a query reads `flushed`.

* `UnitOfWork.assign`, `UnitOfWork.execute`, `UnitOfWork.flush`, `UnitOfWork.commit`,
  `UnitOfWork.rollback`.
-/

namespace Lib

/-- the three views a session has of its database. -/
structure UnitOfWork (D : Type) where
  committed : D
  flushed : D
  pending : D

namespace UnitOfWork
variable {D : Type}

/-- a session that has just begun: nothing is in flight. -/
def start (d : D) : UnitOfWork D := ⟨d, d, d⟩

/-- an assignment to attributes of loaded objects. -/
def assign (u : UnitOfWork D) (f : D → D) : UnitOfWork D := { u with pending := f u.pending }

/-- a statement sent to the connection; the loaded objects it matches follow it. -/
def execute (u : UnitOfWork D) (f : D → D) : UnitOfWork D :=
  { u with flushed := f u.flushed, pending := f u.pending }

def flush (u : UnitOfWork D) : UnitOfWork D := { u with flushed := u.pending }

def commit (u : UnitOfWork D) : UnitOfWork D := start u.pending

/-- everything since the last commit is forgotten; the objects are read again. -/
def rollback (u : UnitOfWork D) : UnitOfWork D := start u.committed

variable (u : UnitOfWork D)

@[simp] lemma pending_start (d : D) : (start d).pending = d := rfl
@[simp] lemma pending_flush : u.flush.pending = u.pending := rfl
@[simp] lemma commit_eq : u.commit = start u.pending := rfl

end UnitOfWork
end Lib
