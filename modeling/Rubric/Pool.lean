import Rubric.Scoring

namespace Rubric

def Event.completed (result : AssessmentResult) : Event :=
  .resultCompleted result.identifier result.itemResults.length

/-- A result being scored: what it will be, and the events that are still to be recorded. -/
structure Task where
  index : Nat
  scored : AssessmentResult
  remaining : Log

/-- A batch under way. The results that wait are numbered in the order of the batch. -/
structure Pool where
  workers : Nat
  waiting : List (Nat × AssessmentResult)
  active : List Task := []
  handedIn : List AssessmentResult := []
  collected : List AssessmentResult := []
  log : Log := []

inductive Move where
  /-- A free worker takes up a waiting result. -/
  | start (index : Nat)
  /-- A worker records the next event of its result. -/
  | record (index : Nat)
  /-- A worker hands in its result and becomes free. -/
  | handIn (index : Nat)
  /-- The result that was handed in first is collected and remarked. -/
  | collect
deriving DecidableEq, Repr

namespace Pool

/-- The first element with a property, and the others in their order. -/
def takeFirst {α : Type} (p : α → Bool) : List α → Option (α × List α)
  | [] => none
  | x :: xs =>
    if p x then some (x, xs) else (takeFirst p xs).map fun r => (r.1, x :: r.2)

theorem perm_of_takeFirst {α : Type} {p : α → Bool} {xs rest : List α} {x : α}
    (h : takeFirst p xs = some (x, rest)) : xs.Perm (x :: rest) := by
  induction xs generalizing rest with
  | nil => simp [takeFirst] at h
  | cons y ys ih =>
    unfold takeFirst at h
    split at h
    · cases h
      exact List.Perm.refl _
    · obtain ⟨r, hr, he⟩ := Option.map_eq_some_iff.1 h
      cases he
      exact ((ih hr).cons y).trans (List.Perm.swap _ _ _)

/-- The pool before any result is taken up. -/
def ofBatch (workers : Nat) (batch : List AssessmentResult) : Pool where
  workers
  waiting := batch.zipIdx.map Prod.swap

/-- The pool after a move, if the move is possible. -/
def step (score : AssessmentResult → Logged AssessmentResult) (pool : Pool) : Move → Option Pool
  | .start index =>
    if pool.active.length < pool.workers then do
      let (entry, waiting) ← takeFirst (fun e => e.1 == index) pool.waiting
      let scored := score entry.2
      return {
        pool with
        waiting
        active := ⟨index, scored.value, scored.log⟩ :: pool.active }
    else none
  | .record index => do
    let (task, others) ← takeFirst (fun t => t.index == index) pool.active
    match task.remaining with
    | [] => none
    | event :: remaining =>
      return { pool with active := { task with remaining } :: others, log := pool.log ++ [event] }
  | .handIn index => do
    let (task, others) ← takeFirst (fun t => t.index == index) pool.active
    if task.remaining.isEmpty then
      return { pool with active := others, handedIn := pool.handedIn ++ [task.scored] }
    else none
  | .collect =>
    match pool.handedIn with
    | [] => none
    | result :: handedIn =>
      return {
        pool with
        handedIn
        collected := pool.collected ++ [result]
        log := pool.log ++ [.completed result] }

/-- The pool after a sequence of moves, if all of them are possible. Any such sequence is a course
that a concurrent run may take. -/
def run (score : AssessmentResult → Logged AssessmentResult) (pool : Pool) :
    List Move → Option Pool
  | [] => some pool
  | move :: moves => do (← pool.step score move).run score moves

def isDone (pool : Pool) : Bool :=
  pool.waiting.isEmpty && pool.active.isEmpty && pool.handedIn.isEmpty

/-- The course in which one result after the other is taken up, recorded, handed in and
collected. -/
def inOrder (score : AssessmentResult → Logged AssessmentResult) (batch : List AssessmentResult) :
    List Move :=
  batch.zipIdx.flatMap fun entry =>
    .start entry.2 ::
      (List.replicate (score entry.1).log.length (.record entry.2) ++ [.handIn entry.2, .collect])

end Pool

end Rubric
