import Mathlib.Algebra.GroupWithZero.Nat
import Rubric.Engine
import Rubric.Proofs.Responses

namespace Rubric

/-- A list that takes its elements from several lists, always the first one left of one of them,
until nothing is left. -/
inductive Interleaving {α : Type} : List (List α) → List α → Prop where
  | done {lists : List (List α)} (h : ∀ xs ∈ lists, xs = []) : Interleaving lists []
  | next {before after : List (List α)} {x : α} {xs out : List α}
      (h : Interleaving (before ++ xs :: after) out) :
      Interleaving (before ++ (x :: xs) :: after) (x :: out)

namespace Interleaving

variable {α : Type} {lists lists' : List (List α)} {x : α} {xs out : List α}

theorem head (h : Interleaving (xs :: lists) out) : Interleaving ((x :: xs) :: lists) (x :: out) :=
  @next α [] lists x xs out h

theorem perm (h : Interleaving lists out) (hperm : lists.Perm lists') :
    Interleaving lists' out := by
  induction h generalizing lists' with
  | done h => exact .done fun xs hxs => h xs (hperm.mem_iff.2 hxs)
  | @next before after x xs out _ ih =>
    have hmem : x :: xs ∈ lists' := hperm.mem_iff.1 (by simp)
    obtain ⟨before', after', rfl⟩ := List.append_of_mem hmem
    have hrest : (before ++ after).Perm (before' ++ after') :=
      ((List.perm_middle.symm.trans hperm).trans List.perm_middle).cons_inv
    have hlists : (before ++ xs :: after).Perm (before' ++ xs :: after') :=
      (List.perm_middle.trans (hrest.cons xs)).trans List.perm_middle.symm
    exact (ih hlists).next

theorem nil_cons (h : Interleaving lists out) : Interleaving ([] :: lists) out := by
  induction h with
  | done h => exact .done (by simpa using h)
  | @next before after x xs out _ ih => exact @next α ([] :: before) after x xs out ih

end Interleaving

def Move.started? : Move → Option Nat
  | start index => some index
  | _ => none

namespace Pool

variable {score : AssessmentResult → Logged AssessmentResult} {pool next : Pool} {index : Nat}

section step

theorem of_takeFirst_index {α : Type} {key : α → Nat} {xs rest : List α} {x : α}
    (h : takeFirst (fun x => key x == index) xs = some (x, rest)) : key x = index := by
  induction xs generalizing rest with
  | nil => simp [takeFirst] at h
  | cons y ys ih =>
    unfold takeFirst at h
    split at h
    · next hy =>
      cases h
      exact beq_iff_eq.1 hy
    · obtain ⟨r, hr, he⟩ := Option.map_eq_some_iff.1 h
      cases he
      exact ih hr

theorem step_start (h : pool.step score (.start index) = some next) :
    pool.active.length < pool.workers ∧ ∃ r waiting, pool.waiting.Perm ((index, r) :: waiting) ∧
      next = { pool with
        waiting
        active := ⟨index, (score r).value, (score r).log⟩ :: pool.active } := by
  simp only [step] at h
  split at h
  · next hfree =>
    obtain ⟨⟨⟨i, r⟩, waiting⟩, htake, hnext⟩ := Option.bind_eq_some_iff.1 h
    obtain rfl : i = index := of_takeFirst_index htake
    exact ⟨hfree, r, waiting, perm_of_takeFirst htake, (Option.some.inj hnext).symm⟩
  · cases h

theorem step_record (h : pool.step score (.record index) = some next) :
    ∃ task event remaining others, pool.active.Perm (task :: others) ∧
      task.remaining = event :: remaining ∧
      next = { pool with
        active := { task with remaining } :: others, log := pool.log ++ [event] } := by
  simp only [step] at h
  obtain ⟨⟨task, others⟩, htake, hnext⟩ := Option.bind_eq_some_iff.1 h
  simp only at hnext
  split at hnext
  · cases hnext
  · next event remaining hremaining =>
    exact ⟨task, event, remaining, others, perm_of_takeFirst htake, hremaining,
      (Option.some.inj hnext).symm⟩

theorem step_handIn (h : pool.step score (.handIn index) = some next) :
    ∃ task others, pool.active.Perm (task :: others) ∧ task.remaining = [] ∧
      next = { pool with active := others, handedIn := pool.handedIn ++ [task.scored] } := by
  simp only [step] at h
  obtain ⟨⟨task, others⟩, htake, hnext⟩ := Option.bind_eq_some_iff.1 h
  simp only at hnext
  split at hnext
  · next hremaining =>
    exact ⟨task, others, perm_of_takeFirst htake, List.isEmpty_iff.1 hremaining,
      (Option.some.inj hnext).symm⟩
  · cases hnext

theorem step_collect (h : pool.step score .collect = some next) :
    ∃ result handedIn, pool.handedIn = result :: handedIn ∧
      next = { pool with
        handedIn
        collected := pool.collected ++ [result]
        log := pool.log ++ [.completed result] } := by
  simp only [step] at h
  split at h
  · cases h
  · next result handedIn hfirst =>
    exact ⟨result, handedIn, hfirst, (Option.some.inj h).symm⟩

end step

theorem active_le_of_step {move : Move} (h : pool.step score move = some next)
    (hle : pool.active.length ≤ pool.workers) :
    next.workers = pool.workers ∧ next.active.length ≤ pool.workers := by
  cases move with
  | start index =>
    obtain ⟨hfree, r, waiting, -, rfl⟩ := step_start h
    exact ⟨rfl, hfree⟩
  | record index =>
    obtain ⟨task, event, remaining, others, hactive, -, rfl⟩ := step_record h
    exact ⟨rfl, by simpa [hactive.length_eq] using hle⟩
  | handIn index =>
    obtain ⟨task, others, hactive, -, rfl⟩ := step_handIn h
    rw [hactive.length_eq, List.length_cons] at hle
    exact ⟨rfl, Nat.le_of_succ_le hle⟩
  | collect =>
    obtain ⟨result, handedIn, -, rfl⟩ := step_collect h
    exact ⟨rfl, hle⟩

theorem run_cons {move : Move} {moves : List Move} {last : Pool}
    (h : pool.run score (move :: moves) = some last) :
    ∃ next, pool.step score move = some next ∧ next.run score moves = some last :=
  Option.bind_eq_some_iff.1 h

theorem active_le_of_run {moves : List Move} (h : pool.run score moves = some next)
    (hle : pool.active.length ≤ pool.workers) : next.active.length ≤ pool.workers := by
  induction moves generalizing pool with
  | nil =>
    cases h
    exact hle
  | cons move moves ih =>
    obtain ⟨mid, hstep, hrun⟩ := run_cons h
    obtain ⟨hworkers, hmid⟩ := active_le_of_step hstep hle
    rw [← hworkers] at hmid ⊢
    exact ih hrun hmid

/-- The records that are still to be made, one for each result that waits or is being scored. -/
def pending (score : AssessmentResult → Logged AssessmentResult) (pool : Pool) : List Log :=
  pool.waiting.map (fun e => (score e.2).log) ++ pool.active.map Task.remaining

/-- The scored results that are still to be collected. -/
def expected (score : AssessmentResult → Logged AssessmentResult) (pool : Pool) :
    List AssessmentResult :=
  pool.waiting.map (fun e => (score e.2).value) ++ (pool.active.map Task.scored ++ pool.handedIn)

section owed

variable {r : AssessmentResult} {waiting : List (Nat × AssessmentResult)} {task : Task}
  {others : List Task}

theorem pending_of_waiting (h : pool.waiting.Perm ((index, r) :: waiting)) :
    (pool.pending score).Perm ((score r).log :: { pool with waiting }.pending score) :=
  (h.map fun e => (score e.2).log).append_right _

theorem pending_of_active (h : pool.active.Perm (task :: others)) :
    (pool.pending score).Perm (task.remaining :: { pool with active := others }.pending score) :=
  ((h.map Task.remaining).append_left _).trans List.perm_middle

theorem expected_of_waiting (h : pool.waiting.Perm ((index, r) :: waiting)) :
    (pool.expected score).Perm ((score r).value :: { pool with waiting }.expected score) :=
  (h.map fun e => (score e.2).value).append_right _

theorem expected_of_active (h : pool.active.Perm (task :: others)) :
    (pool.expected score).Perm (task.scored :: { pool with active := others }.expected score) :=
  (((h.map Task.scored).append_right _).append_left _).trans List.perm_middle

theorem expected_of_handedIn (result : AssessmentResult) :
    (expected score { pool with handedIn := pool.handedIn ++ [result] }).Perm
      (result :: pool.expected score) := by
  simp only [expected, ← List.append_assoc]
  exact List.perm_append_singleton _ _

end owed

/-- What a course comes to that starts from a pool and collects all results: it takes up what waits,
collects what is expected, and records what is pending and a remark on each result collected. -/
structure Outcome (score : AssessmentResult → Logged AssessmentResult) (pool : Pool)
    (moves : List Move) (output : List AssessmentResult) (log : Log) : Prop where
  started : (moves.filterMap Move.started?).Perm (pool.waiting.map Prod.fst)
  collected : output.Perm (pool.expected score)
  recorded : Interleaving (output.map Event.completed :: pool.pending score) log

theorem Outcome.of_step {move : Move} {moves : List Move} {output : List AssessmentResult}
    {log : Log} (hstep : pool.step score move = some next)
    (h : next.Outcome score moves output log) :
    ∃ output' log', pool.Outcome score (move :: moves) output' log' ∧
      next.collected ++ output = pool.collected ++ output' ∧
      next.log ++ log = pool.log ++ log' := by
  cases move with
  | start index =>
    obtain ⟨-, r, waiting, hwaiting, rfl⟩ := step_start hstep
    refine ⟨output, log, ⟨?_, ?_, ?_⟩, rfl, rfl⟩
    · exact (h.started.cons index).trans (hwaiting.map Prod.fst).symm
    · exact h.collected.trans
        ((expected_of_active (.refl _)).trans (expected_of_waiting hwaiting).symm)
    · exact h.recorded.perm
        (((pending_of_active (.refl _)).trans (pending_of_waiting hwaiting).symm).cons _)
  | record index =>
    obtain ⟨task, event, remaining, others, hactive, hremaining, rfl⟩ := step_record hstep
    refine ⟨output, event :: log, ⟨h.started, ?_, ?_⟩, rfl, by simp⟩
    · exact h.collected.trans
        (.trans (@expected_of_active score _ { task with remaining } _ (.refl _))
          (expected_of_active hactive).symm)
    · have hnext := h.recorded.perm ((pending_of_active (.refl _)).cons _)
      have hpending := @pending_of_active score pool task others hactive
      rw [hremaining] at hpending
      -- The remarks on collected results stand before the record that goes on.
      exact (@Interleaving.next _ [_] _ event remaining log hnext).perm (hpending.symm.cons _)
  | handIn index =>
    obtain ⟨task, others, hactive, hremaining, rfl⟩ := step_handIn hstep
    refine ⟨output, log, ⟨h.started, ?_, ?_⟩, rfl, rfl⟩
    · exact h.collected.trans
        ((expected_of_handedIn task.scored).trans (expected_of_active hactive).symm)
    · have hpending := @pending_of_active score pool task others hactive
      rw [hremaining] at hpending
      exact h.recorded.nil_cons.perm ((List.Perm.swap _ _ _).trans (hpending.symm.cons _))
  | collect =>
    obtain ⟨result, handedIn, hfirst, rfl⟩ := step_collect hstep
    refine ⟨result :: output, .completed result :: log, ⟨h.started, ?_, h.recorded.head⟩, by simp,
      by simp⟩
    refine (h.collected.cons result).trans ?_
    simp only [expected, hfirst, ← List.append_assoc]
    exact List.perm_middle.symm

theorem exists_outcome {moves : List Move} {last : Pool} (h : pool.run score moves = some last)
    (hdone : last.isDone = true) :
    ∃ output log, pool.Outcome score moves output log ∧
      last.collected = pool.collected ++ output ∧ last.log = pool.log ++ log := by
  -- A pool that is done owes nothing; each move before adds to that what it took away.
  induction moves generalizing pool with
  | nil =>
    cases h
    simp only [isDone, Bool.and_eq_true, List.isEmpty_iff] at hdone
    obtain ⟨⟨hwaiting, hactive⟩, hhanded⟩ := hdone
    refine ⟨[], [], ⟨?_, ?_, .done ?_⟩, by simp, by simp⟩
    · simp [hwaiting]
    · simp [expected, hwaiting, hactive, hhanded]
    · simp [pending, hwaiting, hactive]
  | cons move moves ih =>
    obtain ⟨next, hstep, hrun⟩ := run_cons h
    obtain ⟨output, log, hnext, hcollected, hlog⟩ := ih hrun
    obtain ⟨output', log', houtcome, hcollected', hlog'⟩ := hnext.of_step hstep
    exact ⟨output', log', houtcome, hcollected.trans hcollected', hlog.trans hlog'⟩

section ofBatch

variable (workers : Nat) (batch : List AssessmentResult)

theorem map_fst_ofBatch :
    (ofBatch workers batch).waiting.map Prod.fst = List.range batch.length := by
  rw [ofBatch, List.map_map, List.range_eq_range', ← List.zipIdx_map_snd 0 batch]
  rfl

theorem map_ofBatch {β : Type} (f : AssessmentResult → β) :
    (ofBatch workers batch).waiting.map (fun e => f e.2) = batch.map f := by
  conv_rhs => rw [← List.zipIdx_map_fst 0 batch, List.map_map]
  rw [ofBatch, List.map_map]
  rfl

theorem expected_ofBatch :
    (ofBatch workers batch).expected score = batch.map fun r => (score r).value := by
  rw [expected, map_ofBatch workers batch fun r => (score r).value]
  exact List.append_nil _

theorem pending_ofBatch :
    (ofBatch workers batch).pending score = batch.map fun r => (score r).log := by
  rw [pending, map_ofBatch workers batch fun r => (score r).log]
  exact List.append_nil _

end ofBatch

section completion

theorem takeFirst_cons_of_pos {α : Type} {p : α → Bool} {x : α} {xs : List α} (h : p x = true) :
    takeFirst p (x :: xs) = some (x, xs) := by
  simp [takeFirst, h]

/-- A pool with workers is never stuck before everything is collected. -/
theorem exists_step (hworkers : 0 < pool.workers) (h : pool.isDone = false) :
    ∃ move next, pool.step score move = some next := by
  obtain ⟨workers, waiting, active, handedIn, collected, log⟩ := pool
  cases handedIn with
  | cons result handedIn => exact ⟨.collect, _, rfl⟩
  | nil =>
    cases active with
    | cons task others =>
      obtain ⟨index, scored, remaining⟩ := task
      have htask := @takeFirst_cons_of_pos Task (fun t => t.index == index)
        ⟨index, scored, remaining⟩ others (beq_self_eq_true index)
      cases remaining with
      | nil => exact ⟨.handIn index, _, by simp only [step, htask]; rfl⟩
      | cons event remaining => exact ⟨.record index, _, by simp only [step, htask]; rfl⟩
    | nil =>
      cases waiting with
      | cons entry waiting =>
        have hentry := @takeFirst_cons_of_pos _ (fun e => e.1 == entry.1) entry waiting
          (beq_self_eq_true entry.1)
        have hfree : ([] : List Task).length < workers := hworkers
        exact ⟨.start entry.1, _, by simp only [step, hfree, ↓reduceIte, hentry]; rfl⟩
      | nil => cases h

/-- The number of moves that are left. -/
def work (score : AssessmentResult → Logged AssessmentResult) (pool : Pool) : Nat :=
  (pool.waiting.map fun e => (score e.2).log.length + 3).sum +
    (pool.active.map fun t => t.remaining.length + 2).sum + pool.handedIn.length

theorem work_of_step {move : Move} (h : pool.step score move = some next) :
    next.workers = pool.workers ∧ next.work score + 1 = pool.work score := by
  cases move with
  | start index =>
    obtain ⟨-, r, waiting, hwaiting, rfl⟩ := step_start h
    have hsum := (hwaiting.map fun e => (score e.2).log.length + 3).sum_nat
    simp only [List.map_cons, List.sum_cons] at hsum
    simp only [work, List.map_cons, List.sum_cons, hsum, true_and]
    omega
  | record index =>
    obtain ⟨task, event, remaining, others, hactive, hremaining, rfl⟩ := step_record h
    have hsum := (hactive.map fun t => t.remaining.length + 2).sum_nat
    simp only [List.map_cons, List.sum_cons, hremaining, List.length_cons] at hsum
    simp only [work, List.map_cons, List.sum_cons, hsum, true_and]
    omega
  | handIn index =>
    obtain ⟨task, others, hactive, hremaining, rfl⟩ := step_handIn h
    have hsum := (hactive.map fun t => t.remaining.length + 2).sum_nat
    simp only [List.map_cons, List.sum_cons, hremaining, List.length_nil] at hsum
    simp only [work, hsum, List.length_append, List.length_singleton, true_and]
    omega
  | collect =>
    obtain ⟨result, handedIn, hfirst, rfl⟩ := step_collect h
    simp only [work, hfirst, List.length_cons, true_and]
    omega

theorem exists_completion (hworkers : 0 < pool.workers) :
    ∃ moves last, pool.run score moves = some last ∧ last.isDone = true := by
  induction hwork : pool.work score using Nat.strongRecOn generalizing pool with
  | ind n ih =>
    cases hdone : pool.isDone with
    | true => exact ⟨[], pool, rfl, hdone⟩
    | false =>
      obtain ⟨move, next, hstep⟩ := @exists_step score pool hworkers hdone
      obtain ⟨hsame, hless⟩ := work_of_step hstep
      obtain ⟨moves, last, hrun, hlast⟩ :=
        ih (next.work score) (by omega) (hsame ▸ hworkers) rfl
      exact ⟨move :: moves, last, Option.bind_eq_some_iff.2 ⟨next, hstep, hrun⟩, hlast⟩

theorem workers_of_run {moves : List Move} (h : pool.run score moves = some next) :
    next.workers = pool.workers := by
  induction moves generalizing pool with
  | nil =>
    cases h
    rfl
  | cons move moves ih =>
    obtain ⟨mid, hstep, hrun⟩ := run_cons h
    exact (ih hrun).trans (work_of_step hstep).1

end completion

section inOrder

theorem run_append (xs ys : List Move) :
    pool.run score (xs ++ ys) = (pool.run score xs).bind fun mid => mid.run score ys := by
  induction xs generalizing pool with
  | nil => rfl
  | cons move xs ih =>
    simp only [List.cons_append, run]
    cases pool.step score move with
    | none => rfl
    | some mid => exact ih

variable {workers : Nat} {waiting : List (Nat × AssessmentResult)}
  {output : List AssessmentResult} {log : Log}

theorem run_record (scored : AssessmentResult) (remaining : Log) :
    run score ⟨workers, waiting, [⟨index, scored, remaining⟩], [], output, log⟩
        (List.replicate remaining.length (.record index)) =
      some ⟨workers, waiting, [⟨index, scored, []⟩], [], output, log ++ remaining⟩ := by
  induction remaining generalizing log with
  | nil => simp [run]
  | cons event remaining ih =>
    have hstep : step score
        ⟨workers, waiting, [⟨index, scored, event :: remaining⟩], [], output, log⟩ (.record index) =
          some ⟨workers, waiting, [⟨index, scored, remaining⟩], [], output, log ++ [event]⟩ := by
      simp [step, takeFirst]
    rw [List.length_cons, List.replicate_succ, run, hstep]
    simpa using @ih (log ++ [event])

/-- One result after the other is what a pool does that starts the next one only after it has
collected the one before. -/
theorem run_inOrder (hworkers : 0 < workers) (entries : List (AssessmentResult × Nat)) :
    run score ⟨workers, entries.map Prod.swap, [], [], output, log⟩
        (entries.flatMap fun entry => .start entry.2 ::
          (List.replicate (score entry.1).log.length (.record entry.2) ++
            [.handIn entry.2, .collect])) =
      some ⟨workers, [], [], [], output ++ entries.map fun e => (score e.1).value,
        log ++ entries.flatMap fun e => (score e.1).log ++ [.completed (score e.1).value]⟩ := by
  induction entries generalizing output log with
  | nil => simp [run]
  | cons entry entries ih =>
    obtain ⟨r, i⟩ := entry
    have hstart : step score ⟨workers, (i, r) :: entries.map Prod.swap, [], [], output, log⟩
        (.start i) = some ⟨workers, entries.map Prod.swap,
          [⟨i, (score r).value, (score r).log⟩], [], output, log⟩ := by
      simp [step, takeFirst, hworkers]
    have hend : run score ⟨workers, entries.map Prod.swap, [⟨i, (score r).value, []⟩], [], output,
        log ++ (score r).log⟩ [.handIn i, .collect] =
          some ⟨workers, entries.map Prod.swap, [], [], output ++ [(score r).value],
            log ++ (score r).log ++ [.completed (score r).value]⟩ := by
      simp [run, step, takeFirst]
    simp only [List.flatMap_cons, List.cons_append, List.map_cons, Prod.swap_prod_mk, run, hstart,
      Option.bind_eq_bind, Option.bind_some]
    rw [run_append, run_append, run_record, Option.bind_some, hend, Option.bind_some, ih]
    simp

end inOrder

end Pool

namespace Engine

variable (engine : Engine) (stage : Stage) (batch : List AssessmentResult)

theorem scoreInTurn_eq :
    engine.scoreInTurn stage batch =
      { value := batch.map fun r => (engine.score stage r).value
        log := batch.flatMap fun r =>
          (engine.score stage r).log ++ [.completed (engine.score stage r).value] } := by
  induction batch with
  | nil => rfl
  | cons r batch ih =>
    ext1
    · simp [scoreInTurn, ih]
    · simp [scoreInTurn, ih]

theorem scoreInPool_eq (hworkers : 0 < engine.environment.config.parallelism) :
    engine.scoreInPool stage batch = engine.scoreInTurn stage batch := by
  have hrun := @Pool.run_inOrder (engine.score stage) _ [] [] hworkers batch.zipIdx
  have hvalues : (batch.zipIdx.map fun e => (engine.score stage e.1).value) =
      batch.map fun r => (engine.score stage r).value := by
    conv_rhs => rw [← List.zipIdx_map_fst 0 batch, List.map_map]
    rfl
  have hlogs : (batch.zipIdx.flatMap fun e => (engine.score stage e.1).log ++
      [.completed (engine.score stage e.1).value]) = batch.flatMap fun r =>
        (engine.score stage r).log ++ [.completed (engine.score stage r).value] := by
    conv_rhs => rw [← List.zipIdx_map_fst 0 batch, List.flatMap_map]
  simp only [scoreInPool, Pool.ofBatch, Pool.inOrder, hrun, Option.getD_some, hvalues, hlogs,
    List.nil_append, scoreInTurn_eq]

theorem process_eq (hworkers : 0 < engine.environment.config.parallelism) :
    engine.process stage batch = (engine.checkInputs stage).map fun _ =>
      closeBatch stage batch.length (engine.scoreInTurn stage batch) := by
  unfold process
  rw [scoreInPool_eq engine stage batch hworkers, ite_self]
  cases engine.checkInputs stage <;> rfl

/-- A concurrent run of a batch comes out like the run that scores one result after the other. At
any time at most as many results are being scored as there are workers, and whatever has happened,
the run can be brought to its end. By then every result was taken up once, the output is that of the
other run in some order, and the record is interleaved from the remarks on the results in the output
and from what is recorded for each result. The remark on the batch comes last. -/
theorem courses_come_out_alike (engine : Engine) (stage : Stage) (batch : List AssessmentResult) :
    let workers := engine.environment.config.parallelism
    let score := engine.score stage
    let inTurn := engine.scoreInTurn stage batch
    (∀ course reached, (Pool.ofBatch workers batch).run score course = some reached →
      reached.active.length ≤ workers ∧
      (0 < workers → ∃ rest last, reached.run score rest = some last ∧ last.isDone = true) ∧
      (reached.isDone = true →
        let run := closeBatch stage batch.length ⟨reached.collected, reached.log⟩
        (course.filterMap Move.started?).Perm (List.range batch.length) ∧
        run.value.Perm inTurn.value ∧
        Interleaving (run.value.map Event.completed :: batch.map fun r => (score r).log)
          reached.log ∧
        run.log = reached.log ++ [.batchCompleted batch.length, .batchScored batch.length stage])) ∧
    inTurn.value = (batch.map fun r => (score r).value) ∧
    inTurn.log = (batch.flatMap fun r => (score r).log ++ [.completed (score r).value]) ∧
    (0 < workers → engine.process stage batch = (engine.checkInputs stage).map fun _ =>
      closeBatch stage batch.length inTurn) := by
  intro workers score inTurn
  have hvalue : inTurn.value = batch.map fun r => (score r).value :=
    congrArg Logged.value (scoreInTurn_eq engine stage batch)
  have hlog : inTurn.log =
      batch.flatMap fun r => (score r).log ++ [.completed (score r).value] :=
    congrArg Logged.log (scoreInTurn_eq engine stage batch)
  refine ⟨?_, hvalue, hlog, engine.process_eq stage batch⟩
  intro course reached hrun
  have hworkers : reached.workers = workers := Pool.workers_of_run hrun
  refine ⟨Pool.active_le_of_run hrun (Nat.zero_le _), ?_, ?_⟩
  · intro hpos
    exact Pool.exists_completion (hworkers ▸ hpos)
  · intro hdone run
    obtain ⟨output, log, houtcome, hcollected, hrecord⟩ := Pool.exists_outcome hrun hdone
    obtain rfl : reached.collected = output := hcollected
    obtain rfl : reached.log = log := hrecord
    have hstarted := houtcome.started
    have houtput := houtcome.collected
    have hrecorded := houtcome.recorded
    rw [Pool.map_fst_ofBatch] at hstarted
    rw [Pool.expected_ofBatch] at houtput
    rw [Pool.pending_ofBatch] at hrecorded
    exact ⟨hstarted, hvalue ▸ houtput, hrecorded, by simp [run, closeBatch]⟩

theorem echoes_overtake :
    let engine : Engine :=
      { items := [echoing "A"]
        test := none
        environment := { registry := {}, config := { processParallel := true, parallelism := 2 } } }
    let batch : List AssessmentResult :=
      [{ identifier := "R1" }, { identifier := "R2" }, { identifier := "R3" }]
    let missing (result : String) : Event := .problem ("A - " ++ result) .itemResultMissing
    let course : List Move :=
      [.start 0, .start 1, .record 1, .handIn 1, .start 2, .record 0, .record 2, .handIn 2,
        .collect, .handIn 0, .collect, .collect]
    ∃ reached, (Pool.ofBatch 2 batch).run (engine.score .responses) course = some reached ∧
      reached.active.length ≤ 2 ∧
      reached.collected.map AssessmentResult.identifier = ["R2", "R3", "R1"] ∧
      reached.collected.Perm (engine.scoreInTurn .responses batch).value ∧
      (course.filterMap Move.started?).Perm [0, 1, 2] ∧
      reached.log = [missing "R2", missing "R1", missing "R3", .resultCompleted "R2" 0,
        .resultCompleted "R3" 0, .resultCompleted "R1" 0] ∧
      Interleaving (reached.collected.map Event.completed ::
        [[missing "R1"], [missing "R2"], [missing "R3"]]) reached.log ∧
      (∃ rest last, reached.run (engine.score .responses) rest = some last ∧
        last.isDone = true) ∧
      engine.process .responses batch =
        .ok (closeBatch .responses 3 (engine.scoreInTurn .responses batch)) := by
  intro engine batch missing course
  obtain ⟨reached, hrun⟩ : ∃ reached,
      (Pool.ofBatch 2 batch).run (engine.score .responses) course = some reached :=
    Option.isSome_iff_exists.1 (by decide +kernel)
  have hreached : ((Pool.ofBatch 2 batch).run (engine.score .responses) course).map
      (fun pool => (pool.isDone, pool.collected.map AssessmentResult.identifier, pool.log)) =
        some (true, ["R2", "R3", "R1"], [missing "R2", missing "R1", missing "R3",
          .resultCompleted "R2" 0, .resultCompleted "R3" 0, .resultCompleted "R1" 0]) := by
    decide +kernel
  rw [hrun, Option.map_some, Option.some.injEq, Prod.mk.injEq, Prod.mk.injEq] at hreached
  obtain ⟨hdone, hcollected, hlog⟩ := hreached
  obtain ⟨hcourses, -, -, hprocess⟩ := courses_come_out_alike engine .responses batch
  obtain ⟨hactive, hcompletion, houtcome⟩ := hcourses course reached hrun
  obtain ⟨hstarted, houtput, hrecord, -⟩ := houtcome hdone
  refine ⟨reached, hrun, hactive, hcollected, houtput, hstarted, hlog, ?_, hcompletion (by decide),
    hprocess (by decide)⟩
  have hrecords : (batch.map fun r => (engine.score .responses r).log) =
      [[missing "R1"], [missing "R2"], [missing "R3"]] := by
    decide +kernel
  rw [← hrecords]
  exact hrecord

end Engine

end Rubric
