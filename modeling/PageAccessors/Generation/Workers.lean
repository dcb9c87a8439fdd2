/-!
# Workers that share a list of tasks

Several workers work off a list. A worker takes the next task by moving a shared counter on, works
on it, and puts the result into the task's slot; a worker that finds the counter past the end
stops. A schedule is a list of workers, each of which takes its next step in turn, so that every
interleaving of the workers' steps is a schedule. Whatever the schedule, a slot is only ever filled
with the result of its own task.
-/

namespace PageAccessors

/-- What a worker is about to do. -/
inductive Worker where
  | idle
  | holding (task : Nat)
  | stopped
  deriving DecidableEq

/-- Workers in the middle of their work: the number of the next task, what each worker is about to
do, and the results so far. -/
structure Pool (β : Type) where
  next : Nat
  workers : List Worker
  slots : List (Option β)

namespace Pool

variable {α β : Type}

/-- The pool in which nothing has been done yet. -/
def start (tasks : List α) (workers : Nat) : Pool β :=
  ⟨0, List.replicate workers .idle, List.replicate tasks.length none⟩

/-- The next step of a worker. -/
def step (tasks : List α) (work : α → β) (pool : Pool β) (worker : Nat) : Pool β :=
  match pool.workers[worker]? with
  | none => pool
  | some .stopped => pool
  | some .idle =>
    let state := if pool.next < tasks.length then .holding pool.next else .stopped
    { pool with next := pool.next + 1, workers := pool.workers.set worker state }
  | some (.holding task) =>
    match tasks[task]? with
    | none => { pool with workers := pool.workers.set worker .stopped }
    | some t =>
      { pool with
        workers := pool.workers.set worker .idle
        slots := pool.slots.set task (some (work t)) }

/-- The steps of a schedule. -/
def run (tasks : List α) (work : α → β) (schedule : List Nat) (pool : Pool β) : Pool β :=
  schedule.foldl (step tasks work) pool

/-- Whether all workers have stopped. -/
def finished (pool : Pool β) : Bool := pool.workers.all (· = .stopped)

/-- The schedule in which each worker takes a step in turn until all have stopped. -/
def roundRobin (tasks workers : Nat) : List Nat :=
  (List.replicate (2 * (tasks / workers + 1) + 1) (List.range workers)).flatten

/-- The results in the order of the tasks; a slot that is still empty is filled now. -/
def results (tasks : List α) (work : α → β) (pool : Pool β) : List β :=
  List.zipWith (fun slot task => slot.getD (work task)) pool.slots tasks

end Pool

/-- The results of tasks that are shared among workers. -/
def workOff {α β : Type} (workers : Nat) (tasks : List α) (work : α → β) : List β :=
  let pool := (Pool.start tasks workers).run tasks work (Pool.roundRobin tasks.length workers)
  pool.results tasks work

end PageAccessors
