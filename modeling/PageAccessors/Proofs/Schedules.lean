import Mathlib.Data.List.Induction
import Mathlib.Data.List.Nodup
import Mathlib.Data.List.Perm.Basic
import PageAccessors.Proofs.Slots

/-!
# Schedules

Whatever the schedule, the workers take the tasks in their order, each of them once, and what a
worker has taken it holds until it has stored the result. This is what a step keeps of the log of
all that the workers have done so far (`Pool.Logged.step`). A worker only stops when no task is
left, so that in a run in which all workers have stopped every task was taken by one worker, who
stored its result, and the slots hold the results in the order of the tasks (`Logged.finished`).
-/

namespace PageAccessors

variable {α β : Type} {tasks : List α} {work : α → β}

/-- What a worker does in a step. -/
inductive Act where
  | take (worker task : Nat)
  | store (worker task : Nat)
  | stop (worker : Nat)
  deriving DecidableEq

/-- The tasks that are taken, each with the worker who takes it. -/
def takes (log : List Act) : List (Nat × Nat) :=
  log.filterMap fun
    | .take worker task => some (worker, task)
    | _ => none

/-- The tasks whose results are stored, each with the worker who stores it. -/
def stores (log : List Act) : List (Nat × Nat) :=
  log.filterMap fun
    | .store worker task => some (worker, task)
    | _ => none

namespace Pool

variable {pool : Pool β} {log : List Act} {worker : Nat}

/-- What a worker does in its next step; nothing if it has stopped. -/
def act? (tasks : List α) (pool : Pool β) (worker : Nat) : Option Act :=
  match pool.workers[worker]? with
  | some .idle => some (if pool.next < tasks.length then .take worker pool.next else .stop worker)
  | some (.holding task) => some (.store worker task)
  | _ => none

/-- What the workers do in the steps of a schedule. -/
def acts (tasks : List α) (work : α → β) : List Nat → Pool β → List Act
  | [], _ => []
  | worker :: schedule, pool =>
    (pool.act? tasks worker).toList ++ acts tasks work schedule (pool.step tasks work worker)

theorem acts_concat (schedule : List Nat) (worker : Nat) : ∀ pool : Pool β,
    pool.acts tasks work (schedule ++ [worker]) = pool.acts tasks work schedule ++
      ((pool.run tasks work schedule).act? tasks worker).toList := by
  induction schedule with
  | nil => intro pool; simp [acts, run]
  | cons first schedule ih =>
    intro pool
    rw [List.cons_append, acts, ih, acts, List.append_assoc]
    rfl

theorem run_concat (schedule : List Nat) (worker : Nat) (pool : Pool β) :
    pool.run tasks work (schedule ++ [worker]) =
      (pool.run tasks work schedule).step tasks work worker := by
  rw [run, List.foldl_append]
  rfl

/-- A step does nothing, takes the next task, stops because there is none, or stores a result. -/
theorem step_cases (tasks : List α) (work : α → β) (pool : Pool β) (worker : Nat) :
    (pool.act? tasks worker = none ∧ pool.step tasks work worker = pool) ∨
      (pool.workers[worker]? = some .idle ∧
        ((pool.next < tasks.length ∧ pool.act? tasks worker = some (.take worker pool.next) ∧
          pool.step tasks work worker =
            ⟨pool.next + 1, pool.workers.set worker (.holding pool.next), pool.slots⟩) ∨
        (tasks.length ≤ pool.next ∧ pool.act? tasks worker = some (.stop worker) ∧
          pool.step tasks work worker =
            ⟨pool.next + 1, pool.workers.set worker .stopped, pool.slots⟩))) ∨
      ∃ task, pool.workers[worker]? = some (.holding task) ∧
        pool.act? tasks worker = some (.store worker task) ∧
        ∀ t, tasks[task]? = some t → pool.step tasks work worker =
          ⟨pool.next, pool.workers.set worker .idle, pool.slots.set task (some (work t))⟩ := by
  unfold act? step
  rcases hw : pool.workers[worker]? with _ | _ | task | _
  · exact .inl ⟨rfl, rfl⟩
  · refine .inr (.inl ⟨rfl, ?_⟩)
    by_cases hn : pool.next < tasks.length
    · exact .inl ⟨hn, by simp [hn], by simp [hn]⟩
    · exact .inr ⟨by omega, by simp [hn], by simp [hn]⟩
  · refine .inr (.inr ⟨task, rfl, rfl, fun t ht => ?_⟩)
    simp only [ht]
  · exact .inl ⟨rfl, rfl⟩

/-- A pool in which everything that was done is in a log. -/
structure Logged (tasks : List α) (work : α → β) (log : List Act) (pool : Pool β) : Prop where
  taken : (takes log).map Prod.snd = List.range (min pool.next tasks.length)
  held : ∀ worker task : Nat, pool.workers[worker]? = some (.holding task) →
    (worker, task) ∈ takes log ∧ (worker, task) ∉ stores log
  pending : ∀ x ∈ takes log, x ∈ stores log ∨ pool.workers[x.1]? = some (.holding x.2)
  own : ∀ x ∈ stores log, x ∈ takes log
  once : (stores log).Nodup
  stopped : ∀ worker : Nat, pool.workers[worker]? = some .stopped → tasks.length ≤ pool.next
  length : pool.slots.length = tasks.length
  slot : ∀ x ∈ stores log, pool.slots[x.2]? = some (tasks[x.2]?.map work)

theorem logged_start (workers : Nat) : Logged tasks work [] (start tasks workers) where
  taken := by simp [takes, start]
  held worker task h := by simp [start, List.getElem?_replicate] at h
  pending := List.forall_mem_nil _
  own := List.forall_mem_nil _
  once := List.nodup_nil
  stopped worker h := by simp [start, List.getElem?_replicate] at h
  length := List.length_replicate
  slot := List.forall_mem_nil _

theorem eq_or_ne_of_set {workers : List Worker} {w : Nat} {new state : Worker}
    (h : (workers.set worker new)[w]? = some state) :
    worker = w ∧ new = state ∨ worker ≠ w ∧ workers[w]? = some state := by
  rw [List.getElem?_set] at h
  split_ifs at h with he hl
  · exact .inl ⟨he, Option.some.inj h⟩
  · exact .inr ⟨he, h⟩

theorem ne_of_states {workers : List Worker} {w v : Nat} {a b : Worker}
    (hw : workers[w]? = some a) (hv : workers[v]? = some b) (hab : a ≠ b) : w ≠ v := by
  rintro rfl
  exact hab (Option.some.inj (hw.symm.trans hv))

theorem takes_concat (log : List Act) (act : Act) : takes (log ++ [act]) =
    takes log ++ takes [act] := List.filterMap_append

theorem stores_concat (log : List Act) (act : Act) : stores (log ++ [act]) =
    stores log ++ stores [act] := List.filterMap_append

theorem Logged.lt_of_mem_takes (h : Logged tasks work log pool) {x : Nat × Nat}
    (hx : x ∈ takes log) : x.2 < pool.next ∧ x.2 < tasks.length := by
  have := h.taken ▸ List.mem_map_of_mem hx
  rw [List.mem_range] at this
  omega

/-- A worker takes a task that nobody has taken before, and holds it. -/
theorem Logged.take (h : Logged tasks work log pool) (hw : pool.workers[worker]? = some .idle)
    (hn : pool.next < tasks.length) : Logged tasks work (log ++ [.take worker pool.next])
      ⟨pool.next + 1, pool.workers.set worker (.holding pool.next), pool.slots⟩ := by
  have hl := (List.getElem?_eq_some_iff.1 hw).1
  have fresh : (worker, pool.next) ∉ stores log := fun hm => by
    have := (h.lt_of_mem_takes (h.own _ hm)).1
    omega
  have ht : takes (log ++ [.take worker pool.next]) = takes log ++ [(worker, pool.next)] :=
    takes_concat _ _
  have hs : stores (log ++ [.take worker pool.next]) = stores log := by
    rw [stores_concat]
    exact List.append_nil _
  constructor
  case taken =>
    rw [ht, List.map_append, h.taken, Nat.min_eq_left hn, Nat.min_eq_left (Nat.le_of_lt hn),
      List.range_succ]
    rfl
  case held =>
    intro w i hi
    rw [ht, hs, List.mem_append]
    rcases eq_or_ne_of_set hi with ⟨rfl, ⟨⟩⟩ | ⟨-, hi⟩
    · exact ⟨.inr (List.mem_singleton.2 rfl), fresh⟩
    · exact (h.held w i hi).imp .inl id
  case pending =>
    rw [ht, hs, List.forall_mem_append, List.forall_mem_singleton]
    refine ⟨fun x hx => (h.pending x hx).imp id fun hi => ?_, .inr ?_⟩
    · -- The worker was idle, so that an earlier task is held by another one.
      rw [List.getElem?_set_ne (ne_of_states hw hi (by simp)), hi]
    · rw [List.getElem?_set_self hl]
  case own =>
    rw [ht, hs]
    exact fun x hx => List.mem_append_left _ (h.own x hx)
  case once => rw [hs]; exact h.once
  case stopped =>
    intro w hi
    rcases eq_or_ne_of_set hi with ⟨-, ⟨⟩⟩ | ⟨-, hi⟩
    have := h.stopped w hi
    omega
  case length => exact h.length
  case slot => rw [hs]; exact h.slot

theorem Logged.stop (h : Logged tasks work log pool) (hw : pool.workers[worker]? = some .idle)
    (hn : tasks.length ≤ pool.next) : Logged tasks work (log ++ [.stop worker])
      ⟨pool.next + 1, pool.workers.set worker .stopped, pool.slots⟩ := by
  have ht : takes (log ++ [.stop worker]) = takes log := by
    rw [takes_concat]
    exact List.append_nil _
  have hs : stores (log ++ [.stop worker]) = stores log := by
    rw [stores_concat]
    exact List.append_nil _
  constructor
  case taken =>
    rw [ht, h.taken, Nat.min_eq_right hn, Nat.min_eq_right (Nat.le_succ_of_le hn)]
  case held =>
    intro w i hi
    rw [ht, hs]
    rcases eq_or_ne_of_set hi with ⟨-, ⟨⟩⟩ | ⟨-, hi⟩
    exact h.held w i hi
  case pending =>
    rw [ht, hs]
    refine fun x hx => (h.pending x hx).imp id fun hi => ?_
    rw [List.getElem?_set_ne (ne_of_states hw hi (by simp)), hi]
  case own => rw [ht, hs]; exact h.own
  case once => rw [hs]; exact h.once
  case stopped => exact fun _ _ => Nat.le_succ_of_le hn
  case length => exact h.length
  case slot => rw [hs]; exact h.slot

/-- A worker gives away the result of the task that it has held since it took it. -/
theorem Logged.store (h : Logged tasks work log pool) {task : Nat}
    (hw : pool.workers[worker]? = some (.holding task)) {t : α} (htask : tasks[task]? = some t) :
    Logged tasks work (log ++ [.store worker task])
      ⟨pool.next, pool.workers.set worker .idle, pool.slots.set task (some (work t))⟩ := by
  obtain ⟨hm, hns⟩ := h.held worker task hw
  have ht : takes (log ++ [.store worker task]) = takes log := by
    rw [takes_concat]
    exact List.append_nil _
  have hs : stores (log ++ [.store worker task]) = stores log ++ [(worker, task)] :=
    stores_concat _ _
  constructor
  case taken => rw [ht]; exact h.taken
  case held =>
    intro w i hi
    rw [ht, hs, List.mem_append, List.mem_singleton]
    rcases eq_or_ne_of_set hi with ⟨-, ⟨⟩⟩ | ⟨hne, hi⟩
    refine ⟨(h.held w i hi).1, not_or.2 ⟨(h.held w i hi).2, ?_⟩⟩
    rintro ⟨⟩
    exact hne rfl
  case pending =>
    rw [ht, hs]
    intro x hx
    rw [List.mem_append, List.mem_singleton]
    rcases h.pending x hx with hx | hi
    · exact .inl (.inl hx)
    · by_cases he : worker = x.1
      · rw [← he, hw] at hi
        cases hi
        exact .inl (.inr (by rw [he]))
      · rw [List.getElem?_set_ne he]
        exact .inr hi
  case own =>
    rw [ht, hs, List.forall_mem_append, List.forall_mem_singleton]
    exact ⟨h.own, hm⟩
  case once =>
    rw [hs, ← List.concat_eq_append]
    exact h.once.concat hns
  case stopped =>
    intro w hi
    rcases eq_or_ne_of_set hi with ⟨-, ⟨⟩⟩ | ⟨-, hi⟩
    exact h.stopped w hi
  case length => rw [List.length_set]; exact h.length
  case slot =>
    have hl : task < pool.slots.length := h.length ▸ (h.lt_of_mem_takes hm).2
    have self : (pool.slots.set task (some (work t)))[task]? = some (tasks[task]?.map work) := by
      rw [List.getElem?_set_self hl, htask, Option.map_some]
    rw [hs, List.forall_mem_append, List.forall_mem_singleton]
    refine ⟨fun x hx => ?_, self⟩
    by_cases he : task = x.2
    · rw [← he]
      exact self
    · rw [List.getElem?_set_ne he]
      exact h.slot x hx

theorem Logged.step (h : Logged tasks work log pool) (worker : Nat) :
    Logged tasks work (log ++ (pool.act? tasks worker).toList) (pool.step tasks work worker) := by
  rcases step_cases tasks work pool worker with
    ⟨ha, hs⟩ | ⟨hw, ⟨hn, ha, hs⟩ | ⟨hn, ha, hs⟩⟩ | ⟨task, hw, ha, hs⟩
  · rw [ha, hs]
    simpa using h
  · rw [ha, hs]
    exact h.take hw hn
  · rw [ha, hs]
    exact h.stop hw hn
  · -- What is held was taken, and only tasks that there are have been.
    have := (h.lt_of_mem_takes (h.held worker task hw).1).2
    rw [ha, hs _ (List.getElem?_eq_getElem this)]
    exact h.store hw (List.getElem?_eq_getElem this)

theorem logged_run (workers : Nat) (schedule : List Nat) :
    Logged tasks work ((start tasks workers : Pool β).acts tasks work schedule)
      ((start tasks workers).run tasks work schedule) := by
  induction schedule using List.reverseRecOn with
  | nil => exact logged_start workers
  | append_singleton schedule worker ih =>
    rw [acts_concat, run_concat]
    exact ih.step worker

theorem length_workers_run (schedule : List Nat) : ∀ pool : Pool β,
    (pool.run tasks work schedule).workers.length = pool.workers.length := by
  induction schedule with
  | nil => exact fun _ => rfl
  | cons worker schedule ih =>
    intro pool
    refine (ih _).trans ?_
    unfold step
    split
    · rfl
    · rfl
    · exact List.length_set
    · split <;> exact List.length_set

/-- When all workers have stopped, every task has been taken and its result stored. -/
theorem Logged.finished (h : Logged tasks work log pool) (hw : pool.workers ≠ [])
    (done : pool.finished = true) : (takes log).map Prod.snd = List.range tasks.length ∧
      (stores log).Perm (takes log) ∧ pool.slots = tasks.map fun t => some (work t) := by
  have all : ∀ state ∈ pool.workers, state = .stopped := by simpa [Pool.finished] using done
  obtain ⟨first, rest, hf⟩ := List.exists_cons_of_ne_nil hw
  have hn : tasks.length ≤ pool.next := by
    refine h.stopped 0 ?_
    rw [hf, List.getElem?_cons_zero, all first (by simp [hf])]
  have taken := h.taken
  rw [Nat.min_eq_right hn] at taken
  -- Nobody holds a task any more, so all that were taken have been stored.
  have stored : ∀ x ∈ takes log, x ∈ stores log := fun x hx =>
    (h.pending x hx).resolve_right fun hi => by
      have := all _ (List.mem_of_getElem? hi)
      cases this
  refine ⟨taken, ?_, List.ext_getElem? fun i => ?_⟩
  · have nodup : (takes log).Nodup := .of_map Prod.snd (taken ▸ List.nodup_range)
    exact (List.perm_ext_iff_of_nodup h.once nodup).2 fun x => ⟨h.own x, stored x⟩
  · rw [List.getElem?_map]
    by_cases hi : i < tasks.length
    · obtain ⟨x, hx, rfl⟩ := List.mem_map.1 (taken ▸ List.mem_range.2 hi)
      rw [h.slot x (stored x hx), List.getElem?_eq_getElem hi]
      rfl
    · rw [List.getElem?_eq_none (by rw [h.length]; omega), List.getElem?_eq_none (by omega)]
      rfl

/-! ## Runs come to an end -/

/-- How many steps a worker has in front of it, besides those with tasks that nobody has taken. -/
def stepsOf : Worker → Nat
  | .idle => 1
  | .holding _ => 2
  | .stopped => 0

def stepsLeft (tasks : List α) (pool : Pool β) : Nat :=
  2 * (tasks.length - pool.next) + pool.workers.foldr (fun state n => stepsOf state + n) 0

theorem foldr_stepsOf_set (old new : Worker) : ∀ (workers : List Worker) (w : Nat),
    workers[w]? = some old →
    (workers.set w new).foldr (fun state n => stepsOf state + n) 0 + stepsOf old =
      workers.foldr (fun state n => stepsOf state + n) 0 + stepsOf new
  | first :: rest, 0, h => by
    cases h
    rw [List.set_cons_zero, List.foldr_cons, List.foldr_cons]
    omega
  | first :: rest, w + 1, h => by
    have := foldr_stepsOf_set old new rest w h
    rw [List.set_cons_succ, List.foldr_cons, List.foldr_cons]
    omega

theorem Logged.stepsLeft_step (h : Logged tasks work log pool) {state : Worker}
    (hw : pool.workers[worker]? = some state) (hs : state ≠ .stopped) :
    (pool.step tasks work worker).stepsLeft tasks < pool.stepsLeft tasks := by
  have idle : stepsOf .idle = 1 := rfl
  have holding (i : Nat) : stepsOf (.holding i) = 2 := rfl
  have stopped : stepsOf .stopped = 0 := rfl
  have set := fun old new => foldr_stepsOf_set old new pool.workers worker
  rcases step_cases tasks work pool worker with
    ⟨ha, -⟩ | ⟨hi, ⟨hn, -, he⟩ | ⟨hn, -, he⟩⟩ | ⟨task, hi, -, he⟩
  · rw [act?, hw] at ha
    cases state with
    | idle => cases ha
    | holding i => cases ha
    | stopped => exact absurd rfl hs
  · have := set _ (.holding pool.next) hi
    rw [he, stepsLeft, stepsLeft]
    simp only [idle, holding] at this ⊢
    omega
  · have := set _ .stopped hi
    rw [he, stepsLeft, stepsLeft]
    simp only [idle, stopped] at this ⊢
    omega
  · have ht := (h.lt_of_mem_takes (h.held worker task hi).1).2
    have := set _ .idle hi
    rw [he _ (List.getElem?_eq_getElem ht), stepsLeft, stepsLeft]
    simp only [idle, holding] at this ⊢
    omega

theorem Logged.exists_finished {log : List Act} {pool : Pool β} (h : Logged tasks work log pool) :
    ∃ schedule, (pool.run tasks work schedule).finished = true := by
  by_cases done : pool.finished = true
  · exact ⟨[], done⟩
  · obtain ⟨state, hm, hs⟩ : ∃ state ∈ pool.workers, state ≠ .stopped := by
      simpa [Pool.finished] using done
    obtain ⟨w, hw⟩ := List.mem_iff_getElem?.1 hm
    have := h.stepsLeft_step hw hs
    obtain ⟨schedule, hf⟩ := (h.step w).exists_finished
    exact ⟨w :: schedule, hf⟩
termination_by pool.stepsLeft tasks

end Pool

/-- Pages are generated alike under every schedule: there is one in which all workers stop, and in
each of those every page is taken once, by one worker, who fills its slot, no other slot is there
to be filled, and the results are those of the pages one by one. -/
theorem generated_once_under_every_schedule (options : Options) (pages : List Page) {workers : Nat}
    (hw : 0 < workers) :
    let work := generate options
    let start : Pool (Except Diagnostic GeneratedFile) := .start pages workers
    (∀ cores jobs, generateAll cores jobs options pages = pages.map work) ∧
      (∃ schedule, (start.run pages work schedule).finished = true) ∧
      ∀ schedule, (start.run pages work schedule).finished = true →
        (takes (start.acts pages work schedule)).map Prod.snd = List.range pages.length ∧
        (∀ i < pages.length, ∃! worker, (worker, i) ∈ takes (start.acts pages work schedule)) ∧
        (stores (start.acts pages work schedule)).Perm (takes (start.acts pages work schedule)) ∧
        (start.run pages work schedule).slots = pages.map (fun p => some (work p)) ∧
        (start.run pages work schedule).results pages work = pages.map work := by
  intro work start
  have first : Pool.Logged pages work [] start := Pool.logged_start workers
  refine ⟨fun cores jobs => generateAll_eq_map cores jobs options pages, first.exists_finished,
    fun schedule done => ?_⟩
  have log : Pool.Logged pages work (start.acts pages work schedule) _ :=
    Pool.logged_run workers schedule
  have someone : (start.run pages work schedule).workers ≠ [] := by
    rw [← List.length_pos_iff, Pool.length_workers_run]
    simpa [start, Pool.start] using hw
  obtain ⟨taken, stored, slots⟩ := log.finished someone done
  refine ⟨taken, fun i hi => ?_, stored, slots, ?_⟩
  · obtain ⟨⟨worker, j⟩, hm, rfl⟩ := List.mem_map.1 (taken ▸ List.mem_range.2 hi)
    refine ⟨worker, hm, fun other ho => ?_⟩
    have := List.inj_on_of_nodup_map (taken ▸ List.nodup_range) ho hm rfl
    exact (Prod.mk.inj this).1
  · exact ((Pool.filled_start workers).run schedule).results_eq

/-- The second of two workers is done with the second page before the first one is with the
first. -/
theorem generated_once_in_turns :
    let pages : List Page := [.empty "shop" "Search", .empty "shop" "Item"]
    let work := generate .default
    let start : Pool (Except Diagnostic GeneratedFile) := .start pages 2
    0 < 2 ∧ (start.run pages work [0, 1, 1, 1, 0, 0]).finished = true ∧
      (start.run pages work [0, 1, 1, 1, 0, 0]).slots = pages.map (fun p => some (work p)) := by
  intro pages work start
  have done : (start.run pages work [0, 1, 1, 1, 0, 0]).finished = true := by
    simp [start, pages, Pool.start, Pool.run, Pool.step, Pool.finished]
  have all := generated_once_under_every_schedule .default pages Nat.two_pos
  exact ⟨Nat.two_pos, done, (all.2.2 _ done).2.2.2.1⟩

end PageAccessors
