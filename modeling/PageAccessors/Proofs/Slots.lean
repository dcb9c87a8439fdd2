import Mathlib.Tactic.SplitIfs
import PageAccessors.Generation

/-!
# Slots

A slot is only ever filled with the result of its own task, whichever worker takes the next step
(`Pool.Filled.step`). So the results of shared tasks are those of one worker who takes the tasks in
their order (`workOff_eq_map`), and generating with several workers is generating page by page.
-/

namespace PageAccessors

variable {α β : Type} {tasks : List α} {work : α → β}

namespace Pool

variable {pool : Pool β}

/-- Each task has a slot, and what is in a slot is the result of its task. -/
structure Filled (tasks : List α) (work : α → β) (pool : Pool β) : Prop where
  length : pool.slots.length = tasks.length
  slot : ∀ {i : Nat} {b : β}, pool.slots[i]? = some (some b) → tasks[i]?.map work = some b

theorem filled_start (workers : Nat) : Filled tasks work (start tasks workers) := by
  refine ⟨List.length_replicate, fun {i b} h => ?_⟩
  have := List.mem_of_getElem? h
  rw [start, List.mem_replicate] at this
  cases this.2

theorem Filled.step (h : Filled tasks work pool) (worker : Nat) :
    Filled tasks work (pool.step tasks work worker) := by
  unfold Pool.step
  split
  · exact h
  · exact h
  · exact ⟨h.length, h.slot⟩
  · rename_i task _
    split
    · exact ⟨h.length, h.slot⟩
    · rename_i a ha
      refine ⟨by simpa using h.length, fun {i b} hs => ?_⟩
      simp only [List.getElem?_set] at hs
      split_ifs at hs with hi
      · rw [← hi, ha, Option.map_some, ← Option.some.inj (Option.some.inj hs)]
      · exact h.slot hs

theorem Filled.run (h : Filled tasks work pool) (schedule : List Nat) :
    Filled tasks work (pool.run tasks work schedule) := by
  induction schedule generalizing pool with
  | nil => exact h
  | cons worker schedule ih => exact ih (h.step worker)

theorem Filled.results_eq (h : Filled tasks work pool) :
    pool.results tasks work = tasks.map work := by
  refine List.ext_getElem? fun i => ?_
  rw [results, List.getElem?_zipWith, List.getElem?_map]
  cases ha : tasks[i]? with
  | none => cases pool.slots[i]? <;> rfl
  | some a =>
    have hi : i < pool.slots.length := h.length ▸ (List.getElem?_eq_some_iff.1 ha).1
    cases hs : pool.slots[i] with
    | none => simp [List.getElem?_eq_getElem hi, hs]
    | some b =>
      have hs' : pool.slots[i]? = some (some b) := by rw [List.getElem?_eq_getElem hi, hs]
      have := h.slot hs'
      rw [ha] at this
      rw [hs']
      exact this.symm

end Pool

/-- Sharing tasks does not change their results. -/
theorem workOff_eq_map (workers : Nat) (tasks : List α) (work : α → β) :
    workOff workers tasks work = tasks.map work :=
  ((Pool.filled_start workers).run _).results_eq

/-- However many workers there are, pages are generated as if one by one. -/
theorem generateAll_eq_map (cores jobs : Nat) (options : Options) (pages : List Page) :
    generateAll cores jobs options pages = pages.map (generate options) := by
  unfold generateAll
  simp only
  split_ifs
  · rfl
  · exact workOff_eq_map _ _ _

end PageAccessors
