/-!
# Steps that may fail

A chain of steps gives a result when each of its steps does, and fails with the failure of its
first step that fails (`bind_eq_ok_iff`, `bind_eq_error_iff`). Going through a list succeeds when
each of its elements is accepted.
-/

namespace Except

variable {ε ε' α β : Type}

theorem ok_bind (a : α) (f : α → Except ε β) : (.ok a >>= f) = f a := rfl

theorem bind_eq_ok_iff {x : Except ε α} {f : α → Except ε β} {b : β} :
    (x >>= f) = .ok b ↔ ∃ a, x = .ok a ∧ f a = .ok b := by
  cases x with
  | error e => simp [bind, Except.bind]
  | ok a => simp [bind, Except.bind]

theorem bind_eq_error_iff {x : Except ε α} {f : α → Except ε β} {e : ε} :
    (x >>= f) = .error e ↔ x = .error e ∨ ∃ a, x = .ok a ∧ f a = .error e := by
  cases x with
  | error e => simp [bind, Except.bind]
  | ok a => simp [bind, Except.bind]

theorem mapError_eq_ok_iff {x : Except ε α} {f : ε → ε'} {a : α} :
    x.mapError f = .ok a ↔ x = .ok a := by
  cases x with
  | error e => exact ⟨nofun, nofun⟩
  | ok b =>
    have h : (Except.ok b : Except ε α).mapError f = .ok b := rfl
    simp [h]

theorem mapError_eq_error_iff {x : Except ε α} {f : ε → ε'} {e : ε'} :
    x.mapError f = .error e ↔ ∃ e', x = .error e' ∧ f e' = e := by
  cases x with
  | error e' =>
    have h : (Except.error e' : Except ε α).mapError f = .error (f e') := rfl
    simp [h]
  | ok a => exact ⟨nofun, fun ⟨_, h, _⟩ => nomatch h⟩

theorem pure_eq_ok_iff {a b : α} : (pure a : Except ε α) = .ok b ↔ a = b := by
  simp [pure, Except.pure]

theorem pure_ne_error {a : α} {e : ε} : (pure a : Except ε α) ≠ .error e := by
  simp [pure, Except.pure]

theorem throw_eq_error_iff {e e' : ε} : (throw e : Except ε α) = .error e' ↔ e = e' := by
  simp [throw, throwThe, MonadExceptOf.throw]

theorem discard_eq_ok_iff {x : Except ε α} : discard x = .ok () ↔ ∃ a, x = .ok a := by
  cases x <;> simp [discard, Functor.discard, Functor.mapConst, Except.map]

theorem discard_eq_error_iff {x : Except ε α} {e : ε} : discard x = .error e ↔ x = .error e := by
  cases x <;> simp [discard, Functor.discard, Functor.mapConst, Except.map]

theorem forM_eq_ok_iff {f : α → Except ε Unit} :
    ∀ {l : List α} {u : Unit}, l.forM f = .ok u ↔ ∀ a ∈ l, f a = .ok ()
  | [], _ => by simp [pure, Except.pure]
  | a :: l, _ => by
    rw [show (a :: l).forM f = (f a >>= fun _ => l.forM f) from rfl, bind_eq_ok_iff,
      List.forall_mem_cons]
    exact ⟨fun ⟨(), ha, hl⟩ => ⟨ha, forM_eq_ok_iff.1 hl⟩,
      fun ⟨ha, hl⟩ => ⟨(), ha, forM_eq_ok_iff.2 hl⟩⟩

theorem exists_of_forM_eq_error {f : α → Except ε Unit} {e : ε} :
    ∀ {l : List α}, l.forM f = .error e → ∃ a ∈ l, f a = .error e
  | [], h => by simp [pure, Except.pure] at h
  | a :: l, h => by
    rw [show (a :: l).forM f = (f a >>= fun _ => l.forM f) from rfl, bind_eq_error_iff] at h
    rcases h with h | ⟨-, -, h⟩
    · exact ⟨a, by simp, h⟩
    · obtain ⟨b, hb, he⟩ := exists_of_forM_eq_error h
      exact ⟨b, List.mem_cons_of_mem _ hb, he⟩

theorem mapM_option_eq_ok_iff {f : α → Except ε β} {o : Option α} {r : Option β} :
    o.mapM f = .ok r ↔ (o = none ∧ r = none) ∨ ∃ a b, o = some a ∧ r = some b ∧ f a = .ok b := by
  cases o with
  | none => simp [pure, Except.pure, eq_comm]
  | some a =>
    simp only [Option.mapM_some]
    cases h : f a <;> simp [Functor.map, Except.map, eq_comm, h]

theorem mapM_option_eq_error_iff {f : α → Except ε β} {o : Option α} {e : ε} :
    o.mapM f = .error e ↔ ∃ a, o = some a ∧ f a = .error e := by
  cases o with
  | none => simp [pure, Except.pure]
  | some a =>
    simp only [Option.mapM_some]
    cases h : f a <;> simp [Functor.map, Except.map, h]

end Except
