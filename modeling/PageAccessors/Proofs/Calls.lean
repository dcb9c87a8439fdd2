import PageAccessors.Proofs.DiskSteps

/-!
# Writing a file, call by call

Disk operations say what the system does when it does all that it is asked. A program that writes a
file asks for one thing after the other (`Calls`), and each call may fail, whatever the tree: a disk
may be full, or a directory closed to the program. A write may write a part of the bytes, and what
is between two calls is what others see, or what is left if the program ends there
(`Calls.Reaches`).

`Calls.writeAtomic` is the writing of a file as such a program. Where every call does what the tree
lets it do, it is the disk operation (`run_writeAtomic`), which is so one of its courses
(`reaches_run`). What holds at all points and in the end of all courses is shown call by call
(`Calls.Always`).
-/

namespace PageAccessors

/-- What a program asks of the system to write a file, by the kind of the answer. A temporary file
is made in a directory, with a random name that no file of it and no piece of the path has; a write
says how many bytes it wrote. -/
inductive Call : Type → Type where
  | makeDirectory (p : Path) : Call Unit
  | isDirectory (p : Path) : Call Bool
  | create (directory p : Path) : Call Location
  | write (s : Location) (bytes : ByteArray) : Call Nat
  | sync (s : Location) : Call Unit
  | rename (s : Location) (p : Path) : Call Unit
  | discard (s : Location) : Call Unit

/-- A program that asks for one thing after the other, until it is done or has failed. -/
inductive Calls (α : Type) where
  | done (result : Except FileFault α)
  | ask {ρ : Type} (c : Call ρ) (next : Except FileFault ρ → Calls α)

namespace Calls

variable {α β : Type}

/-- A program that goes on with the result of another one, which may be a failure. -/
def andThen : Calls α → (Except FileFault α → Calls β) → Calls β
  | done result, f => f result
  | ask c next, f => ask c fun answer => (next answer).andThen f

instance : Monad Calls where
  pure x := done (.ok x)
  bind a f := a.andThen fun
    | .ok x => f x
    | .error e => done (.error e)

instance : MonadExcept FileFault Calls where
  throw e := done (.error e)
  tryCatch a f := a.andThen fun
    | .ok x => done (.ok x)
    | .error e => f e

/-! ## Writing a file -/

def only (c : Call α) : Calls α := ask c done

def unlessDirectory (p : Path) (e : FileFault) : Calls Unit := do
  unless ← only (.isDirectory p) do throw e

def ensureDirectory (p : Path) : Calls Unit :=
  tryCatch (only (.makeDirectory p)) (unlessDirectory p)

def makeDirectories (p : Path) : Calls Unit :=
  if p.isEmpty then pure ()
  else
    tryCatch (only (.makeDirectory p)) fun fault => do
      if fault = .notFound then
        match h : p.parent? with
        | none => throw fault
        | some outer =>
          have := Path.length_components_parent? h
          makeDirectories outer
          ensureDirectory p
      else unlessDirectory p fault
termination_by p.components.length

/-- Writes bytes to the end of a file, as many at a time as the system takes. To take none of them
is a fault. -/
def writeAll (s : Location) (bytes : ByteArray) : Calls Unit :=
  if bytes.size = 0 then pure ()
  else do
    match ← only (.write s bytes) with
    | 0 => throw .busy
    | n + 1 => writeAll s (bytes.extract (n + 1) bytes.size)
termination_by bytes.size
decreasing_by
  rw [ByteArray.size_extract]
  omega

/-- An action that leaves no temporary file if it fails. -/
def orDiscard (action : Calls α) (s : Location) : Calls α :=
  tryCatch action fun fault => do
    only (.discard s)
    throw fault

def stage (p : Path) (bytes : ByteArray) : Calls Location := do
  makeDirectories p.stageDirectory
  let s ← only (.create p.stageDirectory p)
  orDiscard (do writeAll s bytes; only (.sync s)) s
  return s

def persist (s : Location) (p : Path) : Calls Unit := orDiscard (only (.rename s p)) s

def writeAtomic (p : Path) (bytes : ByteArray) : Calls Unit := do
  let s ← stage p bytes
  persist s p

end Calls

/-! ## Calls that do what they can -/

/-- The tree with a file in a place, as far as there can be one. -/
def FileTree.setFile (t : FileTree) (bytes : ByteArray) : Location → FileTree
  | [] => t
  | name :: parent =>
    if h : t.node? parent = some .directory ∧ t.node? (name :: parent) ≠ some .directory then
      t.putFile name parent bytes h.1 h.2
    else t

theorem FileTree.setFile_eq {t : FileTree} {name : String} {parent : Location} {bytes : ByteArray}
    (hd : t.node? parent = some .directory) (hf : t.node? (name :: parent) ≠ some .directory) :
    t.setFile bytes (name :: parent) = t.putFile name parent bytes hd hf := dif_pos ⟨hd, hf⟩

/-- What a call does if nothing but the tree keeps it from that. -/
def Call.perform {ρ : Type} : Call ρ → Disk ρ
  | makeDirectory p => Disk.change (·.makeDirectory p)
  | isDirectory p => do return (← get).isDirectory p
  | create directory p => do
    let t ← get
    let parent ← Disk.look (·.locate directory)
    let name := Disk.freshName t p
    if t.node? parent = some .directory ∧ t.node? (name :: parent) ≠ some .directory then
      set (t.setFile .empty (name :: parent))
      pure (name :: parent)
    else throw .notFound
  | write s bytes => fun t =>
    match t.node? s with
    | some (.file old) => (.ok bytes.size, t.setFile (old ++ bytes) s)
    | _ => (.error .notFound, t)
  | sync _ => pure ()
  | rename s p => Disk.change (·.rename s p)
  | discard s => Disk.discard s

namespace Calls

variable {α β : Type}

/-- What a program does if nothing but the tree keeps its calls from what they do. -/
def run : Calls α → Disk α
  | done result => fun t => (result, t)
  | ask c next => fun t =>
    match c.perform.apply t with
    | (answer, t') => (next answer).run t'

theorem apply_run_andThen (a : Calls α) (f : Except FileFault α → Calls β) (t : FileTree) :
    (a.andThen f).run.apply t = (f (a.run.apply t).1).run.apply (a.run.apply t).2 := by
  induction a generalizing t with
  | done result => rfl
  | ask c next ih => exact ih _ _

theorem run_bind (a : Calls α) (f : α → Calls β) :
    (a >>= f).run = a.run >>= fun x => (f x).run := by
  funext t
  change (a.andThen _).run.apply t = (a.run >>= _ : Disk β).apply t
  rw [apply_run_andThen, Disk.apply_bind]
  rcases a.run.apply t with ⟨e | x, t₁⟩ <;> rfl

theorem run_tryCatch (a : Calls α) (f : FileFault → Calls α) :
    (tryCatch a f).run = tryCatch a.run fun e => (f e).run := by
  funext t
  change (a.andThen _).run.apply t = (tryCatch a.run _ : Disk α).apply t
  rw [apply_run_andThen, Disk.apply_tryCatch]
  rcases a.run.apply t with ⟨e | x, t₁⟩ <;> rfl

theorem run_only (c : Call α) : (only c).run = c.perform := rfl

theorem run_unlessDirectory (p : Path) (e : FileFault) : (unlessDirectory p e).run =
    (do unless (← get).isDirectory p do throw e) := by
  funext t
  change (unlessDirectory p e).run.apply t = Disk.apply _ t
  rw [unlessDirectory, run_bind, Disk.apply_bind, Disk.apply_bind, run_only, Call.perform,
    Disk.apply_bind, Disk.apply_get]
  simp only [Disk.apply_pure]
  cases t.isDirectory p <;> rfl

theorem run_ensureDirectory (p : Path) : (ensureDirectory p).run = Disk.ensureDirectory p := by
  rw [ensureDirectory, run_tryCatch, run_only, Disk.ensureDirectory]
  simp only [run_unlessDirectory]
  rfl

theorem makeDirectories_eq {p : Path} (hp : ¬p.isEmpty) : makeDirectories p =
    tryCatch (only (.makeDirectory p)) fun fault =>
      if fault = .notFound then
        p.parent?.elim (throw fault) fun outer =>
          makeDirectories outer >>= fun _ => ensureDirectory p
      else unlessDirectory p fault := by
  rw [makeDirectories, if_neg hp]
  refine congrArg (tryCatch _) (funext fun fault => ?_)
  split_ifs
  · split
    · rename_i none_
      rw [none_, Option.elim_none]
    · rename_i outer some_
      simp only [some_, Option.elim_some]
  · rfl

theorem diskMakeDirectories_eq {p : Path} (hp : ¬p.isEmpty) : Disk.makeDirectories p =
    tryCatch (Disk.change (·.makeDirectory p)) fun fault =>
      if fault = .notFound then
        p.parent?.elim (throw fault) fun outer =>
          Disk.makeDirectories outer >>= fun _ => Disk.ensureDirectory p
      else (do unless (← get).isDirectory p do throw fault) := by
  rw [Disk.makeDirectories, if_neg hp]
  refine congrArg (tryCatch _) (funext fun fault => ?_)
  split_ifs
  · split
    · rename_i none_
      rw [none_, Option.elim_none]
    · rename_i outer some_
      simp only [some_, Option.elim_some]
  · rfl

theorem run_makeDirectories (p : Path) : (makeDirectories p).run = Disk.makeDirectories p := by
  induction p using makeDirectories.induct with
  | case1 p hp =>
    rw [makeDirectories, Disk.makeDirectories, if_pos hp, if_pos hp]
    rfl
  | case2 p hp ih =>
    rw [makeDirectories_eq hp, diskMakeDirectories_eq hp, run_tryCatch, run_only]
    refine congrArg (tryCatch _) (funext fun e => ?_)
    split_ifs
    · cases ho : p.parent? with
      | none => rfl
      | some outer =>
        rw [Option.elim_some, Option.elim_some, run_bind, ih outer ho, run_ensureDirectory]
    · exact run_unlessDirectory p e

theorem run_writeAll {t : FileTree} {s : Location} {old : ByteArray}
    (h : t.node? s = some (.file old)) (bytes : ByteArray) :
    (writeAll s bytes).run.apply t =
      (.ok (), if bytes.size = 0 then t else t.setFile (old ++ bytes) s) := by
  rw [writeAll]
  split_ifs with hb
  · rfl
  · rw [run_bind, Disk.apply_bind, run_only]
    have written : (Call.write s bytes).perform.apply t =
        (.ok bytes.size, t.setFile (old ++ bytes) s) := by
      simp only [Disk.apply, Call.perform, h]
    rw [written]
    simp only
    cases hn : bytes.size with
    | zero => exact absurd hn hb
    | succ n =>
      simp only
      rw [writeAll, if_pos (by rw [ByteArray.size_extract]; omega)]
      rfl

theorem setFile_putFile {t : FileTree} {name : String} {parent : Location}
    {old bytes : ByteArray} {hd hf} :
    (t.putFile name parent old hd hf).setFile bytes (name :: parent) =
      t.putFile name parent bytes hd hf := by
  have directory : (t.putFile name parent old hd hf).node? parent = some .directory := by
    rw [FileTree.node?_putFile, if_neg (by simp), hd]
  have free : (t.putFile name parent old hd hf).node? (name :: parent) ≠ some .directory := by
    rw [FileTree.node?_putFile, if_pos rfl]
    simp
  rw [FileTree.setFile_eq directory free]
  simp [FileTree.putFile]

theorem run_create (directory p : Path) (t : FileTree) :
    (only (.create directory p)).run.apply t =
      match t.locate directory with
      | .error e => (.error e, t)
      | .ok parent =>
        if t.node? parent = some .directory ∧
            t.node? (Disk.freshName t p :: parent) ≠ some .directory then
          (.ok (Disk.freshName t p :: parent), t.setFile .empty (Disk.freshName t p :: parent))
        else (.error .notFound, t) := by
  change (Call.create directory p).perform.apply t = _
  rw [Call.perform, Disk.apply_bind, Disk.apply_get]
  simp only [Disk.apply_bind, Disk.apply_look]
  cases t.locate directory with
  | error e => rfl
  | ok parent =>
    simp only
    split_ifs <;> rfl

/-- A new file with all the bytes is left, or the error of the call that failed. -/
theorem run_stage (p : Path) (bytes : ByteArray) : (stage p bytes).run = Disk.stage p bytes := by
  funext t
  change (stage p bytes).run.apply t = (Disk.stage p bytes).apply t
  rw [stage, Disk.stage_eq]
  simp only [run_bind, run_makeDirectories, Disk.apply_bind]
  rcases (Disk.makeDirectories p.stageDirectory).apply t with ⟨e | _, t₁⟩
  · rfl
  simp only [Disk.apply_get, Disk.apply_look, run_create]
  cases t₁.locate p.stageDirectory with
  | error e => rfl
  | ok parent =>
    simp only
    by_cases hd : t₁.node? parent = some .directory ∧
        t₁.node? (Disk.freshName t₁ p :: parent) ≠ some .directory
    · rw [if_pos hd, dif_pos hd, FileTree.setFile_eq hd.1 hd.2]
      simp only [Disk.apply_bind, Disk.apply_set, Disk.apply_pure]
      have file : (t₁.putFile _ parent .empty hd.1 hd.2).node? (Disk.freshName t₁ p :: parent) =
          some (.file .empty) := by rw [FileTree.node?_putFile, if_pos rfl]
      have written := run_writeAll file bytes
      rw [setFile_putFile, ByteArray.empty_append] at written
      have same : (if bytes.size = 0 then t₁.putFile _ parent .empty hd.1 hd.2 else
          t₁.putFile _ parent bytes hd.1 hd.2) = t₁.putFile _ parent bytes hd.1 hd.2 := by
        split_ifs with hb
        · rw [ByteArray.size_eq_zero_iff.1 hb]
        · rfl
      unfold orDiscard
      rw [run_tryCatch, Disk.apply_tryCatch, run_bind, Disk.apply_bind, written, same]
      rfl
    · rw [if_neg hd, dif_neg hd]
      rfl

theorem run_writeAtomic (p : Path) (bytes : ByteArray) :
    (writeAtomic p bytes).run = Disk.writeAtomic p bytes := by
  rw [writeAtomic, run_bind, run_stage, Disk.writeAtomic]
  refine congrArg _ (funext fun s => ?_)
  unfold persist orDiscard Disk.persist Disk.orElseDo
  rw [run_tryCatch]
  rfl

end Calls

/-! ## Courses of a program -/

/-- The answers to a call, and the trees that it leaves. Every call may fail, whatever the tree, and
then it leaves it as it is; but a temporary file can always be removed. -/
def Call.Gives (t : FileTree) : {ρ : Type} → Call ρ → Except FileFault ρ → FileTree → Prop
  | _, makeDirectory p, .ok (), t' => t.makeDirectory p = .ok t'
  | _, isDirectory p, .ok true, t' => t.isDirectory p = true ∧ t' = t
  | _, create directory p, .ok s, t' => ∃ name parent, s = name :: parent ∧
    t.locate directory = .ok parent ∧ t.node? s = none ∧ name ∉ p.pieces ∧
      t.SetAt s (some (.file .empty)) t'
  | _, write s bytes, .ok n, t' => ∃ old, t.node? s = some (.file old) ∧ n ≤ bytes.size ∧
    t.SetAt s (some (.file (old ++ bytes.extract 0 n))) t'
  | _, rename s p, .ok (), t' => t.rename s p = .ok t'
  | _, discard s, _, t' => if t.node? s = some .directory then t' = t else t.SetAt s none t'
  | _, _, _, t' => t' = t

theorem FileTree.setFile_setAt {t : FileTree} {name : String} {parent : Location}
    (hd : t.node? parent = some .directory) (hf : t.node? (name :: parent) ≠ some .directory)
    (bytes : ByteArray) :
    t.SetAt (name :: parent) (some (.file bytes)) (t.setFile bytes (name :: parent)) := by
  rw [setFile_eq hd hf]
  exact ⟨rfl, fun x => node?_putFile x⟩

/-- What a call does is among what it gives. -/
theorem Call.gives_perform {ρ : Type} (c : Call ρ) (t : FileTree) :
    c.Gives t (c.perform.apply t).1 (c.perform.apply t).2 := by
  cases c with
  | makeDirectory p =>
    rw [perform, Disk.apply_change]
    cases h : t.makeDirectory p with
    | ok t' => exact h
    | error e => rfl
  | isDirectory p =>
    rw [perform, Disk.apply_bind, Disk.apply_get]
    cases h : t.isDirectory p with
    | true =>
      simp only [h, Disk.apply_pure]
      exact ⟨h, rfl⟩
    | false =>
      simp only [h, Disk.apply_pure]
      rfl
  | create directory p =>
    have created := Calls.run_create directory p t
    rw [Calls.run_only] at created
    rw [created]
    cases hl : t.locate directory with
    | error e => rfl
    | ok parent =>
      simp only
      split_ifs with hd
      · refine ⟨_, parent, rfl, hl, Disk.node?_freshName t p parent, fun hm => ?_,
          FileTree.setFile_setAt hd.1 hd.2 _⟩
        exact lt_irrefl _ (Disk.length_lt_freshName (t := t) (List.mem_append_right _ hm))
      · rfl
  | write s bytes =>
    unfold perform Disk.apply
    simp only
    split
    · rename_i old hs
      refine ⟨old, hs, le_rfl, ?_⟩
      rw [ByteArray.extract_zero_size]
      cases s with
      | nil => simp [FileTree.node?_nil] at hs
      | cons name parent => exact FileTree.setFile_setAt (FileTree.node?_tail hs) (by simp [hs]) _
    · rfl
  | sync s => rfl
  | rename s p =>
    rw [perform, Disk.apply_change]
    cases h : t.rename s p with
    | ok t' => exact h
    | error e => rfl
  | discard s =>
    change if t.node? s = some .directory then _ else _
    split_ifs with hs
    · rw [perform, Disk.discard, Disk.apply_modify]
      simp only
      rw [dif_pos hs]
    · obtain ⟨t', hd, h⟩ := Disk.discard_spec hs
      rw [perform, hd]
      exact h

namespace Calls

variable {α β : Type} {t t' : FileTree}

/-- A program comes to a point: it has the rest of it ahead, and the tree is as it has left it. -/
inductive Reaches : Calls α → FileTree → Calls α → FileTree → Prop where
  | here (a : Calls α) (t : FileTree) : Reaches a t a t
  | onward {ρ : Type} {c : Call ρ} {next : Except FileFault ρ → Calls α} {b : Calls α}
    {answer : Except FileFault ρ} {t t₁ t' : FileTree} (h : c.Gives t answer t₁)
    (rest : Reaches (next answer) t₁ b t') : Reaches (ask c next) t b t'

/-- What a program does if its calls do what they can is one of its courses. -/
theorem reaches_run (a : Calls α) (t : FileTree) :
    Reaches a t (done (a.run.apply t).1) (a.run.apply t).2 := by
  induction a generalizing t with
  | done result => exact .here _ t
  | ask c next ih => exact .onward (c.gives_perform t) (ih _ _)

/-! ## What holds in all courses -/

/-- At all points of all courses the tree is as `I` says, and at their ends it is as `Q` says with
the result, or as `E` says without one. -/
def Always (I : FileTree → Prop) (Q : α → FileTree → Prop) (E : FileTree → Prop) :
    Calls α → FileTree → Prop
  | done (.ok x), t => I t ∧ Q x t
  | done (.error _), t => I t ∧ E t
  | ask c next, t => I t ∧ ∀ answer t', c.Gives t answer t' → (next answer).Always I Q E t'

variable {I E F : FileTree → Prop} {P Q : α → FileTree → Prop} {R : β → FileTree → Prop}
  {a : Calls α}

namespace Always

theorem point (h : a.Always I Q E t) : I t :=
  match a, h with
  | done (.ok _), h => h.1
  | done (.error _), h => h.1
  | ask _ _, h => h.1

/-- What holds in all courses holds from every point of them on. -/
theorem of_reaches {b : Calls α} (h : a.Always I Q E t) (hr : Reaches a t b t') :
    b.Always I Q E t' := by
  induction hr with
  | here => exact h
  | onward gives _ ih => exact ih (h.2 _ _ gives)

theorem andThen {f : Except FileFault α → Calls β} (h : a.Always I P F t)
    (ok : ∀ x t', I t' → P x t' → (f (.ok x)).Always I R E t')
    (error : ∀ e t', I t' → F t' → (f (.error e)).Always I R E t') :
    (a.andThen f).Always I R E t := by
  induction a generalizing t with
  | done result =>
    cases result with
    | ok x => exact ok x t h.1 h.2
    | error e => exact error e t h.1 h.2
  | ask c next ih => exact ⟨h.1, fun answer t' gives => ih answer (h.2 answer t' gives)⟩

theorem bind {f : α → Calls β} (h : a.Always I P E t)
    (hf : ∀ x t', P x t' → (f x).Always I R E t') : (a >>= f).Always I R E t :=
  h.andThen (fun x t' _ hx => hf x t' hx) fun _ _ point he => ⟨point, he⟩

theorem tryCatch {f : FileFault → Calls α} (h : a.Always I Q F t)
    (hf : ∀ e t', F t' → (f e).Always I Q E t') : (tryCatch a f).Always I Q E t :=
  h.andThen (fun _ _ point hx => ⟨point, hx⟩) fun e t' _ he => hf e t' he

theorem only {c : Call α} (h : I t)
    (hc : ∀ answer t', c.Gives t answer t' → (done answer).Always I Q E t') :
    (only c).Always I Q E t := ⟨h, hc⟩

end Always

end Calls

end PageAccessors
