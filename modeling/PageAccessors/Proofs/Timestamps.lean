import PageAccessors.Output
import PageAccessors.Proofs.DiskSteps

/-!
# Trees that differ in timestamps

Files that are written at two times differ in the timestamps of their manifests. Nothing that is
done to files depends on what is in them, so that an operation ends in the same way on two trees
that differ in nothing but such timestamps, and leaves two such trees (`Disk.Parallel`); and the
trees stay such when the same file is written to both at two times (`parallel_writeGenerated`).
-/

namespace PageAccessors

/-- A manifest with another time. -/
def Manifest.at (m : Manifest) (time : String) : Manifest :=
  { m with provenance := { m.provenance with timestamp := time } }

/-- What is at a place in two trees: the same, or one manifest that was written at two times. -/
inductive Alike : Option Node → Option Node → Prop where
  | same (n : Option Node) : Alike n n
  | timed (m : Manifest) (time time' : String) :
    Alike (some (.file (m.at time).render.toUTF8)) (some (.file (m.at time').render.toUTF8))

namespace Alike

variable {a b : Option Node}

theorem eq_none_iff (h : Alike a b) : b = none ↔ a = none := by
  cases h <;> simp

theorem eq_directory_iff (h : Alike a b) : b = some .directory ↔ a = some .directory := by
  cases h <;> simp

theorem kinds (h : Alike a b) : (a = none ∧ b = none) ∨
    (a = some .directory ∧ b = some .directory) ∨
      ∃ bytes bytes', a = some (.file bytes) ∧ b = some (.file bytes') ∧ Alike a b := by
  cases h with
  | same =>
    match a with
    | none => exact .inl ⟨rfl, rfl⟩
    | some .directory => exact .inr (.inl ⟨rfl, rfl⟩)
    | some (.file bytes) => exact .inr (.inr ⟨bytes, bytes, rfl, rfl, .same _⟩)
  | timed m time time' => exact .inr (.inr ⟨_, _, rfl, rfl, .timed m time time'⟩)

end Alike

namespace FileTree

/-! ## Operations by their targets -/

section

variable {t : FileTree} {p : Path} {source : Location} {name : String} {parent : Location}
  {slash : Bool} {hd : t.node? parent = some .directory}

theorem remove_of_target (ht : t.target? p = .ok (some ⟨name, parent, slash, hd⟩)) :
    (t.node? (name :: parent) = none → t.remove p = .error .notFound) ∧
      (t.node? (name :: parent) = some .directory → t.remove p = .error .isDirectory) ∧
      ∀ {bytes}, t.node? (name :: parent) = some (.file bytes) →
        if slash then t.remove p = .error .notDirectory
        else ∃ hf, t.remove p = .ok (t.removeFile (name :: parent) hf) := by
  unfold remove
  rw [ht, Except.ok_bind]
  simp only
  split
  · rename_i hn
    exact ⟨fun _ => rfl, fun hd => by simp [hn] at hd, fun hf => by simp [hn] at hf⟩
  · rename_i hn
    exact ⟨fun hd => by simp [hn] at hd, fun _ => rfl, fun hf => by simp [hn] at hf⟩
  · rename_i hn
    refine ⟨fun hd => by simp [hn] at hd, fun hf => by simp [hn] at hf, fun _ => ?_⟩
    cases slash
    · exact ⟨by simp [hn], rfl⟩
    · rfl

theorem rename_of_none (hs : t.node? source = none) : t.rename source p = .error .notFound := by
  unfold rename
  split
  · rfl
  · rename_i hn
    simp [hs] at hn
  · rename_i hn
    simp [hs] at hn

theorem rename_of_directory (hs : t.node? source = some .directory) :
    t.rename source p = .error .isDirectory := by
  unfold rename
  split
  · rename_i hn
    simp [hs] at hn
  · rfl
  · rename_i hn
    simp [hs] at hn

variable {bytes : ByteArray} (hs : t.node? source = some (.file bytes))
include hs

theorem rename_eq_error {e : FileFault} (ht : t.target? p = .error e) :
    t.rename source p = .error e := by
  unfold rename
  split
  · rename_i hn
    simp [hs] at hn
  · rename_i hn
    simp [hs] at hn
  · rw [ht]
    rfl

theorem rename_of_no_target (ht : t.target? p = .ok none) : t.rename source p = .error .busy := by
  unfold rename
  split
  · rename_i hn
    simp [hs] at hn
  · rename_i hn
    simp [hs] at hn
  · rw [ht]
    rfl

theorem rename_of_slash (ht : t.target? p = .ok (some ⟨name, parent, true, hd⟩)) :
    t.rename source p = .error .notDirectory := by
  unfold rename
  split
  · rename_i hn
    simp [hs] at hn
  · rename_i hn
    simp [hs] at hn
  · rw [ht]
    rfl

theorem rename_of_target (ht : t.target? p = .ok (some ⟨name, parent, false, hd⟩)) :
    (t.node? (name :: parent) = some .directory ∧ t.rename source p = .error .isDirectory) ∨
      t.node? (name :: parent) ≠ some .directory ∧ ∃ hf hd' hf', t.rename source p =
        .ok ((t.removeFile source hf).putFile name parent bytes hd' hf') := by
  generalize hr : t.rename source p = r
  unfold rename at hr
  split at hr
  · rename_i hn
    simp [hs] at hn
  · rename_i hn
    simp [hs] at hn
  · rename_i hn
    obtain rfl := Node.file.inj (Option.some.inj (hs.symm.trans hn))
    rw [ht, Except.ok_bind] at hr
    simp only [Bool.false_eq_true, if_false] at hr
    split at hr
    · rename_i directory
      exact .inl ⟨directory, hr.symm⟩
    · rename_i file
      exact .inr ⟨file, _, _, _, hr.symm⟩

end

/-- Two trees with the same places, at which they have the same but for timestamps. -/
structure Alike (t t' : FileTree) : Prop where
  home : t'.home = t.home
  places : t'.entries.map Prod.fst = t.entries.map Prod.fst
  node : ∀ q, PageAccessors.Alike (t.node? q) (t'.node? q)

/-- Two ends of an operation on trees: the same failure, or two trees that are alike. -/
inductive AlikeResults : Except FileFault FileTree → Except FileFault FileTree → Prop where
  | ok {t t' : FileTree} (h : t.Alike t') : AlikeResults (.ok t) (.ok t')
  | error (e : FileFault) : AlikeResults (.error e) (.error e)

namespace Alike

theorem refl (t : FileTree) : t.Alike t := ⟨rfl, rfl, fun _ => .same _⟩

variable {t t' : FileTree} (h : t.Alike t')
include h

/-! ## Following paths -/

theorem step_eq : t'.step = t.step := by
  funext place piece
  have node := h.node place
  unfold FileTree.step
  generalize t.node? place = a at node
  generalize t'.node? place = b at node
  cases node <;> rfl

theorem walk_eq : t'.walk = t.walk := by
  funext place pieces
  rw [FileTree.walk, FileTree.walk, h.step_eq]

theorem start_eq : t'.start = t.start := by
  funext p
  rw [FileTree.start, FileTree.start, h.home]

theorem locate_eq : t'.locate = t.locate := by
  funext p
  rw [FileTree.locate, FileTree.locate, h.start_eq, h.walk_eq]

theorem isDirectory_eq (p : Path) : t'.isDirectory p = t.isDirectory p := by
  unfold isDirectory find?
  rw [h.locate_eq]
  cases t.locate p with
  | error e => rfl
  | ok q =>
    rw [Bool.eq_iff_iff]
    simp only [beq_iff_eq]
    exact (h.node q).eq_directory_iff

/-- A path has the same target in both trees. -/
theorem target?_cases (p : Path) :
    (∃ e, t.target? p = .error e ∧ t'.target? p = .error e) ∨
      (t.target? p = .ok none ∧ t'.target? p = .ok none) ∨
      ∃ name parent slash hd hd', t.target? p = .ok (some ⟨name, parent, slash, hd⟩) ∧
        t'.target? p = .ok (some ⟨name, parent, slash, hd'⟩) := by
  unfold target?
  rw [h.start_eq]
  cases t.start p with
  | error e => exact .inl ⟨e, rfl, rfl⟩
  | ok first =>
    simp only [Except.ok_bind]
    split
    · exact .inr (.inl ⟨rfl, rfl⟩)
    · rename_i last front _
      rw [h.walk_eq]
      cases t.walk first front.reverse with
      | error e => exact .inl ⟨e, rfl, rfl⟩
      | ok parent =>
        simp only [Except.ok_bind]
        split
        · rename_i fault hs
          refine .inl ⟨fault, rfl, ?_⟩
          split
          · rename_i hs'
            rw [h.step_eq, hs] at hs'
            cases hs'
            rfl
          · rename_i hs'
            rw [h.step_eq, hs] at hs'
            cases hs'
        · rename_i next hs
          have hs' : t'.step parent last = .ok next := by rw [h.step_eq, hs]
          split_ifs
          · refine .inr (.inl ⟨rfl, ?_⟩)
            split
            · simp_all
            · rfl
          · refine .inr (.inr ⟨last, parent, _, step_eq_ok hs, step_eq_ok hs', rfl, ?_⟩)
            split
            · simp_all
            · rfl

/-! ## Changes at a place -/

variable {name : String} {parent : Location} {bytes bytes' : ByteArray}

theorem addDirectory {hd hf hd' hf'} :
    (t.addDirectory name parent hd hf).Alike (t'.addDirectory name parent hd' hf') where
  home := h.home
  places := by simp only [FileTree.addDirectory, List.map_cons, h.places]
  node q := by
    rw [node?_addDirectory, node?_addDirectory]
    split_ifs
    · exact .same _
    · exact h.node q

theorem map_filter (place : Location) : (t'.entries.filter (·.1 ≠ place)).map Prod.fst =
    (t.entries.filter (·.1 ≠ place)).map Prod.fst := by
  have filter_map := fun l : List (Location × Node) =>
    (List.filter_map (f := Prod.fst) (p := fun q => decide (q ≠ place)) (l := l)).symm
  simp only [Function.comp_def] at filter_map
  rw [filter_map, filter_map, h.places]

theorem putFile (hb : PageAccessors.Alike (some (.file bytes)) (some (.file bytes')))
    {hd hf hd' hf'} :
    (t.putFile name parent bytes hd hf).Alike (t'.putFile name parent bytes' hd' hf') where
  home := h.home
  places := by simp only [FileTree.putFile, List.map_cons, h.map_filter]
  node q := by
    rw [node?_putFile, node?_putFile]
    split_ifs
    · exact hb
    · exact h.node q

theorem removeFile {place : Location} {hf hf'} :
    (t.removeFile place hf).Alike (t'.removeFile place hf') where
  home := h.home
  places := h.map_filter place
  node q := by
    rw [node?_removeFile, node?_removeFile]
    split_ifs
    · exact .same _
    · exact h.node q

/-! ## Operations -/

theorem makeDirectory (p : Path) : AlikeResults (t.makeDirectory p) (t'.makeDirectory p) := by
  unfold FileTree.makeDirectory
  rcases h.target?_cases p with ⟨e, he, he'⟩ | ⟨hn, hn'⟩ | ⟨name, parent, slash, hd, hd', ht, ht'⟩
  · rw [he, he']
    exact .error e
  · rw [hn, hn']
    exact .error _
  · rw [ht, ht', Except.ok_bind, Except.ok_bind]
    simp only
    by_cases hf : t.node? (name :: parent) = none
    · rw [dif_pos hf, dif_pos ((h.node _).eq_none_iff.2 hf)]
      exact .ok h.addDirectory
    · rw [dif_neg hf, dif_neg (mt (h.node _).eq_none_iff.1 hf)]
      exact .error _

theorem remove (p : Path) : AlikeResults (t.remove p) (t'.remove p) := by
  rcases h.target?_cases p with ⟨e, he, he'⟩ | ⟨hn, hn'⟩ | ⟨name, parent, slash, hd, hd', ht, ht'⟩
  · unfold FileTree.remove
    rw [he, he']
    exact .error e
  · unfold FileTree.remove
    rw [hn, hn']
    exact .error _
  · rcases (h.node (name :: parent)).kinds with ⟨hn, hn'⟩ | ⟨hn, hn'⟩ | ⟨bytes, bytes', hn, hn', -⟩
    · rw [(remove_of_target ht).1 hn, (remove_of_target ht').1 hn']
      exact .error _
    · rw [(remove_of_target ht).2.1 hn, (remove_of_target ht').2.1 hn']
      exact .error _
    · have removed := (remove_of_target ht).2.2 hn
      have removed' := (remove_of_target ht').2.2 hn'
      cases slash
      · obtain ⟨hf, he⟩ := removed
        obtain ⟨hf', he'⟩ := removed'
        rw [he, he']
        exact .ok h.removeFile
      · rw [if_pos rfl] at removed removed'
        rw [removed, removed']
        exact .error _

theorem rename (source : Location) (p : Path) :
    AlikeResults (t.rename source p) (t'.rename source p) := by
  rcases (h.node source).kinds with ⟨hs, hs'⟩ | ⟨hs, hs'⟩ | ⟨bytes, bytes', hs, hs', hb⟩
  · rw [rename_of_none hs, rename_of_none hs']
    exact .error _
  · rw [rename_of_directory hs, rename_of_directory hs']
    exact .error _
  rcases h.target?_cases p with ⟨e, he, he'⟩ | ⟨hn, hn'⟩ | ⟨name, parent, slash, hd, hd', ht, ht'⟩
  · rw [rename_eq_error hs he, rename_eq_error hs' he']
    exact .error e
  · rw [rename_of_no_target hs hn, rename_of_no_target hs' hn']
    exact .error _
  · cases slash with
    | true =>
      rw [rename_of_slash hs ht, rename_of_slash hs' ht']
      exact .error _
    | false =>
      have directory := (h.node (name :: parent)).eq_directory_iff
      rcases rename_of_target hs ht with ⟨hn, he⟩ | ⟨hn, hf, hd, hf', he⟩
      · rcases rename_of_target hs' ht' with ⟨-, he'⟩ | ⟨hn', -⟩
        · rw [he, he']
          exact .error _
        · exact absurd (directory.2 hn) hn'
      · rcases rename_of_target hs' ht' with ⟨hn', -⟩ | ⟨-, hf, hd, hf', he'⟩
        · exact absurd (directory.1 hn') hn
        · rw [he, he']
          rw [hs, hs'] at hb
          exact .ok (h.removeFile.putFile hb)

end Alike

end FileTree

namespace Disk

open FileTree

variable {α β : Type} {p : Path} {bytes bytes' : ByteArray}

/-- Two operations that do the same to trees that are alike. -/
def Parallel (a a' : Disk α) : Prop := ∀ t t' : FileTree, t.Alike t' →
  (a'.apply t').1 = (a.apply t).1 ∧ (a.apply t).2.Alike (a'.apply t').2

namespace Parallel

theorem pure (x : α) : Parallel (pure x) (Pure.pure x) := fun _ _ h => ⟨rfl, h⟩

theorem throw (e : FileFault) : Parallel (throw e : Disk α) (MonadExcept.throw e) :=
  fun _ _ h => ⟨rfl, h⟩

theorem ends {a a' : Disk α} (ha : Parallel a a') {t t' t₁ t₁' : FileTree} (h : t.Alike t')
    {r r' : Except FileFault α} (he : a.apply t = (r, t₁)) (he' : a'.apply t' = (r', t₁')) :
    r' = r ∧ t₁.Alike t₁' := by
  have ends := ha t t' h
  rwa [he, he'] at ends

theorem bind {a a' : Disk α} {f f' : α → Disk β} (ha : Parallel a a')
    (hf : ∀ x, Parallel (f x) (f' x)) : Parallel (a >>= f) (a' >>= f') := by
  intro t t' h
  rw [apply_bind, apply_bind]
  rcases he : a.apply t with ⟨r, t₁⟩
  rcases he' : a'.apply t' with ⟨r', t₁'⟩
  obtain ⟨rfl, tree⟩ := ha.ends h he he'
  cases r' with
  | error e => exact ⟨rfl, tree⟩
  | ok x => exact hf x _ _ tree

theorem tryCatch {a a' : Disk α} {f f' : FileFault → Disk α} (ha : Parallel a a')
    (hf : ∀ e, Parallel (f e) (f' e)) :
    Parallel (tryCatch a f) (MonadExcept.tryCatch a' f') := by
  intro t t' h
  rw [apply_tryCatch, apply_tryCatch]
  rcases he : a.apply t with ⟨r, t₁⟩
  rcases he' : a'.apply t' with ⟨r', t₁'⟩
  obtain ⟨rfl, tree⟩ := ha.ends h he he'
  cases r' with
  | error e => exact hf e _ _ tree
  | ok x => exact ⟨rfl, tree⟩

theorem orElseDo {a a' : Disk α} {cleanup : Disk Unit} (ha : Parallel a a')
    (hc : Parallel cleanup cleanup) : Parallel (orElseDo a cleanup) (Disk.orElseDo a' cleanup) :=
  ha.tryCatch fun e => hc.bind fun _ => .throw e

theorem change {f : FileTree → Except FileFault FileTree}
    (hf : ∀ t t' : FileTree, t.Alike t' → AlikeResults (f t) (f t')) :
    Parallel (change f) (Disk.change f) := by
  intro t t' h
  rw [apply_change, apply_change]
  have results := hf t t' h
  generalize f t = r at results
  generalize f t' = r' at results
  cases results with
  | ok alike => exact ⟨rfl, alike⟩
  | error e => exact ⟨rfl, h⟩

end Parallel

theorem parallel_unless_isDirectory (p : Path) (e : FileFault) :
    Parallel (do unless (← get).isDirectory p do throw e)
      (do unless (← get).isDirectory p do throw e) := by
  intro t t' h
  rw [apply_bind, apply_bind, apply_get, apply_get]
  simp only
  rw [h.isDirectory_eq]
  cases t.isDirectory p
  · exact ⟨rfl, h⟩
  · exact ⟨rfl, h⟩

theorem parallel_makeDirectory (p : Path) :
    Parallel (change (·.makeDirectory p)) (change (·.makeDirectory p)) :=
  .change fun _ _ h => h.makeDirectory p

theorem parallel_ensureDirectory (p : Path) :
    Parallel (ensureDirectory p) (ensureDirectory p) :=
  (parallel_makeDirectory p).tryCatch (parallel_unless_isDirectory p)

theorem parallel_makeDirectories (p : Path) :
    Parallel (makeDirectories p) (makeDirectories p) := by
  induction p using makeDirectories.induct with
  | case1 p hp =>
    rw [makeDirectories, if_pos hp]
    exact .pure ()
  | case2 p hp ih =>
    rw [makeDirectories, if_neg hp]
    refine (parallel_makeDirectory p).tryCatch fun e => ?_
    split_ifs
    · split
      · exact .throw e
      · rename_i outer ho
        exact (ih outer ho).bind fun _ => parallel_ensureDirectory p
    · exact parallel_unless_isDirectory p e

theorem freshName_eq {t t' : FileTree} (h : t.Alike t') (p : Path) :
    freshName t' p = freshName t p := by
  have names : t'.entries.map (fun e => e.1.headD "") = t.entries.map (fun e => e.1.headD "") := by
    have := congrArg (List.map fun q : Location => q.headD "") h.places
    rwa [List.map_map, List.map_map] at this
  rw [freshName, freshName, names]

theorem parallel_stage (hb : PageAccessors.Alike (some (.file bytes)) (some (.file bytes'))) :
    Parallel (stage p bytes) (stage p bytes') := by
  rw [stage_eq, stage_eq]
  refine (parallel_makeDirectories _).bind fun _ t t' h => ?_
  simp only [apply_bind, apply_get, apply_look]
  rw [h.locate_eq]
  cases t.locate p.stageDirectory with
  | error e => exact ⟨rfl, h⟩
  | ok parent =>
    have directory := (h.node parent).eq_directory_iff
    have free := (h.node (freshName t p :: parent)).eq_directory_iff
    simp only
    rw [freshName_eq h]
    by_cases hd : t.node? parent = some .directory ∧
        t.node? (freshName t p :: parent) ≠ some .directory
    · rw [dif_pos hd, dif_pos ⟨directory.2 hd.1, mt free.1 hd.2⟩]
      simp only [apply_bind, apply_set, apply_pure]
      exact ⟨trivial, h.putFile hb⟩
    · rw [dif_neg hd, dif_neg fun hd' => hd ⟨directory.1 hd'.1, mt free.2 hd'.2⟩]
      exact ⟨rfl, h⟩

theorem parallel_discard (s : Location) : Parallel (discard s) (discard s) := by
  intro t t' h
  have directory := (h.node s).eq_directory_iff
  rw [discard, apply_modify, apply_modify]
  refine ⟨rfl, ?_⟩
  simp only
  by_cases hd : t.node? s = some .directory
  · rw [dif_pos hd, dif_pos (directory.2 hd)]
    exact h
  · rw [dif_neg hd, dif_neg (mt directory.1 hd)]
    exact h.removeFile

theorem parallel_persist (s : Location) (p : Path) : Parallel (persist s p) (persist s p) :=
  (Parallel.change fun _ _ h => h.rename s p).orElseDo (parallel_discard s)

theorem parallel_remove (p : Path) : Parallel (change (·.remove p)) (change (·.remove p)) :=
  .change fun _ _ h => h.remove p

theorem parallel_writeAtomic (p : Path) (bytes : ByteArray) :
    Parallel (writeAtomic p bytes) (writeAtomic p bytes) :=
  (parallel_stage (.same _)).bind fun s => parallel_persist s p

/-- A file is written in the same way with one manifest at two times. -/
theorem parallel_writeWithManifest (p : Path) (contents : String) (provenance : Provenance)
    (time time' : String) :
    Parallel (writeWithManifest p contents { provenance with timestamp := time })
      (writeWithManifest p contents { provenance with timestamp := time' }) := by
  rw [writeWithManifest_eq, writeWithManifest_eq]
  have timed := PageAccessors.Alike.timed (Manifest.ofContents p contents provenance) time time'
  refine .bind ?_ fun s => ?_
  · exact (parallel_stage (.same _)).bind fun s =>
      ((parallel_stage timed).orElseDo (parallel_discard s)).bind fun s' => .pure (s, s')
  · refine ((parallel_persist s.1 p).orElseDo (parallel_discard s.2)).bind fun _ => ?_
    exact (parallel_persist s.2 p.manifest).orElseDo
      ((parallel_remove p).tryCatch fun _ => .pure ())

theorem parallel_removeManifest (p : Path) : Parallel (removeManifest p) (removeManifest p) := by
  refine (parallel_remove p.manifest).tryCatch fun e => ?_
  split_ifs
  · exact .pure ()
  · exact .throw e

theorem parallel_writeGenerated (time time' : String) (directory : Path) (file : GeneratedFile)
    (command : Option String) : Parallel (writeGenerated time directory file command)
      (writeGenerated time' directory file command) := by
  refine .bind ?_ fun _ => .pure _
  cases command with
  | none => exact (parallel_writeAtomic _ _).bind fun _ => parallel_removeManifest _
  | some command =>
    exact parallel_writeWithManifest _ _ (file.provenance "" command) time time'

end Disk

end PageAccessors
