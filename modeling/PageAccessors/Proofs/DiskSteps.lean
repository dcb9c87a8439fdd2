import PageAccessors.Proofs.Places

/-!
# What disk operations do

Directories are only ever added where there was nothing (`FileTree.Grown`), and everything else
changes one place (`FileTree.SetAt`). A file is staged under a name that no file has
(`stage_spec`), and from there it is moved to the place of its path, or it is gone again
(`persist_spec`), so that a write that fails leaves new directories at most, unless it is the
manifest that cannot be put in its place (`writeWithManifest_spec`, `removeManifest_spec`).
-/

namespace PageAccessors

/-- What is at a place stays, or becomes a directory if there was nothing. -/
def Kept (old new : Option Node) : Prop := new = old ∨ (old = none ∧ new = some .directory)

namespace Kept

variable {a b c : Option Node}

theorem refl (a : Option Node) : Kept a a := .inl rfl

theorem trans (h : Kept a b) (h' : Kept b c) : Kept a c := by
  rcases h with rfl | ⟨rfl, rfl⟩
  · exact h'
  · rcases h' with rfl | ⟨h, -⟩
    · exact .inr ⟨rfl, rfl⟩
    · cases h

theorem eq_some {n : Node} (h : Kept (some n) b) : b = some n := h.resolve_right nofun

theorem eq_none (h : Kept a none) : a = none := by
  rcases h with h | ⟨h, -⟩
  · exact h.symm
  · exact h

theorem eq_file {bytes : ByteArray} (h : Kept a (some (.file bytes))) :
    a = some (.file bytes) := by
  rcases h with h | ⟨-, h⟩
  · exact h.symm
  · cases h

end Kept

namespace FileTree

variable {t t' t'' : FileTree} {q x : Location} {n : Option Node}

/-- A tree with more directories than another one, and no other difference. -/
structure Grown (t t' : FileTree) : Prop where
  home : t'.home = t.home
  node : ∀ x, Kept (t.node? x) (t'.node? x)

theorem Grown.refl (t : FileTree) : t.Grown t := ⟨rfl, fun _ => .refl _⟩

theorem Grown.trans (h : t.Grown t') (h' : t'.Grown t'') : t.Grown t'' :=
  ⟨h'.home.trans h.home, fun x => (h.node x).trans (h'.node x)⟩

/-- A tree that differs from another one in what is at a place, if at all. -/
structure SetAt (t : FileTree) (q : Location) (n : Option Node) (t' : FileTree) : Prop where
  home : t'.home = t.home
  node : ∀ x, t'.node? x = if x = q then n else t.node? x

theorem SetAt.node_self (h : t.SetAt q n t') : t'.node? q = n := by rw [h.node, if_pos rfl]

theorem SetAt.node_of_ne (h : t.SetAt q n t') (hx : x ≠ q) : t'.node? x = t.node? x := by
  rw [h.node, if_neg hx]

theorem SetAt.undo {m : Option Node} (h : t.SetAt q n t') (hm : t.node? q = m) :
    t'.SetAt q m t := by
  refine ⟨h.home.symm, fun x => ?_⟩
  split_ifs with hx
  · rw [hx, hm]
  · rw [h.node_of_ne hx]

theorem makeDirectory_grown {p : Path} (h : t.makeDirectory p = .ok t') : t.Grown t' := by
  unfold makeDirectory at h
  rw [Except.bind_eq_ok_iff] at h
  obtain ⟨target, -, h⟩ := h
  cases target with
  | none => cases h
  | some target =>
    simp only at h
    split at h
    · rename_i hn
      obtain rfl := Except.ok.inj h
      refine ⟨rfl, fun x => ?_⟩
      rw [node?_addDirectory]
      split_ifs with hx
      · exact .inr ⟨hx ▸ hn, rfl⟩
      · exact .refl _
    · cases h

end FileTree

/-! ## Steps -/

namespace Disk

variable {α β : Type} {t t' : FileTree}

/-- What an operation does to a tree. -/
def apply (a : Disk α) (t : FileTree) : Except FileFault α × FileTree := a t

theorem apply_bind (a : Disk α) (f : α → Disk β) (t : FileTree) : (a >>= f).apply t =
    match a.apply t with
    | (.ok x, t₁) => (f x).apply t₁
    | (.error e, t₁) => (.error e, t₁) := by
  simp only [apply, bind, ExceptT.bind, ExceptT.mk, StateT.bind, ExceptT.bindCont]
  cases a t with
  | mk result next => cases result <;> rfl

theorem apply_tryCatch (a : Disk α) (f : FileFault → Disk α) (t : FileTree) :
    (tryCatch a f : Disk α).apply t =
      match a.apply t with
      | (.ok x, t₁) => (.ok x, t₁)
      | (.error e, t₁) => (f e).apply t₁ := by
  simp only [apply, tryCatch, tryCatchThe, MonadExceptOf.tryCatch, ExceptT.tryCatch, ExceptT.mk,
    bind, StateT.bind]
  cases a t with
  | mk result next => cases result <;> rfl

theorem apply_change (f : FileTree → Except FileFault FileTree) (t : FileTree) :
    (change f).apply t = match f t with
      | .ok t' => (.ok (), t')
      | .error e => (.error e, t) := rfl

theorem apply_pure (a : α) (t : FileTree) : (pure a : Disk α).apply t = (.ok a, t) := rfl

theorem apply_throw (e : FileFault) (t : FileTree) :
    (throw e : Disk α).apply t = (.error e, t) := rfl

theorem apply_get (t : FileTree) : (get : Disk FileTree).apply t = (.ok t, t) := rfl

theorem apply_set (t t' : FileTree) : (set t' : Disk PUnit).apply t = (.ok (), t') := rfl

theorem apply_look (f : FileTree → Except FileFault α) (t : FileTree) :
    (look f).apply t = (f t, t) := rfl

theorem apply_modify (f : FileTree → FileTree) (t : FileTree) :
    (modify f : Disk PUnit).apply t = (.ok (), f t) := rfl

/-! ## Directories -/

/-- Failing unless a path is a directory changes nothing. -/
theorem apply_unless_isDirectory (p : Path) (e : FileFault) (t : FileTree) :
    ((do unless (← get).isDirectory p do throw e : Disk Unit).apply t).2 = t := by
  rw [apply_bind, apply_get]
  cases h : t.isDirectory p <;> simp [h, apply_throw, apply_pure]

theorem ensureDirectory_grown (p : Path) (t : FileTree) :
    t.Grown ((ensureDirectory p).apply t).2 := by
  rw [ensureDirectory, apply_tryCatch, apply_change]
  cases h : t.makeDirectory p with
  | ok t' => exact FileTree.makeDirectory_grown h
  | error e =>
    simp only [apply_unless_isDirectory]
    exact .refl t

/-- Making directories adds directories, whether it comes to the end of the path or not. -/
theorem makeDirectories_grown (p : Path) (t : FileTree) :
    t.Grown ((makeDirectories p).apply t).2 := by
  induction p using makeDirectories.induct generalizing t with
  | case1 p hp =>
    rw [makeDirectories, if_pos hp]
    exact .refl t
  | case2 p hp ih =>
    rw [makeDirectories, if_neg hp, apply_tryCatch, apply_change]
    cases h : t.makeDirectory p with
    | ok t' => exact FileTree.makeDirectory_grown h
    | error e =>
      simp only
      split_ifs with he
      · split
        · exact .refl t
        · rename_i outer ho
          rw [apply_bind]
          have first := ih outer ho t
          rcases hm : (makeDirectories outer).apply t with ⟨e | _, t₁⟩
          · rw [hm] at first
            exact first
          · rw [hm] at first
            exact first.trans (ensureDirectory_grown p t₁)
      · simp only [apply_unless_isDirectory]
        exact .refl t

/-! ## Temporary files -/

theorem le_foldl_max : ∀ (l : List Nat) (a : Nat), a ≤ l.foldl max a ∧ ∀ n ∈ l, n ≤ l.foldl max a
  | [], a => ⟨Nat.le_refl a, by simp⟩
  | m :: l, a => by
    obtain ⟨ha, hl⟩ := le_foldl_max l (max a m)
    rw [List.foldl_cons, List.forall_mem_cons]
    exact ⟨by omega, by omega, hl⟩

theorem length_lt_freshName {p : Path} {name : String}
    (h : name ∈ t.entries.map (fun e => e.1.headD "") ++ p.pieces) :
    name.length < (freshName t p).length := by
  have := (le_foldl_max _ 0).2 _ (List.mem_map_of_mem (f := String.length) h)
  have hl : ".tmp".length = 4 := rfl
  simp only [freshName, String.length_append, String.length_ofList, List.length_replicate]
  omega

theorem node?_freshName (t : FileTree) (p : Path) (parent : Location) :
    t.node? (freshName t p :: parent) = none := by
  cases h : t.node? (freshName t p :: parent) with
  | none => rfl
  | some n =>
    have hm := List.mem_map_of_mem (f := fun e => e.1.headD "")
      ((FileTree.node?_eq_some_iff (by simp)).1 h)
    exact absurd (length_lt_freshName (p := p) (List.mem_append_left _ hm)) (lt_irrefl _)

variable {p : Path} {front : List String} {name : String} {bytes : ByteArray}

/-- Neither the file of a path nor its manifest is staged in the place of the path. -/
theorem freshName_ne_place (h : p.Ends front name) (t : FileTree) (parent home : Location) :
    freshName t p :: parent ≠ p.place home ∧ freshName t p.manifest :: parent ≠ p.place home := by
  have hm : name ∈ p.pieces := by simp [h.pieces]
  have hm' : manifestName name ∈ p.manifest.pieces := by simp [h.manifest.pieces]
  have longer : name.length ≤ (manifestName name).length := by
    rw [manifestName, String.length_append]
    exact Nat.le_add_right _ _
  rw [h.place]
  constructor
  · intro he
    have := length_lt_freshName (t := t) (List.mem_append_right _ hm)
    rw [(List.cons.inj he).1] at this
    exact lt_irrefl _ this
  · intro he
    have := length_lt_freshName (t := t) (List.mem_append_right _ hm')
    rw [(List.cons.inj he).1] at this
    exact absurd longer (not_le_of_gt this)

theorem stage_eq (p : Path) (bytes : ByteArray) : stage p bytes =
    (makeDirectories p.stageDirectory >>= fun _ => get >>= fun t =>
      look (·.locate p.stageDirectory) >>= fun parent =>
      if h : t.node? parent = some .directory ∧ t.node? (freshName t p :: parent) ≠ some .directory
      then set (t.putFile (freshName t p) parent bytes h.1 h.2) >>= fun _ =>
        pure (freshName t p :: parent)
      else throw .notFound) := rfl

/-- A file is staged under a new name, or there are new directories at most. -/
theorem stage_spec (p : Path) (bytes : ByteArray) (t : FileTree) :
    (∃ e t', (stage p bytes).apply t = (.error e, t') ∧ t.Grown t') ∨
      ∃ t₀ parent t', t.Grown t₀ ∧
        (stage p bytes).apply t = (.ok (freshName t₀ p :: parent), t') ∧
        t₀.SetAt (freshName t₀ p :: parent) (some (.file bytes)) t' := by
  have grown := makeDirectories_grown p.stageDirectory t
  rw [stage_eq, apply_bind]
  rcases hm : (makeDirectories p.stageDirectory).apply t with ⟨e | _, t₀⟩
  · rw [hm] at grown
    exact .inl ⟨e, t₀, rfl, grown⟩
  rw [hm] at grown
  simp only [apply_bind, apply_get, apply_look]
  cases hl : t₀.locate p.stageDirectory with
  | error e => exact .inl ⟨e, t₀, rfl, grown⟩
  | ok parent =>
    simp only
    split_ifs with hd
    · refine .inr ⟨t₀, parent, t₀.putFile (freshName t₀ p) parent bytes hd.1 hd.2, grown, ?_, rfl,
        fun x => FileTree.node?_putFile x⟩
      rw [apply_bind, apply_set]
      rfl
    · exact .inl ⟨_, t₀, rfl, grown⟩

theorem discard_spec {s : Location} (h : t.node? s ≠ some .directory) :
    ∃ t', (discard s).apply t = (.ok (), t') ∧ t.SetAt s none t' := by
  refine ⟨t.removeFile s h, ?_, rfl, fun x => FileTree.node?_removeFile x⟩
  rw [discard, apply_modify, dif_neg h]

end Disk

namespace FileTree

variable {t t' : FileTree} {p : Path} {front : List String} {name : String} {s : Location}
  {bytes : ByteArray}

/-- A file that can be moved to a path is then in its place, and nowhere else. -/
theorem rename_spec (h : p.Ends front name) (hs : t.node? s = some (.file bytes))
    (hr : t.rename s p = .ok t') : t.locate p = .ok (p.place t.home) ∧
      t.node? (p.place t.home) ≠ some .directory ∧
      ∃ rest, t.SetAt s none rest ∧ rest.SetAt (p.place t.home) (some (.file bytes)) t' := by
  cases hl : t.locate p with
  | error f =>
    have ht := h.target?_of_locate_error hl
    unfold rename at hr
    split at hr
    · cases hr
    · cases hr
    · rw [ht] at hr
      cases hr
  | ok q =>
    obtain ⟨parent, hq⟩ : ∃ parent, p.place t.home = name :: parent := ⟨_, h.place _⟩
    obtain rfl : q = name :: parent := hq ▸ eq_place_of_locate hl
    obtain ⟨hd, ht⟩ := h.target?_of_locate hl
    unfold rename at hr
    split at hr
    · cases hr
    · cases hr
    · rename_i bytes' hs'
      obtain rfl : bytes' = bytes := by
        rw [hs] at hs'
        cases hs'
        rfl
      rw [ht, Except.ok_bind] at hr
      simp only [Bool.false_eq_true, if_false] at hr
      split at hr
      · cases hr
      · rename_i hn
        obtain rfl := Except.ok.inj hr
        have source : t.node? s ≠ some .directory := by simp [hs]
        rw [hq]
        exact ⟨rfl, hn, t.removeFile s source, ⟨rfl, fun x => node?_removeFile x⟩, rfl,
          fun x => node?_putFile x⟩

/-- A file can be moved to a path that leads to no directory. -/
theorem exists_rename (h : p.Ends front name) (hl : t.locate p = .ok (p.place t.home))
    (hd : t.node? (p.place t.home) ≠ some .directory) (hs : t.node? s = some (.file bytes)) :
    ∃ t', t.rename s p = .ok t' := by
  rw [h.place] at hl hd
  obtain ⟨parent, ht⟩ := h.target?_of_locate hl
  unfold rename
  split
  · rename_i hn
    rw [hs] at hn
    cases hn
  · rename_i hn
    rw [hs] at hn
    cases hn
  · rw [ht, Except.ok_bind]
    simp only [Bool.false_eq_true, if_false]
    rw [dif_neg hd]
    exact ⟨_, rfl⟩

/-- A file that a path leads to can be removed, and nothing else can. -/
theorem remove_cases (h : p.Ends front name) (hl : t.locate p = .ok s) :
    (t.node? s = none ∧ t.remove p = .error .notFound) ∨
      (t.node? s = some .directory ∧ t.remove p = .error .isDirectory) ∨
      ∃ bytes t', t.node? s = some (.file bytes) ∧ t.remove p = .ok t' ∧ t.SetAt s none t' := by
  obtain ⟨parent, hq⟩ : ∃ parent, p.place t.home = name :: parent := ⟨_, h.place _⟩
  obtain rfl : s = name :: parent := hq ▸ eq_place_of_locate hl
  obtain ⟨hd, ht⟩ := h.target?_of_locate hl
  unfold remove
  rw [ht, Except.ok_bind]
  simp only
  split
  · rename_i hn
    exact .inl ⟨hn, rfl⟩
  · rename_i hn
    exact .inr (.inl ⟨hn, rfl⟩)
  · rename_i bytes hn
    exact .inr (.inr ⟨bytes, _, hn, rfl, rfl, fun x => node?_removeFile x⟩)

theorem setAt_refl (h : t.node? s = none) : t.SetAt s none t := by
  refine ⟨rfl, fun x => ?_⟩
  split_ifs with hx
  · rw [hx, h]
  · rfl

end FileTree

/-! ## Writing -/

namespace Disk

open FileTree

variable {α : Type} {t t' : FileTree} {p : Path} {front : List String} {name : String}
  {s : Location} {bytes : ByteArray}

theorem apply_orElseDo (a : Disk α) (cleanup : Disk Unit) (t : FileTree) :
    (orElseDo a cleanup).apply t =
      match a.apply t with
      | (.ok x, t₁) => (.ok x, t₁)
      | (.error e, t₁) => (cleanup >>= fun _ => throw e : Disk α).apply t₁ := by
  rw [orElseDo, apply_tryCatch]

theorem persist_of_rename_error {e : FileFault} (hs : t.node? s ≠ some .directory)
    (hr : t.rename s p = .error e) :
    ∃ t', (persist s p).apply t = (.error e, t') ∧ t.SetAt s none t' := by
  obtain ⟨t', hd, h₁⟩ := discard_spec hs
  refine ⟨t', ?_, h₁⟩
  rw [persist, apply_orElseDo, apply_change, hr]
  simp only [apply_bind, hd, apply_throw]

/-- A temporary file is moved to the place of a path, or it is gone, which it is only if the path
leads nowhere or to a directory. -/
theorem persist_spec (h : p.Ends front name) (hs : t.node? s = some (.file bytes)) :
    (t.locate p = .ok (p.place t.home) ∧ t.node? (p.place t.home) ≠ some .directory ∧
      ∃ rest t', (persist s p).apply t = (.ok (), t') ∧ t.SetAt s none rest ∧
        rest.SetAt (p.place t.home) (some (.file bytes)) t') ∨
      ∃ e t', (persist s p).apply t = (.error e, t') ∧ t.SetAt s none t' ∧
        (t.locate p = .ok (p.place t.home) → t.node? (p.place t.home) = some .directory) := by
  cases hr : t.rename s p with
  | ok t' =>
    obtain ⟨hl, hn, rest, h₁, h₂⟩ := rename_spec h hs hr
    refine .inl ⟨hl, hn, rest, t', ?_, h₁, h₂⟩
    rw [persist, apply_orElseDo, apply_change, hr]
  | error e =>
    obtain ⟨t', hp, h₁⟩ := persist_of_rename_error (by simp [hs]) hr
    refine .inr ⟨e, t', hp, h₁, fun hl => ?_⟩
    by_contra hd
    obtain ⟨t'', hr'⟩ := exists_rename h hl hd hs
    rw [hr] at hr'
    cases hr'

section Moves

variable {t₀ t₁ t₂ rest : FileTree} {q : Location} {n m : Option Node}

/-- What was added and taken away again leaves no trace. -/
theorem grown_of_setAt (h : t.Grown t₀) (hn : t₀.node? s = none) (h₁ : t₀.SetAt s n t₁)
    (h₂ : t₁.Grown t₂) (h₃ : t₂.SetAt s none t') : t.Grown t' := by
  refine ⟨h₃.home.trans (h₂.home.trans (h₁.home.trans h.home)), fun x => ?_⟩
  by_cases hx : x = s
  · have := h.node s
    rw [hn] at this
    rw [hx, h₃.node_self, this.eq_none]
    exact .refl _
  · have := h₂.node x
    rw [h₁.node_of_ne hx] at this
    rw [h₃.node_of_ne hx]
    exact (h.node x).trans this

/-- What was added, and taken away again after another change, leaves the other change. -/
theorem setAt_of_setAt (hn : t₀.node? s = none) (hne : s ≠ q) (h₁ : t₀.SetAt s n t₁)
    (h₂ : t₁.SetAt q m t₂) (h₃ : t₂.SetAt s none t') : t₀.SetAt q m t' := by
  refine ⟨h₃.home.trans (h₂.home.trans h₁.home), fun x => ?_⟩
  rw [h₃.node, h₂.node, h₁.node]
  split_ifs with hs hx hx
  · exact absurd (hs.symm.trans hx) hne
  · rw [hs, hn]
  · rfl
  · rfl

theorem setAt_of_move (hn : t₀.node? s = none) (h₁ : t₀.SetAt s n t₁) (h₂ : t₁.SetAt s none rest)
    (h₃ : rest.SetAt q m t') : t₀.SetAt q m t' := by
  refine ⟨h₃.home.trans (h₂.home.trans h₁.home), fun x => ?_⟩
  rw [h₃.node, h₂.node, h₁.node]
  split_ifs with hx hs
  · rfl
  · rw [hs, hn]
  · rfl

theorem setAt_setAt (h₁ : t₀.SetAt q n t₁) (h₂ : t₁.SetAt q m t') : t₀.SetAt q m t' := by
  refine ⟨h₂.home.trans h₁.home, fun x => ?_⟩
  rw [h₂.node, h₁.node]
  split_ifs <;> rfl

theorem locate_of_setAt (hl : t.locate p = .ok q) (h : t.SetAt s n t')
    (hs : t.node? s ≠ some .directory) : t'.locate p = .ok q := by
  refine locate_mono h.home (fun x hx => ?_) hl
  rw [h.node_of_ne, hx]
  rintro rfl
  exact hs hx

end Moves

/-- A file that is written is in its place, or there are new directories at most. -/
theorem writeAtomic_spec (h : p.Ends front name) (bytes : ByteArray) (t : FileTree) :
    (∃ e t', (writeAtomic p bytes).apply t = (.error e, t') ∧ t.Grown t') ∨
      ∃ t₀ t', (writeAtomic p bytes).apply t = (.ok (), t') ∧ t.Grown t₀ ∧
        t₀.node? (p.place t.home) ≠ some .directory ∧
        t₀.SetAt (p.place t.home) (some (.file bytes)) t' ∧
        t'.locate p = .ok (p.place t.home) := by
  rw [writeAtomic, apply_bind]
  rcases stage_spec p bytes t with ⟨e, t', hs, hg⟩ | ⟨t₀, parent, t₁, hg, hs, h₁⟩
  · rw [hs]
    exact .inl ⟨e, t', rfl, hg⟩
  rw [hs]
  have hn := node?_freshName t₀ p parent
  have home : t₁.home = t.home := h₁.home.trans hg.home
  rcases persist_spec h h₁.node_self with ⟨hl, hd, rest, t', hp, h₂, h₃⟩ | ⟨e, t', hp, h₂, -⟩
  · rw [home] at hl hd h₃
    have hd₀ : t₀.node? (p.place t.home) ≠ some .directory := fun hq => by
      rw [h₁.node_of_ne, hq] at hd
      · exact hd rfl
      · rintro he
        rw [he, hn] at hq
        cases hq
    refine .inr ⟨t₀, t', hp, hg, hd₀, setAt_of_move hn h₁ h₂ h₃, ?_⟩
    refine locate_of_setAt (locate_of_setAt hl h₂ (by simp [h₁.node_self])) h₃ fun hq => ?_
    rw [h₂.node] at hq
    split_ifs at hq
    exact hd hq
  · exact .inl ⟨e, t', hp, grown_of_setAt hg hn h₁ (.refl t₁) h₂⟩

theorem locate_manifest_place (h : p.Ends front name) (hl : t.locate p = .ok (p.place t.home))
    (length : (manifestName name).utf8ByteSize ≤ 255) :
    t.locate p.manifest = .ok (p.manifest.place t.home) := by
  rw [h.place_manifest, h.place, List.tail_cons]
  rw [h.place] at hl
  exact h.locate_manifest hl length

/-- The manifest of a file is gone, unless it is a directory or its name is none. -/
theorem removeManifest_spec (h : p.Ends front name) (hl : t.locate p = .ok (p.place t.home)) :
    (∃ t', (removeManifest p).apply t = (.ok (), t') ∧
        t.node? (p.manifest.place t.home) ≠ some .directory ∧
        t.SetAt (p.manifest.place t.home) none t') ∨
      ∃ e, (removeManifest p).apply t = (.error e, t) ∧
        ((manifestName name).utf8ByteSize ≤ 255 →
          t.node? (p.manifest.place t.home) = some .directory) := by
  rw [removeManifest, apply_tryCatch, apply_change]
  by_cases length : (manifestName name).utf8ByteSize ≤ 255
  · have hm := locate_manifest_place h hl length
    rcases remove_cases h.manifest hm with ⟨hn, hr⟩ | ⟨hn, hr⟩ | ⟨bytes, t', hn, hr, h₁⟩
    · rw [hr]
      exact .inl ⟨t, rfl, by simp [hn], setAt_refl hn⟩
    · rw [hr]
      exact .inr ⟨_, rfl, fun _ => hn⟩
    · rw [hr]
      exact .inl ⟨t', rfl, by simp [hn], h₁⟩
  · rw [h.place] at hl
    rw [remove, h.manifest.target?_of_locate_error (h.locate_manifest_error hl length)]
    exact .inr ⟨_, rfl, fun hle => absurd hle length⟩

/-! ## Writing a file with its manifest -/

/-- Stages the bytes of a file and of its manifest. -/
def stageBoth (p : Path) (bytes beside : ByteArray) : Disk (Location × Location) :=
  stage p bytes >>= fun s =>
    orElseDo (stage p.manifest beside) (discard s) >>= fun s' => pure (s, s')

/-- Moves a staged manifest to its path, or removes the file that it is for. -/
def moveManifest (p : Path) (s' : Location) : Disk Unit :=
  orElseDo (persist s' p.manifest) (tryCatch (change (·.remove p)) fun _ => pure ())

/-- Moves a staged file and its manifest to their paths. -/
def moveBoth (p : Path) (s s' : Location) : Disk Unit :=
  orElseDo (persist s p) (discard s') >>= fun _ => moveManifest p s'

theorem writeWithManifest_eq (p : Path) (contents : String) (provenance : Provenance) :
    writeWithManifest p contents provenance = (stageBoth p contents.toUTF8
      (Manifest.ofContents p contents provenance).render.toUTF8 >>= fun s =>
        moveBoth p s.1 s.2) := by
  rw [stageBoth]
  simp only [bind_assoc, pure_bind]
  rfl

/-- Two temporary files that a tree has more than another one. -/
structure Staged (g t : FileTree) (s s' : Location) (bytes beside : ByteArray) : Prop where
  free : g.node? s = none
  free' : g.node? s' = none
  ne : s ≠ s'
  added : ∃ half, g.SetAt s (some (.file bytes)) half ∧ half.SetAt s' (some (.file beside)) t

theorem Staged.node_file {g : FileTree} {s' : Location} {beside : ByteArray}
    (h : Staged g t s s' bytes beside) : t.node? s = some (.file bytes) := by
  obtain ⟨half, h₁, h₂⟩ := h.added
  rw [h₂.node_of_ne h.ne, h₁.node_self]

/-- Both are staged under new names, or there are new directories at most. -/
theorem stageBoth_spec (p : Path) (bytes beside : ByteArray) (t : FileTree) :
    (∃ e t', (stageBoth p bytes beside).apply t = (.error e, t') ∧ t.Grown t') ∨
      ∃ g t' a b q r, t.Grown g ∧ (stageBoth p bytes beside).apply t =
          (.ok (freshName a p :: q, freshName b p.manifest :: r), t') ∧
        Staged g t' (freshName a p :: q) (freshName b p.manifest :: r) bytes beside := by
  rw [stageBoth, apply_bind]
  rcases stage_spec p bytes t with ⟨e, t', hs, hg⟩ | ⟨t₀, q, t₁, hg, hs, h₁⟩
  · rw [hs]
    exact .inl ⟨e, t', rfl, hg⟩
  rw [hs]
  simp only [apply_bind, apply_orElseDo]
  have none₀ := node?_freshName t₀ p q
  rcases stage_spec p.manifest beside t₁ with ⟨e, t₂, hs', hg'⟩ | ⟨t₂, r, t', hg', hs', h₂⟩
  · rw [hs']
    have file := hg'.node (freshName t₀ p :: q)
    rw [h₁.node_self] at file
    obtain ⟨t', hd, h₃⟩ := discard_spec (by rw [file.eq_some]; simp)
    simp only [hd, apply_throw]
    exact .inl ⟨e, t', rfl, grown_of_setAt hg none₀ h₁ hg' h₃⟩
  · rw [hs']
    have file := hg'.node (freshName t₀ p :: q)
    rw [h₁.node_self] at file
    have none₂ := node?_freshName t₂ p.manifest r
    have ne : freshName t₀ p :: q ≠ freshName t₂ p.manifest :: r := by
      intro he
      rw [he, none₂] at file
      cases file.eq_some
    obtain ⟨g, -, hn⟩ := discard_spec (by rw [file.eq_some]; simp)
    refine .inr ⟨g, t', t₀, t₂, q, r, grown_of_setAt hg none₀ h₁ hg' hn, rfl, hn.node_self, ?_, ne,
      t₂, hn.undo file.eq_some, h₂⟩
    rw [hn.node_of_ne ne.symm, none₂]

section

variable {g half : FileTree} {s' : Location} {beside : ByteArray}

/-- With the file in its place, the manifest is moved to its own, or neither is there. -/
theorem moveManifest_spec (h : p.Ends front name) (free : g.node? s' = none)
    (hq : s' ≠ p.place g.home) (hl : g.locate p = .ok (p.place g.home))
    (hd : g.node? (p.place g.home) ≠ some .directory)
    (h₁ : g.SetAt s' (some (.file beside)) half)
    (h₂ : half.SetAt (p.place g.home) (some (.file bytes)) t) :
    ∃ t', ((moveManifest p s').apply t = (.ok (), t') ∧
        g.locate p.manifest = .ok (p.manifest.place g.home) ∧
        g.node? (p.manifest.place g.home) ≠ some .directory ∧
        ∃ rest, g.SetAt (p.place g.home) (some (.file bytes)) rest ∧
          rest.SetAt (p.manifest.place g.home) (some (.file beside)) t') ∨
      ∃ e, (moveManifest p s').apply t = (.error e, t') ∧ g.SetAt (p.place g.home) none t' ∧
        ((manifestName name).utf8ByteSize ≤ 255 →
          g.node? (p.manifest.place g.home) = some .directory) := by
  have file : t.node? s' = some (.file beside) := by rw [h₂.node_of_ne hq, h₁.node_self]
  have home : t.home = g.home := h₂.home.trans h₁.home
  rw [moveManifest, apply_orElseDo]
  rcases persist_spec h.manifest file with ⟨hl', hm, rest, t', hp, h₃, h₄⟩ | ⟨e, t₁, hp, h₃, barred⟩
  · rw [home] at hl' hm h₄
    have hgl : g.locate p.manifest = .ok (p.manifest.place g.home) :=
      locate_of_setAt (locate_of_setAt hl' (h₂.undo rfl) (by simp [h₂.node_self]))
        (h₁.undo free) (by simp [h₁.node_self])
    have hgm : g.node? (p.manifest.place g.home) ≠ some .directory := fun hn => by
      rw [h₂.node_of_ne, h₁.node_of_ne, hn] at hm
      · exact hm rfl
      · rintro he
        rw [he, free] at hn
        cases hn
      · rintro he
        exact hd (he ▸ hn)
    rw [hp]
    exact ⟨t', .inl ⟨rfl, hgl, hgm, rest, setAt_of_setAt free hq h₁ h₂ h₃, h₄⟩⟩
  · have h₃' := setAt_of_setAt free hq h₁ h₂ h₃
    have directory : (manifestName name).utf8ByteSize ≤ 255 →
        g.node? (p.manifest.place g.home) = some .directory := by
      intro length
      have hm := locate_of_setAt (locate_manifest_place h hl length) h₁ (by simp [free])
      have hm' := locate_of_setAt hm h₂ (by rwa [h₁.node_of_ne hq.symm])
      rw [home] at barred
      have there := barred hm'
      rw [h₂.node, h₁.node] at there
      split_ifs at there
      · cases there
      · cases there
      · exact there
    rw [hp]
    simp only [apply_bind, apply_tryCatch, apply_change]
    rcases remove_cases h (locate_of_setAt hl h₃' hd) with ⟨hn, -⟩ | ⟨hn, -⟩ | ⟨_, t₂, -, hr, h₄⟩
    · rw [h₃'.node_self] at hn
      cases hn
    · rw [h₃'.node_self] at hn
      cases hn
    · rw [hr]
      exact ⟨t₂, .inr ⟨e, rfl, setAt_setAt h₃' h₄, directory⟩⟩

/-- If the file cannot be moved, both temporary files are gone. -/
theorem moveBoth_of_persist_error (hs : Staged g t s s' bytes beside) {e : FileFault}
    {t₃ : FileTree} (hp : (persist s p).apply t = (.error e, t₃)) (h₃ : t.SetAt s none t₃) :
    ∃ t', (moveBoth p s s').apply t = (.error e, t') ∧ g.Grown t' := by
  obtain ⟨t₁, h₁, h₂⟩ := hs.added
  have h₃' := setAt_of_setAt hs.free hs.ne h₁ h₂ h₃
  obtain ⟨t', hd, h₄⟩ := discard_spec (by rw [h₃'.node_self]; simp)
  refine ⟨t', ?_, grown_of_setAt (.refl g) hs.free' h₃' (.refl t₃) h₄⟩
  rw [moveBoth, apply_bind, apply_orElseDo, hp]
  simp only [apply_bind, hd, apply_throw]

/-- Both are moved to their places; or both are gone; or the manifest could not be put in its
place, and neither it nor what was moved to the path is there. -/
theorem moveBoth_spec (h : p.Ends front name) (hs : Staged g t s s' bytes beside)
    (hq : s ≠ p.place g.home) (hq' : s' ≠ p.place g.home) :
    (∃ e t', (moveBoth p s s').apply t = (.error e, t') ∧ g.Grown t' ∧
        (g.locate p = .ok (p.place g.home) → g.node? (p.place g.home) = some .directory)) ∨
      ∃ t', g.locate p = .ok (p.place g.home) ∧ g.node? (p.place g.home) ≠ some .directory ∧
        (((moveBoth p s s').apply t = (.ok (), t') ∧
          g.locate p.manifest = .ok (p.manifest.place g.home) ∧
          g.node? (p.manifest.place g.home) ≠ some .directory ∧
          ∃ half, g.SetAt (p.place g.home) (some (.file bytes)) half ∧
            half.SetAt (p.manifest.place g.home) (some (.file beside)) t') ∨
        ∃ e, (moveBoth p s s').apply t = (.error e, t') ∧ g.SetAt (p.place g.home) none t' ∧
          ((manifestName name).utf8ByteSize ≤ 255 →
            g.node? (p.manifest.place g.home) = some .directory)) := by
  obtain ⟨t₁, h₁, h₂⟩ := hs.added
  have home : t.home = g.home := h₂.home.trans h₁.home
  rcases persist_spec h hs.node_file with ⟨hl, hd, rest, t₃, hp, h₃, h₄⟩ | ⟨e, t₃, hp, h₃, taken⟩
  · -- The file is in its place, and without it the tree has one temporary file more.
    rw [home] at hl hd h₄
    have h₃' := setAt_of_setAt hs.free hs.ne h₁ h₂ h₃
    have free' : t₁.node? s' = none := by rw [h₁.node_of_ne hs.ne.symm, hs.free']
    have hgl : g.locate p = .ok (p.place g.home) :=
      locate_of_setAt (locate_of_setAt hl (h₂.undo free') (by simp [h₂.node_self]))
        (h₁.undo hs.free) (by simp [h₁.node_self])
    rw [h₂.node_of_ne hq'.symm, h₁.node_of_ne hq.symm] at hd
    obtain ⟨t', ht⟩ := moveManifest_spec h hs.free' hq' hgl hd h₃' h₄
    rw [moveBoth, apply_bind, apply_orElseDo, hp]
    exact .inr ⟨t', hgl, hd, ht⟩
  · obtain ⟨t', hm, hg⟩ := moveBoth_of_persist_error hs hp h₃
    refine .inl ⟨e, t', hm, hg, fun hl => ?_⟩
    by_contra hd
    have half := locate_of_setAt hl h₁ (by simp [hs.free])
    have there := locate_of_setAt half h₂ (by simp [h₁.node_of_ne hs.ne.symm, hs.free'])
    rw [home] at taken
    have directory := taken there
    rw [h₂.node_of_ne hq'.symm, h₁.node_of_ne hq.symm] at directory
    exact hd directory

end

/-- A file and its manifest are in their places; or there are new directories at most; or the
manifest could not be put in its place, and the file is gone. -/
theorem writeWithManifest_spec (h : p.Ends front name) (contents : String)
    (provenance : Provenance) (t : FileTree) :
    (∃ e t', (writeWithManifest p contents provenance).apply t = (.error e, t') ∧ t.Grown t') ∨
      ∃ g t', t.Grown g ∧ g.locate p = .ok (p.place t.home) ∧
        g.node? (p.place t.home) ≠ some .directory ∧
        (((writeWithManifest p contents provenance).apply t = (.ok (), t') ∧
          g.locate p.manifest = .ok (p.manifest.place t.home) ∧
          g.node? (p.manifest.place t.home) ≠ some .directory ∧
          ∃ half, g.SetAt (p.place t.home) (some (.file contents.toUTF8)) half ∧
            half.SetAt (p.manifest.place t.home) (some (.file
              (Manifest.ofContents p contents provenance).render.toUTF8)) t') ∨
        ∃ e, (writeWithManifest p contents provenance).apply t = (.error e, t') ∧
          g.SetAt (p.place t.home) none t' ∧ ((manifestName name).utf8ByteSize ≤ 255 →
            g.node? (p.manifest.place t.home) = some .directory)) := by
  rw [writeWithManifest_eq, apply_bind]
  rcases stageBoth_spec p contents.toUTF8
    (Manifest.ofContents p contents provenance).render.toUTF8 t with
    ⟨e, t', hs, hg⟩ | ⟨g, t₁, a, b, q, r, hg, hs, staged⟩
  · rw [hs]
    exact .inl ⟨e, t', rfl, hg⟩
  have moved := moveBoth_spec h staged (freshName_ne_place h a q g.home).1
    (freshName_ne_place h b r g.home).2
  rw [hg.home] at moved
  rw [hs]
  simp only
  rcases moved with ⟨e, t', hm, hg', -⟩ | ⟨t', hl, hd, hm⟩
  · exact .inl ⟨e, t', hm, hg.trans hg'⟩
  · exact .inr ⟨g, t', hg, hl, hd, hm⟩

end Disk

end PageAccessors
