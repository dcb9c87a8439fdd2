import PageAccessors.Proofs.Emitted

/-!
# Writing over files in place

Where a path leads to a file beside its manifest, writing does not fail: the directories are there
(`Disk.makeDirectories_in_place`), temporary files can be put beside the file
(`Disk.stageBoth_in_place`), and nothing keeps them from being moved. So a file that was written
with its manifest can be written again (`writeWithManifest_in_place`), as long as both are files.
-/

namespace PageAccessors

open FileTree

/-! ## Directories -/

namespace FileTree

variable {t t' : FileTree} {p : Path} {q x : Location} {n : Option Node}

/-- The target of a path that can be followed is its place, if it has one. -/
theorem target?_of_locate (h : t.locate p = .ok q) : t.target? p = .ok none ∨
    ∃ target, t.target? p = .ok (some target) ∧ target.name :: target.parent = q := by
  obtain ⟨hs, hw⟩ := locate_eq_ok_iff.1 h
  have start : t.start p = .ok (p.origin t.home) := start_eq_ok_iff.2 ⟨hs.1, hs.2, rfl⟩
  obtain ⟨slashes, pieces, nothing⟩ := exists_dropWhile_append p.pieces
  rw [pieces, walk_append] at hw
  obtain ⟨between, hw, he⟩ := hw
  obtain rfl : q = between := (eq_of_walk he).trans (foldl_along_of_nothing between nothing)
  unfold target?
  rw [start, Except.ok_bind]
  simp only
  cases hd : p.pieces.reverse.dropWhile (·.isEmpty) with
  | nil => exact .inl rfl
  | cons last front =>
    rw [hd, List.reverse_cons, walk_append] at hw
    obtain ⟨parent, hf, hl⟩ := hw
    obtain ⟨hp, hb, he⟩ := walk_cons.1 hl
    have step : t.step parent last = .ok (parent.along last) := step_eq_ok_iff.2 ⟨hp, hb, rfl⟩
    simp only
    rw [hf, Except.ok_bind]
    split
    · rename_i hs
      rw [step] at hs
      cases hs
    · split_ifs with dots
      · exact .inl rfl
      · have text := List.head?_dropWhile_not (·.isEmpty) p.pieces.reverse
        rw [hd, List.head?_cons] at text
        simp only at text
        refine .inr ⟨_, rfl, ?_⟩
        rw [← Except.ok.inj he, Location.along, if_neg, if_neg (not_or.1 dots).2]
        exact not_or.2 ⟨by simpa using text, (not_or.1 dots).1⟩

theorem makeDirectory_of_directory (h : t.locate p = .ok q) (hq : t.node? q = some .directory) :
    t.makeDirectory p = .error .occupied := by
  unfold makeDirectory
  rcases target?_of_locate h with ht | ⟨target, ht, rfl⟩
  · rw [ht]
    rfl
  · rw [ht, Except.ok_bind]
    simp only
    rw [dif_neg (by rw [hq]; simp)]
    rfl

end FileTree

namespace Disk

variable {t t' : FileTree} {p : Path} {q : Location} {front : List String} {name : String}
  {s : Location} {bytes : ByteArray}

theorem makeDirectories_in_place (h : t.locate p = .ok q) (hq : t.node? q = some .directory) :
    (makeDirectories p).apply t = (.ok (), t) := by
  have directory : t.isDirectory p = true := by
    rw [isDirectory, find?_of_locate h, hq]
    rfl
  rw [makeDirectories, if_neg (by simp [(locate_eq_ok_iff.1 h).1.2]), apply_tryCatch, apply_change,
    makeDirectory_of_directory h hq]
  simp only
  rw [if_neg (by decide), apply_bind, apply_get]
  simp [directory, apply_pure]

/-- Where a path can be followed, so can that of the directory in which its file is staged. -/
theorem locate_stageDirectory (h : p.Ends front name) (hl : t.locate p = .ok (p.place t.home)) :
    t.locate p.stageDirectory = .ok (p.place t.home).tail ∧
      t.node? (p.place t.home).tail = some .directory := by
  have parent := h.place_stageDirectory t.home
  obtain ⟨q, hq⟩ : ∃ q, p.place t.home = name :: q := ⟨_, h.place _⟩
  rw [hq, List.tail_cons] at parent ⊢
  rw [hq] at hl
  obtain ⟨hs, hd, hw⟩ := h.exists_walk_manifest hl
  obtain ⟨hz, -, -⟩ := start_eq_ok_iff.1 hs
  rw [h.manifest.pieces, List.forall_mem_append] at hz
  refine ⟨?_, hd⟩
  suffices ∃ r, t.locate p.stageDirectory = .ok r by
    obtain ⟨r, hr⟩ := this
    rw [hr, eq_place_of_locate hr, parent]
  have shape : p.stageDirectory = if (Path.directoryOf (Path.dropNothing front)).isEmpty then .here
      else Path.directoryOf (Path.dropNothing front) := by
    rw [Path.stageDirectory, h.parent?]
  rcases Path.Ends.dropNothing_cases front with hk | hk | ⟨init, last, hk, hlast⟩
  · -- A name alone, in the directory that relative paths start from.
    have relative : p.manifest.origin t.home = t.home := by
      rw [h.origin_manifest, Path.origin, if_neg]
      rw [h.isAbsolute_iff, ← Path.Ends.head?_dropNothing, hk]
      simp
    rw [hk, relative] at hw
    rw [shape, hk]
    exact ⟨_, locate_eq_ok_iff.2 ⟨by decide, walk_cons.2 ⟨Except.ok.inj hw ▸ hd, by decide, rfl⟩⟩⟩
  · rw [shape, hk]
    exact ⟨[], rfl⟩
  · have named : (Path.mk (init ++ [last])).isEmpty = false := by
      simp [Path.isEmpty, String.isEmpty_iff, hlast]
    rw [hk, Path.Ends.directoryOf_append hlast, named, if_neg Bool.false_ne_true] at shape
    have absolute : p.manifest.isAbsolute = (Path.mk (init ++ [last])).isAbsolute := by
      rw [Bool.eq_iff_iff, h.manifest.isAbsolute_iff, hk, Path.Ends.isAbsolute_append hlast]
    rw [hk] at hw hz
    rw [Path.origin, absolute, ← Path.origin] at hw
    rw [shape]
    exact ⟨q, locate_eq_ok_iff.2 ⟨⟨hz.1, named⟩, hw⟩⟩

theorem stage_in_place (h : p.Ends front name) (hl : t.locate p = .ok (p.place t.home))
    (bytes : ByteArray) : ∃ t', (stage p bytes).apply t =
        (.ok (freshName t p :: (p.place t.home).tail), t') ∧
      t.SetAt (freshName t p :: (p.place t.home).tail) (some (.file bytes)) t' := by
  obtain ⟨located, directory⟩ := locate_stageDirectory h hl
  have free : t.node? (freshName t p :: (p.place t.home).tail) ≠ some .directory := by
    simp [node?_freshName]
  refine ⟨t.putFile (freshName t p) (p.place t.home).tail bytes directory free, ?_, rfl,
    fun x => node?_putFile x⟩
  rw [stage_eq, apply_bind, makeDirectories_in_place located directory]
  simp only [apply_bind, apply_get, apply_look, located]
  rw [dif_pos ⟨directory, free⟩]
  rfl

theorem writeAtomic_in_place (h : p.Ends front name) (hl : t.locate p = .ok (p.place t.home))
    (hd : t.node? (p.place t.home) ≠ some .directory) (bytes : ByteArray) :
    ∃ t', (writeAtomic p bytes).apply t = (.ok (), t') ∧
      t.SetAt (p.place t.home) (some (.file bytes)) t' := by
  obtain ⟨t₁, hs, h₁⟩ := stage_in_place h hl bytes
  have new := node?_freshName t p (p.place t.home).tail
  rw [writeAtomic, apply_bind, hs]
  rcases persist_spec h h₁.node_self with ⟨-, -, rest, t', hp, h₂, h₃⟩ | ⟨e, t', -, -, taken⟩
  · rw [h₁.home] at h₃
    exact ⟨t', hp, setAt_of_move new h₁ h₂ h₃⟩
  · rw [h₁.home] at taken
    have directory := taken (locate_of_setAt hl h₁ (by simp [new]))
    rw [h₁.node_of_ne (freshName_ne_place h t _ t.home).1.symm] at directory
    exact absurd directory hd

/-- A file and its manifest can be staged where the paths of both can be followed. -/
theorem stageBoth_in_place (h : p.Ends front name) (hl : t.locate p = .ok (p.place t.home))
    (hm : t.locate p.manifest = .ok (p.manifest.place t.home)) (bytes beside : ByteArray) :
    ∃ s s' t', (stageBoth p bytes beside).apply t = (.ok (s, s'), t') ∧
      Staged t t' s s' bytes beside ∧ s ≠ p.place t.home ∧ s' ≠ p.place t.home := by
  obtain ⟨t₁, hs₁, h₁⟩ := stage_in_place h hl bytes
  have none₁ := node?_freshName t p (p.place t.home).tail
  have hm₁ := locate_of_setAt hm h₁ (by simp [none₁])
  rw [← h₁.home] at hm₁
  obtain ⟨t₂, hs₂, h₂⟩ := stage_in_place h.manifest hm₁ beside
  have none₂ := node?_freshName t₁ p.manifest (p.manifest.place t₁.home).tail
  have ne : freshName t p :: (p.place t.home).tail ≠
      freshName t₁ p.manifest :: (p.manifest.place t₁.home).tail := by
    intro he
    rw [← he, h₁.node_self] at none₂
    cases none₂
  refine ⟨_, _, t₂, ?_, ⟨none₁, ?_, ne, t₁, h₁, h₂⟩, (freshName_ne_place h _ _ _).1,
    (freshName_ne_place h _ _ _).2⟩
  · rw [stageBoth, apply_bind, hs₁]
    simp only
    rw [apply_bind, apply_orElseDo, hs₂]
    rfl
  · rw [← h₁.node_of_ne ne.symm, none₂]

end Disk

/-! ## A file and its manifest -/

/-- A path and that of its manifest lead to files. -/
structure FileTree.InPlace (t : FileTree) (p : Path) : Prop where
  located : t.locate p = .ok (p.place t.home)
  beside : t.locate p.manifest = .ok (p.manifest.place t.home)
  file : ∃ bytes, t.node? (p.place t.home) = some (.file bytes)
  manifest : ∃ bytes, t.node? (p.manifest.place t.home) = some (.file bytes)

section

variable {p : Path} {front : List String} {name : String} {t t' : FileTree} (h : p.Ends front name)
include h

/-- A file that is in its place with its manifest can be written again. -/
theorem writeWithManifest_in_place (ready : t.InPlace p) (contents : String)
    (provenance : Provenance) :
    ∃ t', (Disk.writeWithManifest p contents provenance).apply t = (.ok (), t') := by
  obtain ⟨s, s', t₁, hs, staged, hq, hq'⟩ :=
    Disk.stageBoth_in_place h ready.located ready.beside contents.toUTF8
      (Manifest.ofContents p contents provenance).render.toUTF8
  rw [Disk.writeWithManifest_eq, Disk.apply_bind, hs]
  rcases Disk.moveBoth_spec h staged hq hq' with
    ⟨e, t', -, -, barred⟩ | ⟨t', -, -, ⟨hm, -⟩ | ⟨e, -, -, barred⟩⟩
  · obtain ⟨bytes, file⟩ := ready.file
    rw [barred ready.located] at file
    cases file
  · exact ⟨t', hm⟩
  · obtain ⟨-, parent, -, -, length, -⟩ := h.manifest.locate_eq_ok_iff.1 ready.beside
    obtain ⟨bytes, file⟩ := ready.manifest
    rw [barred length] at file
    cases file

theorem writeWithManifest_holds {contents : String} {provenance : Provenance}
    (hw : (Disk.writeWithManifest p contents provenance).apply t = (.ok (), t')) :
    t.Rewritten p t' ∧ t'.Holds p contents ∧
      t'.Holds p.manifest (Manifest.ofContents p contents provenance).render := by
  rcases Disk.writeWithManifest_spec h contents provenance t with
    ⟨e, t', he, -⟩ | ⟨g, t', hg, hl, hd, ⟨ho, hl', hm, half, h₁, h₂⟩ | ⟨e, he, -⟩⟩
  · cases hw.symm.trans he
  · obtain rfl := (Prod.mk.inj (hw.symm.trans ho)).2
    have hm' : half.node? (p.manifest.place t.home) ≠ some .directory := by
      rwa [h₁.node_of_ne (h.place_ne_manifest _).symm]
    have file := (hg.rewritten p).setAt h₁ hd (.inl rfl)
    have both := file.setAt h₂ hm' (.inr rfl)
    have onward := (h₁.onward hd).trans (h₂.onward hm')
    refine ⟨both, ⟨?_, ?_⟩, ⟨?_, ?_⟩⟩
    · rw [both.onward.home]
      exact onward.locate hl
    · rw [both.onward.home, h₂.node_of_ne (h.place_ne_manifest _), h₁.node_self]
    · rw [both.onward.home]
      exact onward.locate hl'
    · rw [both.onward.home, h₂.node_self]
  · cases hw.symm.trans he

end

end PageAccessors
