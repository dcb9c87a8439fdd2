import PageAccessors.Proofs.InPlace

/-!
# Writes that fail

A file can be moved to a path only if the path ends with a name (`exists_ends_of_rename`), so that
a write to any other path leaves new directories at most. A write to a path with a name that fails
spares everything but the place of the path (`spared_of_ends`), and that as well, unless no file
can be in the place of the manifest: then a file that was to have a manifest is taken away again,
and one that was to have none stays (`writeOutput_of_barred`).
-/

namespace PageAccessors

open FileTree

/-! ## Paths with a text -/

/-- A path is the one with its text. -/
def Path.IsSpelled (p : Path) : Prop := ofString p.text = p

namespace Path.IsSpelled

variable {p q : Path}

theorem ofString (text : String) : (Path.ofString text).IsSpelled :=
  ofString_text (pieces_ofString text).1 (pieces_ofString text).2

theorem pieces (h : p.IsSpelled) : p.pieces ≠ [] ∧ ∀ piece ∈ p.pieces, '/' ∉ piece.toList := by
  have := pieces_ofString p.text
  rwa [h] at this

theorem join (hp : p.IsSpelled) (hq : q.IsSpelled) : (p.join q).IsSpelled := by
  obtain ⟨-, slash⟩ := hp.pieces
  obtain ⟨hne, slash'⟩ := hq.pieces
  unfold Path.join
  split_ifs
  · exact hq
  · exact hq
  · refine ofString_text (by simp [hne]) (List.forall_mem_append.2 ⟨fun piece hm => ?_, slash'⟩)
    exact slash piece (List.dropLast_subset _ hm)
  · exact ofString_text (by simp [hne]) (List.forall_mem_append.2 ⟨slash, slash'⟩)

variable {t t' : FileTree} {s : Location}

/-- A path that names a place in a directory, and does not go on with a slash, ends with a name. -/
theorem exists_ends_of_target? (h : p.IsSpelled) {target : t.Target}
    (ht : t.target? p = .ok (some target)) (hs : target.slash = false) :
    ∃ front name, p.Ends front name := by
  unfold target? at ht
  rw [Except.bind_eq_ok_iff] at ht
  obtain ⟨first, start, ht⟩ := ht
  simp only at ht
  cases hd : p.pieces.reverse.dropWhile (·.isEmpty) with
  | nil =>
    rw [hd] at ht
    cases ht
  | cons last front =>
    rw [hd] at ht
    simp only at ht
    rw [Except.bind_eq_ok_iff] at ht
    obtain ⟨parent, -, ht⟩ := ht
    split at ht
    · cases ht
    split_ifs at ht with dots
    · cases ht
    obtain rfl := Option.some.inj (Except.ok.inj ht)
    -- The last piece is not empty, so that none was left out.
    obtain ⟨piece, pieces, hp⟩ := List.exists_cons_of_ne_nil (List.reverse_ne_nil_iff.2 h.pieces.1)
    have text : piece ≠ "" := by
      simpa [← List.head?_reverse, hp] using hs
    rw [hp, List.dropWhile_cons_of_neg (by simpa using text)] at hd
    obtain ⟨rfl, rfl⟩ := List.cons.inj hd
    have split : p.pieces = pieces.reverse ++ [piece] := by
      rw [← List.reverse_cons, ← hp, List.reverse_reverse]
    have hm : piece ∈ p.pieces := by simp [split]
    rw [not_or] at dots
    exact ⟨_, piece, split, text, dots.1, dots.2, h.pieces.2 piece hm,
      (start_eq_ok_iff.1 start).1 piece hm⟩

theorem exists_ends_of_rename (h : p.IsSpelled) (hr : t.rename s p = .ok t') :
    ∃ front name, p.Ends front name := by
  unfold rename at hr
  split at hr
  · cases hr
  · cases hr
  rw [Except.bind_eq_ok_iff] at hr
  obtain ⟨target, ht, hr⟩ := hr
  cases target with
  | none => cases hr
  | some target =>
    cases hs : target.slash with
    | false => exact h.exists_ends_of_target? ht hs
    | true =>
      simp only [hs] at hr
      cases hr

theorem rename_error (h : p.IsSpelled) (ends : ¬ ∃ front name, p.Ends front name) (t : FileTree)
    (s : Location) : ∃ e, t.rename s p = .error e := by
  cases hr : t.rename s p with
  | ok t' => exact absurd (h.exists_ends_of_rename hr) ends
  | error e => exact ⟨e, rfl⟩

end Path.IsSpelled

/-! ## Paths to which nothing can be moved -/

section

variable {p : Path} (h : ∀ (t : FileTree) s, ∃ e, t.rename s p = .error e)
include h

theorem writeAtomic_grown (bytes : ByteArray) (t : FileTree) :
    ∃ e t', (Disk.writeAtomic p bytes).apply t = (.error e, t') ∧ t.Grown t' := by
  rw [Disk.writeAtomic, Disk.apply_bind]
  rcases Disk.stage_spec p bytes t with ⟨e, t', hs, hg⟩ | ⟨t₀, parent, t₁, hg, hs, h₁⟩
  · rw [hs]
    exact ⟨e, t', rfl, hg⟩
  rw [hs]
  obtain ⟨e, hr⟩ := h t₁ (Disk.freshName t₀ p :: parent)
  obtain ⟨t', hp, h₂⟩ := Disk.persist_of_rename_error (by simp [h₁.node_self]) hr
  exact ⟨e, t', hp, Disk.grown_of_setAt hg (Disk.node?_freshName t₀ p parent) h₁ (.refl t₁) h₂⟩

theorem writeWithManifest_grown (contents : String) (provenance : Provenance) (t : FileTree) :
    ∃ e t', (Disk.writeWithManifest p contents provenance).apply t = (.error e, t') ∧
      t.Grown t' := by
  rw [Disk.writeWithManifest_eq, Disk.apply_bind]
  rcases Disk.stageBoth_spec p contents.toUTF8
    (Manifest.ofContents p contents provenance).render.toUTF8 t with
    ⟨e, t', hs, hg⟩ | ⟨g, t₁, a, b, q, r, hg, hs, staged⟩
  · rw [hs]
    exact ⟨e, t', rfl, hg⟩
  rw [hs]
  obtain ⟨e, hr⟩ := h t₁ (Disk.freshName a p :: q)
  obtain ⟨t₂, hp, h₂⟩ := Disk.persist_of_rename_error (by simp [staged.node_file]) hr
  obtain ⟨t', hm, hg'⟩ := Disk.moveBoth_of_persist_error staged hp h₂
  exact ⟨e, t', hm, hg.trans hg'⟩

theorem writeOutput_grown (contents : String) (origin : Option Provenance) (t : FileTree) :
    ∃ e t', (Disk.writeOutput p contents origin).apply t = (.error e, t') ∧ t.Grown t' := by
  cases origin with
  | some provenance => exact writeWithManifest_grown h contents provenance t
  | none =>
    obtain ⟨e, t', hw, hg⟩ := writeAtomic_grown h contents.toUTF8 t
    refine ⟨e, t', ?_, hg⟩
    rw [Disk.writeOutput, Disk.apply_bind, hw]

end

/-! ## What a failed write spares -/

/-- The manifest of a path cannot be a file: there is a directory, or the name is too long. -/
def FileTree.BarsManifest (t : FileTree) (p : Path) : Prop :=
  t.find? p.manifest = some .directory ∨ t.locate p.manifest = .error .nameTooLong

namespace FileTree

variable {t t' : FileTree} {p : Path}

/-- A way to a name that is too long stays one where the directories are the same or more. -/
theorem walk_nameTooLong (h : t.Onward t') : ∀ {pieces : List String} {place : Location},
    t.walk place pieces = .error .nameTooLong → t'.walk place pieces = .error .nameTooLong
  | [], _, hw => nomatch hw
  | piece :: pieces, place, hw => by
    rw [walk, List.foldlM_cons] at hw ⊢
    have directory : t.node? place = some .directory := by
      unfold step at hw
      split at hw
      · cases hw
      · cases hw
      · assumption
    have step_ : t'.step place piece = t.step place piece := by
      simp only [step, directory, h.directory place directory]
    rw [step_]
    cases hs : t.step place piece with
    | error e => rwa [hs] at hw
    | ok next =>
      rw [hs] at hw
      exact walk_nameTooLong h hw

theorem BarsManifest.onward (hb : t.BarsManifest p) (h : t.Onward t') : t'.BarsManifest p := by
  rcases hb with found | long
  · left
    unfold find? at found ⊢
    split at found
    · rename_i q hl
      rw [h.locate hl]
      exact h.directory q found
    · cases found
  · right
    have start_ : t'.start p.manifest = t.start p.manifest := by rw [start, start, h.home]
    rw [locate] at long ⊢
    rw [start_]
    cases hs : t.start p.manifest with
    | error e => rwa [hs] at long
    | ok first =>
      rw [hs] at long
      exact walk_nameTooLong h long

end FileTree

/-- What is in the place of a path when its manifest could not be dealt with: a file that was to
have one is taken away again. -/
def leftBehind {α : Type} (contents : String) : Option α → Option Node
  | some _ => none
  | none => some (.file contents.toUTF8)

/-- Everything stays but for new directories, except that something is left behind in the place of a
path whose manifest cannot be a file. -/
structure FileTree.Spared (t : FileTree) (p : Path) (left : Option Node) (t' : FileTree) :
    Prop where
  home : t'.home = t.home
  other : ∀ q, q ≠ p.place t.home → Kept (t.node? q) (t'.node? q)
  own : Kept (t.node? (p.place t.home)) (t'.node? (p.place t.home)) ∨
    t'.BarsManifest p ∧ t'.node? (p.place t.home) = left

section

variable {t g t' : FileTree} {p : Path} {front : List String} {name : String} {left : Option Node}

theorem FileTree.Grown.spared (h : t.Grown t') (p : Path) (left : Option Node) :
    t.Spared p left t' :=
  ⟨h.home, fun q _ => h.node q, .inl (h.node _)⟩

theorem FileTree.Spared.of_setAt (hg : t.Grown g) (hs : g.SetAt (p.place t.home) left t')
    (barred : t'.BarsManifest p) : t.Spared p left t' where
  home := hs.home.trans hg.home
  other q hq := by
    rw [hs.node_of_ne hq]
    exact hg.node q
  own := .inr ⟨barred, hs.node_self⟩

theorem barsManifest (h : p.Ends front name) (hl : t.locate p = .ok (p.place t.home))
    (hd : (manifestName name).utf8ByteSize ≤ 255 →
      t.node? (p.manifest.place t.home) = some .directory) : t.BarsManifest p := by
  by_cases length : (manifestName name).utf8ByteSize ≤ 255
  · left
    rw [find?_of_locate (Disk.locate_manifest_place h hl length), hd length]
  · right
    rw [h.place] at hl
    exact h.locate_manifest_error hl length

theorem spared_of_writeWithManifest_error (h : p.Ends front name) {contents : String}
    {provenance : Provenance} {e : FileFault}
    (hw : (Disk.writeWithManifest p contents provenance).apply t = (.error e, t')) :
    t.Spared p none t' := by
  rcases Disk.writeWithManifest_spec h contents provenance t with
    ⟨e', t'', hw', hg⟩ | ⟨g, t'', hg, hl, hd, ⟨hw', -⟩ | ⟨e', hw', h₁, barred⟩⟩
  · obtain rfl := (Prod.mk.inj (hw.symm.trans hw')).2
    exact hg.spared p none
  · cases hw.symm.trans hw'
  · obtain rfl := (Prod.mk.inj (hw.symm.trans hw')).2
    have home : t'.home = t.home := h₁.home.trans hg.home
    have hl' := Disk.locate_of_setAt hl h₁ hd
    rw [← home] at hl'
    refine .of_setAt hg h₁ (barsManifest h hl' fun length => ?_)
    rw [home, h₁.node_of_ne (h.place_ne_manifest t.home).symm, barred length]

theorem spared_of_writeBare_error (h : p.Ends front name) {contents : String} {e : FileFault}
    (hw : (Disk.writeOutput p contents none).apply t = (.error e, t')) :
    t.Spared p (some (.file contents.toUTF8)) t' := by
  rw [Disk.writeOutput, Disk.apply_bind] at hw
  rcases Disk.writeAtomic_spec h contents.toUTF8 t with
    ⟨e', t'', ha, hg⟩ | ⟨g, t'', ha, hg, -, h₁, hl⟩
  · rw [ha] at hw
    obtain rfl := (Prod.mk.inj hw).2
    exact hg.spared p _
  rw [ha] at hw
  have home : t''.home = t.home := h₁.home.trans hg.home
  rw [← home] at hl
  rcases Disk.removeManifest_spec h hl with ⟨t₃, hr, -⟩ | ⟨e', hr, barred⟩
  · cases hw.symm.trans hr
  · obtain rfl := (Prod.mk.inj (hw.symm.trans hr)).2
    exact .of_setAt hg h₁ (barsManifest h hl barred)

theorem spared_of_ends (h : p.Ends front name) {contents : String} {origin : Option Provenance}
    {e : FileFault} (hw : (Disk.writeOutput p contents origin).apply t = (.error e, t')) :
    t.Spared p (leftBehind contents origin) t' := by
  cases origin with
  | some provenance => exact spared_of_writeWithManifest_error h hw
  | none => exact spared_of_writeBare_error h hw

/-- A write that fails spares everything but what cannot have its manifest. -/
theorem spared_of_writeOutput_error (spelled : p.IsSpelled) {contents : String}
    {origin : Option Provenance} {e : FileFault}
    (hw : (Disk.writeOutput p contents origin).apply t = (.error e, t')) :
    t.Spared p (leftBehind contents origin) t' := by
  by_cases ends : ∃ front name, p.Ends front name
  · obtain ⟨front, name, h⟩ := ends
    exact spared_of_ends h hw
  · obtain ⟨e', t'', hw', hg⟩ := writeOutput_grown (spelled.rename_error ends) contents origin t
    obtain rfl := (Prod.mk.inj (hw.symm.trans hw')).2
    exact hg.spared p _

/-- Where a directory has the place of its manifest, a file is not written, but left behind. -/
theorem writeOutput_of_barred (h : p.Ends front name) (hl : t.locate p = .ok (p.place t.home))
    (hd : t.node? (p.place t.home) ≠ some .directory)
    (hm : t.locate p.manifest = .ok (p.manifest.place t.home))
    (barred : t.node? (p.manifest.place t.home) = some .directory) (contents : String)
    (origin : Option Provenance) :
    ∃ e t', (Disk.writeOutput p contents origin).apply t = (.error e, t') ∧
      t'.node? (p.place t.home) = leftBehind contents origin := by
  cases origin with
  | some provenance =>
    obtain ⟨s, s', t₁, hs, staged, hq, hq'⟩ := Disk.stageBoth_in_place h hl hm contents.toUTF8
      (Manifest.ofContents p contents provenance).render.toUTF8
    rw [Disk.writeOutput, Disk.writeWithManifest_eq, Disk.apply_bind, hs]
    rcases Disk.moveBoth_spec h staged hq hq' with
      ⟨e, t', -, -, taken⟩ | ⟨t', -, -, ⟨-, -, free, -⟩ | ⟨e, hw, h₁, -⟩⟩
    · exact absurd (taken hl) hd
    · exact absurd barred free
    · exact ⟨e, t', hw, h₁.node_self⟩
  | none =>
    obtain ⟨t₁, hw, h₁⟩ := Disk.writeAtomic_in_place h hl hd contents.toUTF8
    have hl₁ := Disk.locate_of_setAt hl h₁ hd
    rw [← h₁.home] at hl₁
    rw [Disk.writeOutput, Disk.apply_bind, hw]
    rcases Disk.removeManifest_spec h hl₁ with ⟨t', -, free, -⟩ | ⟨e, hr, -⟩
    · rw [h₁.home, h₁.node_of_ne (h.place_ne_manifest t.home).symm] at free
      exact absurd barred free
    · exact ⟨e, t₁, hr, h₁.node_self⟩

end

/-! ## Generated files -/

section

variable {t t' : FileTree} {time : String} {root : Path} {file : GeneratedFile}
  {command : Option String} {e : FileFault}

theorem writeGenerated_eq_error_iff :
    (writeGenerated time root file command).apply t = (.error e, t') ↔
      (Disk.writeOutput (root.join file.relativePath) file.contents
        (command.map (file.provenance time))).apply t = (.error e, t') := by
  rw [writeGenerated, Disk.apply_bind]
  rcases (Disk.writeOutput (root.join file.relativePath) file.contents
    (command.map (file.provenance time))).apply t with ⟨_ | _, next⟩
  · simp
  · simp [Disk.apply_pure]

theorem leftBehind_map {α β : Type} (f : α → β) (contents : String) (o : Option α) :
    leftBehind contents (o.map f) = leftBehind contents o := by
  cases o <;> rfl

/-- A file that fails to be written leaves everything as it was, but for new directories, and but
for its own place where no manifest can be beside it. -/
theorem spared_of_writeGenerated_error (hr : root.IsSpelled) (hf : file.relativePath.IsSpelled)
    (hw : (writeGenerated time root file command).apply t = (.error e, t')) :
    t.Spared (root.join file.relativePath) (leftBehind file.contents command) t' := by
  rw [← leftBehind_map (file.provenance time)]
  exact spared_of_writeOutput_error (hr.join hf) (writeGenerated_eq_error_iff.1 hw)

end

/-! ## A manifest that cannot be written -/

namespace Barred

/-- A file, and beside it a directory in the place of its manifest. -/
def tree : FileTree where
  home := []
  entries := [
    (["out"], .directory),
    (["Login.kt", "out"], .file "package old\n".toUTF8),
    (["Login.kt.manifest.json", "out"], .directory)]
  distinct := by decide
  closed := by simp

def root : Path := .ofString "out"

def file : GeneratedFile :=
  ⟨"Login", "generated", "Login", .ofString "Login.kt", "package generated\n", "abc"⟩

theorem ends : (root.join file.relativePath).Ends ["out"] "Login.kt" :=
  ⟨rfl, by decide, by decide, by decide, by decide, by decide⟩

/-- The file is not written, whether it is to have a manifest or not, and left behind. -/
theorem writeGenerated_tree (command : Option String) : ∃ e t',
    (writeGenerated "" root file command).apply tree = (.error e, t') ∧
      t'.node? ["Login.kt", "out"] = leftBehind file.contents command := by
  obtain ⟨e, t', hw, hn⟩ := writeOutput_of_barred (t := tree) ends rfl (by decide) rfl rfl
    file.contents (command.map (file.provenance ""))
  rw [leftBehind_map] at hn
  exact ⟨e, t', writeGenerated_eq_error_iff.2 hw, hn⟩

end Barred

open Barred in
theorem spared_barred : root.IsSpelled ∧ file.relativePath.IsSpelled ∧ ∃ e t',
    (writeGenerated "" root file none).apply tree = (.error e, t') ∧
      tree.Spared (root.join file.relativePath) (leftBehind file.contents (none : Option String))
        t' := by
  obtain ⟨e, t', hw, -⟩ := writeGenerated_tree none
  have hr := Path.IsSpelled.ofString "out"
  have hf := Path.IsSpelled.ofString "Login.kt"
  exact ⟨hr, hf, e, t', hw, spared_of_writeGenerated_error hr hf hw⟩

/-- Writing files fails only in such a way that all files stay as they are and none are new. -/
def FilesKept (command : Option String) : Prop :=
  ∀ (t t' : FileTree) (time : String) (root : Path) (file : GeneratedFile) (e : FileFault),
    (writeGenerated time root file command).apply t = (.error e, t') →
    ∀ q bytes, t'.node? q = some (.file bytes) ↔ t.node? q = some (.file bytes)

open Barred in
/-- With a manifest the earlier file is gone, and without one another file is in its place. -/
theorem not_filesKept :
    ¬ FilesKept (some "pagegen generate login.json -o out") ∧ ¬ FilesKept none := by
  have gone (command : Option String) (kept : FilesKept command) :
      leftBehind file.contents command = some (.file "package old\n".toUTF8) := by
    obtain ⟨e, t', hw, hn⟩ := writeGenerated_tree command
    rw [← hn]
    exact (kept tree t' "" root file e hw _ _).2 rfl
  constructor
  · intro kept
    cases gone _ kept
  · intro kept
    exact absurd (gone _ kept) (by decide +kernel)

end PageAccessors
