import PageAccessors.Proofs.FailedWrites

/-!
# Files with manifests

A file that was written with a manifest is at its path, and the manifest that is read beside it
notes its name, its hash and where it comes from (`pinned_of_writeWithManifest`). So the file
verifies until one of the two is changed: another text in its place is told with both hashes, and a
manifest that is gone or says nothing is told as such.
-/

namespace PageAccessors

open FileTree

namespace FileTree.Holds

variable {t t' : FileTree} {p : Path} {q : Location} {n : Option Node} {text text' : String}

theorem ne_directory (h : t.Holds p text) : t.node? (p.place t.home) ≠ some .directory := by
  simp [h.file]

theorem replaced (h : t.Holds p text)
    (hs : t.SetAt (p.place t.home) (some (.file text'.toUTF8)) t') : t'.Holds p text' := by
  constructor
  · rw [hs.home]
    exact Disk.locate_of_setAt h.located hs h.ne_directory
  · rw [hs.home, hs.node_self]

theorem setAt (h : t.Holds p text) (hs : t.SetAt q n t') (hq : t.node? q ≠ some .directory)
    (hne : p.place t.home ≠ q) : t'.Holds p text := by
  constructor
  · rw [hs.home]
    exact Disk.locate_of_setAt h.located hs hq
  · rw [hs.home, hs.node_of_ne hne, h.file]

end FileTree.Holds

/-- Nothing that can be read as a manifest: no file, or one whose bytes say nothing. -/
def IsNoManifest (beside : Option Node) : Prop :=
  ∀ bytes text m, beside = some (.file bytes) → String.fromUTF8? bytes = some text →
    Manifest.parse text ≠ .ok m

/-- What a tree has of a file that was written with a manifest, and what becomes of it when one of
the two is changed. -/
structure Pinned (t t' : FileTree) (p : Path) (contents : String) (origin : Provenance) : Prop where
  holds : t'.readText p = .ok contents
  manifest : ∃ name, p.fileName? = some name ∧
    Manifest.read t' p.manifest = .ok ⟨1, name, Digest.hex contents, origin⟩
  verified : verify t' p = .ok ()
  other : ∀ q, q ≠ p.place t.home → q ≠ p.manifest.place t.home → Kept (t.node? q) (t'.node? q)
  altered : ∀ text t'', t'.SetAt (p.place t.home) (some (.file text.toUTF8)) t'' →
    Digest.hex text ≠ Digest.hex contents →
      verify t'' p = .error (.hashMismatch p (Digest.hex contents) (Digest.hex text))
  unmanifested : ∀ beside t'', t'.SetAt (p.manifest.place t.home) beside t'' →
    IsNoManifest beside → ∃ fault, verify t'' p = .error (.unreadableManifest p fault)

section

variable {t t' : FileTree} {p : Path} {contents : String} {origin : Provenance}

/-- Only a path that ends with a name can be written with a manifest. -/
theorem exists_ends_of_writeWithManifest (spelled : p.IsSpelled)
    (hw : (Disk.writeWithManifest p contents origin).apply t = (.ok (), t')) :
    ∃ front name, p.Ends front name := by
  by_contra ends
  obtain ⟨e, t'', hw', -⟩ :=
    writeWithManifest_grown (spelled.rename_error ends) contents origin t
  cases hw.symm.trans hw'

/-- A manifest that was written is the manifest that is read, and it pins the file. -/
theorem pinned_of_writeWithManifest {text : String}
    (hw : (Disk.writeWithManifest (.ofString text) contents origin).apply t = (.ok (), t')) :
    Pinned t t' (.ofString text) contents origin := by
  obtain ⟨front, name, h⟩ := exists_ends_of_writeWithManifest (.ofString text) hw
  obtain ⟨rewritten, file, beside⟩ := writeWithManifest_holds h hw
  have home := rewritten.onward.home
  have named : (Path.ofString text).fileName? = some name := h.fileName?
  have noted : Manifest.ofContents (.ofString text) contents origin =
      ⟨1, name, Digest.hex contents, origin⟩ := by
    rw [Manifest.ofContents, named]
    rfl
  have read := beside.readManifest rfl
  have apart := h.place_ne_manifest t'.home
  constructor
  case holds => exact file.readText
  case manifest => exact ⟨name, named, by rw [read, noted]⟩
  case verified =>
    refine verify_eq_ok_iff.2 ⟨_, _, ?_, ?_, pins_ofContents (.ofString text) contents origin⟩
    · rw [find?_of_locate beside.located, beside.file]
    · rw [find?_of_locate file.located, file.file]
  case other => exact rewritten.other
  case altered =>
    intro changed t'' hs hne
    rw [← home] at hs
    have manifest := (beside.setAt hs file.ne_directory apart.symm).readManifest rfl
    have mismatch := verify_of_ne manifest (file.replaced hs).readText
    exact mismatch hne
  case unmanifested =>
    intro node t'' hs unread
    rw [← home] at hs
    refine verify_of_unread fun bytes text' m hf => unread bytes text' m ?_
    rwa [find?_of_locate (Disk.locate_of_setAt beside.located hs beside.ne_directory),
      hs.node_self] at hf

/-- A file that has been written with its manifest is pinned when it is written again. -/
theorem pinned_login : ∃ t',
    (Disk.writeWithManifest (.ofString "out/Login.kt") "package other\n" .login).apply .login =
      (.ok (), t') ∧
    Pinned .login t' (.ofString "out/Login.kt") "package other\n" .login := by
  have ends : (Path.ofString "out/Login.kt").Ends ["out"] "Login.kt" :=
    ⟨rfl, by decide, by decide, by decide, by decide, by decide⟩
  have ready : FileTree.login.InPlace (.ofString "out/Login.kt") :=
    ⟨rfl, rfl, ⟨_, rfl⟩, ⟨_, rfl⟩⟩
  obtain ⟨t', hw⟩ := writeWithManifest_in_place ends ready "package other\n" .login
  exact ⟨t', hw, pinned_of_writeWithManifest hw⟩

end

end PageAccessors
