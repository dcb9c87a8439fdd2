import PageAccessors.Emission
import PageAccessors.Proofs.DiskSteps
import PageAccessors.Proofs.OutputPaths
import PageAccessors.Proofs.Slots
import PageAccessors.Proofs.Verification

/-!
# Trees stay intact

Writing the file of a page changes what is at two places, that of the file and that of its
manifest, and no two sources share one of them (`FileTree.SoundBelow.of_pair`). However the writing
ends, the two fit together afterwards (`soundBelow_writeOutput`), so that a run leaves a tree in
which every source verifies as it was, and so does any sequence of runs (`verifiedBelow_runAll`).
Runs without manifests leave sources without one, but none with a wrong one.
-/

namespace PageAccessors

/-! ## One file and its manifest -/

theorem Location.manifest_inj {q r : Location} (hq : q ≠ []) (hr : r ≠ [])
    (h : q.manifest = r.manifest) : q = r := by
  obtain ⟨a, q, rfl⟩ := List.exists_cons_of_ne_nil hq
  obtain ⟨b, r, rfl⟩ := List.exists_cons_of_ne_nil hr
  simp only [manifest, manifestName, List.headD_cons, List.tail_cons, List.cons.injEq,
    String.append_left_inj] at h
  rw [h.1, h.2]

theorem Sound.kept {bare : Prop} {bytes : ByteArray} {old new : Option Node}
    (h : Sound bare bytes old) (k : Kept old new) : Sound bare bytes new := by
  rcases h with ⟨noted, rfl, pins⟩ | ⟨hb, rfl | rfl⟩
  · exact .inl ⟨noted, k.eq_some, pins⟩
  · exact .inr ⟨hb, k.imp id And.right⟩
  · exact .inr ⟨hb, .inr k.eq_some⟩

namespace FileTree

variable {bare : Prop} {t t' : FileTree} {root q : Location}

theorem SoundBelow.grown (h : SoundBelow bare t root) (hg : t.Grown t') :
    SoundBelow bare t' root := by
  intro q bytes hp hr hs hn
  have file : t.node? q = some (.file bytes) := by
    have := hg.node q
    rw [hn] at this
    rcases this with this | ⟨-, this⟩
    · exact this.symm
    · cases this
  refine (h q bytes hp hr hs file).kept ?_
  unfold beside?
  split_ifs
  · exact hg.node _
  · exact .refl _

/-- A change of one file and its manifest leaves all other sources as they were. -/
theorem SoundBelow.of_pair (h : SoundBelow bare t root) (source : isSourceName (q.headD "") = true)
    (other : ∀ x, x ≠ q → x ≠ q.manifest → t'.node? x = t.node? x)
    (pair : ∀ bytes, t'.node? q = some (.file bytes) → Sound bare bytes (t'.beside? q)) :
    SoundBelow bare t' root := by
  have notSource : ∀ x : Location, isSourceName (x.manifest.headD "") = false :=
    fun x => isSourceName_manifestName _
  intro x bytes hp hr hs hn
  by_cases hx : x = q
  · subst hx
    exact pair bytes hn
  have hm : x ≠ q.manifest := by
    rintro rfl
    rw [notSource] at hs
    cases hs
  have hm' : x.manifest ≠ q := by
    rintro rfl
    rw [notSource] at source
    cases source
  have hmm : x.manifest ≠ q.manifest := fun he =>
    hx (Location.manifest_inj (ne_nil_of_isSourceName hs) (ne_nil_of_isSourceName source) he)
  have beside : t'.beside? x = t.beside? x := by
    unfold beside?
    rw [other _ hm' hmm]
  rw [beside]
  exact h x bytes hp hr hs ((other x hx hm).symm.trans hn)

end FileTree

open FileTree

/-! ## Writing a file -/

section

variable {bare : Prop} {t : FileTree} {root : Location} {p : Path} {front : List String}
  {name : String}

/-- However writing a file with its manifest ends, the sources are as sound as before. -/
theorem soundBelow_writeWithManifest (h : p.Ends front name) (source : isSourceName name = true)
    (contents : String) (provenance : Provenance) (sound : SoundBelow bare t root) :
    SoundBelow bare ((Disk.writeWithManifest p contents provenance).apply t).2 root := by
  have hs : isSourceName ((p.place t.home).headD "") = true := by rwa [h.place]
  have ne : p.place t.home ≠ (p.place t.home).manifest := by
    intro he
    rw [he, Location.manifest, List.headD_cons, isSourceName_manifestName] at hs
    cases hs
  rcases Disk.writeWithManifest_spec h contents provenance t with
    ⟨e, t', hw, hg⟩ | ⟨g, t', hg, -, -, ⟨hw, hl, -, half, h₁, h₂⟩ | ⟨e, hw, h₁, -⟩⟩
  · rw [hw]
    exact sound.grown hg
  · rw [hw]
    rw [h.manifest_place] at h₂
    obtain ⟨-, parent, -, -, length, -⟩ := h.manifest.locate_eq_ok_iff.1 hl
    refine (sound.grown hg).of_pair hs (fun x hx hm => ?_) fun bytes hn => ?_
    · rw [h₂.node_of_ne hm, h₁.node_of_ne hx]
    · rw [h₂.node_of_ne ne, h₁.node_self] at hn
      cases hn
      refine .inl ⟨_, ?_, pins_ofContents p contents provenance⟩
      rw [beside?, if_pos (by rwa [h.place]), h₂.node_self]
  · rw [hw]
    refine (sound.grown hg).of_pair hs (fun x hx _ => h₁.node_of_ne hx) fun bytes hn => ?_
    rw [h₁.node_self] at hn
    cases hn

/-- However writing a file without a manifest ends, no source has a wrong one. -/
theorem soundBelow_writeBare (h : p.Ends front name) (source : isSourceName name = true)
    (contents : String) (sound : SoundBelow True t root) :
    SoundBelow True ((Disk.writeOutput p contents none).apply t).2 root := by
  have hs : isSourceName ((p.place t.home).headD "") = true := by rwa [h.place]
  rw [Disk.writeOutput, Disk.apply_bind]
  rcases Disk.writeAtomic_spec h contents.toUTF8 t with ⟨e, t', hw, hg⟩ | ⟨g, t', hw, hg, -, h₁, hl⟩
  · rw [hw]
    exact sound.grown hg
  rw [hw]
  have home : t'.home = t.home := h₁.home.trans hg.home
  rw [← home] at hl
  rcases Disk.removeManifest_spec h hl with ⟨t'', hr, -, h₂⟩ | ⟨e, hr, hd⟩
  · rw [home, h.manifest_place] at h₂
    simp only [hr]
    refine (sound.grown hg).of_pair hs (fun x hx hm => ?_) fun bytes _ => .inr ⟨trivial, .inl ?_⟩
    · rw [h₂.node_of_ne hm, h₁.node_of_ne hx]
    · rw [beside?, h₂.node_self, ite_self]
  · rw [home, h.manifest_place] at hd
    simp only [hr]
    refine (sound.grown hg).of_pair hs (fun x hx _ => h₁.node_of_ne hx) fun bytes _ =>
      .inr ⟨trivial, ?_⟩
    rw [beside?, h.place, List.headD_cons, ← h.place]
    split_ifs with length
    · exact .inr (hd length)
    · exact .inl rfl

end

/-! ## Files of pages -/

section

variable {bare : Prop} {t : FileTree} {root : Location} {options : Options} {page : Page}
  {file : GeneratedFile}

theorem soundBelow_writeGenerated (h : generate options page = .ok file) (time : String)
    (directory : Path) (command : Option String) (hb : command = none → bare)
    (sound : SoundBelow bare t root) :
    SoundBelow bare ((writeGenerated time directory file command).apply t).2 root := by
  obtain ⟨d, -, named⟩ := relativePath_of_generate h
  obtain ⟨front, ends⟩ := named.ends.join directory
  have written : ((writeGenerated time directory file command).apply t).2 =
      ((Disk.writeOutput (directory.join file.relativePath) file.contents
        (command.map (file.provenance time))).apply t).2 := by
    rw [writeGenerated, Disk.apply_bind]
    split <;> simp_all [Disk.apply_pure]
  have source := d.outputName.isSourceName_fileName
  rw [written]
  cases command with
  | none =>
    have hbare : bare = True := eq_true (hb rfl)
    subst hbare
    exact soundBelow_writeBare ends source _ sound
  | some command =>
    exact soundBelow_writeWithManifest ends source _ _ sound

end

/-! ## Runs -/

theorem takeEach_induction {σ α : Type} {P : σ → Prop} {failFast : Bool} {step : σ → α → σ × Bool} :
    ∀ {l : List α} {s : σ}, (∀ s, ∀ a ∈ l, P s → P (step s a).1) → P s →
      P (takeEach failFast step s l)
  | [], _, _, hs => hs
  | a :: rest, s, hstep, hs => by
    have next := hstep s a List.mem_cons_self hs
    rw [takeEach]
    split
    rename_i s' passed he
    rw [he] at next
    split_ifs
    · exact next
    · exact takeEach_induction (fun s b hb => hstep s b (List.mem_cons_of_mem a hb)) next

/-- A page is refused before anything is written; or it claims its place, and is then written or
fails to be. -/
theorem Emission.add_cases (s : Settings) (time : String) (e : Emission) (p : SourcedPage)
    (generated : Except Diagnostic GeneratedFile) :
    (∃ problem, e.add s time (p, generated) =
        ({ e with account := e.account.fail (.refused p.label problem) }, false) ∧
      ∀ file, generated = .ok file → e.claims.lookup file.relativePath.components ≠ none) ∨
      ∃ file r tree, generated = .ok file ∧
        e.claims.lookup file.relativePath.components = none ∧
        (writeGenerated time s.output file
          (if s.manifests then some (regenerateCommand p.source s.output) else none)).apply
            e.tree = (r, tree) ∧
        ((∃ path, r = .ok path ∧ e.add s time (p, generated) =
            (⟨tree, (file.relativePath.components, p.label) :: e.claims, e.written ++ [path],
              (e.account.note (.generated file)).pass (.written p.label path)⟩, true)) ∨
          ∃ fault, r = .error fault ∧ e.add s time (p, generated) =
            (⟨tree, (file.relativePath.components, p.label) :: e.claims, e.written,
              e.account.fail (.refused p.label (.failure (.files fault)))⟩, false)) := by
  cases generated with
  | error d => exact .inl ⟨_, rfl, nofun⟩
  | ok file =>
    cases hc : e.claims.lookup file.relativePath.components with
    | some first =>
      refine .inl ⟨.taken file.relativePath first, ?_, fun other he => ?_⟩
      · simp only [add, place, hc]
      · cases he
        simp [hc]
    | none =>
      rcases hw : (writeGenerated time s.output file
        (if s.manifests then some (regenerateCommand p.source s.output) else none)).run
          e.tree with ⟨r, tree⟩
      refine .inr ⟨file, r, tree, rfl, hc, hw, ?_⟩
      simp only [add, place, hc, hw]
      cases r with
      | ok path => exact .inl ⟨path, rfl, rfl⟩
      | error fault => exact .inr ⟨fault, rfl, rfl⟩

/-- A page is written or leaves the tree as it is. -/
theorem Emission.tree_add (s : Settings) (time : String) (e : Emission) (p : SourcedPage)
    (generated : Except Diagnostic GeneratedFile) :
    (e.add s time (p, generated)).1.tree = e.tree ∨ ∃ file, generated = .ok file ∧
      (e.add s time (p, generated)).1.tree = ((writeGenerated time s.output file
        (if s.manifests then some (regenerateCommand p.source s.output) else none)).apply
          e.tree).2 := by
  rcases e.add_cases s time p generated with
    ⟨problem, he, -⟩ | ⟨file, r, tree, hg, -, hw, ⟨path, -, he⟩ | ⟨fault, -, he⟩⟩
  · exact .inl (by rw [he])
  · exact .inr ⟨file, hg, by rw [he, hw]⟩
  · exact .inr ⟨file, hg, by rw [he, hw]⟩

/-- A run that writes files. -/
structure Run where
  machine : Machine
  settings : Settings
  files : List Path

/-- The tree that a run leaves. -/
def Run.tree (r : Run) (t : FileTree) : FileTree :=
  (emitPages r.machine r.settings r.files t).tree

/-- The tree that runs leave, one after the other. -/
def runAll (runs : List Run) (t : FileTree) : FileTree := runs.foldl (fun t r => r.tree t) t

section

variable {bare : Prop} {t : FileTree} {root : Location}

/-- A run keeps the sources sound, whether it comes to its end or not. -/
theorem soundBelow_tree (r : Run) (hb : r.settings.manifests = false → bare)
    (sound : SoundBelow bare t root) : SoundBelow bare (r.tree t) root := by
  unfold Run.tree emitPages
  simp only
  split
  · exact sound
  refine takeEach_induction (P := fun e : Emission => SoundBelow bare e.tree root) ?_ sound
  rintro e ⟨p, generated⟩ hm he
  obtain ⟨-, hm⟩ := List.of_mem_zip hm
  rw [generateAll_eq_map] at hm
  obtain ⟨page, -, hg⟩ := List.mem_map.1 hm
  rcases Emission.tree_add r.settings r.machine.time e p generated with same | ⟨file, rfl, ht⟩
  · rwa [same]
  · rw [ht]
    refine soundBelow_writeGenerated hg _ _ _ (fun hn => hb ?_) he
    by_contra manifests
    rw [Bool.not_eq_false] at manifests
    rw [if_pos manifests] at hn
    cases hn

theorem soundBelow_runAll (runs : List Run)
    (hb : ∀ r ∈ runs, r.settings.manifests = false → bare) (sound : SoundBelow bare t root) :
    SoundBelow bare (runAll runs t) root := by
  induction runs generalizing t with
  | nil => exact sound
  | cons r runs ih =>
    rw [List.forall_mem_cons] at hb
    exact ih hb.2 (soundBelow_tree r hb.1 sound)

/-- Runs with manifests leave every source verified, if it was so before, whatever the pages, the
outputs and the ways in which writing fails; and runs without manifests leave none altered. -/
theorem verifiedBelow_runAll (h : t.VerifiedBelow root) (runs : List Run) :
    ((∀ r ∈ runs, r.settings.manifests = true) → (runAll runs t).VerifiedBelow root) ∧
      (runAll runs t).UnalteredBelow root := by
  rw [verifiedBelow_iff] at h
  constructor
  · intro manifests
    refine (soundBelow_runAll runs (fun r hr hn => ?_) h).verifiedBelow
    rw [manifests r hr] at hn
    cases hn
  · exact (soundBelow_runAll runs (fun _ _ _ => trivial) (h.mono False.elim)).unalteredBelow

end

/-! ## A tree with a source -/

def Provenance.login : Provenance :=
  ⟨"pagegen", "1.0.0", "Login", "abc", "2024-01-01T00:00:00+00:00",
    "pagegen generate login.json -o out"⟩

/-- A descriptor file, and below a directory a source with its manifest. -/
def FileTree.login : FileTree where
  home := []
  entries := [
    (["login.json"], .file (Page.bare "" "Login" "user").canonicalText.toUTF8),
    (["out"], .directory),
    (["Login.kt", "out"], .file "package generated\n".toUTF8),
    (["Login.kt.manifest.json", "out"], .file
      (Manifest.ofContents (.ofString "out/Login.kt") "package generated\n" .login).render.toUTF8)]
  distinct := by decide
  closed := by simp

/-- A run that writes the page of the descriptor file. -/
def Run.login (failFast manifests : Bool) : Run where
  machine := ⟨1, "2024-01-02T00:00:00+00:00"⟩
  settings := { output := .ofString "out", failFast := failFast, manifests := manifests }
  files := [.ofString "login.json"]

theorem verifiedBelow_login : FileTree.login.VerifiedBelow ["out"] ∧
    (runAll [.login false true, .login true true] .login).VerifiedBelow ["out"] ∧
    (runAll [.login false true, .login false false] .login).UnalteredBelow ["out"] := by
  have h : FileTree.login.VerifiedBelow ["out"] := by
    rw [verifiedBelow_iff]
    intro q bytes _ below source hn
    have hm := (node?_eq_some_iff (ne_nil_of_isSourceName source)).1 hn
    simp only [FileTree.login, List.mem_cons, Prod.mk.injEq, reduceCtorEq, and_false,
      Node.file.injEq, List.not_mem_nil, or_false, false_or] at hm
    rcases hm with ⟨rfl, -⟩ | ⟨rfl, rfl⟩ | ⟨rfl, -⟩
    · exact absurd source (by decide)
    · exact .inl ⟨_, rfl, pins_ofContents _ _ _⟩
    · exact absurd source (by decide)
  exact ⟨h, (verifiedBelow_runAll h _).1 (by simp [Run.login]), (verifiedBelow_runAll h _).2⟩

end PageAccessors
