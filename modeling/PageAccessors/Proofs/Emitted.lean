import PageAccessors.Proofs.CheckedFiles
import PageAccessors.Proofs.Intact

/-!
# What a run emits

Writing the file of a page leaves the directories where they are, and of all else it changes the
file and its manifest only (`FileTree.Rewritten`). The pages of a run that come to be written are
the first ones for their paths (`Emission.Tracks.isNew_iff`), and so no page touches the file of
another one (`Emission.Tracks.write`). In the end, every file that is told as written is at its path
with its text, and nothing is touched besides (`emits_emitPages`).
-/

namespace PageAccessors

/-! ## Writing a file -/

namespace FileTree

variable {t t' t'' : FileTree} {q x : Location} {n : Option Node} {p other : Path} {text : String}

/-- A tree with the directories of another one, and perhaps more. -/
structure Onward (t t' : FileTree) : Prop where
  home : t'.home = t.home
  directory : ∀ x, t.node? x = some .directory → t'.node? x = some .directory

theorem Onward.trans (h : t.Onward t') (h' : t'.Onward t'') : t.Onward t'' :=
  ⟨h'.home.trans h.home, fun x hx => h'.directory x (h.directory x hx)⟩

theorem Onward.locate (h : t.Onward t') (hl : t.locate p = .ok q) : t'.locate p = .ok q :=
  locate_mono h.home h.directory hl

theorem Grown.onward (h : t.Grown t') : t.Onward t' := by
  refine ⟨h.home, fun x hx => ?_⟩
  have := h.node x
  rw [hx] at this
  exact this.eq_some

theorem SetAt.onward (h : t.SetAt q n t') (hq : t.node? q ≠ some .directory) : t.Onward t' := by
  refine ⟨h.home, fun x hx => ?_⟩
  rw [h.node_of_ne, hx]
  rintro rfl
  exact hq hx

/-- A tree in which a file has been written at a path, or should have been. -/
structure Rewritten (t : FileTree) (p : Path) (t' : FileTree) : Prop where
  onward : t.Onward t'
  other : ∀ x, x ≠ p.place t.home → x ≠ p.manifest.place t.home → Kept (t.node? x) (t'.node? x)

theorem Grown.rewritten (h : t.Grown t') (p : Path) : t.Rewritten p t' :=
  ⟨h.onward, fun x _ _ => h.node x⟩

theorem Rewritten.setAt (h : t.Rewritten p t') (hs : t'.SetAt q n t'')
    (hd : t'.node? q ≠ some .directory)
    (hq : q = p.place t.home ∨ q = p.manifest.place t.home) : t.Rewritten p t'' := by
  refine ⟨h.onward.trans (hs.onward hd), fun x hx hm => ?_⟩
  rw [hs.node_of_ne]
  · exact h.other x hx hm
  · rintro rfl
    exact hq.elim hx hm

/-- A path leads to a file with a text. -/
structure Holds (t : FileTree) (p : Path) (text : String) : Prop where
  located : t.locate p = .ok (p.place t.home)
  file : t.node? (p.place t.home) = some (.file text.toUTF8)

theorem Holds.readText (h : t.Holds p text) : t.readText p = .ok text := by
  refine readText_eq_ok_iff.2 ⟨text.toUTF8, ?_, fromUTF8?_toUTF8 text⟩
  rw [find?_of_locate h.located, h.file]

theorem Holds.readManifest {m : Manifest} (h : t.Holds p m.render)
    (hv : m.version = Manifest.currentVersion) : Manifest.read t p = .ok m :=
  Manifest.read_eq_ok_iff.2 ⟨_, h.readText, Manifest.parse_render hv⟩

theorem Holds.rewritten (h : t.Holds p text) (w : t.Rewritten other t')
    (hp : p.place t.home ≠ other.place t.home) (hm : p.place t.home ≠ other.manifest.place t.home) :
    t'.Holds p text := by
  have kept := w.other _ hp hm
  rw [h.file] at kept
  constructor
  · rw [w.onward.home]
    exact w.onward.locate h.located
  · rw [w.onward.home]
    exact kept.eq_some

end FileTree

open FileTree

theorem Path.Ends.place_ne_manifest {p : Path} {front : List String} {name : String}
    (h : p.Ends front name) (home : Location) : p.place home ≠ p.manifest.place home := by
  rw [h.place_manifest, h.place]
  intro he
  have := congrArg (fun name => name.toList.length) (List.cons.inj he).1
  simp only [toList_manifestName, List.length_append] at this
  exact absurd (Nat.left_eq_add.1 this) (by decide)

section

variable {p : Path} {front : List String} {name : String} (h : p.Ends front name)
include h

theorem writeWithManifest_rewritten (contents : String) (provenance : Provenance) (t : FileTree) :
    ∃ r t',
    (Disk.writeWithManifest p contents provenance).apply t = (r, t') ∧ t.Rewritten p t' ∧
      (r = .ok () → t'.Holds p contents) := by
  rcases Disk.writeWithManifest_spec h contents provenance t with
    ⟨e, t', hw, hg⟩ | ⟨g, t', hg, hl, hd, ⟨hw, -, hm, half, h₁, h₂⟩ | ⟨e, hw, h₁, -⟩⟩
  · exact ⟨_, t', hw, hg.rewritten p, by simp⟩
  · have hm' : half.node? (p.manifest.place t.home) ≠ some .directory := by
      rwa [h₁.node_of_ne (h.place_ne_manifest _).symm]
    have file := (hg.rewritten p).setAt h₁ hd (.inl rfl)
    have both := file.setAt h₂ hm' (.inr rfl)
    refine ⟨_, t', hw, both, fun _ => ⟨?_, ?_⟩⟩
    · rw [both.onward.home]
      exact (h₂.onward hm').locate ((h₁.onward hd).locate hl)
    · rw [both.onward.home, h₂.node_of_ne (h.place_ne_manifest _), h₁.node_self]
  · exact ⟨_, t', hw, (hg.rewritten p).setAt h₁ hd (.inl rfl), by simp⟩

theorem writeBare_rewritten (contents : String) (t : FileTree) : ∃ r t',
    (Disk.writeOutput p contents none).apply t = (r, t') ∧ t.Rewritten p t' ∧
      (r = .ok () → t'.Holds p contents) := by
  rw [Disk.writeOutput, Disk.apply_bind]
  rcases Disk.writeAtomic_spec h contents.toUTF8 t with
    ⟨e, t', hw, hg⟩ | ⟨g, t₁, hw, hg, hd, h₁, hl⟩
  · rw [hw]
    exact ⟨_, t', rfl, hg.rewritten p, by simp⟩
  rw [hw]
  have file := (hg.rewritten p).setAt h₁ hd (.inl rfl)
  have home := file.onward.home
  rw [← home] at hl
  rcases Disk.removeManifest_spec h hl with ⟨t', hr, hm, h₂⟩ | ⟨e, hr, -⟩
  · rw [home] at hl hm h₂
    have alone := file.setAt h₂ hm (.inr rfl)
    refine ⟨_, t', hr, alone, fun _ => ⟨?_, ?_⟩⟩
    · rw [alone.onward.home]
      exact (h₂.onward hm).locate hl
    · rw [alone.onward.home, h₂.node_of_ne (h.place_ne_manifest _), h₁.node_self]
  · exact ⟨_, t₁, hr, file, by simp⟩

end

/-- Writing the file of a page changes the file and its manifest only, and a file that is told as
written is there. -/
theorem writeGenerated_spec {options : Options} {page : Page} {file : GeneratedFile}
    (h : generate options page = .ok file) (time : String) (directory : Path)
    (command : Option String) (t : FileTree) : ∃ r t',
    (writeGenerated time directory file command).apply t = (r, t') ∧
      t.Rewritten (directory.join file.relativePath) t' ∧
      ∀ path, r = .ok path → path = directory.join file.relativePath ∧
        t'.Holds (directory.join file.relativePath) file.contents := by
  obtain ⟨d, -, named⟩ := relativePath_of_generate h
  obtain ⟨front, ends⟩ := named.ends.join directory
  obtain ⟨r, t', hw, rewritten, holds⟩ : ∃ r t',
      (Disk.writeOutput (directory.join file.relativePath) file.contents
        (command.map (file.provenance time))).apply t = (r, t') ∧
      t.Rewritten (directory.join file.relativePath) t' ∧
      (r = .ok () → t'.Holds (directory.join file.relativePath) file.contents) := by
    cases command with
    | none => exact writeBare_rewritten ends file.contents t
    | some command =>
      exact writeWithManifest_rewritten ends file.contents _ t
  rw [writeGenerated, Disk.apply_bind, hw]
  cases r with
  | error e => exact ⟨_, t', rfl, rewritten, by simp⟩
  | ok u =>
    refine ⟨_, t', rfl, rewritten, fun path he => ⟨?_, holds rfl⟩⟩
    exact (Except.ok.inj he).symm

/-! ## Outputs -/

/-- A page with the file that is generated for it. -/
structure Emitted where
  page : SourcedPage
  file : GeneratedFile

namespace Emitted

def path (s : Settings) (x : Emitted) : Path := s.output.join x.file.relativePath

/-- The file of a page is what is generated for it. -/
def IsGenerated (s : Settings) (x : Emitted) : Prop :=
  generate s.options x.page.page = .ok x.file

/-- The components of the path of a file below the output directory, which a run claims for it. -/
def claim (x : Emitted) : List Component := x.file.relativePath.components

/-- The file of a page is not claimed by any of some other pages. -/
def IsNew (s : Settings) (pages : List SourcedPage) (x : Emitted) : Prop :=
  ∀ y : Emitted, y.page ∈ pages → y.IsGenerated s → y.claim ≠ x.claim

/-- A page has a file, and of some pages it is the first one for its path. -/
structure IsFirst (s : Settings) (pages : List SourcedPage) (x : Emitted) : Prop where
  generated : x.IsGenerated s
  reached : ∃ front rest, pages = front ++ x.page :: rest ∧ x.IsNew s front

section

variable {s : Settings} {x y : Emitted} {pages : List SourcedPage} {p : SourcedPage}

theorem IsGenerated.ends (h : x.IsGenerated s) : ∃ front name, (x.path s).Ends front name := by
  obtain ⟨d, -, named⟩ := relativePath_of_generate h
  obtain ⟨front, ends⟩ := named.ends.join s.output
  exact ⟨front, _, ends⟩

theorem IsGenerated.eq_of_page (hx : x.IsGenerated s) (hy : y.IsGenerated s)
    (h : x.page = y.page) : x = y := by
  rw [IsGenerated, h] at hx
  obtain ⟨p, file⟩ := x
  obtain rfl : p = y.page := h
  exact congrArg (Emitted.mk y.page) (Except.ok.inj (hx.symm.trans hy))

theorem IsFirst.mem (h : x.IsFirst s pages) : x.page ∈ pages := by
  obtain ⟨front, rest, rfl, -⟩ := h.reached
  exact List.mem_append_right _ (.head _)

theorem isFirst_concat : x.IsFirst s (pages ++ [p]) ↔
    x.IsFirst s pages ∨ x.IsGenerated s ∧ x.page = p ∧ x.IsNew s pages := by
  constructor
  · rintro ⟨hx, front, rest, he, new⟩
    rcases List.eq_nil_or_concat rest with rfl | ⟨rest, q, rfl⟩
    · obtain ⟨rfl, hp⟩ := List.append_inj' he rfl
      exact .inr ⟨hx, (List.cons.inj hp).1.symm, new⟩
    · rw [List.concat_eq_append, ← List.cons_append, ← List.append_assoc] at he
      obtain ⟨rfl, -⟩ := List.append_inj' he rfl
      exact .inl ⟨hx, front, rest, rfl, new⟩
  · rintro (⟨hx, front, rest, rfl, new⟩ | ⟨hx, rfl, new⟩)
    · exact ⟨hx, front, rest ++ [p], by simp, new⟩
    · exact ⟨hx, pages, [], rfl, new⟩

end

end Emitted

/-- The paths of different pages lead to different places, and to none of a manifest. -/
theorem place_ne_of_generate {options : Options} {page page' : Page} {file file' : GeneratedFile}
    (h : generate options page = .ok file) (h' : generate options page' = .ok file')
    (hne : file.relativePath.components ≠ file'.relativePath.components) (output : Path)
    (home : Location) :
    (output.join file.relativePath).place home ≠ (output.join file'.relativePath).place home ∧
      (output.join file.relativePath).place home ≠
        (output.join file'.relativePath).manifest.place home := by
  obtain ⟨d, -, named⟩ := relativePath_of_generate h
  obtain ⟨d', -, named'⟩ := relativePath_of_generate h'
  refine ⟨fun he => hne (named.place_join_inj named' output home he), fun he => ?_⟩
  obtain ⟨front, ends⟩ := named.ends.join output
  obtain ⟨front', ends'⟩ := named'.ends.join output
  rw [ends.place, ends'.place_manifest] at he
  have source := d.outputName.isSourceName_fileName
  rw [(List.cons.inj he).1, isSourceName_manifestName] at source
  cases source

/-- The page and the path that an event tells as written. -/
def Event.written? : Event → Option (Label × Path)
  | written page p => some (page, p)
  | _ => none

namespace Emission

/-- How the pages that have been taken, each with whether it was written, account for how far a run
has come: each that is the first one for its path has claimed it, and has come to be written. -/
structure Tracks (s : Settings) (t : FileTree) (taken : List (SourcedPage × Bool))
    (emitted written : List Emitted) (e : Emission) : Prop where
  claims : ∀ c, e.claims.lookup c ≠ none ↔
    ∃ x : Emitted, x.page ∈ taken.map Prod.fst ∧ x.IsGenerated s ∧ x.claim = c
  first : ∀ x, x ∈ emitted ↔ x.IsFirst s (taken.map Prod.fst)
  pages : (emitted.map Emitted.page).Sublist (taken.map Prod.fst)
  reached : written.Sublist emitted
  passed : (taken.filter (·.2)).map Prod.fst = written.map Emitted.page
  distinct : (emitted.map Emitted.claim).Nodup
  paths : e.written = written.map (Emitted.path s)
  told : e.account.events.filterMap Event.written? =
    written.map fun x => (x.page.label, x.path s)
  failed : ∀ x ∈ emitted, x ∈ written ∨
    ∃ fault, .refused x.page.label (.failure (.files fault)) ∈ e.account.events
  home : e.tree.home = t.home
  holds : ∀ x ∈ written, e.tree.Holds (x.path s) x.file.contents
  other : ∀ q, (∀ x ∈ emitted, q ≠ (x.path s).place t.home ∧ q ≠ (x.path s).manifest.place t.home) →
    Kept (t.node? q) (e.tree.node? q)

section

variable {s : Settings} {t tree : FileTree} {taken : List (SourcedPage × Bool)}
  {emitted written : List Emitted} {e : Emission} {x : Emitted} {p : SourcedPage}

theorem tracks_start (s : Settings) (t : FileTree) {account : Account}
    (h : account.events.filterMap Event.written? = []) :
    Tracks s t [] [] [] { tree := t, account := account } where
  claims c := by simp
  first x := ⟨nofun, fun h => nomatch h.mem⟩
  pages := .slnil
  reached := .slnil
  passed := rfl
  distinct := List.nodup_nil
  paths := rfl
  told := h
  failed := List.forall_mem_nil _
  home := rfl
  holds := List.forall_mem_nil _
  other _ _ := .refl _

/-- The place of a page is free as long as none of those that have been taken is for it. -/
theorem Tracks.isNew_iff (h : Tracks s t taken emitted written e) :
    x.IsNew s (taken.map Prod.fst) ↔ e.claims.lookup x.claim = none := by
  constructor
  · intro new
    by_contra claimed
    obtain ⟨y, hm, hy, he⟩ := (h.claims x.claim).1 claimed
    exact new y hm hy he
  · intro free y hm hy he
    exact (h.claims x.claim).2 ⟨y, hm, hy, he⟩ free

/-- A page that is refused has no file, or one whose place has been claimed. -/
theorem Tracks.refuse (h : Tracks s t taken emitted written e)
    (claimed : ∀ x : Emitted, x.page = p → x.IsGenerated s → e.claims.lookup x.claim ≠ none)
    (problem : PageProblem) :
    Tracks s t (taken ++ [(p, false)]) emitted written
      { e with account := e.account.fail (.refused p.label problem) } := by
  have pages : (taken ++ [(p, false)]).map Prod.fst = taken.map Prod.fst ++ [p] := by simp
  constructor
  case claims =>
    intro c
    rw [pages, h.claims]
    constructor
    · rintro ⟨x, hm, hx, he⟩
      exact ⟨x, List.mem_append_left _ hm, hx, he⟩
    · rintro ⟨x, hm, hx, rfl⟩
      rcases List.mem_append.1 hm with hm | hm
      · exact ⟨x, hm, hx, rfl⟩
      · exact (h.claims x.claim).1 (claimed x (List.mem_singleton.1 hm) hx)
  case first =>
    intro x
    rw [pages, Emitted.isFirst_concat, h.first, or_iff_left]
    rintro ⟨hx, hp, new⟩
    exact claimed x hp hx (h.isNew_iff.1 new)
  case pages =>
    rw [pages]
    exact h.pages.trans (List.sublist_append_left _ _)
  case reached => exact h.reached
  case passed =>
    rw [List.filter_append, List.map_append, h.passed]
    exact List.append_nil _
  case distinct => exact h.distinct
  case paths => exact h.paths
  case told =>
    refine List.filterMap_append.trans ?_
    rw [h.told]
    exact List.append_nil _
  case failed =>
    exact fun x hx => (h.failed x hx).imp id fun ⟨fault, hm⟩ => ⟨fault, List.mem_append_left _ hm⟩
  case home => exact h.home
  case holds => exact h.holds
  case other => exact h.other

/-- A page that claims its place touches no file of an earlier one. -/
theorem Tracks.write (h : Tracks s t taken emitted written e) (hx : x.IsGenerated s)
    (free : e.claims.lookup x.claim = none) (rewritten : e.tree.Rewritten (x.path s) tree)
    {more : List Emitted} {passed : Bool} (reached : more.Sublist [x])
    (same : ([(x.page, passed)].filter (·.2)).map Prod.fst = more.map Emitted.page)
    (holds : ∀ y ∈ more, tree.Holds (y.path s) y.file.contents) {account : Account}
    (told : account.events.filterMap Event.written? =
      e.account.events.filterMap Event.written? ++ more.map fun y => (y.page.label, y.path s))
    (kept : e.account.events ⊆ account.events)
    (failed : x ∈ more ∨
      ∃ fault, .refused x.page.label (.failure (.files fault)) ∈ account.events) :
    Tracks s t (taken ++ [(x.page, passed)]) (emitted ++ [x]) (written ++ more)
      ⟨tree, (x.claim, x.page.label) :: e.claims, e.written ++ more.map (Emitted.path s),
        account⟩ := by
  have pages : (taken ++ [(x.page, passed)]).map Prod.fst = taken.map Prod.fst ++ [x.page] := by
    simp
  have new : x.IsNew s (taken.map Prod.fst) := h.isNew_iff.2 free
  -- Each earlier page has a place of its own.
  have apart : ∀ y ∈ emitted, y.IsGenerated s ∧ y.claim ≠ x.claim := fun y hy =>
    have first := (h.first y).1 hy
    ⟨first.generated, new y first.mem first.generated⟩
  constructor
  case claims =>
    intro c
    rw [pages, List.lookup_cons]
    by_cases hc : c = x.claim
    · subst hc
      rw [beq_self_eq_true]
      simpa using ⟨x, .inr rfl, hx, rfl⟩
    · rw [beq_false_of_ne hc]
      refine (h.claims c).trans ⟨?_, ?_⟩
      · rintro ⟨y, hm, hy, he⟩
        exact ⟨y, List.mem_append_left _ hm, hy, he⟩
      · rintro ⟨y, hm, hy, he⟩
        rcases List.mem_append.1 hm with hm | hm
        · exact ⟨y, hm, hy, he⟩
        · obtain rfl := hy.eq_of_page hx (List.mem_singleton.1 hm)
          exact absurd he.symm hc
  case first =>
    intro y
    rw [pages, Emitted.isFirst_concat, List.mem_append, h.first, List.mem_singleton]
    refine or_congr_right ⟨?_, fun ⟨hy, hp, _⟩ => hy.eq_of_page hx hp⟩
    rintro rfl
    exact ⟨hx, rfl, new⟩
  case pages =>
    rw [pages, List.map_append]
    exact h.pages.append (.refl _)
  case reached => exact h.reached.append reached
  case passed => rw [List.filter_append, List.map_append, h.passed, same, List.map_append]
  case distinct =>
    rw [List.map_append, List.map_singleton, ← List.concat_eq_append]
    refine h.distinct.concat fun hm => ?_
    obtain ⟨y, hy, he⟩ := List.mem_map.1 hm
    exact (apart y hy).2 he
  case paths => rw [List.map_append, h.paths]
  case told => rw [told, h.told, List.map_append]
  case failed =>
    rw [List.forall_mem_append, List.forall_mem_singleton]
    constructor
    · intro y hy
      exact (h.failed y hy).imp (List.mem_append_left _) fun ⟨fault, hm⟩ => ⟨fault, kept hm⟩
    · exact failed.imp (List.mem_append_right _) id
  case home => exact rewritten.onward.home.trans h.home
  case holds =>
    rw [List.forall_mem_append]
    refine ⟨fun y hy => ?_, holds⟩
    obtain ⟨hg, hne⟩ := apart y (h.reached.subset hy)
    obtain ⟨hp, hm⟩ := place_ne_of_generate hg hx hne s.output e.tree.home
    exact (h.holds y hy).rewritten rewritten hp hm
  case other =>
    intro q hq
    rw [List.forall_mem_append, List.forall_mem_singleton] at hq
    obtain ⟨hp, hm⟩ := hq.2
    rw [← h.home] at hp hm
    exact (h.other q hq.1).trans (rewritten.other q hp hm)

theorem Tracks.add (h : Tracks s t taken emitted written e) (time : String) (p : SourcedPage) :
    ∃ emitted written, Tracks s t
      (taken ++ [(p, (e.add s time (p, generate s.options p.page)).2)]) emitted written
      (e.add s time (p, generate s.options p.page)).1 := by
  rcases add_cases s time e p (generate s.options p.page) with
    ⟨problem, he, claimed⟩ | ⟨file, r, tree, hg, free, hw, step⟩
  · rw [he]
    refine ⟨emitted, written, h.refuse ?_ problem⟩
    rintro x rfl hx
    exact claimed x.file hx
  obtain ⟨r', tree', hw', rewritten, ok⟩ := writeGenerated_spec hg time s.output _ e.tree
  obtain ⟨rfl, rfl⟩ := Prod.mk.inj (hw.symm.trans hw')
  have write := @Tracks.write s t tree taken emitted written e ⟨p, file⟩ h hg free rewritten
  rcases step with ⟨path, rfl, he⟩ | ⟨fault, rfl, he⟩
  · obtain ⟨rfl, holds⟩ := ok path rfl
    rw [he]
    refine ⟨_, _, write (.refl _) rfl (List.forall_mem_singleton.2 holds) ?_ ?_ (.inl (.head _))⟩
    · simp only [Account.pass, Account.note, List.append_assoc, List.filterMap_append]
      rfl
    · simp [Account.pass, Account.note]
  · have events : (e.account.fail (.refused p.label (.failure (.files fault)))).events =
        e.account.events ++ [.refused p.label (.failure (.files fault))] := rfl
    have same : ([(p, false)].filter (·.2)).map Prod.fst = [].map Emitted.page := rfl
    have tracks := write (List.nil_sublist _) same (List.forall_mem_nil _)
      (by rw [events, List.filterMap_append]; rfl)
      (List.subset_append_left _ _) (.inr ⟨fault, List.mem_append_right _ (.head _)⟩)
    rw [he]
    simp only [List.map_nil, List.append_nil] at tracks
    exact ⟨_, _, tracks⟩

end

end Emission

/-! ## Runs -/

theorem filterMap_written?_load (t : FileTree) (failFast : Bool) (files : List Path) :
    (Inputs.load t failFast files).account.events.filterMap Event.written? = [] := by
  refine takeEach_induction (P := fun i : Inputs => i.account.events.filterMap Event.written? = [])
    (fun i file _ h => ?_) rfl
  rw [Inputs.add]
  split
  · split_ifs
    · exact List.filterMap_append.trans (by rw [h]; rfl)
    · exact h
  · exact List.filterMap_append.trans (by rw [h]; rfl)

theorem zip_generateAll (cores jobs : Nat) (o : Options) (pages : List SourcedPage) :
    pages.zip (generateAll cores jobs o (pages.map SourcedPage.page)) =
      pages.map fun p => (p, generate o p.page) := by
  rw [generateAll_eq_map, List.map_map]
  exact List.map_prod_left_eq_zip.symm

theorem nodup_components_path {s : Settings} {xs : List Emitted}
    (generated : ∀ x ∈ xs, generate s.options x.page.page = .ok x.file)
    (distinct : (xs.map fun x => x.file.relativePath.components).Nodup) :
    (xs.map fun x => (x.path s).components).Nodup := by
  have components : (xs.map fun x => (x.path s).components) =
      (xs.map fun x => x.file.relativePath.components).map (s.output.components ++ ·) := by
    rw [List.map_map]
    refine List.map_congr_left fun x hx => ?_
    obtain ⟨d, -, named⟩ := relativePath_of_generate (generated x hx)
    exact named.components_join s.output
  rw [components]
  exact distinct.map (List.append_right_injective _)

/-- What a run leaves of the pages that it took of its inputs, each with whether it was written.
Those that came to be written are the first ones for their paths, in their order, and each of them
was either told as written or refused for its files. -/
structure Emits (s : Settings) (inputs : Inputs) (t : FileTree) (taken : List (SourcedPage × Bool))
    (emitted written : List Emitted) (o : Outcome (List Path)) : Prop where
  takes : Takes s.failFast inputs.pages taken ∨
    s.failFast = true ∧ 0 < inputs.unreadable ∧ taken = []
  first : ∀ x, x ∈ emitted ↔ x.IsFirst s (taken.map Prod.fst)
  passed : (taken.filter (·.2)).map Prod.fst = written.map Emitted.page
  pages : (emitted.map Emitted.page).Sublist inputs.pages
  generated : ∀ x ∈ emitted, generate s.options x.page.page = .ok x.file
  reached : written.Sublist emitted
  failed : ∀ x ∈ emitted, x ∈ written ∨
    ∃ fault, .refused x.page.label (.failure (.files fault)) ∈ o.events
  told : o.events.filterMap Event.written? = written.map fun x => (x.page.label, x.path s)
  result : ∀ paths, o.result = .ok paths → paths = written.map (Emitted.path s)
  claimed : (emitted.map fun x => x.file.relativePath.components).Nodup
  distinct : (written.map fun x => (x.path s).components).Nodup
  contents : ∀ x ∈ written, o.tree.readText (x.path s) = .ok x.file.contents
  other : ∀ q, Kept (t.node? q) (o.tree.node? q) ∨
    ∃ x ∈ emitted, q = (x.path s).place t.home ∨ q = (x.path s).manifest.place t.home

/-- In the end of a run each file that is told as written is at a path of its own with the text of
its page, and nothing is touched but the files of pages that came to be written, and their
manifests. -/
theorem emits_emitPages (m : Machine) (s : Settings) (files : List Path) (t : FileTree) :
    ∃ taken emitted written, Emits s (Inputs.load t s.failFast files) t taken emitted written
      (emitPages m s files t) := by
  have loaded := filterMap_written?_load t s.failFast files
  unfold emitPages
  simp only
  split
  · rename_i stops
    have early : s.failFast = true ∧ 0 < (Inputs.load t s.failFast files).unreadable := by
      simpa using stops
    exact ⟨[], [], [], .inr ⟨early.1, early.2, rfl⟩, fun x => ⟨nofun, fun h => nomatch h.mem⟩, rfl,
      List.nil_sublist _, List.forall_mem_nil _, .slnil, List.forall_mem_nil _, loaded, nofun,
      List.nodup_nil, List.nodup_nil, List.forall_mem_nil _, fun q => .inl (.refl _)⟩
  generalize Inputs.load t s.failFast files = inputs at loaded ⊢
  rw [zip_generateAll, takeEach_map]
  obtain ⟨taken, takes, emitted, written, tracks⟩ := exists_takes
    (P := fun taken e => ∃ emitted written, Emission.Tracks s t taken emitted written e)
    (fun taken e p ⟨_, _, h⟩ => h.add m.time p) ⟨[], [], Emission.tracks_start s t loaded⟩
  rw [List.nil_append] at tracks
  generalize takeEach _ _ _ _ = e at tracks
  have generated : ∀ x ∈ emitted, x.IsGenerated s := fun x hx =>
    ((tracks.first x).1 hx).generated
  refine ⟨taken, emitted, written, ?_⟩
  constructor
  case takes => exact .inl takes
  case first => exact tracks.first
  case passed => exact tracks.passed
  case pages => exact tracks.pages.trans takes.sublist
  case generated => exact generated
  case reached => exact tracks.reached
  case failed =>
    exact fun x hx => (tracks.failed x hx).imp id fun ⟨fault, hm⟩ =>
      ⟨fault, List.mem_append_left _ hm⟩
  case told =>
    refine List.filterMap_append.trans ?_
    rw [tracks.told]
    exact List.append_nil _
  case result =>
    intro paths h
    split_ifs at h
    rw [← tracks.paths]
    exact (Except.ok.inj h).symm
  case claimed => exact tracks.distinct
  case distinct =>
    exact nodup_components_path (fun x hx => generated x (tracks.reached.subset hx))
      (tracks.distinct.sublist (tracks.reached.map _))
  case contents => exact fun x hx => (tracks.holds x hx).readText
  case other =>
    intro q
    by_cases h : ∃ x ∈ emitted,
        q = (x.path s).place t.home ∨ q = (x.path s).manifest.place t.home
    · exact .inr h
    · refine .inl (tracks.other q fun x hx => not_or.1 fun hq => h ⟨x, hx, hq⟩)

end PageAccessors
