import PageAccessors.Proofs.CanonicalText
import PageAccessors.Proofs.Recorded
import PageAccessors.Proofs.SameSource
import PageAccessors.Proofs.WrittenFiles

/-!
# Regeneration

The command that a manifest notes generates its file again. A run over the file's source alone comes
to the same page: what stands in front of it there stood in front of it in the first run
(`exists_split_flatMap`). Where the files of the first run are still files, none of the later run
fails to be written in its place (`writtenBy_take`). With the settings of the first run, as far as
they shape the files, this gives the same path and the same text (`regenerated_of_written`). A
package of the runtime library that was named for the first run only is lost
(`not_forall_regenerated`).
-/

namespace PageAccessors

open FileTree

/-! ## The pages of a file -/

/-- The pages that a file contributes to a run. -/
def pagesOf (t : FileTree) (file : Path) : List SourcedPage :=
  match loadPages t file with
  | .ok pages => pages.map (⟨file, ·⟩)
  | .error _ => []

theorem source_of_mem_pagesOf {t : FileTree} {file : Path} {p : SourcedPage}
    (h : p ∈ pagesOf t file) : p.source = file := by
  unfold pagesOf at h
  split at h
  · obtain ⟨_, -, rfl⟩ := List.mem_map.1 h
    rfl
  · cases h

theorem pages_add (t : FileTree) (i : Inputs) (file : Path) :
    (i.add t file).1.pages = i.pages ++ pagesOf t file := by
  unfold Inputs.add pagesOf
  cases loadPages t file <;> simp

/-- The pages of a run are those of its files, one file after the other. -/
theorem pages_load (t : FileTree) (failFast : Bool) (files : List Path) : ∃ front : List Path,
    (Inputs.load t failFast files).pages = front.flatMap (pagesOf t) := by
  have added : ∀ (taken : List (Path × Bool)) (i : Inputs) (file : Path),
      i.pages = (taken.map Prod.fst).flatMap (pagesOf t) → (i.add t file).1.pages =
        ((taken ++ [(file, (i.add t file).2)]).map Prod.fst).flatMap (pagesOf t) := by
    intro taken i file h
    rw [pages_add, h, List.map_append, List.flatMap_append]
    exact congrArg _ (List.flatMap_singleton _ _).symm
  have none_ : ({} : Inputs).pages = (([] : List (Path × Bool)).map Prod.fst).flatMap (pagesOf t) :=
    rfl
  obtain ⟨taken, -, pages⟩ := exists_takes (l := files) added none_
  exact ⟨_, pages⟩

theorem load_singleton {t : FileTree} {file : Path} (h : pagesOf t file ≠ []) (failFast : Bool) :
    (Inputs.load t failFast [file]).pages = pagesOf t file ∧
      (Inputs.load t failFast [file]).unreadable = 0 := by
  have added := pages_add t {} file
  cases hl : loadPages t file with
  | error f =>
    rw [pagesOf, hl] at h
    exact absurd rfl h
  | ok pages =>
    have passed : Inputs.load t failFast [file] = (Inputs.add t {} file).1 := by
      rw [Inputs.load, takeEach]
      simp only [Inputs.add, hl]
      simp [takeEach]
    refine ⟨by rw [passed, added, List.nil_append], ?_⟩
    rw [passed, Inputs.unreadable]
    simp only [Inputs.add, hl]
    split_ifs <;> rfl

/-- What stands in front of an element in its own part stands in front of it in the whole. -/
theorem exists_split_flatMap {α β : Type} {part : α → List β} : ∀ {as : List α}
    {front rest : List β} {b : β}, as.flatMap part = front ++ b :: rest →
    ∃ a before after pre, part a = before ++ b :: after ∧ front = pre ++ before
  | [], _, _, _, h => by simp at h
  | a :: as, front, rest, b, h => by
    rw [List.flatMap_cons, List.append_eq_append_iff] at h
    rcases h with ⟨between, rfl, h⟩ | ⟨between, ha, h⟩
    · obtain ⟨a', before, after, pre, hp, rfl⟩ := exists_split_flatMap h
      exact ⟨a', before, after, part a ++ pre, hp, by simp⟩
    · cases between with
      | nil =>
        rw [List.append_nil] at ha
        have h : as.flatMap part = [] ++ b :: rest := h.symm
        obtain ⟨a', before, after, pre, hp, he⟩ := exists_split_flatMap h
        obtain ⟨rfl, rfl⟩ := List.append_eq_nil_iff.1 he.symm
        exact ⟨a', [], after, front, hp, by simp⟩
      | cons b' between =>
        rw [List.cons_append, List.cons.injEq] at h
        obtain ⟨rfl, -⟩ := h
        exact ⟨a, front, between, [], ha, by simp⟩

/-! ## The run over the source alone -/

theorem AllEmitted.uncons {s : Settings} {P : Emitted → Prop} {p : SourcedPage}
    {pages : List SourcedPage} (h : AllEmitted s P (p :: pages)) : ∃ y : Emitted, y.page = p ∧
      y.IsGenerated s ∧ P y ∧ AllEmitted s (fun z => P z ∧ z.claim ≠ y.claim) pages := by
  obtain ⟨xs, he, hP, distinct⟩ := h
  obtain ⟨y, ys, rfl, rfl, rfl⟩ := List.map_eq_cons_iff.1 he
  rw [List.forall_mem_cons] at hP
  rw [List.map_cons, List.nodup_cons] at distinct
  refine ⟨y, rfl, hP.1.1, hP.1.2, ys, rfl, fun z hz => ?_, distinct.2⟩
  exact ⟨(hP.2 z hz).1, (hP.2 z hz).2, fun hc => distinct.1 (hc ▸ List.mem_map_of_mem hz)⟩

/-- A run has told that the file of a page is written, and it is there with its manifest. -/
structure Emitted.WrittenBy (s : Settings) (time : String) (e : Emission) (x : Emitted) : Prop where
  told : .written x.page.label (x.path s) ∈ e.account.events
  held : x.HeldBy s time e.tree

section

variable {s : Settings} {time : String} {x y : Emitted} {e : Emission}

/-- Later pages leave what was written. -/
theorem Emitted.WrittenBy.take (on : s.manifests = true) (h : x.WrittenBy s time e)
    (hx : x.IsGenerated s) (claimed : e.claims.lookup x.claim ≠ none) (rest : List SourcedPage) :
    x.WrittenBy s time (e.take s time rest) := by
  refine (takeEach_induction (P := fun e : Emission =>
    x.WrittenBy s time e ∧ e.claims.lookup x.claim ≠ none) ?_ ⟨h, claimed⟩).1
  rintro e a ha ⟨h, claimed⟩
  obtain ⟨p, -, rfl⟩ := List.mem_map.1 ha
  rcases Emission.add_spec on time e p with
    ⟨problem, he, -⟩ | ⟨y, rfl, hy, free, tree, rewritten, step⟩
  · rw [he]
    exact ⟨⟨List.mem_append_left _ h.told, h.held⟩, claimed⟩
  have held := h.held.rewritten hx hy (fun hc => claimed (hc ▸ free)) rewritten
  have claimed' := Emission.lookup_cons_ne_none (y := y) y.page.label (.inr claimed)
  rcases step with ⟨-, he⟩ | ⟨fault, -, he⟩
  · rw [he]
    exact ⟨⟨List.mem_append_left _ (List.mem_append_left _ h.told), held⟩, claimed'⟩
  · rw [he]
    exact ⟨⟨List.mem_append_left _ h.told, held⟩, claimed'⟩

/-- A page whose place is free, and in its place with its manifest, is written, if in front of it
none has its place; nor may any fail, if the run ends early. -/
theorem writtenBy_take (on : s.manifests = true) (hx : x.IsGenerated s) {rest : List SourcedPage} :
    ∀ {front : List SourcedPage} {e : Emission}, x.IsNew s front →
    e.claims.lookup x.claim = none → e.tree.InPlace (x.path s) →
    (s.failFast = true → AllEmitted s (fun y => e.claims.lookup y.claim = none ∧
      e.tree.InPlace (y.path s)) front) →
    x.WrittenBy s time (e.take s time (front ++ x.page :: rest))
  | [], e, _, free, ready, _ => by
    rcases Emission.add_spec on time e x.page with
      ⟨problem, -, claimed⟩ | ⟨y, hp, hy, -, tree, -, step⟩
    · exact absurd free (claimed x rfl hx)
    obtain rfl := hy.eq_of_page hx hp
    rcases step with ⟨held, he⟩ | ⟨fault, away, -⟩
    · have told : .written y.page.label (y.path s) ∈
          ((e.account.note (.generated y.file)).pass (.written y.page.label (y.path s))).events :=
        List.mem_append_right _ (.head _)
      rw [List.nil_append, Emission.take_cons he, if_neg (by simp)]
      exact Emitted.WrittenBy.take on ⟨told, held⟩ hx
        (Emission.lookup_cons_ne_none _ (.inl rfl)) rest
    · exact absurd ready away
  | p :: front, e, new, free, ready, early => by
    -- Each page in front has a place of its own, so that this one's stays free and as it is.
    have new' : x.IsNew s front := fun y hm => new y (.tail _ hm)
    rcases Emission.add_spec on time e p with
      ⟨problem, he, claimed⟩ | ⟨y, rfl, hy, free', tree, rewritten, step⟩
    · -- A page that is refused is none of those that may not fail.
      have late : ¬ s.failFast = true := by
        intro hf
        obtain ⟨y, hp, hy, ⟨hc, -⟩, -⟩ := (early hf).uncons
        exact claimed y hp hy hc
      rw [List.cons_append, Emission.take_cons he, if_neg (by simp [late])]
      exact writtenBy_take on hx new' free ready fun hf => absurd hf late
    have hne := (new y (.head _) hy).symm
    have ready' := ready.rewritten hx hy hne rewritten
    have apart := Emission.lookup_cons_claim hne y.page.label e.claims
    have early' : s.failFast = true → e.tree.InPlace (y.path s) ∧ AllEmitted s
        (fun z => ((y.claim, y.page.label) :: e.claims).lookup z.claim = none ∧
          tree.InPlace (z.path s)) front := by
      intro hf
      obtain ⟨z, hp, hz, ⟨-, first⟩, others⟩ := (early hf).uncons
      obtain rfl := hz.eq_of_page hy hp
      refine ⟨first, others.imp fun w _ hw ⟨⟨hc, hr⟩, hne⟩ => ?_⟩
      exact ⟨(Emission.lookup_cons_claim hne _ _).trans hc, hr.rewritten hw hz hne rewritten⟩
    rcases step with ⟨-, he⟩ | ⟨fault, away, he⟩
    · rw [List.cons_append, Emission.take_cons he, if_neg (by simp)]
      exact writtenBy_take on hx new' (apart.trans free) ready' fun hf => (early' hf).2
    · have late : ¬ s.failFast = true := fun hf => away (early' hf).1
      rw [List.cons_append, Emission.take_cons he, if_neg (by simp [late])]
      exact writtenBy_take on hx new' (apart.trans free) ready' fun hf => absurd hf late

/-- A run over one file writes a page of it whose place is free, and in its place with its
manifest. -/
theorem writtenBy_emitPages {m : Machine} {source : Path} {t : FileTree}
    {before after : List SourcedPage} (on : s.manifests = true)
    (hp : pagesOf t source = before ++ x.page :: after) (hx : x.IsGenerated s)
    (new : x.IsNew s before) (ready : t.InPlace (x.path s))
    (early : s.failFast = true → AllEmitted s (fun y => t.InPlace (y.path s)) before) :
    .written x.page.label (x.path s) ∈ (emitPages m s [source] t).events ∧
      x.HeldBy s m.time (emitPages m s [source] t).tree := by
  have some_ : pagesOf t source ≠ [] := by simp [hp]
  obtain ⟨pages, readable⟩ := load_singleton some_ s.failFast
  let e : Emission := { tree := t, account := (Inputs.load t s.failFast [source]).account }
  obtain ⟨told, held⟩ : x.WrittenBy s m.time (e.take s m.time (before ++ x.page :: after)) :=
    writtenBy_take on hx new rfl ready fun hf => (early hf).imp fun _ _ _ h => ⟨rfl, h⟩
  rw [emitPages_eq_take (fun _ => readable), pages, hp]
  exact ⟨List.mem_append_left _ told, held⟩

end

/-! ## Two runs -/

/-- A tree with the directories of another one, and files where it has files, perhaps others. -/
structure FileTree.Retained (t t' : FileTree) : Prop where
  onward : t.Onward t'
  file : ∀ q bytes, t.node? q = some (.file bytes) → ∃ bytes', t'.node? q = some (.file bytes')

/-- After a run in a tree, which left another one: its files are still files, and the file that a
page comes from and the default settings file read as they did before. -/
structure FileTree.Resumes (t left t' : FileTree) (source : Path) : Prop where
  retained : left.Retained t'
  pages : loadPages t' source = loadPages t source
  settings : Settings.Layer.find t' none = Settings.Layer.find t none

section

variable {s s' : Settings} {time : String} {t t' : FileTree} {x : Emitted}

theorem Emitted.HeldBy.inPlace (h : x.HeldBy s time t) (r : t.Retained t') :
    t'.InPlace (x.path s) := by
  constructor
  · rw [r.onward.home]
    exact r.onward.locate h.file.located
  · rw [r.onward.home]
    exact r.onward.locate h.manifest.located
  · rw [r.onward.home]
    exact r.file _ _ h.file.file
  · rw [r.onward.home]
    exact r.file _ _ h.manifest.file

/-- A page that was written is written again from its source. -/
theorem Emitted.Written.again {failFast : Bool} {files : List Path} {left : FileTree}
    (h : x.Written s time (Inputs.load t failFast files).pages left)
    (resumes : t.Resumes left t' x.page.source) (repeats : s'.Repeats s) (on : s.manifests = true)
    (m : Machine) :
    .written x.page.label (x.path s) ∈ (emitPages m s' [x.page.source] t').events ∧
      (emitPages m s' [x.page.source] t').tree.Holds (x.path s) x.file.contents := by
  obtain ⟨front, rest, hp, new, early⟩ := h.reached
  obtain ⟨loaded, hl⟩ := pages_load t failFast files
  rw [hl] at hp
  -- The pages in front of it in its own file were in front of it in the first run, too.
  obtain ⟨file, before, after, pre, hf, rfl⟩ := exists_split_flatMap hp
  obtain rfl : x.page.source = file := source_of_mem_pagesOf (t := t) (by simp [hf])
  have same : pagesOf t' x.page.source = before ++ x.page :: after := by
    rw [← hf, pagesOf, pagesOf, resumes.pages]
  have path : ∀ y : Emitted, y.path s' = y.path s := fun y => by
    rw [Emitted.path, Emitted.path, repeats.output]
  have generated : ∀ y : Emitted, y.IsGenerated s' ↔ y.IsGenerated s := fun y => by
    rw [Emitted.IsGenerated, Emitted.IsGenerated, repeats.options]
  obtain ⟨told, held⟩ := writtenBy_emitPages (m := m) (x := x) (repeats.manifests on) same
    ((generated x).2 h.generated)
    (fun y hm hy => new y (List.mem_append_right _ hm) ((generated y).1 hy))
    (path x ▸ h.held.inPlace resumes.retained) fun ends => by
      obtain ⟨xs, he, hxs, distinct⟩ := (early (repeats.failFast ends)).right
      refine ⟨xs, he, fun y hy => ⟨(generated y).2 (hxs y hy).1, ?_⟩, distinct⟩
      simp only [path]
      exact (hxs y hy).2.inPlace resumes.retained
  rw [path] at told
  exact ⟨told, path x ▸ held.file⟩

end

/-- The manifest of a file notes a command that generates the file again: it is read as a command to
generate, and its run in another tree tells the same path as written, with the same text. -/
def FileTree.Regenerates (left t' : FileTree) (label : Label) (path : Path) : Prop :=
  ∃ contents manifest again s',
    left.readText path = .ok contents ∧
    Manifest.read left path.manifest = .ok manifest ∧
    (∀ directory, Invocation.ofCommand manifest.provenance.command directory = .ok again) ∧
    (∃ inputs flags, again.command = .generate inputs flags) ∧
    again.settings t' = .ok s' ∧ ∀ m' : Machine,
      .written label path ∈ (again.command.run m' s' t').events ∧
      (again.command.run m' s' t').tree.readText path = .ok contents

theorem Emitted.command_manifest (s : Settings) (time : String) (x : Emitted) :
    (x.manifest s time).provenance.command = regenerateCommand x.page.source s.output := rfl

theorem Emitted.HeldBy.read_manifest {s : Settings} {time : String} {t : FileTree} {x : Emitted}
    (h : x.HeldBy s time t) :
    Manifest.read t (x.path s).manifest = .ok (x.manifest s time) :=
  h.manifest.readManifest rfl

/-! ## A run in place -/

/-- Files that a run leaves as they are read as before it, so that another run can follow. -/
theorem resumes_of_holds {t left : FileTree} {source : Path} {text settings : String}
    (hs : t.Holds source text) (hd : t.Holds Settings.defaultFile settings)
    (hs' : left.Holds source text) (hd' : left.Holds Settings.defaultFile settings) :
    t.Resumes left left source := by
  have isFile : ∀ {t : FileTree}, t.Holds Settings.defaultFile settings →
      t.isFile Settings.defaultFile = true := fun h => by
    rw [isFile, find?_of_locate h.located, h.file]
  refine ⟨⟨⟨rfl, fun _ => id⟩, fun _ bytes h => ⟨bytes, h⟩⟩, ?_, ?_⟩
  · rw [loadPages, loadPages, hs.readText, hs'.readText]
  · rw [Settings.Layer.find, Settings.Layer.find, isFile hd, isFile hd', Settings.Layer.read,
      Settings.Layer.read, hd.readText, hd'.readText]

/-! ## The package of the runtime library -/

theorem toClass_runtimePackage (d : Declaration) (o : Options) (runtime : String) :
    d.toClass { o with runtimePackage := runtime } =
      { d.toClass o with imports := (d.toClass { o with runtimePackage := runtime }).imports } := by
  have parts (o : Options) : d.toClass o =
      ⟨o.provenance, d.outputName, generatedPackage d.package, (d.toClass o).imports, d.url,
        d.entries.map (·.member)⟩ := by
    simp only [← header_toClass d o, ← name_toClass d o, ← package_toClass d o,
      ← initializer_toClass d o, ← members_toClass d o]
  rw [parts, parts o]
  rfl

/-- Classes that differ in their imports only have the same source only if they have the same lines
for these. -/
theorem importText_eq_of_source_eq {c c' : AccessorClass}
    (only : c' = { c with imports := c'.imports }) (h : c'.source = c.source) :
    String.join ((Source.importLines c'.imports).map (· ++ "\n")) =
      String.join ((Source.importLines c.imports).map (· ++ "\n")) := by
  have text (imports : List String) : { c with imports := imports }.source =
      String.join ((Source.headerLines c.header ++ ["package " ++ c.package, ""]).map
          (· ++ "\n")) ++
        (String.join ((Source.importLines imports).map (· ++ "\n")) ++
        String.join ((["context(WebDriver)", "public class " ++ c.name.text ++ " \x7b"] ++
          [""].intercalate (Source.blocks c) ++ ["\x7d"]).map (· ++ "\n"))) := by
    simp only [← String.toList_inj, AccessorClass.source, Source.classLines, String.toList_append,
      String.toList_join, List.map_append, List.flatMap_append, List.append_assoc]
    rfl
  rw [only, text, text c.imports] at h
  simpa using h

/-! ## A page in its place -/

namespace Login

def name : Identifier := ⟨"Login", by decide⟩

def page : SourcedPage := ⟨.ofString "login.json", .bare "" "Login" "user"⟩

def output : Path := .ofString "out"

def path : Path := .ofString "out/generated/Login.kt"

/-- A directory with the page, settings that say nothing, and files where the page is written. -/
def tree : FileTree where
  home := []
  entries := [
    (["pagegen.yaml"], .file "".toUTF8),
    (["login.json"], .file page.page.canonicalText.toUTF8),
    (["out"], .directory),
    (["generated", "out"], .directory),
    (["Login.kt", "generated", "out"], .file "".toUTF8),
    (["Login.kt.manifest.json", "generated", "out"], .file "".toUTF8)]
  distinct := by decide
  closed := by simp

def declaration : Declaration := .bare "" name ⟨"user", by decide⟩

def settings (o : Options) : Settings := { output := output, options := o }

def emitted (o : Options) : Emitted :=
  ⟨page, "Login", (declaration.toClass o).package, (declaration.toClass o).name.text,
    (declaration.toClass o).relativePath, (declaration.toClass o).source, page.page.inputHash⟩

theorem validate_page : validate page.page = .ok declaration :=
  validate_bare name ⟨"user", by decide⟩ (by simp [packageSegments])

theorem isGenerated (o : Options) : (emitted o).IsGenerated (settings o) := by
  have options : (settings o).options = o := rfl
  rw [Emitted.IsGenerated, options, emitted, generate, validate_page]
  rfl

theorem path_emitted (o : Options) : (emitted o).path (settings o) = path := by
  change output.join (declaration.toClass o).relativePath = path
  rw [AccessorClass.relativePath, AccessorClass.fileName, name_toClass, package_toClass]
  decide

theorem page_emitted (o : Options) : (emitted o).page = page := by
  rw [emitted]

theorem contents_emitted (o : Options) :
    (emitted o).file.contents = (declaration.toClass o).source := by
  rw [emitted]

theorem holds_source : tree.Holds page.source page.page.canonicalText := ⟨rfl, rfl⟩

theorem holds_defaultFile : tree.Holds Settings.defaultFile "" := ⟨rfl, rfl⟩

theorem inPlace : tree.InPlace path := ⟨rfl, rfl, ⟨_, rfl⟩, ⟨_, rfl⟩⟩

theorem loadPages_of_holds {t : FileTree} (h : t.Holds page.source page.page.canonicalText) :
    loadPages t page.source = .ok [page.page] := by
  have format : Format.ofPath? page.source = some .json := by decide +kernel
  have read : Page.listOfText .json page.page.canonicalText = .ok [page.page] :=
    Page.listOfText_render page.page.nests_toData (by decide) page.page.listOfData_toData
  rw [loadPages, format, h.readText]
  simp only [Except.ok_bind, Except.mapError, read]

theorem loadPages_source : loadPages tree page.source = .ok [page.page] :=
  loadPages_of_holds holds_source

theorem pagesOf_source : pagesOf tree page.source = [page] := by
  rw [pagesOf, loadPages_source]
  rfl

theorem find_tree : Settings.Layer.find tree none = .ok {} := by
  have isFile : tree.isFile Settings.defaultFile = true := rfl
  rw [Settings.Layer.find, isFile, if_pos rfl, Settings.Layer.read, holds_defaultFile.readText]
  rfl

/-- The invocation that writes the page and may name the package of the runtime library. -/
def invocation (runtime : Option String) : Invocation :=
  ⟨{}, .generate [page.source] { output := some output, runtimePackage := runtime }⟩

def options (runtime : Option String) : Options :=
  { runtimePackage := runtime.getD ({} : Options).runtimePackage }

theorem settings_invocation {t : FileTree} (h : Settings.Layer.find t none = .ok {})
    (runtime : Option String) :
    (invocation runtime).settings t = .ok (settings (options runtime)) :=
  Invocation.settings_eq_ok_iff.2 ⟨{}, h, rfl⟩

def outcome (runtime : Option String) (t : FileTree) : Outcome Unit :=
  (invocation runtime).command.run ⟨1, ""⟩ (settings (options runtime)) t

theorem events_outcome (runtime : Option String) (t : FileTree) :
    (outcome runtime t).events =
      (emitPages ⟨1, ""⟩ (settings (options runtime)) [page.source] t).events := rfl

theorem tree_outcome (runtime : Option String) (t : FileTree) :
    (outcome runtime t).tree =
      (emitPages ⟨1, ""⟩ (settings (options runtime)) [page.source] t).tree := rfl

theorem written_outcome (runtime : Option String) {t : FileTree}
    (pages : pagesOf t page.source = [page]) (ready : t.InPlace path) :
    .written page.label path ∈ (outcome runtime t).events ∧
      (emitted (options runtime)).HeldBy (settings (options runtime)) ""
        (outcome runtime t).tree := by
  have split : pagesOf t page.source = [] ++ (emitted (options runtime)).page :: [] := by
    rw [page_emitted, pages, List.nil_append]
  rw [← path_emitted (options runtime)] at ready
  have written := writtenBy_emitPages (m := ⟨1, ""⟩) rfl split (isGenerated _)
    (fun _ hm => absurd hm List.not_mem_nil) ready nofun
  rwa [page_emitted, path_emitted, ← events_outcome, ← tree_outcome] at written

/-- A run that writes the page leaves its source and the settings as they are. -/
theorem resumes_outcome (runtime : Option String) :
    tree.Resumes (outcome runtime tree).tree (outcome runtime tree).tree page.source := by
  have some_ : pagesOf tree page.source ≠ [] := by simp [pagesOf_source]
  have pages := (load_singleton some_ (settings (options runtime)).failFast).1
  rw [pagesOf_source] at pages
  have only : ∀ x : Emitted,
      x.page ∈ (Inputs.load tree (settings (options runtime)).failFast [page.source]).pages →
      x.IsGenerated (settings (options runtime)) → x.path (settings (options runtime)) = path := by
    intro x hm hx
    rw [pages, List.mem_singleton] at hm
    rw [hx.eq_of_page (isGenerated _) hm, path_emitted]
  rw [tree_outcome]
  refine resumes_of_holds holds_source holds_defaultFile
    (holds_source.emitPages fun x hm hx => ?_) (holds_defaultFile.emitPages fun x hm hx => ?_)
  · rw [only x hm hx]
    decide
  · rw [only x hm hx]
    decide

theorem member_declaration : declaration.entries.map (·.member) =
    [.property ⟨⟨"user", by decide⟩, .default "user"⟩] := by
  have plain := (template_of_locator?_none (e := ⟨"user", []⟩) rfl (isName_iff.2 (by decide))).1
  rw [declaration, Declaration.bare, List.map_singleton, member_eq (e := ⟨"user", []⟩) rfl rfl,
    if_neg fun h => Template.isParameterized_iff.1 h plain]
  rfl

/-- The source of the page imports the lookup from the package of the runtime library. -/
theorem contents_ne : (emitted (options (some "com.acme.ui"))).file.contents ≠
    (emitted (options none)).file.contents := by
  rw [contents_emitted, contents_emitted]
  intro h
  have imports := importText_eq_of_source_eq
    (toClass_runtimePackage declaration {} "com.acme.ui") h
  rw [imports_toClass, imports_toClass, members_toClass, members_toClass,
    member_declaration] at imports
  exact absurd imports (by decide)

theorem isOperand_source : page.source.IsOperand := ⟨by decide, rfl, rfl⟩

theorem isOperand_output : output.IsOperand := ⟨by decide, rfl, rfl⟩

end Login

/-! ## The command of a manifest -/

/-- The command in the manifest of a file generates the file again, if nothing that shapes the file
is lost in it. -/
theorem regenerated_of_written {i : Invocation} {s : Settings} {t t' : FileTree} {label : Label}
    {path : Path} {m : Machine} {files : List Path} {flags : GenerateFlags}
    (command : i.command = .generate files flags) (hs : i.settings t = .ok s)
    (on : s.manifests = true) (hw : .written label path ∈ (i.command.run m s t).events)
    (recorded : i.IsRecorded s label.source)
    (resumes : t.Resumes (i.command.run m s t).tree t' label.source) :
    (i.command.run m s t).tree.Regenerates t' label path := by
  rw [command] at hw resumes ⊢
  obtain ⟨x, rfl, rfl, hx⟩ := written_emitPages on hw
  obtain ⟨s', hs', repeats⟩ := recorded.again hs resumes.settings
  refine ⟨x.file.contents, x.manifest s m.time, .again x.page.source s.output, s',
    hx.held.file.readText, hx.held.read_manifest, fun directory => ?_, ⟨_, _, rfl⟩, hs',
    fun m' => ?_⟩
  · exact ofCommand_regenerateCommand recorded.source recorded.output directory
  · obtain ⟨told, held⟩ := hx.again resumes repeats on m'
    exact ⟨told, held.readText⟩

section

open Login

/-- A page is generated again where it has just been generated. -/
theorem regenerated_login :
    (invocation none).settings tree = .ok (settings (options none)) ∧
      .written page.label path ∈ (outcome none tree).events ∧
      (invocation none).IsRecorded (settings (options none)) page.source ∧
      tree.Resumes (outcome none tree).tree (outcome none tree).tree page.source ∧
      (outcome none tree).tree.Regenerates (outcome none tree).tree page.label path := by
  have settings := settings_invocation find_tree none
  have told := (written_outcome none pagesOf_source inPlace).1
  have recorded : (invocation none).IsRecorded (Login.settings (options none)) page.source :=
    ⟨rfl, rfl, isOperand_source, isOperand_output⟩
  have resumes := resumes_outcome none
  exact ⟨settings, told, recorded, resumes,
    regenerated_of_written rfl settings rfl told recorded resumes⟩

/-- A package of the runtime library that a run was called with is missing in the commands that it
notes: they generate files that import from another one. -/
theorem not_forall_regenerated :
    ¬ ∀ (i : Invocation) (s : Settings) (t t' : FileTree) (label : Label) (path : Path)
      (m : Machine) (files : List Path) (flags : GenerateFlags),
      i.command = .generate files flags → i.settings t = .ok s → s.manifests = true →
      .written label path ∈ (i.command.run m s t).events →
      t.Resumes (i.command.run m s t).tree t' label.source →
      (i.command.run m s t).tree.Regenerates t' label path := by
  intro h
  let named : Option String := some "com.acme.ui"
  obtain ⟨told, held⟩ := written_outcome named pagesOf_source inPlace
  have resumes := resumes_outcome named
  obtain ⟨contents, manifest, again, s', ht, hm, hc, -, hs', hr⟩ :=
    h (invocation named) _ tree _ page.label path _ _ _ rfl (settings_invocation find_tree named)
      rfl told resumes
  have place := path_emitted (options named)
  rw [← place] at ht hm
  have first : contents = (emitted (options named)).file.contents :=
    Except.ok.inj (ht.symm.trans held.file.readText)
  obtain rfl := Except.ok.inj (hm.symm.trans held.read_manifest)
  have read := hc none
  rw [Emitted.command_manifest, page_emitted] at read
  obtain rfl := Except.ok.inj (read.symm.trans
    (ofCommand_regenerateCommand isOperand_source isOperand_output none))
  -- The second run works with the options that nothing was said about.
  obtain rfl := Except.ok.inj (hs'.symm.trans
    (settings_invocation (resumes.settings.trans find_tree) none))
  have pages : pagesOf (outcome named tree).tree page.source = [page] := by
    rw [pagesOf, resumes.pages, ← pagesOf, pagesOf_source]
  obtain ⟨-, held'⟩ := written_outcome none pages (place ▸ held.inPlace resumes.retained)
  have second := (hr ⟨1, ""⟩).2
  rw [← path_emitted (options none)] at second
  exact contents_ne (first.symm.trans (Except.ok.inj (second.symm.trans held'.file.readText)))

end

end PageAccessors
