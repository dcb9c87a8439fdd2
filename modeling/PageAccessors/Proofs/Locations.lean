import PageAccessors.Proofs.Intact
import PageAccessors.Proofs.Meaning
import PageAccessors.Proofs.SourceParts

/-!
# Where pages are located

The way down to the file of a page is made of names: the segments of its package, the name of the
directory for generated files, and the name of its class with an ending. The source says the same:
its package is that way without the file, joined by dots, and its class is named like the file
(`locatedBy_toClass`). A package is its segments joined by dots (`intercalate_packageSegments`), so
that the way says the package and the class.

No segment of a package has a dot and every name of a file has one, so that no file of a page is
found where another page needs a directory (`eq_of_leadsTo`): below one root, the files of two
pages are in each other's way only if they are the same (`located_and_apart`).
-/

namespace PageAccessors

/-! ## Packages and their segments -/

/-- What stands between the dots of a text. -/
def dotParts (text : String) : List String := (text.toList.splitOn '.').map String.ofList

theorem intercalate_dotParts (text : String) : ".".intercalate (dotParts text) = text := by
  have dot : ".".toList = ['.'] := rfl
  rw [dotParts, ← String.toList_inj, String.toList_intercalate, dot, List.map_map]
  simp [Function.comp_def]

theorem intercalate_packageSegments (package : String) :
    ".".intercalate (packageSegments package) = package := by
  unfold packageSegments
  split_ifs with h
  · rw [String.isEmpty_iff.1 h]
    rfl
  · exact intercalate_dotParts package

/-- In words joined by dots stand dots, and characters of words. -/
theorem notMem_intercalate_words {words : List String} (h : ∀ word ∈ words, Kotlin.IsWord word)
    {c : Char} (hc : isNameChar c = false) (hd : c ≠ '.') :
    c ∉ (".".intercalate words).toList := by
  have dot : ∀ x ∈ ".".toList, x ≠ c := List.forall_mem_singleton.2 hd.symm
  rw [String.toList_intercalate]
  refine fun hm => Kotlin.forall_mem_intercalate dot ?_ _ hm rfl
  rw [List.forall_mem_map]
  exact fun word hw x hx => ne_of_mem_of_not_mem hx ((h word hw).notMem hc)

theorem packageSegments_inj {package other : String}
    (h : packageSegments package = packageSegments other) : package = other := by
  rw [← intercalate_packageSegments package, h, intercalate_packageSegments]

theorem packageSegments_generatedPackage (package : String) :
    packageSegments (generatedPackage package) = packageSegments package ++ ["generated"] := by
  have some_ : ¬ (generatedPackage package).isEmpty := by
    unfold generatedPackage
    split_ifs <;> simp [String.isEmpty_iff]
  rw [packageSegments, if_neg some_, splitOn_generatedPackage]

/-! ## Ways -/

/-- The names of the directories that the file of a page is in. -/
def directoryNames (package : String) : List String := packageSegments package ++ ["generated"]

/-- The names on the way down to the file of a class, for a page of some package. -/
def fileWay (package className : String) : List String :=
  directoryNames package ++ [className ++ ".kt"]

theorem intercalate_directoryNames (package : String) :
    ".".intercalate (directoryNames package) = generatedPackage package := by
  rw [directoryNames, ← packageSegments_generatedPackage, intercalate_packageSegments]

theorem generatedPackage_inj {package other : String}
    (h : generatedPackage package = generatedPackage other) : package = other := by
  have segments := congrArg packageSegments h
  rw [packageSegments_generatedPackage, packageSegments_generatedPackage] at segments
  exact packageSegments_inj (List.append_inj_left' segments rfl)

theorem fileWay_inj {package other className otherName : String}
    (h : fileWay package className = fileWay other otherName) :
    package = other ∧ className = otherName := by
  obtain ⟨directories, file⟩ := List.append_inj' h rfl
  exact ⟨packageSegments_inj (List.append_inj_left' directories rfl),
    (String.append_left_inj _).1 (List.singleton_inj.1 file)⟩

section

variable {parse : Url.Parser} {p q : Page} {d e : Declaration}

theorem named_relativePath (h : validateWith parse p = .ok d) (o : Options) :
    (d.toClass o).relativePath.Named (fileWay p.package d.outputName.text) := named_toClass h o

theorem package_eq (h : validateWith parse p = .ok d) : d.package = p.package := by
  obtain ⟨-, -, hp, -⟩ := check_eq_ok_iff.1 (validateWith_eq_ok_iff.1 h)
  exact hp

/-- Nothing in a segment of the package of an accepted page is a dot or a line feed. -/
theorem isWord_directoryNames (h : validateWith parse p = .ok d) :
    ∀ name ∈ directoryNames p.package, Kotlin.IsWord name := by
  obtain ⟨rules, -⟩ := check_eq_ok_iff.1 (validateWith_eq_ok_iff.1 h)
  rw [directoryNames, List.forall_mem_append, List.forall_mem_singleton]
  refine ⟨fun segment hm => (nameChars (isName_iff.1 (rules .names segment ?_))).2, by decide⟩
  exact List.mem_append_left _ (List.mem_append_right _ hm)

theorem package_toClass_eq (h : validateWith parse p = .ok d) (o : Options) :
    (d.toClass o).package = ".".intercalate (directoryNames p.package) := by
  rw [package_toClass, package_eq h, intercalate_directoryNames]

/-- In the package of the class of an accepted page stand dots, and characters of names. -/
theorem notMem_package (h : validateWith parse p = .ok d) (o : Options) {c : Char}
    (hc : isNameChar c = false) (hd : c ≠ '.') : c ∉ (d.toClass o).package.toList := by
  rw [package_toClass_eq h o]
  exact notMem_intercalate_words (isWord_directoryNames h) hc hd

/-! ## The file of a page -/

/-- Where the file of a class is for a page, and what its source says of that: the names on the way
down to it, which are ordinary ones; that it is below every root; and that the package of the source
is the way to the directory, and its class is named like the file. -/
structure Page.LocatedBy (p : Page) (c : AccessorClass) : Prop where
  plain : ∀ name ∈ fileWay p.package c.name.text, IsPlain name
  relative : c.relativePath.isAbsolute = false
  components : c.relativePath.components = (fileWay p.package c.name.text).map .name
  below : ∀ root : Path,
    (root.join c.relativePath).components = root.components ++ c.relativePath.components
  place : ∀ (root : Path) (home : Location), (root.join c.relativePath).place home =
    (fileWay p.package c.name.text).reverse ++ root.place home
  package : Kotlin.packageName? c.source = some (".".intercalate (directoryNames p.package))
  className : Kotlin.className? c.source = some c.name.text

theorem locatedBy_toClass (h : validateWith parse p = .ok d) (o : Options) :
    p.LocatedBy (d.toClass o) := by
  have named := named_relativePath h o
  rw [← name_toClass d o] at named
  constructor
  case plain => exact named.plain
  case relative => exact named.isAbsolute
  case components => exact named.components
  case below => exact named.components_join
  case place => exact named.place_join
  case package =>
    rw [← package_toClass_eq h o]
    exact Kotlin.packageName?_source (notMem_package h o (by decide) (by decide))
  case className => exact Kotlin.className?_source (isReadable_toClass h o)

/-! ## The files of two pages -/

/-- The paths of the file of a class and of its manifest, below a root. -/
def AccessorClass.outputs (c : AccessorClass) (root : Path) : List Path :=
  [root.join c.relativePath, (root.join c.relativePath).manifest]

/-- A path is another one, or it lies on the way to it. -/
def Path.LeadsTo (p q : Path) : Prop := p.components <+: q.components

theorem Path.Ends.components_manifest {p : Path} {front : List String} {name : String}
    (h : p.Ends front name) :
    p.manifest.components = p.components.dropLast ++ [.name (manifestName name)] := by
  have parent := (components_parent? h.parent?).2
  rw [Path.manifest, withFileName, h.fileName?, Option.isSome_some, if_pos rfl, h.parent?,
    Option.getD_some, Option.getD_some, ← manifestName,
    h.plain.manifestName.named.components_join, h.plain.manifestName.named.components, parent]
  rfl

/-- A name of the file of a class or of its manifest. -/
def Identifier.IsOutputName (i : Identifier) (name : String) : Prop :=
  name = i.text ++ ".kt" ∨ name = manifestName (i.text ++ ".kt")

theorem Identifier.IsOutputName.dot_mem {i : Identifier} {name : String}
    (h : i.IsOutputName name) : '.' ∈ name.toList := by
  rcases h with rfl | rfl
  · simp
  · simp [manifestName]

/-- The name of a file or of its manifest says the class. -/
theorem Identifier.IsOutputName.inj {i j : Identifier} {name : String} (h : i.IsOutputName name)
    (h' : j.IsOutputName name) : i = j := by
  have source := fun k : Identifier => k.isSourceName_fileName
  have beside := isSourceName_manifestName
  rw [← text_inj]
  rcases h with rfl | rfl
  · rcases h' with he | he
    · exact (String.append_left_inj _).1 he
    · have := source i
      rw [he, beside] at this
      cases this
  · rcases h' with he | he
    · have := source j
      rw [← he, beside] at this
      cases this
    · exact (String.append_left_inj _).1 ((String.append_left_inj _).1 he)

/-- The file of a class and its manifest are in one directory. -/
theorem components_of_mem_outputs (h : validateWith parse p = .ok d) (o : Options)
    {root a : Path} (ha : a ∈ (d.toClass o).outputs root) : ∃ name, d.outputName.IsOutputName name ∧
      a.components = root.components ++ (directoryNames p.package).map .name ++ [.name name] := by
  have named := named_relativePath h o
  have source : (root.join (d.toClass o).relativePath).components = root.components ++
      (directoryNames p.package).map .name ++ [.name (d.outputName.text ++ ".kt")] := by
    rw [named.components_join, named.components, fileWay, List.map_append, List.append_assoc]
    rfl
  rw [AccessorClass.outputs, List.mem_cons, List.mem_singleton] at ha
  rcases ha with rfl | rfl
  · exact ⟨_, .inl rfl, source⟩
  · obtain ⟨front, ends⟩ := named.ends.join root
    refine ⟨_, .inr rfl, ?_⟩
    rw [ends.components_manifest, source, List.dropLast_concat]

theorem eq_of_prefix_concat {α : Type} {front other : List α} {a b : α}
    (h : front ++ [a] <+: other ++ [b]) (ha : a ∉ other) : front = other ∧ a = b := by
  rcases List.prefix_concat_iff.1 h with he | hp
  · obtain ⟨hf, he⟩ := List.append_inj' he rfl
    exact ⟨hf, List.singleton_inj.1 he⟩
  · exact absurd (hp.subset (List.mem_append_right _ (.head _))) ha

theorem eq_of_leadsTo (hp : validateWith parse p = .ok d) (hq : validateWith parse q = .ok e)
    (o o' : Options) {root a b : Path} (ha : a ∈ (d.toClass o).outputs root)
    (hb : b ∈ (e.toClass o').outputs root) (h : a.LeadsTo b) :
    p.package = q.package ∧ d.outputName = e.outputName := by
  obtain ⟨name, hn, ca⟩ := components_of_mem_outputs hp o ha
  obtain ⟨other, ho, cb⟩ := components_of_mem_outputs hq o' hb
  rw [Path.LeadsTo, ca, cb, List.append_assoc, List.append_assoc, List.prefix_append_right_inj] at h
  -- A name of a file has a dot, and a name of a directory has none.
  have notDirectory : Component.name name ∉ (directoryNames q.package).map .name := by
    intro hm
    obtain ⟨directory, hd, he⟩ := List.mem_map.1 hm
    obtain rfl := Component.name.inj he
    exact (isWord_directoryNames hq _ hd).notMem (c := '.') (by decide) hn.dot_mem
  obtain ⟨directories, file⟩ := eq_of_prefix_concat h notDirectory
  obtain rfl := Component.name.inj file
  have names := List.map_injective_iff.2 (fun _ _ => Component.name.inj) directories
  exact ⟨packageSegments_inj (List.append_inj_left' names rfl), hn.inj ho⟩

/-- The file of a page is where its package and its class say, and so does the source; and pages of
different packages or classes have different files, of which none is on the way to another one or
to its manifest. -/
theorem located_and_apart (hp : validateWith parse p = .ok d) (hq : validateWith parse q = .ok e)
    (o o' : Options) :
    p.LocatedBy (d.toClass o) ∧
      ((d.toClass o).relativePath.components = (e.toClass o').relativePath.components ↔
        p.package = q.package ∧ d.outputName = e.outputName) ∧
      ((d.toClass o).relativePath.components ≠ (e.toClass o').relativePath.components →
        ∀ root : Path, ∀ a ∈ (d.toClass o).outputs root, ∀ b ∈ (e.toClass o').outputs root,
          ¬ a.LeadsTo b ∧ ¬ b.LeadsTo a) := by
  have same : (d.toClass o).relativePath.components = (e.toClass o').relativePath.components ↔
      p.package = q.package ∧ d.outputName = e.outputName := by
    rw [(named_relativePath hp o).components, (named_relativePath hq o').components]
    constructor
    · intro he
      obtain ⟨package, name⟩ :=
        fileWay_inj (List.map_injective_iff.2 (fun _ _ => Component.name.inj) he)
      exact ⟨package, Identifier.text_inj.1 name⟩
    · rintro ⟨package, name⟩
      rw [package, name]
  refine ⟨locatedBy_toClass hp o, same, fun hne root a ha b hb => ⟨fun h => ?_, fun h => ?_⟩⟩
  · exact hne (same.2 (eq_of_leadsTo hp hq o o' ha hb h))
  · obtain ⟨package, name⟩ := eq_of_leadsTo hq hp o' o hb ha h
    exact hne (same.2 ⟨package.symm, name.symm⟩)

end

/-- A page of the package that holds the classes of other pages. -/
def Page.generatedSearch : Page := .bare "shop.generated" "Search" "hit"

def Page.generatedSearchDeclaration : Declaration :=
  .bare "shop.generated" Page.searchDeclaration.name ⟨"hit", by decide⟩

theorem validate_generatedSearch :
    validate Page.generatedSearch = .ok Page.generatedSearchDeclaration :=
  validate_bare Page.searchDeclaration.name ⟨"hit", by decide⟩ (by simp only [isName_iff]; decide)

theorem located_and_apart_search :
    validate Page.search = .ok Page.searchDeclaration ∧
      validate Page.generatedSearch = .ok Page.generatedSearchDeclaration ∧
      Page.search.LocatedBy (Page.searchDeclaration.toClass .default) ∧
      ∀ root : Path, ∀ a ∈ (Page.searchDeclaration.toClass .default).outputs root,
        ∀ b ∈ (Page.generatedSearchDeclaration.toClass .default).outputs root,
          ¬ a.LeadsTo b ∧ ¬ b.LeadsTo a := by
  have all := located_and_apart validate_search validate_generatedSearch .default .default
  refine ⟨validate_search, validate_generatedSearch, all.1, all.2.2 fun he => ?_⟩
  exact absurd (all.2.1.1 he).1 (by decide)

end PageAccessors
