import PageAccessors.Output
import PageAccessors.Proofs.Places
import PageAccessors.Proofs.Rules

/-!
# Where files belong

The path of a page's file has names only: those of its package, the one of the directory for
generated files, and its own (`relativePath_of_generate`). Behind a directory such a path continues
the components of the directory (`Path.Named.components_join`), and components say the place
(`Path.place_eq_foldl_follow`), so that two such paths lead to one place below a directory only if
they have the same names (`Path.Named.place_join_inj`).
-/

namespace PageAccessors

/-! ## Components and places -/

/-- The place one component further. -/
def Component.follow (place : Location) : Component → Location
  | root => []
  | here => place
  | up => place.tail
  | name text => text :: place

namespace Component

theorem foldl_follow_ofPiece? (place : Location) (piece : String) :
    (ofPiece? piece).toList.foldl follow place = place.along piece := by
  unfold ofPiece? Location.along
  split <;> simp_all [follow]

theorem foldl_follow_filterMap : ∀ (pieces : List String) (place : Location),
    (pieces.filterMap ofPiece?).foldl follow place = pieces.foldl Location.along place
  | [], _ => rfl
  | piece :: pieces, place => by
    rw [List.foldl_cons, ← foldl_follow_ofPiece?, ← foldl_follow_filterMap pieces,
      List.filterMap_cons]
    cases ofPiece? piece <;> rfl

theorem foldl_follow_names : ∀ (names : List String) (place : Location),
    (names.map name).foldl follow place = names.reverse ++ place
  | [], _ => rfl
  | first :: rest, place => by
    rw [List.map_cons, List.foldl_cons, foldl_follow_names rest, List.reverse_cons,
      List.append_assoc]
    rfl

theorem ofFirst_of_ne {first : String} (h : first ≠ "") (more : Bool) :
    ofFirst more first = ofFirst true first := by
  unfold ofFirst
  split
  · exact absurd rfl h
  all_goals rfl

theorem foldl_follow_ofFirst {first : String} (h : first ≠ "") (more : Bool) (place : Location) :
    (ofFirst more first).foldl follow place = place.along first := by
  unfold ofFirst Location.along
  split <;> simp_all [follow]

end Component

theorem Path.components_cons {first : String} {rest : List String} (h : first = "" → rest ≠ []) :
    (Path.mk (first :: rest)).components =
      Component.ofFirst true first ++ rest.filterMap Component.ofPiece? := by
  by_cases hf : first = ""
  · obtain ⟨second, more, rfl⟩ := List.exists_cons_of_ne_nil (h hf)
    rfl
  · rw [components]
    simp only [Component.ofFirst_of_ne hf]

/-- The components of a path say its place. -/
theorem Path.place_eq_foldl_follow (p : Path) (home : Location) :
    p.place home = p.components.foldl Component.follow home := by
  obtain ⟨pieces⟩ := p
  cases pieces with
  | nil => rfl
  | cons first rest =>
    rw [place, components, List.foldl_append, Component.foldl_follow_filterMap, List.foldl_cons]
    congr 1
    by_cases hf : first = ""
    · subst hf
      cases rest <;> rfl
    · have relative : (Path.mk (first :: rest)).isAbsolute = false := by
        unfold isAbsolute
        split
        · rename_i he
          exact absurd (List.cons.inj he).1 hf
        · rfl
      rw [origin, relative, if_neg Bool.false_ne_true, Component.foldl_follow_ofFirst hf]

/-! ## Paths of names -/

/-- A path with names only. -/
structure Path.Named (p : Path) (names : List String) : Prop where
  pieces : p.pieces = names
  ne_nil : names ≠ []
  plain : ∀ name ∈ names, IsPlain name

namespace Path.Named

variable {p q : Path} {names others : List String}

theorem filterMap_ofPiece? : ∀ {names : List String}, (∀ name ∈ names, IsPlain name) →
    names.filterMap Component.ofPiece? = names.map .name
  | [], _ => rfl
  | name :: names, h => by
    rw [List.forall_mem_cons] at h
    rw [List.filterMap_cons_some h.1.ofPiece?, filterMap_ofPiece? h.2, List.map_cons]

theorem components (h : p.Named names) : p.components = names.map .name := by
  obtain ⟨first, rest, rfl⟩ := List.exists_cons_of_ne_nil h.ne_nil
  have plain := (List.forall_mem_cons.1 h.plain).1
  have hf : ∀ more, Component.ofFirst more first = [.name first] := by
    intro more
    unfold Component.ofFirst
    split
    · exact absurd rfl plain.ne_empty
    · exact absurd rfl plain.ne_here
    · exact absurd rfl plain.ne_up
    · rfl
  rw [Path.components, h.pieces]
  simp only
  rw [hf, filterMap_ofPiece? (List.forall_mem_cons.1 h.plain).2]
  rfl

theorem ends {front : List String} {name : String} (h : p.Named (front ++ [name])) :
    p.Ends front name :=
  ⟨h.pieces, h.plain name (List.mem_append_right _ (List.mem_singleton.2 rfl))⟩

theorem isAbsolute (h : p.Named names) : p.isAbsolute = false := by
  unfold Path.isAbsolute
  split
  · rename_i he
    have hm : "" ∈ names := h.pieces ▸ he ▸ List.mem_cons_self
    exact absurd rfl (h.plain _ hm).ne_empty
  · rfl

/-- Behind a directory, a path of names continues the directory's components. -/
theorem components_join (h : p.Named names) (base : Path) :
    (base.join p).components = base.components ++ p.components := by
  have hne : p.pieces ≠ [] := h.pieces ▸ h.ne_nil
  have behind : p.components = p.pieces.filterMap Component.ofPiece? := by
    rw [h.components, h.pieces, filterMap_ofPiece? h.plain]
  obtain ⟨base⟩ := base
  rw [join, h.isAbsolute, if_neg Bool.false_ne_true]
  rcases base with _ | ⟨first, rest⟩
  · rfl
  by_cases nothing : first = "" ∧ rest = []
  · obtain ⟨rfl, rfl⟩ := nothing
    rfl
  have more : first = "" → rest ≠ [] := fun hf hr => nothing ⟨hf, hr⟩
  have some : (Path.mk (first :: rest)).isEmpty = false := by
    cases rest <;> simp_all [Path.isEmpty]
  rw [some, if_neg Bool.false_ne_true, components_cons more, behind]
  rcases List.eq_nil_or_concat rest with rfl | ⟨init, last, rfl⟩
  · have hf : first ≠ "" := fun hf => more hf rfl
    rw [List.getLast?_singleton, if_neg (by simpa using hf), List.singleton_append,
      components_cons fun _ => hne, List.filterMap_nil, List.append_nil]
  · rw [List.concat_eq_append, ← List.cons_append, List.getLast?_concat, List.dropLast_concat]
    split_ifs with hl
    · -- The directory ends with a slash, which is not written twice and names nothing.
      obtain rfl := Option.some.inj hl
      have slash : [""].filterMap Component.ofPiece? = [] := rfl
      rw [List.cons_append, components_cons fun _ => List.append_ne_nil_of_right_ne_nil _ hne,
        List.filterMap_append, List.filterMap_append, slash, List.append_nil, List.append_assoc]
    · rw [List.cons_append, List.cons_append, components_cons fun _ => by simp,
        List.filterMap_append, List.append_assoc]

theorem place_join (h : p.Named names) (base : Path) (home : Location) :
    (base.join p).place home = names.reverse ++ base.place home := by
  rw [place_eq_foldl_follow, h.components_join, List.foldl_append, h.components,
    Component.foldl_follow_names, place_eq_foldl_follow]

theorem place_join_inj (hp : p.Named names) (hq : q.Named others) (base : Path) (home : Location)
    (h : (base.join p).place home = (base.join q).place home) : p.components = q.components := by
  rw [hp.place_join, hq.place_join] at h
  rw [hp.components, hq.components, List.reverse_injective (List.append_cancel_right h)]

theorem join (hp : p.Named names) (hq : q.Named others) : (p.join q).Named (names ++ others) := by
  have last : p.pieces.getLast? ≠ some "" := by
    rw [hp.pieces]
    exact fun he => (hp.plain _ (List.mem_of_getLast? he)).ne_empty rfl
  have empty : p.isEmpty = false := by
    rw [Bool.eq_false_iff]
    intro he
    obtain ⟨first, rest, rfl⟩ := List.exists_cons_of_ne_nil hp.ne_nil
    have := (hp.plain first (.head _)).ne_empty
    simp [Path.isEmpty, hp.pieces, String.isEmpty_iff, this] at he
  refine ⟨?_, by simp [hp.ne_nil], List.forall_mem_append.2 ⟨hp.plain, hq.plain⟩⟩
  rw [Path.join, hq.isAbsolute, empty, if_neg Bool.false_ne_true, if_neg Bool.false_ne_true,
    if_neg last, hp.pieces, hq.pieces]

end Path.Named

theorem IsPlain.named {name : String} (h : IsPlain name) : (Path.ofString name).Named [name] := by
  refine ⟨?_, List.cons_ne_nil _ _, List.forall_mem_singleton.2 h⟩
  rw [Path.ofString_eq_mk h.slash]

theorem IsName.isPlain {name : String} (h : IsName name) : IsPlain name := by
  have dot := h.notMem (c := '.') (by decide)
  refine ⟨fun he => ?_, fun he => dot ?_, fun he => dot ?_, h.notMem (by decide),
    h.notMem (by decide)⟩
  · exact (nameChars (isName_iff.1 h)).1 (by rw [he]; rfl)
  · rw [he]
    decide
  · rw [he]
    decide

/-! ## Files of pages -/

namespace Identifier

variable (i : Identifier)

theorem isSourceName_fileName : isSourceName (i.text ++ ".kt") = true := by
  rw [isSourceName, String.toList_append, List.isSuffixOf_iff_suffix]
  exact List.suffix_append _ _

/-- The name of a source is never like one of a temporary file. -/
theorem head?_fileName : (i.text ++ ".kt").toList.head? ≠ some '.' := by
  obtain ⟨hne, chars⟩ := nameChars i.accepted
  obtain ⟨first, rest, hi⟩ := List.exists_cons_of_ne_nil hne
  have hf : isNameChar first = true := chars first (by simp [hi])
  rw [String.toList_append, hi, List.cons_append, List.head?_cons]
  rintro ⟨⟩
  exact absurd hf (by decide)

theorem isPlain_fileName : IsPlain (i.text ++ ".kt") := by
  have absent : ∀ c, isNameChar c = false → c ∉ ".kt".toList → c ∉ (i.text ++ ".kt").toList := by
    intro c hc hk hm
    rw [String.toList_append, List.mem_append] at hm
    exact hm.elim (notMem_of_nameChars (nameChars i.accepted).2 hc) hk
  refine ⟨fun he => ?_, fun he => ?_, fun he => ?_, absent _ (by decide) (by decide),
    absent _ (by decide) (by decide)⟩
  · exact absurd (he ▸ i.isSourceName_fileName) (by decide)
  · exact i.head?_fileName (by rw [he]; rfl)
  · exact i.head?_fileName (by rw [he]; rfl)

end Identifier

theorem named_foldl_join : ∀ {names : List String} {base : Path} {front : List String},
    base.Named front → (∀ name ∈ names, IsPlain name) →
    (names.foldl (fun path name => path.join (.ofString name)) base).Named (front ++ names)
  | [], _, front, hb, _ => by
    rw [List.append_nil]
    exact hb
  | name :: names, _, front, hb, h => by
    rw [List.forall_mem_cons] at h
    rw [List.foldl_cons, List.append_cons]
    exact named_foldl_join (hb.join h.1.named) h.2

theorem named_packagePath {package : String} (plain : ∀ name ∈
    (package.toList.splitOn '.').map String.ofList, IsPlain name) :
    (packagePath package).Named ((package.toList.splitOn '.').map String.ofList) := by
  have hne : (package.toList.splitOn '.').map String.ofList ≠ [] := by simp
  rw [packagePath]
  obtain ⟨first, rest, he⟩ := List.exists_cons_of_ne_nil hne
  rw [he, List.forall_mem_cons] at plain
  have start : Path.empty.join (.ofString first) = .ofString first := by
    rw [Path.join, plain.1.named.isAbsolute]
    rfl
  rw [he, List.foldl_cons, start]
  exact named_foldl_join plain.1.named plain.2

theorem splitOn_generatedPackage (package : String) :
    ((generatedPackage package).toList.splitOn '.').map String.ofList =
      packageSegments package ++ ["generated"] := by
  have generated : ".generated".toList = '.' :: "generated".toList := rfl
  rw [generatedPackage, packageSegments]
  split_ifs
  · rfl
  · rw [String.toList_append, generated, List.splitOn_append_cons_self, List.map_append]
    rfl

/-- What neither an address nor a member changes is as in the class without them. -/
theorem toClass_eq_empty {β : Type} (f : AccessorClass → β) (options : Options)
    (opening : ∀ c url, f (c.opening url) = f c)
    (add : ∀ c m, f (c.add options.runtimePackage m) = f c) (d : Declaration) :
    f (d.toClass options) = f (.empty d.outputName (generatedPackage d.package) options) := by
  rw [Declaration.toClass, foldl_add_eq f _ add]
  cases d.url with
  | none => rfl
  | some url => exact opening _ url

section

variable (d : Declaration) (o : Options)

theorem header_toClass : (d.toClass o).header = o.provenance :=
  toClass_eq_empty AccessorClass.header o (fun _ _ => rfl) (fun _ _ => rfl) d

theorem name_toClass : (d.toClass o).name = d.outputName :=
  toClass_eq_empty AccessorClass.name o (fun _ _ => rfl) (fun _ _ => rfl) d

theorem package_toClass : (d.toClass o).package = generatedPackage d.package :=
  toClass_eq_empty AccessorClass.package o (fun _ _ => rfl) (fun _ _ => rfl) d

end

/-- The file of the class of an accepted page is in the directory of the page's package. -/
theorem named_toClass {parse : Url.Parser} {p : Page} {d : Declaration}
    (h : validateWith parse p = .ok d) (o : Options) : (d.toClass o).relativePath.Named
      (packageSegments p.package ++ ["generated"] ++ [d.outputName.text ++ ".kt"]) := by
  obtain ⟨rules, -, hp, -⟩ := check_eq_ok_iff.1 (validateWith_eq_ok_iff.1 h)
  have plain : ∀ name ∈ packageSegments p.package ++ ["generated"], IsPlain name := by
    rw [List.forall_mem_append, List.forall_mem_singleton]
    refine ⟨fun segment hm => (rules .names segment ?_).isPlain, IsName.isPlain ?_⟩
    · exact List.mem_append_left _ (List.mem_append_right _ hm)
    · rw [isName_iff]
      decide
  have directory : (packagePath (generatedPackage p.package)).Named
      (packageSegments p.package ++ ["generated"]) := by
    rw [← splitOn_generatedPackage] at plain ⊢
    exact named_packagePath plain
  rw [AccessorClass.relativePath, package_toClass, hp, AccessorClass.fileName, name_toClass]
  exact directory.join d.outputName.isPlain_fileName.named

theorem relativePath_of_generate {options : Options} {page : Page} {file : GeneratedFile}
    (h : generate options page = .ok file) : ∃ d, validate page = .ok d ∧
      file.relativePath.Named
        (packageSegments page.package ++ ["generated"] ++ [d.outputName.text ++ ".kt"]) := by
  rw [generate, Except.bind_eq_ok_iff] at h
  obtain ⟨d, hv, h⟩ := h
  obtain rfl := Except.ok.inj h
  exact ⟨d, hv, named_toClass hv options⟩

end PageAccessors
