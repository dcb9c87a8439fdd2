import PageAccessors.Proofs.Imports
import PageAccessors.Proofs.Locations
import PageAccessors.Proofs.Scopes

/-!
# The names of imports

An import is a package and a symbol with a dot between them. The symbols are names, and the packages
of the driver are names joined by dots (`IsQualifiedName`). The package of the runtime library is
whatever the settings or a flag say: the rule for the package of a page is not asked about it, and
it stands in the source as it is. What looks its elements up when it is first used is imported from
there, so that the imports of a class are names joined by dots exactly if that package is one, or if
each entry of the page has placeholders (`importsAreNames_iff`).
-/

namespace PageAccessors

/-! ## Names joined by dots -/

/-- Names joined by dots, at least one. -/
def IsQualifiedName (text : String) : Prop :=
  ∃ names : List String, names ≠ [] ∧ (∀ name ∈ names, IsName name) ∧ text = ".".intercalate names

theorem dotParts_intercalate {names : List String} (some : names ≠ [])
    (h : ∀ name ∈ names, '.' ∉ name.toList) : dotParts (".".intercalate names) = names := by
  have dot : ".".toList = ['.'] := rfl
  rw [dotParts, String.toList_intercalate, dot,
    List.splitOn_intercalate _ (List.forall_mem_map.2 h) (by simpa using some), List.map_map]
  simp [Function.comp_def]

theorem isQualifiedName_iff {text : String} :
    IsQualifiedName text ↔ ∀ name ∈ dotParts text, IsName name := by
  constructor
  · rintro ⟨names, some, h, rfl⟩
    rwa [dotParts_intercalate some fun name hn => (h name hn).notMem (by decide)]
  · intro h
    have some : dotParts text ≠ [] := by simp [dotParts, List.splitOn_ne_nil]
    exact ⟨dotParts text, some, h, (intercalate_dotParts text).symm⟩

theorem IsQualifiedName.notMem {text : String} (h : IsQualifiedName text) {c : Char}
    (hc : isNameChar c = false) (hd : c ≠ '.') : c ∉ text.toList := by
  obtain ⟨names, -, h, rfl⟩ := h
  exact notMem_intercalate_words (fun name hn => (nameChars (isName_iff.1 (h name hn))).2) hc hd

instance (text : String) : Decidable (IsQualifiedName text) :=
  decidable_of_iff (∀ name ∈ dotParts text, nameFault? name = none) <| by
    simp only [isQualifiedName_iff, isName_iff]

theorem dotParts_qualified {symbol : String} (h : '.' ∉ symbol.toList) (package : String) :
    dotParts (qualified package symbol) = dotParts package ++ [symbol] := by
  have dot : ".".toList = ['.'] := rfl
  rw [dotParts, qualified, String.toList_append, String.toList_append, dot, List.append_assoc,
    List.singleton_append, List.splitOn_append_cons_self, List.splitOn_eq_singleton h,
    List.map_append]
  simp [dotParts]

namespace Need

/-- The symbol is one of the runtime library. -/
def IsRuntime : Need → Prop
  | elements | delegate _ => True
  | driver | element | factories | byIdOrName => False

theorem isQualifiedName_package_iff (runtime : String) (n : Need) :
    IsQualifiedName (n.package runtime) ↔ (n.IsRuntime → IsQualifiedName runtime) := by
  have driver : IsQualifiedName driverPackage := by decide
  have pageFactory : IsQualifiedName pageFactoryPackage := by decide
  cases n <;> simp [IsRuntime, package, driver, pageFactory]

theorem isQualifiedName_text_iff (runtime : String) (n : Need) :
    IsQualifiedName (n.text runtime) ↔ (n.IsRuntime → IsQualifiedName runtime) := by
  rw [← isQualifiedName_package_iff, isQualifiedName_iff, isQualifiedName_iff, text,
    dotParts_qualified n.dot_notMem_symbol, List.forall_mem_append, List.forall_mem_singleton,
    and_iff_left n.isName_symbol]

end Need

namespace AccessorClass

variable {c : AccessorClass} {runtime : String}

/-- A class imports from the runtime library exactly if it has a property. -/
theorem Balanced.exists_isRuntime_iff (h : c.Balanced runtime) :
    (∃ n : Need, n.text runtime ∈ c.imports ∧ n.IsRuntime) ↔ ∃ p, .property p ∈ c.members := by
  constructor
  · rintro ⟨n, hn, hr⟩
    rcases (h.mem_text n).1 hn with rfl | ⟨m, hm, hneed⟩
    · cases hr
    cases n with
    | elements =>
      obtain ⟨p, rfl, -⟩ := (Member.needs_elements m).1 hneed
      exact ⟨p, hm⟩
    | delegate s =>
      obtain ⟨p, rfl, -⟩ := (Member.needs_delegate s m).1 hneed
      exact ⟨p, hm⟩
    | driver | element | factories | byIdOrName => cases hr
  · rintro ⟨p, hp⟩
    refine ⟨.delegate p.locator.strategy, (h.mem_text _).2 (.inr ⟨_, hp, ?_⟩), trivial⟩
    exact (Member.needs_delegate _ _).2 ⟨p, rfl, rfl⟩

/-- The source has one line for each import of a class, and each import is names joined by dots. -/
structure ImportsAreNames (c : AccessorClass) : Prop where
  lines : Kotlin.imports c.source = c.imports
  names : ∀ x ∈ c.imports, IsQualifiedName x

theorem importsAreNames_iff_of_balanced (h : c.Balanced runtime) (package : '\n' ∉ c.package.toList)
    (members : ∀ m ∈ c.members, Kotlin.IsReadable m) :
    c.ImportsAreNames ↔ (∃ p, .property p ∈ c.members) → IsQualifiedName runtime := by
  rw [← h.exists_isRuntime_iff]
  constructor
  · rintro ⟨-, names⟩ ⟨n, hn, hr⟩
    exact (n.isQualifiedName_text_iff runtime).1 (names _ hn) hr
  · intro hq
    have names : ∀ x ∈ c.imports, IsQualifiedName x := by
      intro x hx
      obtain ⟨n, rfl⟩ := h.exists_need hx
      exact (n.isQualifiedName_text_iff runtime).2 fun hr => hq ⟨n, hx, hr⟩
    have lines : ∀ x ∈ c.imports, '\n' ∉ x.toList :=
      fun x hx => (names x hx).notMem (by decide) (by decide)
    exact ⟨Kotlin.imports_source package lines members, names⟩

end AccessorClass

section

variable {parse : Url.Parser} {p : Page} {d : Declaration} (h : validateWith parse p = .ok d)
  (o : Options)
include h

theorem exists_property_iff :
    (∃ m, .property m ∈ (d.toClass o).members) ↔ ∃ e ∈ p.entries, e.template.parameters = [] := by
  constructor
  · rintro ⟨m, hm⟩
    have hr := List.mem_map_of_mem (f := Kotlin.readMember) hm
    rw [map_readMember_toClass h o, List.mem_map] at hr
    obtain ⟨e, he, ha⟩ := hr
    exact ⟨e, he, (Entry.accessor_eq_property_iff.1 ha).2.1⟩
  · rintro ⟨e, he, plain⟩
    have ha := List.mem_map_of_mem (f := Entry.accessor) he
    rw [← map_readMember_toClass h o, List.mem_map] at ha
    obtain ⟨_ | f, hm, hr⟩ := ha
    · exact ⟨_, hm⟩
    · rw [Entry.accessor_eq_property_iff.2 ⟨rfl, plain, rfl⟩] at hr
      cases hr

/-- The imports of the class of an accepted page are names joined by dots exactly if the package of
the runtime library is, or if nothing of it is needed. -/
theorem importsAreNames_iff : (d.toClass o).ImportsAreNames ↔
    (∀ e ∈ p.entries, e.template.parameters ≠ []) ∨ IsQualifiedName o.runtimePackage := by
  rw [AccessorClass.importsAreNames_iff_of_balanced (AccessorClass.balanced_toClass d o)
    (notMem_package h o (by decide) (by decide)) (isReadable_toClass h o),
    exists_property_iff h o, imp_iff_not_or]
  simp only [not_exists, not_and, ne_eq]

end

theorem importsAreNames_search :
    validate Page.search = .ok Page.searchDeclaration ∧
      (Page.searchDeclaration.toClass .default).ImportsAreNames :=
  ⟨validate_search, (importsAreNames_iff validate_search .default).2 (.inr (by decide))⟩

/-- A runtime library in a package that a page could not be in. -/
def Options.hyphenated : Options := { runtimePackage := "com.acme-ui" }

theorem not_forall_importsAreNames : ¬ ∀ (p : Page) (d : Declaration) (o : Options),
    validate p = .ok d → (d.toClass o).ImportsAreNames := by
  intro all
  have names := all _ _ .hyphenated validate_search
  have lazily := (exists_property_iff validate_search .hyphenated).2
    ⟨_, .head _, Template.parameters_of_notMem (by decide)⟩
  have qualified := (AccessorClass.importsAreNames_iff_of_balanced
    (AccessorClass.balanced_toClass Page.searchDeclaration .hyphenated)
    (notMem_package validate_search .hyphenated (by decide) (by decide))
    (isReadable_toClass validate_search .hyphenated)).1 names lazily
  exact absurd qualified (by decide)

end PageAccessors
