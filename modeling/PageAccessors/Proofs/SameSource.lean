import PageAccessors.Proofs.Locations

/-!
# Sources that are equal

A source loses nothing of its page but the spelling of a placeholder. Everything else comes back
from the text: the package, the name of the class, the address, and of each member the kind, the
name, the strategy and the literal, from which the segments of a template come back as well, since
no two literals of a template stand side by side (`segments_inj`). So two pages with the same source
under the same options say the same, entry by entry, and two pages that say the same have the same
source (`source_eq_iff`).
-/

namespace PageAccessors

/-! ## Segments -/

namespace Template

/-- The piece of a literal that a mark is written as. -/
def markPart : Mark → Kotlin.Part
  | .char c => .char c
  | .hole inner => .reference (holeName inner)

theorem flatMap_segmentParts_join (ms : List Mark) :
    (join ms).flatMap Kotlin.segmentParts = ms.map markPart := by
  have literal (text : String) : Kotlin.segmentParts (.literal text) =
      text.toList.flatMap fun c => [.char c] :=
    List.map_eq_flatMap
  rw [flatMap_join Kotlin.segmentParts (fun c => [.char c]) literal, List.map_eq_flatMap]
  refine List.flatMap_congr fun m _ => ?_
  cases m <;> rfl

/-- Marks that are written the same make up the same segments. -/
theorem untilHole_congr : ∀ {ms ns : List Mark}, ms.map markPart = ns.map markPart →
    untilHole ms = untilHole ns
  | [], [], _ => rfl
  | .char c :: ms, .char b :: ns, h => by
    rw [List.map_cons, List.map_cons, List.cons.injEq, markPart, markPart,
      Kotlin.Part.char.injEq] at h
    rw [untilHole, untilHole, h.1, untilHole_congr h.2]
  | .hole inner :: ms, .hole other :: ns, h => by
    rw [List.map_cons, List.map_cons, List.cons.injEq, markPart, markPart,
      Kotlin.Part.reference.injEq] at h
    rw [untilHole, untilHole, h.1, untilHole_congr h.2]

/-- The segments of a template come back from the pieces of its literal. -/
theorem segments_inj {raw other : String}
    (h : (ofString raw).segments.flatMap Kotlin.segmentParts =
      (ofString other).segments.flatMap Kotlin.segmentParts) :
    (ofString raw).segments = (ofString other).segments := by
  simp only [ofString, flatMap_segmentParts_join] at h
  simp only [ofString, join, untilHole_congr h]

end Template

/-! ## Members -/

/-- Two members say the same: they are one property, or functions with the same name, strategy and
parameters and the same segments, however the placeholders of their templates are spelt. -/
def Member.SaysSame : Member → Member → Prop
  | .property p, .property q => p = q
  | .function f, .function g => f.name = g.name ∧ f.strategy = g.strategy ∧ f.params = g.params ∧
      f.template.segments = g.template.segments
  | _, _ => False

/-- The template of a function is what its text is scanned to. -/
def Member.IsScanned : Member → Prop
  | .property _ => True
  | .function f => f.template = .ofString f.template.raw

theorem isScanned_member (d : DeclaredEntry) : d.member.IsScanned := by
  simp only [DeclaredEntry.member]
  split_ifs
  · rfl
  · trivial

theorem Strategy.delegate_inj {s t : Strategy} (h : s.delegate = t.delegate) : s = t := by
  revert h
  cases s <;> cases t <;> decide

theorem Cardinality.typeName_inj {c k : Cardinality} (h : c.typeName = k.typeName) : c = k := by
  revert h
  cases c <;> cases k <;> decide

theorem Kotlin.factoryOf_inj {s t : Strategy} (h : factoryOf s = factoryOf t) : s = t := by
  revert h
  cases s <;> cases t <;> decide

theorem map_text_inj {names others : List Identifier}
    (h : names.map Identifier.text = others.map Identifier.text) : names = others :=
  List.map_injective_iff.2 (fun _ _ => Identifier.text_inj.1) h

theorem map_char_inj {text other : String}
    (h : text.toList.map Kotlin.Part.char = other.toList.map .char) : text = other :=
  String.toList_inj.1 (List.map_injective_iff.2 (fun _ _ => Kotlin.Part.char.inj) h)

/-- Members that are read the same say the same. -/
theorem saysSame_of_read : ∀ {m n : Member}, m.IsScanned → n.IsScanned →
    Kotlin.readMember m = Kotlin.readMember n → Kotlin.readLookup m = Kotlin.readLookup n →
    m.SaysSame n
  | .property ⟨_, _, _, _⟩, .property ⟨_, _, _, _⟩, _, _, hm, hl => by
    obtain ⟨name, value⟩ := Kotlin.Accessor.property.inj hm
    obtain ⟨type, delegate⟩ := Kotlin.Lookup.lazily.inj hl
    rw [Member.SaysSame, Property.mk.injEq, Locator.mk.injEq]
    exact ⟨Identifier.text_inj.1 name, Strategy.delegate_inj delegate, map_char_inj value,
      Cardinality.typeName_inj type⟩
  | .function f, .function g, hf, hg, hm, hl => by
    obtain ⟨name, params, parts⟩ := Kotlin.Accessor.function.inj hm
    have factory := Kotlin.Lookup.atOnce.inj hl
    rw [Member.IsScanned] at hf hg
    rw [hf, hg] at parts
    refine ⟨Identifier.text_inj.1 name, Kotlin.factoryOf_inj factory, map_text_inj params, ?_⟩
    rw [hf, hg]
    exact Template.segments_inj parts
  | .property _, .function _, _, _, hm, _ => nomatch hm
  | .function _, .property _, _, _, hm, _ => nomatch hm

theorem Member.SaysSame.name : ∀ {m n : Member}, m.SaysSame n → m.name = n.name
  | .property _, .property _, h => by
    rw [SaysSame] at h
    rw [h]
  | .function _, .function _, h => h.1

theorem Member.SaysSame.memberLine : ∀ {m n : Member}, m.SaysSame n →
    Source.memberLine m = Source.memberLine n
  | .property _, .property _, h => by
    rw [SaysSame] at h
    rw [h]
  | .function f, .function g, h => by
    obtain ⟨name, strategy, params, segments⟩ := h
    have literal : Source.templateLiteral f.template = Source.templateLiteral g.template := by
      rw [Kotlin.templateLiteral_eq, Kotlin.templateLiteral_eq, segments]
    rw [Source.memberLine, Source.memberLine, Kotlin.functionLine_eq, Kotlin.functionLine_eq,
      name, strategy, params, literal]

theorem Member.SaysSame.imports (runtime : String) : ∀ {m n : Member}, m.SaysSame n →
    m.imports runtime = n.imports runtime
  | .property _, .property _, h => by
    rw [SaysSame] at h
    rw [h]
  | .function f, .function g, h => by
    obtain ⟨_, strategy, _, _⟩ := h
    rw [Member.imports, Member.imports, lookupImport, lookupImport, strategy]
    rfl

/-! ## Classes -/

theorem imports_foldl_add (runtime : String) : ∀ (es : List DeclaredEntry) (c : AccessorClass),
    (es.foldl (fun c e => c.add runtime e.member) c).imports =
      (es.map fun e => e.member.imports runtime).foldl
        (fun imports more => more.foldl (fun imports x => insertText x imports) imports) c.imports
  | [], _ => rfl
  | e :: es, c => imports_foldl_add runtime es (c.add runtime e.member)

theorem imports_toClass (d : Declaration) (o : Options) :
    (d.toClass o).imports = ((d.toClass o).members.map (Member.imports o.runtimePackage)).foldl
      (fun imports more => more.foldl (fun imports x => insertText x imports) imports)
      [qualified driverPackage "WebDriver"] := by
  rw [members_toClass, List.map_map, Declaration.toClass, imports_foldl_add]
  cases d.url <;> rfl

theorem map_eq_of_forall₂ {α β : Type} {f : α → β} {R : α → α → Prop}
    (hR : ∀ {a b}, R a b → f a = f b) {l l' : List α} (h : List.Forall₂ R l l') :
    l.map f = l'.map f := by
  rw [← List.forall₂_eq_eq_eq, List.forall₂_map_left_iff, List.forall₂_map_right_iff]
  exact h.imp fun _ _ => hR

theorem toList_inj {α : Type} : ∀ {a b : Option α}, a.toList = b.toList → a = b
  | none, none, _ => rfl
  | some _, some _, h => congrArg some (List.singleton_inj.1 h)

theorem forall₂_of_map_eq {α β γ : Type} {f : α → β} {g : α → γ} : ∀ {l l' : List α},
    l.map f = l'.map f → l.map g = l'.map g →
    List.Forall₂ (fun a b => f a = f b ∧ g a = g b) l l'
  | [], [], _, _ => .nil
  | a :: l, b :: l', hf, hg => by
    rw [List.map_cons, List.map_cons, List.cons.injEq] at hf hg
    exact .cons ⟨hf.1, hg.1⟩ (forall₂_of_map_eq hf.2 hg.2)

section

variable {parse : Url.Parser} {p q : Page} {d e : Declaration}

theorem name_member (a : DeclaredEntry) : a.member.name = a.name := by
  simp only [DeclaredEntry.member]
  split_ifs <;> rfl

theorem names_members (h : validateWith parse p = .ok d) (o : Options) :
    (d.toClass o).members.map (fun m => m.name.text) = p.entries.map Entry.name := by
  obtain ⟨-, -, -, -, -, declared⟩ := check_eq_ok_iff.1 (validateWith_eq_ok_iff.1 h)
  rw [members_toClass, List.map_map, ← List.forall₂_eq_eq_eq, List.forall₂_map_left_iff,
    List.forall₂_map_right_iff]
  exact declared.flip.imp fun a _ ha => (congrArg Identifier.text (name_member a)).trans ha.1

/-- Two pages have the same source under the same options exactly if they have the same package,
class name and address, and member by member say the same. -/
theorem source_eq_iff (hp : validateWith parse p = .ok d) (hq : validateWith parse q = .ok e)
    (o : Options) :
    (d.toClass o).source = (e.toClass o).source ↔
      p.package = q.package ∧ d.outputName = e.outputName ∧ p.url = q.url ∧
        p.entries.map Entry.name = q.entries.map Entry.name ∧
        List.Forall₂ Member.SaysSame (d.toClass o).members (e.toClass o).members := by
  have located := locatedBy_toClass hp o
  have located' := locatedBy_toClass hq o
  have readable := isReadable_toClass hp o
  have readable' := isReadable_toClass hq o
  constructor
  · intro h
    have package : p.package = q.package := by
      have := congrArg Kotlin.packageName? h
      rw [located.package, located'.package, Option.some.injEq, intercalate_directoryNames,
        intercalate_directoryNames] at this
      exact generatedPackage_inj this
    have name : d.outputName = e.outputName := by
      have := congrArg Kotlin.className? h
      rw [located.className, located'.className, Option.some.injEq, Identifier.text_inj,
        name_toClass, name_toClass] at this
      exact this
    have url : p.url = q.url := by
      have := congrArg Kotlin.openings h
      rw [Kotlin.openings_source readable, Kotlin.openings_source readable',
        initializer_eq_url hp, initializer_eq_url hq] at this
      exact toList_inj (List.map_injective_iff.2 (fun _ _ => map_char_inj) this)
    have members : List.Forall₂ Member.SaysSame (d.toClass o).members (e.toClass o).members := by
      have accessors := congrArg Kotlin.accessors h
      have lookups := congrArg Kotlin.lookups h
      rw [Kotlin.accessors_source readable, Kotlin.accessors_source readable', members_toClass,
        members_toClass, List.map_map, List.map_map] at accessors
      rw [Kotlin.lookups_source readable, Kotlin.lookups_source readable', members_toClass,
        members_toClass, List.map_map, List.map_map] at lookups
      rw [members_toClass, members_toClass, List.forall₂_map_left_iff, List.forall₂_map_right_iff]
      exact (forall₂_of_map_eq accessors lookups).imp fun a b h =>
        saysSame_of_read (isScanned_member a) (isScanned_member b) h.1 h.2
    refine ⟨package, name, url, ?_, members⟩
    rw [← names_members hp o, ← names_members hq o]
    exact map_eq_of_forall₂ (fun h => congrArg Identifier.text h.name) members
  · rintro ⟨package, name, url, -, members⟩
    have lines : Source.classLines (d.toClass o) = Source.classLines (e.toClass o) := by
      rw [Source.classLines, Source.classLines, Source.blocks, Source.blocks, header_toClass,
        header_toClass, package_toClass, package_toClass, package_eq hp, package_eq hq,
        name_toClass, name_toClass, imports_toClass, imports_toClass, initializer_eq_url hp,
        initializer_eq_url hq, package, name, url,
        map_eq_of_forall₂ (fun h => h.imports _) members,
        map_eq_of_forall₂ (fun h => congrArg ([·]) h.memberLine) members]
    rw [AccessorClass.source, lines, AccessorClass.source]

end

theorem source_ne_search :
    validate Page.search = .ok Page.searchDeclaration ∧
      validate Page.generatedSearch = .ok Page.generatedSearchDeclaration ∧
      (Page.searchDeclaration.toClass .default).source ≠
        (Page.generatedSearchDeclaration.toClass .default).source := by
  refine ⟨validate_search, validate_generatedSearch, fun h => ?_⟩
  exact absurd ((source_eq_iff validate_search validate_generatedSearch .default).1 h).1 (by decide)

end PageAccessors
