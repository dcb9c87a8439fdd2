import PageAccessors.Descriptor
import PageAccessors.Generation
import PageAccessors.Proofs.JsonValue

/-!
# Canonical texts

The canonical text of a page says everything about the page. The value that is written for a page
is read as that page (`ofData?_toData`), although fields are left out and a marker is written in one
of two forms, and so is a list of such values. With written values read back this makes the text of
a page a descriptor of exactly that page (`canonicalText_describes_page`), and different pages have
different texts, from which their hashes are made.
-/

namespace PageAccessors

/-! ## Canonical values are written as they are -/

section

variable {n : Nat}

theorem nests_optionalField (key : String) (text : Option String) :
    ∀ f ∈ optionalField key text, f.2.Nests n := by
  intro f hf
  cases text with
  | none => cases hf
  | some text =>
    rw [optionalField, List.mem_singleton] at hf
    rw [hf]
    exact .text text

theorem MarkerArgs.nests_toData : ∀ a : MarkerArgs, a.toData.Nests 1
  | .value text => .text text
  | .detailed text collect => by
    refine .object ?_
    rw [List.forall_mem_append, List.forall_mem_singleton]
    exact ⟨nests_optionalField _ _, .bool collect⟩

theorem Marker.nests_toData (m : Marker) : m.toData.Nests 2 := by
  refine .object ?_
  rw [List.forall_mem_singleton]
  exact m.args.nests_toData

theorem Entry.nests_toData (e : Entry) : e.toData.Nests 4 := by
  refine .object ?_
  rw [List.forall_mem_cons]
  refine ⟨.text e.name, ?_⟩
  split_ifs
  · exact nofun
  · rw [List.forall_mem_singleton]
    refine .list ?_
    rw [List.forall_mem_map]
    exact fun m _ => m.nests_toData

theorem Page.nests_toData (p : Page) : p.toData.Nests 6 := by
  refine .object ?_
  simp only [List.forall_mem_append, List.forall_mem_cons]
  refine ⟨⟨⟨⟨.text p.name, .text p.package, .text p.kind.key, nofun⟩, nests_optionalField _ _⟩,
    nests_optionalField _ _⟩, .list ?_, nofun⟩
  rw [List.forall_mem_map]
  exact fun e _ => e.nests_toData

end

/-! ## Canonical values are read back -/

/-- The fields of a record are known as they are written, if they are fields of it and no two of
them are the same. -/
theorem knownFields?_keyed {names : List String} : ∀ {fields : List (String × Data)},
    (∀ f ∈ fields, f.1 ∈ names) → (fields.map Prod.fst).Nodup →
    knownFields? names (Data.keyed fields) = some fields
  | [], _, _ => rfl
  | (key, d) :: fields, hm, hd => by
    rw [List.forall_mem_cons] at hm
    rw [List.map_cons, List.nodup_cons] at hd
    have key_eq : fieldOfKey? names (.text key) = some (some key) := by
      obtain ⟨found, hf⟩ : ∃ found, names.find? (· == key) = some found := by
        rw [← Option.isSome_iff_exists, List.find?_isSome]
        exact ⟨key, hm.1, by simp⟩
      have := List.find?_some hf
      rw [fieldOfKey?, hf, eq_of_beq this]
    have absent : fields.lookup key = none := by
      rw [List.lookup_eq_none_iff]
      intro f hf
      have hne : key ≠ f.1 := fun he => hd.1 (List.mem_map.2 ⟨f, hf, he.symm⟩)
      simpa using hne
    have ih := knownFields?_keyed hm.2 hd.2
    simp only [Data.keyed, List.map_cons, knownFields?] at ih ⊢
    simp [key_eq, ih, absent]

theorem listOf?_map {α : Type} {read : Data → Option α} {write : α → Data} :
    ∀ {l : List α}, (∀ a ∈ l, read (write a) = some a) → listOf? read (.list (l.map write)) = some l
  | [], _ => rfl
  | a :: l, h => by
    rw [List.forall_mem_cons] at h
    have ih := listOf?_map h.2
    simp only [listOf?, Data.list?, Option.bind_some] at ih ⊢
    simp [h.1, ih]

theorem Kind.ofData?_key (k : Kind) : Kind.ofData? (.text k.key) = some k := ofKey?_key k

theorem Marker.strategyOfName?_toString {s : Strategy} (h : s.isMarker) :
    strategyOfName? s.toString = some ⟨s, h⟩ := by
  rw [strategyOfName?, Strategy.ofString?_toString]
  exact dif_pos h

theorem MarkerArgs.ofData?_toData : ∀ a : MarkerArgs, ofData? a.toData = some a
  | .value _ => rfl
  | .detailed text collect => by
    have known : knownFields? ["value", "collect"] (Data.keyed
        (optionalField "value" text ++ [("collect", .bool collect)])) = some _ :=
      knownFields?_keyed (by cases text <;> simp [optionalField])
        (by cases text <;> simp [optionalField])
    rw [toData, Data.object, ← Data.keyed]
    simp only [ofData?, known]
    cases text <;> rfl

theorem Marker.ofData?_toData (m : Marker) : ofData? m.toData = some m := by
  simp [toData, Data.object, ofData?, strategyOfName?_toString m.isMarker,
    MarkerArgs.ofData?_toData]

theorem Entry.ofData?_toData (e : Entry) : ofData? e.toData = some e := by
  obtain ⟨name, markers⟩ := e
  have known : recordFields? ["name", "locators"] (Entry.toData ⟨name, markers⟩) = some _ :=
    knownFields?_keyed (by cases markers <;> simp) (by cases markers <;> simp)
  have read : listOf? Marker.ofData? (.list (markers.map Marker.toData)) = some markers :=
    listOf?_map fun m _ => m.ofData?_toData
  rw [ofData?, known]
  cases markers with
  | nil => rfl
  | cons m markers =>
    rw [List.map_cons] at read
    simp [fieldOr?, List.lookup_cons, Data.text?, read]

/-- The value that is written for a page is read as that page. -/
theorem Page.ofData?_toData (p : Page) : ofData? p.toData = some p := by
  obtain ⟨name, package, kind, className, url, entries⟩ := p
  have known : recordFields? ["name", "package", "kind", "class_name", "url", "entries"]
      (Page.toData ⟨name, package, kind, className, url, entries⟩) = some _ :=
    knownFields?_keyed (by cases className <;> cases url <;> simp [optionalField])
      (by cases className <;> cases url <;> simp [optionalField])
  have read : listOf? Entry.ofData? (.list (entries.map Entry.toData)) = some entries :=
    listOf?_map fun e _ => e.ofData?_toData
  rw [ofData?, known]
  cases className <;> cases url <;>
    simp [optionalField, fieldOr?, List.lookup_cons, Data.text?, Data.optionalText?,
      Kind.ofData?_key, read]

/-! ## Texts -/

theorem Page.listOfData_toData (p : Page) : Page.listOfData p.toData = .ok [p] := by
  have single : listOf? ofData? p.toData = none := rfl
  rw [listOfData, single, p.ofData?_toData]

theorem Page.listOfData_list (ps : List Page) :
    Page.listOfData (.list (ps.map Page.toData)) = .ok ps := by
  rw [listOfData, listOf?_map fun p _ => p.ofData?_toData]

theorem Page.listOfText_render {d : Data} {n : Nat} (h : d.Nests n) (hn : n ≤ Json.depthLimit)
    {ps : List Page} (hd : Page.listOfData d = .ok ps) :
    Page.listOfText .json (Json.render d) = .ok ps := by
  rw [listOfText, Json.decode_render h hn, hd]
  rfl

/-- The canonical text of a page describes exactly that page, and a list of canonical texts
exactly those pages, so that pages with one text, which is all that a hash depends on, are one. -/
theorem canonicalText_describes_page :
    (∀ p : Page, Page.listOfText .json p.canonicalText = .ok [p]) ∧
      (∀ ps : List Page, Page.listOfText .json
        ("[" ++ ",".intercalate (ps.map Page.canonicalText) ++ "]") = .ok ps) ∧
      (∀ p q : Page, p.canonicalText = q.canonicalText ↔ p = q) ∧
      ∀ p : Page, p.inputHash = Digest.hex p.canonicalText := by
  have single : ∀ p : Page, Page.listOfText .json p.canonicalText = .ok [p] := fun p =>
    Page.listOfText_render p.nests_toData (by decide) p.listOfData_toData
  refine ⟨single, fun ps => ?_, fun p q => ⟨fun h => ?_, fun h => by rw [h]⟩, fun _ => rfl⟩
  · have nests : (Data.list (ps.map Page.toData)).Nests 7 := by
      refine .list ?_
      rw [List.forall_mem_map]
      exact fun p _ => p.nests_toData
    have text := Json.render_list (ps.map Page.toData)
    rw [List.map_map] at text
    exact text ▸ Page.listOfText_render nests (by decide) (Page.listOfData_list ps)
  · have := single p
    rw [h, single q] at this
    cases this
    rfl

end PageAccessors
