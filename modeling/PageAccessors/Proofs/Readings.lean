import PageAccessors.Descriptor
import PageAccessors.Proofs.CanonicalText

/-!
# One reading of a descriptor file

A descriptor file is read as a list of pages or as a single page, and a single page may be written
as a list, too, of its fields. The two are told apart by what comes first: the fields of a page
begin with its name, a text (`exists_eq_name_cons`), and no text is a page. So no value has both
readings (`listOf?_eq_none`), and it does not matter which one is tried first
(`pages_read_one_way`).
-/

namespace PageAccessors

/-! ## A page as a list of its fields -/

def optionalValue : Option String → Data
  | none => .null
  | some text => .text text

/-- The list of the fields of an entry, in their declared order. -/
def Entry.toList (e : Entry) : Data := .list [.text e.name, .list (e.markers.map Marker.toData)]

/-- The list of the fields of a page, in their declared order. -/
def Page.toList (p : Page) : Data :=
  .list [.text p.name, .text p.package, .text p.kind.key, optionalValue p.className,
    optionalValue p.url, .list (p.entries.map Entry.toList)]

theorem optionalText?_optionalValue : ∀ text : Option String,
    (optionalValue text).optionalText? = some text
  | none => rfl
  | some _ => rfl

theorem Entry.ofData?_toList (e : Entry) : ofData? e.toList = some e := by
  have read : listOf? Marker.ofData? (.list (e.markers.map Marker.toData)) = some e.markers :=
    listOf?_map fun m _ => m.ofData?_toData
  simp [toList, ofData?, recordFields?, fieldOr?, List.lookup_cons, Data.text?, read]

theorem Page.ofData?_toList (p : Page) : ofData? p.toList = some p := by
  have read : listOf? Entry.ofData? (.list (p.entries.map Entry.toList)) = some p.entries :=
    listOf?_map fun e _ => e.ofData?_toList
  simp [toList, ofData?, recordFields?, fieldOr?, List.lookup_cons, Data.text?, Kind.ofData?_key,
    optionalText?_optionalValue, read]

/-! ## No value has both readings -/

namespace Page

variable {d : Data} {items : List Data} {p : Page}

/-- A list that is a page begins with the name of the page. -/
theorem exists_eq_name_cons (h : ofData? (.list items) = some p) :
    ∃ rest, items = .text p.name :: rest := by
  simp only [ofData?, recordFields?] at h
  split_ifs at h with length
  · cases items with
    | nil => simp at h
    | cons first rest =>
      cases first with
      | text name =>
        simp only [List.zip_cons_cons, List.lookup_cons, BEq.rfl, Data.text?, Option.bind_eq_bind,
          Option.bind_some, Option.bind_eq_some_iff] at h
        obtain ⟨_, _, _, _, _, _, _, _, _, _, he⟩ := h
        exact ⟨rest, by rw [← Option.some.inj he]⟩
      | _ => simp [Data.text?] at h
  · simp at h

/-- A value that is a page is no list of pages. -/
theorem listOf?_eq_none (h : ofData? d = some p) : listOf? ofData? d = none := by
  cases d with
  | list items =>
    obtain ⟨rest, rfl⟩ := exists_eq_name_cons h
    -- The name is no page.
    rfl
  | _ => rfl

/-- The pages of a value that is first taken for a single page. -/
def singleOrList (d : Data) : Except Mismatch (List Page) :=
  match ofData? d with
  | some page => .ok [page]
  | none =>
    match listOf? ofData? d with
    | some pages => .ok pages
    | none => .error (.noReading "DescriptorFile")

theorem listOfData_of_ofData? (h : ofData? d = some p) : listOfData d = .ok [p] := by
  rw [listOfData, listOf?_eq_none h, h]

theorem listOfData_eq_singleOrList (d : Data) : listOfData d = singleOrList d := by
  cases hp : ofData? d with
  | some p => rw [listOfData_of_ofData? hp, singleOrList, hp]
  | none =>
    cases hl : listOf? ofData? d with
    | none => rw [listOfData, singleOrList, hp, hl]
    | some pages => rw [listOfData, singleOrList, hp, hl]

/-- The pages of a text whose value is first taken for a single page. -/
def singleOrListOfText (format : Format) (text : String) : Except TextError (List Page) :=
  match format with
  | .yaml => (Yaml.decode singleOrList text).mapError .yaml
  | .json => (Json.decode singleOrList text).mapError .json

end Page

/-- No value is both a list of pages and a single page, so that a descriptor file says the same
whichever of the two it is first taken for: an empty list is no pages, and whatever is read as a
page, be it written as a record or as a list of its fields, is that page alone. -/
theorem pages_read_one_way :
    (∀ d : Data, listOf? Page.ofData? d = none ∨ Page.ofData? d = none) ∧
      (∀ format text, Page.listOfText format text = Page.singleOrListOfText format text) ∧
      Page.listOfData (.list []) = .ok [] ∧
      (∀ (d : Data) (p : Page), Page.ofData? d = some p → Page.listOfData d = .ok [p]) ∧
      ∀ p : Page, Page.listOfData p.toData = .ok [p] ∧ Page.listOfData p.toList = .ok [p] := by
  refine ⟨fun d => ?_, fun format text => ?_, rfl, fun _ _ => Page.listOfData_of_ofData?,
    fun p => ⟨?_, ?_⟩⟩
  · cases h : Page.ofData? d with
    | none => exact .inr rfl
    | some p => exact .inl (Page.listOf?_eq_none h)
  · have same : Page.listOfData = Page.singleOrList := funext Page.listOfData_eq_singleOrList
    cases format <;> rw [Page.listOfText, Page.singleOrListOfText, same]
  · exact Page.listOfData_of_ofData? p.ofData?_toData
  · exact Page.listOfData_of_ofData? p.ofData?_toList

/-- A list with nothing but a name is a page without entries. -/
theorem pages_read_one_way_named : Page.ofData? (.list [.text "Login"]) = some (.empty "" "Login") ∧
    Page.listOfData (.list [.text "Login"]) = .ok [.empty "" "Login"] := by
  have read : Page.ofData? (.list [.text "Login"]) = some (.empty "" "Login") := rfl
  exact ⟨read, pages_read_one_way.2.2.2.1 _ _ read⟩

end PageAccessors
