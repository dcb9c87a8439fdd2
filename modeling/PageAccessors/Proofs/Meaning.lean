import PageAccessors.Proofs.KotlinSource

/-!
# What accessors mean

The literals of a generated class say what the page says. A class has a member for each entry, in
their order (`members_toClass`), and a literal's pieces, evaluated, are the text of the template
with its names filled in (`eval_segments`). With the source read back this gives the meaning of each
accessor (`accessors_mean_page`): a property looks for exactly its entry's text, a function for that
text with an argument in the place of each placeholder, and the class opens exactly its address.
-/

namespace PageAccessors

namespace Kotlin

/-- A literal without names that always is a text. -/
def Denotes (parts : List Part) (text : String) : Prop :=
  names parts = [] ∧ ∀ value, eval value parts = some text

theorem evalParts_append (value : String → Option String) {front rest : List Part}
    {text texts : List Char} (hf : evalParts value front = some text)
    (hr : evalParts value rest = some texts) :
    evalParts value (front ++ rest) = some (text ++ texts) := by
  induction front generalizing text with
  | nil =>
    rw [evalParts, Option.some.injEq] at hf
    rw [← hf]
    exact hr
  | cons p front ih =>
    simp only [evalParts, Option.bind_eq_bind, Option.bind_eq_some_iff, Option.some.injEq] at hf
    obtain ⟨a, ha, b, hb, rfl⟩ := hf
    simp [evalParts, ha, ih hb]

theorem evalParts_map_char (value : String → Option String) : ∀ text : List Char,
    evalParts value (text.map .char) = some text
  | [] => rfl
  | c :: text => by
    rw [List.map_cons, evalParts, evalParts_map_char value text]
    rfl

theorem names_map_char (text : List Char) : names (text.map .char) = [] := by
  rw [names, List.filterMap_map, List.filterMap_eq_nil_iff]
  exact fun _ _ => rfl

theorem denotes_map_char (text : String) : Denotes (text.toList.map .char) text :=
  ⟨names_map_char _, fun value => by rw [eval, evalParts_map_char]; simp⟩

/-- The text of a segment when each name has a value. -/
def segmentText (args : String → String) : Segment → List Char
  | .literal text => text.toList
  | .placeholder name => (args name).toList

theorem evalParts_segments {value : String → Option String} {args : String → String} :
    ∀ {segments : List Segment},
    (∀ name, .placeholder name ∈ segments → value name = some (args name)) →
    evalParts value (segments.flatMap segmentParts) = some (segments.flatMap (segmentText args))
  | [], _ => rfl
  | s :: segments, h => by
    rw [List.flatMap_cons, List.flatMap_cons]
    refine evalParts_append value ?_ (evalParts_segments fun name hm => h name (.tail _ hm))
    cases s with
    | literal text => exact evalParts_map_char value _
    | placeholder name => simp [segmentParts, evalParts, Part.eval, h name (.head _), segmentText]

/-- The literal of a template is the template's text with the values of its names. -/
theorem eval_segments {value : String → Option String} {args : String → String} {raw : String}
    (h : ∀ name ∈ (Template.ofString raw).parameters, value name = some (args name)) :
    eval value ((Template.ofString raw).segments.flatMap segmentParts) =
      some (Template.fill args raw) := by
  have hs : ∀ name, .placeholder name ∈ (Template.ofString raw).segments →
      value name = some (args name) := fun name hm =>
    h name (Template.mem_parameters.2 (List.mem_filterMap.2 ⟨_, hm, rfl⟩))
  rw [eval, evalParts_segments hs, Option.map_some, Template.fill, Template.ofString,
    Template.flatMap_join (segmentText args) (fun c => [c]) (by simp [segmentText])]
  refine congrArg (fun text => some (String.ofList text)) (List.flatMap_congr fun m _ => ?_)
  cases m <;> rfl

theorem names_segments (t : Template) : names (t.segments.flatMap segmentParts) = t.holes := by
  rw [names, List.filterMap_flatMap, Template.holes, List.filterMap_eq_flatMap_toList]
  refine List.flatMap_congr fun s _ => ?_
  cases s with
  | literal text => exact names_map_char _
  | placeholder name => rfl

end Kotlin

/-! ## Classes -/

theorem members_foldl_add (runtime : String) : ∀ (es : List DeclaredEntry) (c : AccessorClass),
    (es.foldl (fun c e => c.add runtime e.member) c).members = c.members ++ es.map (·.member)
  | [], c => by simp
  | e :: es, c => by
    rw [List.foldl_cons, members_foldl_add runtime es, List.map_cons]
    simp [AccessorClass.add]

theorem members_toClass (d : Declaration) (o : Options) :
    (d.toClass o).members = d.entries.map (·.member) := by
  rw [Declaration.toClass, members_foldl_add]
  cases d.url <;> simp [AccessorClass.empty, AccessorClass.opening]

theorem initializer_toClass (d : Declaration) (o : Options) :
    (d.toClass o).initializer = d.url := by
  rw [Declaration.toClass, foldl_add_eq AccessorClass.initializer _ fun _ _ => rfl]
  cases d.url <;> rfl

/-! ## Members -/

theorem map_text_filterMap_ofString : ∀ {names : List String}, (∀ n ∈ names, IsName n) →
    (names.filterMap fun n => (Identifier.ofString n).toOption).map Identifier.text = names
  | [], _ => rfl
  | n :: names, h => by
    rw [List.forall_mem_cons] at h
    obtain ⟨i, hi⟩ := h.1
    rw [List.filterMap_cons, hi, Except.toOption, List.map_cons, Identifier.ofString_ok.1 hi,
      map_text_filterMap_ofString h.2]

/-- What an accessor that was read does for an entry: a property looks for exactly the entry's
text, and a function takes an argument for each placeholder and looks for the text with them. -/
structure Entry.MeantBy (e : Entry) (a : Kotlin.Accessor) : Prop where
  plain : e.template.parameters = [] → ∃ parts, a = .property e.name parts ∧
    Kotlin.Denotes parts e.resolve.value
  templated : e.template.parameters ≠ [] → ∃ parts,
    a = .function e.name e.template.parameters parts ∧
    (∀ name ∈ Kotlin.names parts, name ∈ e.template.parameters) ∧
    ∀ args : String → String,
      Kotlin.eval (fun name => if name ∈ e.template.parameters then some (args name) else none)
        parts = some (Template.fill args e.resolve.value)

section Member

variable {e : Entry} {d : DeclaredEntry}

theorem member_eq (hn : d.name.text = e.name) (hl : d.locator = e.locator?) :
    d.member = if e.template.isParameterized
      then .function (functionOf d.name e.resolve.strategy e.template)
      else .property ⟨d.name, e.resolve⟩ := by
  have hr : d.resolve = e.resolve := by rw [DeclaredEntry.resolve, hn, hl, Entry.resolve]
  rw [DeclaredEntry.member, hr, Entry.template]

variable (names : ∀ name ∈ e.template.parameters, IsName name)

include names in
theorem params_functionOf (n : Identifier) (s : Strategy) :
    (functionOf n s e.template).params.map Identifier.text = e.template.parameters :=
  map_text_filterMap_ofString names

include names in
theorem isReadable_member (hn : d.name.text = e.name) (hl : d.locator = e.locator?) :
    Kotlin.IsReadable d.member := by
  rw [member_eq hn hl]
  split_ifs with ht
  · refine ⟨fun h => ?_, names⟩
    have := params_functionOf names d.name e.resolve.strategy
    rw [h] at this
    exact Template.isParameterized_iff.1 ht this.symm
  · trivial

include names in
/-- The member for an entry, read back, does what the entry says. -/
theorem meantBy_readMember (hn : d.name.text = e.name) (hl : d.locator = e.locator?) :
    e.MeantBy (Kotlin.readMember d.member) := by
  rw [member_eq hn hl]
  by_cases ht : e.template.isParameterized = true
  · rw [if_pos ht]
    refine ⟨fun h => absurd h (Template.isParameterized_iff.1 ht), fun _ => ?_⟩
    refine ⟨e.template.segments.flatMap Kotlin.segmentParts, ?_, fun name hm => ?_, fun args => ?_⟩
    · rw [Kotlin.readMember, params_functionOf names]
      simp [functionOf, hn]
    · rwa [Kotlin.names_segments, ← Template.mem_parameters] at hm
    · exact Kotlin.eval_segments fun name hm => if_pos hm
  · rw [if_neg ht]
    refine ⟨fun _ => ⟨_, ?_, Kotlin.denotes_map_char _⟩, fun h => ?_⟩
    · rw [Kotlin.readMember, hn]
    · exact absurd (Template.isParameterized_iff.2 h) ht

end Member

section Page

variable {parse : Url.Parser} {p : Page} {d : Declaration} (h : validateWith parse p = .ok d)
include h

/-- The names in the templates of an accepted page are identifiers. -/
theorem isName_of_mem_parameters :
    ∀ e ∈ p.entries, ∀ name ∈ e.template.parameters, IsName name := by
  obtain ⟨rules, -⟩ := check_eq_ok_iff.1 (validateWith_eq_ok_iff.1 h)
  intro e he name hm
  exact rules .names name
    (List.mem_append_right _ (List.mem_flatMap.2 ⟨e, he, List.mem_cons_of_mem _ hm⟩))

theorem isReadable_toClass (o : Options) :
    ∀ m ∈ (d.toClass o).members, Kotlin.IsReadable m := by
  obtain ⟨-, -, -, -, -, declared⟩ := check_eq_ok_iff.1 (validateWith_eq_ok_iff.1 h)
  have entries := (List.forall₂_and_left _ _).2 ⟨isName_of_mem_parameters h, declared⟩
  have := entries.imp fun _ _ ⟨names, hn, hl⟩ => And.intro (isReadable_member names hn hl) trivial
  rw [members_toClass, List.forall_mem_map]
  exact ((List.forall₂_and_left _ _).1 (List.Forall₂.flip this)).1

theorem initializer_eq_url (o : Options) : (d.toClass o).initializer = p.url := by
  obtain ⟨-, -, -, -, hu, -⟩ := check_eq_ok_iff.1 (validateWith_eq_ok_iff.1 h)
  rw [initializer_toClass, hu]

end Page

/-- The accessors of a page's class mean what the page says, entry by entry, and the class opens the
page's address if it has one. -/
theorem accessors_mean_page {parse : Url.Parser} {p : Page} {d : Declaration}
    (h : validateWith parse p = .ok d) (o : Options) :
    List.Forall₂ Entry.MeantBy p.entries (Kotlin.accessors (d.toClass o).source) ∧
      List.Forall₂ (fun url parts => Kotlin.Denotes parts url) p.url.toList
        (Kotlin.openings (d.toClass o).source) := by
  obtain ⟨rules, -, -, -, hu, declared⟩ := check_eq_ok_iff.1 (validateWith_eq_ok_iff.1 h)
  have names : ∀ e ∈ p.entries, ∀ name ∈ e.template.parameters, IsName name := fun e he name hm =>
    rules .names name
      (List.mem_append_right _ (List.mem_flatMap.2 ⟨e, he, List.mem_cons_of_mem _ hm⟩))
  have entries := (List.forall₂_and_left _ _).2 ⟨names, declared⟩
  have readable : ∀ m ∈ (d.toClass o).members, Kotlin.IsReadable m := by
    have := entries.imp fun _ _ ⟨names, hn, hl⟩ => And.intro (isReadable_member names hn hl) trivial
    rw [members_toClass, List.forall_mem_map]
    exact ((List.forall₂_and_left _ _).1 (List.Forall₂.flip this)).1
  rw [Kotlin.accessors_source readable, Kotlin.openings_source readable, members_toClass,
    initializer_toClass, hu]
  refine ⟨?_, ?_⟩
  · rw [List.map_map, List.forall₂_map_right_iff]
    exact entries.imp fun _ _ ⟨names, hn, hl⟩ => meantBy_readMember names hn hl
  · rw [List.forall₂_map_right_iff, List.forall₂_same]
    exact fun url _ => Kotlin.denotes_map_char url

/-- A page with an address, and texts with quotes and dollar signs, one in front of a
placeholder. -/
def Page.search : Page :=
  { Page.empty "shop" "Search" with
    url := some "app://shop/$1"
    entries := [⟨"field", [.make .css "[b=\"$\"]" true]⟩,
      ⟨"row", [.make .xpath "\\${{ n }}" false]⟩] }

def Page.searchDeclaration : Declaration :=
  ⟨⟨"Search", by decide⟩, "shop", none, some "app://shop/$1",
    [⟨⟨"field", by decide⟩, some ⟨.css, "[b=\"$\"]", .collection⟩⟩,
      ⟨⟨"row", by decide⟩, some ⟨.xpath, "\\${{ n }}", .single⟩⟩]⟩

theorem validate_search : validate Page.search = .ok Page.searchDeclaration := by
  have field : (Template.ofString "[b=\"$\"]").parameters = [] :=
    Template.parameters_of_notMem (by decide)
  have row : (Template.ofString "\\${{ n }}").parameters = ["n"] :=
    (Template.parameters_of_lastHole "\\$".toList " n ".toList rfl (by decide) rfl).trans
      (by decide)
  have names : Page.search.names = ["Search", "shop", "field", "row", "n"] := by
    have own : Page.search.ownNames = ["Search", "shop"] := by decide
    rw [Page.names, own]
    change _ ++ ("field" :: (Template.ofString "[b=\"$\"]").parameters ++
      ("row" :: (Template.ofString "\\${{ n }}").parameters ++ [])) = _
    rw [field, row]
    rfl
  rw [validate, validateWith_eq_ok_iff, check_eq_ok_iff]
  refine ⟨fun r => ?_, rfl, rfl, rfl, rfl, .cons ⟨rfl, rfl⟩ (.cons ⟨rfl, rfl⟩ .nil)⟩
  cases r with
  | enumeration => rfl
  | inhabited => exact List.cons_ne_nil _ _
  | oneMarker => exact fun e he => by revert e; decide
  | address => exact fun url hu => by cases hu; exact ⟨"shop", rfl, by decide⟩
  | names =>
    rw [Rule.Holds, names]
    simp only [isName_iff]
    decide
  | distinctEntries => exact show ["field", "row"].Nodup by decide
  | singleTemplates =>
    intro e he hp
    simp only [Page.search, List.mem_cons, List.not_mem_nil, or_false] at he
    rcases he with rfl | rfl
    · exact absurd field (Template.isParameterized_iff.1 hp)
    · rfl

theorem accessors_mean_search :
    validate Page.search = .ok Page.searchDeclaration ∧
      List.Forall₂ Entry.MeantBy Page.search.entries
        (Kotlin.accessors (Page.searchDeclaration.toClass .default).source) ∧
      List.Forall₂ (fun url parts => Kotlin.Denotes parts url) Page.search.url.toList
        (Kotlin.openings (Page.searchDeclaration.toClass .default).source) :=
  ⟨validate_search, accessors_mean_page validate_search .default⟩

def Declaration.bare (package : String) (name entry : Identifier) : Declaration :=
  ⟨name, package, none, none, [⟨entry, none⟩]⟩

theorem validate_bare {package : String} (name entry : Identifier)
    (segments : ∀ segment ∈ packageSegments package, IsName segment) :
    validate (.bare package name.text entry.text) = .ok (.bare package name entry) := by
  have isName (i : Identifier) : IsName i.text := isName_iff.2 i.accepted
  have plain := (template_of_locator?_none (e := ⟨entry.text, []⟩) rfl (isName entry)).1
  rw [validate, validateWith_eq_ok_iff, check_eq_ok_iff]
  refine ⟨fun r => ?_, rfl, rfl, rfl, rfl, .cons ⟨rfl, rfl⟩ .nil⟩
  cases r with
  | enumeration => rfl
  | inhabited => exact List.cons_ne_nil _ _
  | oneMarker => exact List.forall_mem_singleton.2 (Nat.zero_le _)
  | address => exact fun url hu => nomatch hu
  | names =>
    refine List.forall_mem_append.2 ⟨List.forall_mem_cons.2 ⟨isName name, segments⟩, ?_⟩
    rw [Page.bare, List.flatMap_singleton, Entry.names, plain]
    exact List.forall_mem_singleton.2 (isName entry)
  | distinctEntries => exact List.nodup_singleton _
  | singleTemplates =>
    exact List.forall_mem_singleton.2 fun hp => absurd plain (Template.isParameterized_iff.1 hp)

end PageAccessors
