import PageAccessors.Proofs.Meaning

/-!
# Names in scope

A source uses two names that are not its own: the line that opens an address calls `get` with a
text, and the body of a function looks its element up with `By`. A member is found before what the
driver and the imports offer, and a parameter before a member, so that a page may take a name over:
by an entry `get` with one placeholder (`takesOpening_iff`), or, where there is a function, by an
entry `By` without placeholders or a placeholder `By` (`takesLookup_iff`). Nothing else does, and no
rule for pages forbids it.
-/

namespace PageAccessors

namespace Kotlin

/-- The class opens an address, and has a function of its own that this calls. -/
def TakesOpening (source : String) : Prop :=
  openings source ≠ [] ∧ ∃ param argument, .function "get" [param] argument ∈ accessors source

/-- The class has a function, and a property or a parameter that is found in the place of `By`. -/
def TakesLookup (source : String) : Prop :=
  (∃ name params argument, .function name params argument ∈ accessors source) ∧
    ((∃ argument, .property "By" argument ∈ accessors source) ∨
      ∃ name params argument, .function name params argument ∈ accessors source ∧ "By" ∈ params)

end Kotlin

/-- What the member for an entry is read as. -/
def Entry.accessor (e : Entry) : Kotlin.Accessor :=
  if e.template.isParameterized
    then .function e.name e.template.parameters (e.template.segments.flatMap Kotlin.segmentParts)
    else .property e.name (e.resolve.value.toList.map .char)

theorem Entry.accessor_eq_function_iff {e : Entry} {name : String} {params : List String}
    {argument : List Kotlin.Part} : e.accessor = .function name params argument ↔
      e.name = name ∧ e.template.parameters = params ∧ params ≠ [] ∧
        e.template.segments.flatMap Kotlin.segmentParts = argument := by
  unfold accessor
  split_ifs with h
  all_goals rw [Template.isParameterized_iff] at h
  · rw [Kotlin.Accessor.function.injEq]
    constructor
    · rintro ⟨rfl, rfl, rfl⟩
      exact ⟨rfl, rfl, h, rfl⟩
    · rintro ⟨rfl, rfl, -, rfl⟩
      exact ⟨rfl, rfl, rfl⟩
  · refine ⟨False.elim, ?_⟩
    rintro ⟨-, rfl, hn, -⟩
    exact absurd hn h

theorem Entry.accessor_eq_property_iff {e : Entry} {name : String} {argument : List Kotlin.Part} :
    e.accessor = .property name argument ↔
      e.name = name ∧ e.template.parameters = [] ∧ e.resolve.value.toList.map .char = argument := by
  unfold accessor
  split_ifs with h
  all_goals rw [Template.isParameterized_iff] at h
  · exact ⟨False.elim, fun ⟨_, hn, _⟩ => absurd hn h⟩
  · rw [Kotlin.Accessor.property.injEq, not_not.1 h]
    simp

section

variable {parse : Url.Parser} {p : Page} {d : Declaration} (h : validateWith parse p = .ok d)
  (o : Options)
include h

theorem map_readMember_toClass :
    (d.toClass o).members.map Kotlin.readMember = p.entries.map Entry.accessor := by
  obtain ⟨-, -, -, -, -, declared⟩ := check_eq_ok_iff.1 (validateWith_eq_ok_iff.1 h)
  have entries := (List.forall₂_and_left _ _).2 ⟨isName_of_mem_parameters h, declared⟩
  rw [members_toClass, List.map_map, ← List.forall₂_eq_eq_eq, List.forall₂_map_left_iff,
    List.forall₂_map_right_iff]
  refine entries.flip.imp fun a e ⟨names, hn, hl⟩ => ?_
  rw [Function.comp_apply, member_eq hn hl, Entry.accessor]
  split_ifs
  · rw [Kotlin.readMember, params_functionOf names]
    simp [functionOf, hn]
  · rw [Kotlin.readMember, hn]

theorem accessors_toClass :
    Kotlin.accessors (d.toClass o).source = p.entries.map Entry.accessor := by
  rw [Kotlin.accessors_source (isReadable_toClass h o), map_readMember_toClass h o]

/-- The line that opens the address calls a function of the class itself exactly if the page has an
address and an entry of that name with one placeholder. -/
theorem takesOpening_iff : Kotlin.TakesOpening (d.toClass o).source ↔
    p.url.isSome ∧ ∃ e ∈ p.entries, e.name = "get" ∧ e.template.parameters.length = 1 := by
  have opens : Kotlin.openings (d.toClass o).source ≠ [] ↔ p.url.isSome := by
    rw [Kotlin.openings_source (isReadable_toClass h o), initializer_eq_url h]
    cases p.url <;> simp
  rw [Kotlin.TakesOpening, opens, accessors_toClass h]
  simp only [List.mem_map, Entry.accessor_eq_function_iff, List.length_eq_one_iff]
  refine and_congr_right fun _ => ⟨?_, ?_⟩
  · rintro ⟨param, _, e, he, name, params, -, -⟩
    exact ⟨e, he, name, param, params⟩
  · rintro ⟨e, he, name, param, params⟩
    exact ⟨param, _, e, he, name, params, List.cons_ne_nil _ _, rfl⟩

/-- A function finds something else in the place of `By` exactly if the class has a function, and
the page an entry of that name without placeholders or a placeholder of that name. -/
theorem takesLookup_iff : Kotlin.TakesLookup (d.toClass o).source ↔
    (∃ e ∈ p.entries, e.template.parameters ≠ []) ∧
      ∃ e ∈ p.entries, (e.name = "By" ∧ e.template.parameters = []) ∨
        "By" ∈ e.template.parameters := by
  rw [Kotlin.TakesLookup, accessors_toClass h]
  simp only [List.mem_map, Entry.accessor_eq_function_iff, Entry.accessor_eq_property_iff]
  refine and_congr ⟨?_, ?_⟩ ⟨?_, ?_⟩
  · rintro ⟨_, _, _, e, he, -, rfl, hn, -⟩
    exact ⟨e, he, hn⟩
  · rintro ⟨e, he, hn⟩
    exact ⟨_, _, _, e, he, rfl, rfl, hn, rfl⟩
  · rintro (⟨_, e, he, name, plain, -⟩ | ⟨_, _, _, ⟨e, he, -, rfl, -, -⟩, hb⟩)
    · exact ⟨e, he, .inl ⟨name, plain⟩⟩
    · exact ⟨e, he, .inr hb⟩
  · rintro ⟨e, he, ⟨name, plain⟩ | hb⟩
    · exact .inl ⟨_, e, he, name, plain, rfl⟩
    · exact .inr ⟨_, _, _, ⟨e, he, rfl, rfl, List.ne_nil_of_mem hb, rfl⟩, hb⟩

/-- Which of the names that a source uses its page takes over. -/
theorem takesNames_iff :
    (Kotlin.TakesOpening (d.toClass o).source ↔
      p.url.isSome ∧ ∃ e ∈ p.entries, e.name = "get" ∧ e.template.parameters.length = 1) ∧
    (Kotlin.TakesLookup (d.toClass o).source ↔
      (∃ e ∈ p.entries, e.template.parameters ≠ []) ∧
        ∃ e ∈ p.entries, (e.name = "By" ∧ e.template.parameters = []) ∨
          "By" ∈ e.template.parameters) :=
  ⟨takesOpening_iff h o, takesLookup_iff h o⟩

end

/-- A page with an address, and entries under the names that its source uses. -/
def Page.capturing : Page :=
  { Page.empty "" "Home" with
    url := some "app://shop"
    entries := [⟨"get", [.make .css "a.{{x}}" false]⟩, ⟨"By", []⟩] }

def Page.capturingDeclaration : Declaration :=
  ⟨⟨"Home", by decide⟩, "", none, some "app://shop",
    [⟨⟨"get", by decide⟩, some ⟨.css, "a.{{x}}", .single⟩⟩,
      ⟨⟨"By", by decide⟩, none⟩]⟩

theorem parameters_capturing :
    (Template.ofString "a.{{x}}").parameters = ["x"] ∧
      (Template.ofString "By").parameters = [] :=
  ⟨(Template.parameters_of_lastHole "a.".toList "x".toList rfl (by decide) rfl).trans (by decide),
    Template.parameters_of_notMem (by decide)⟩

theorem validate_capturing : validate Page.capturing = .ok Page.capturingDeclaration := by
  obtain ⟨get, by_⟩ := parameters_capturing
  have names : Page.capturing.names = ["Home", "get", "x", "By"] := by
    have own : Page.capturing.ownNames = ["Home"] := by decide
    rw [Page.names, own]
    change _ ++ ("get" :: (Template.ofString "a.{{x}}").parameters ++
      ("By" :: (Template.ofString "By").parameters ++ [])) = _
    rw [get, by_]
    rfl
  rw [validate, validateWith_eq_ok_iff, check_eq_ok_iff]
  refine ⟨fun r => ?_, rfl, rfl, rfl, rfl, .cons ⟨rfl, rfl⟩ (.cons ⟨rfl, rfl⟩ .nil)⟩
  cases r with
  | enumeration => rfl
  | inhabited => exact List.cons_ne_nil _ _
  | oneMarker => exact fun e he => by revert e; decide
  | address => exact fun url hu => by cases hu; exact ⟨"shop", rfl, by decide⟩
  | names =>
    rw [Rule.Holds, names]
    simp only [isName_iff]
    decide
  | distinctEntries => exact show ["get", "By"].Nodup by decide
  | singleTemplates =>
    intro e he _
    simp only [Page.capturing, List.mem_cons, List.not_mem_nil, or_false] at he
    rcases he with rfl | rfl <;> rfl

theorem takesNames_capturing :
    validate Page.capturing = .ok Page.capturingDeclaration ∧
      Kotlin.TakesOpening (Page.capturingDeclaration.toClass .default).source ∧
      Kotlin.TakesLookup (Page.capturingDeclaration.toClass .default).source := by
  obtain ⟨get, by_⟩ := parameters_capturing
  have all := takesNames_iff validate_capturing .default
  refine ⟨validate_capturing, all.1.2 ⟨rfl, _, .head _, rfl, congrArg List.length get⟩,
    all.2.2 ⟨⟨_, .head _, ?_⟩, _, .tail _ (.head _), .inl ⟨rfl, by_⟩⟩⟩
  exact get.trans_ne (List.cons_ne_nil _ _)

/-- The rules keep no page from taking over either name. -/
theorem not_forall_names_kept :
    (¬ ∀ (p : Page) (d : Declaration) (o : Options),
      validate p = .ok d → ¬ Kotlin.TakesOpening (d.toClass o).source) ∧
    ¬ ∀ (p : Page) (d : Declaration) (o : Options),
      validate p = .ok d → ¬ Kotlin.TakesLookup (d.toClass o).source := by
  obtain ⟨get, by_⟩ := parameters_capturing
  have templated := get.trans_ne (List.cons_ne_nil "x" [])
  have opening := (takesOpening_iff validate_capturing .default).2
    ⟨rfl, _, .head _, rfl, congrArg List.length get⟩
  have lookup := (takesLookup_iff validate_capturing .default).2
    ⟨⟨_, .head _, templated⟩, _, .tail _ (.head _), .inl ⟨rfl, by_⟩⟩
  exact ⟨fun h => h _ _ _ validate_capturing opening, fun h => h _ _ _ validate_capturing lookup⟩

end PageAccessors
