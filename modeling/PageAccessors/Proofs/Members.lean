import PageAccessors.Proofs.Meaning

/-!
# Members

A class has one member for each entry of its page, in the same place and under the same name. An
entry without placeholders becomes a property with the entry's lookup, and any other a function
with a parameter for each placeholder, in the order in which they first appear
(`pairwise_precedes_eraseDups`). The check of a page has looked at the same template that the
function is built from, so that no parameter is left out (`members_builtAs_of_validate`).
-/

namespace PageAccessors

/-! ## The order of first appearance -/

/-- A name appears before another one does. -/
def Precedes (names : List String) (a b : String) : Prop :=
  ∃ front rest, names = front ++ rest ∧ a ∈ front ∧ b ∉ front

theorem Precedes.ne {names : List String} {a b : String} (h : Precedes names a b) : a ≠ b := by
  rintro rfl
  obtain ⟨front, rest, -, ha, hn⟩ := h
  exact hn ha

theorem Precedes.cons {names : List String} {a b first : String} (hb : b ≠ first)
    (h : Precedes (names.filter fun x => !x == first) a b) : Precedes (first :: names) a b := by
  obtain ⟨front, rest, hf, ha, hn⟩ := h
  obtain ⟨front, rest, rfl, rfl, -⟩ := List.filter_eq_append_iff.1 hf
  refine ⟨first :: front, rest, rfl, .tail _ (List.mem_filter.1 ha).1, fun hm => ?_⟩
  rcases List.mem_cons.1 hm with he | hm
  · exact hb he
  · exact hn (List.mem_filter.2 ⟨hm, by simpa using hb⟩)

theorem pairwise_precedes_eraseDups : ∀ names : List String,
    names.eraseDups.Pairwise (Precedes names)
  | [] => .nil
  | first :: rest => by
    have others : ∀ b ∈ (rest.filter fun x => !x == first).eraseDups, b ≠ first := by simp
    rw [List.eraseDups_cons]
    refine .cons (fun b hb => ⟨[first], rest, rfl, .head _, fun hm => ?_⟩) ?_
    · exact others b hb (List.mem_singleton.1 hm)
    · exact (pairwise_precedes_eraseDups _).imp_of_mem fun _ hb h => h.cons (others _ hb)
termination_by names => names.length
decreasing_by exact Nat.lt_succ_of_le (List.length_filter_le _ _)

/-! ## Members -/

/-- The function for an entry: it looks up by the strategy of the entry's marker, and takes the
names of the entry's placeholders, in the order in which they first appear. -/
structure Entry.CalledAs (e : Entry) (f : Function) : Prop where
  marker : ∃ m, e.markers = [m] ∧ f.strategy = m.strategy
  template : f.template = e.template
  params : f.params.map Identifier.text = e.template.parameters
  order : f.params.Pairwise fun a b => Precedes e.template.holes a.text b.text
  distinct : f.params.Nodup
  holes : ∀ name, .placeholder name ∈ f.template.segments ↔ ∃ i ∈ f.params, i.text = name
  cardinality : (Member.function f).cardinality = e.resolve.cardinality

/-- The member for an entry: a property with the entry's lookup if that has no placeholders, as the
one of an entry without a marker never has, and a function otherwise. -/
structure Entry.BuiltAs (e : Entry) (m : Member) : Prop where
  name : m.name.text = e.name
  plain : e.template.holes = [] → ∃ n, m = .property ⟨n, e.resolve⟩
  unmarked : e.markers = [] → ∃ n, m = .property ⟨n, ⟨.idOrName, e.name, .single⟩⟩
  templated : e.template.holes ≠ [] → ∃ f, m = .function f ∧ e.CalledAs f

section Member

variable {e : Entry} {d : DeclaredEntry} (names : ∀ name ∈ e.names, IsName name)

theorem resolve_of_unmarked (hm : e.markers = []) : e.resolve = .default e.name := by
  rw [Entry.resolve, Entry.locator?, hm]
  rfl

theorem strategy_of_marker {m : Marker} (hm : e.markers = [m]) :
    e.resolve.strategy = m.strategy := by
  rw [Entry.resolve, Entry.locator?, hm]
  cases ha : m.args <;> simp [Marker.locator, ha]

include names in
theorem isParameterized_of_unmarked (hm : e.markers = []) : ¬ e.template.isParameterized := by
  rw [Template.isParameterized_iff, not_not]
  exact (template_of_locator?_none (by rw [Entry.locator?, hm]; rfl) (names _ (.head _))).1

include names in
/-- No name of an entry's template is left out of its function. -/
theorem calledAs_functionOf (one : e.markers.length ≤ 1)
    (single : e.template.isParameterized = true → e.resolve.cardinality = .single)
    (ht : e.template.isParameterized = true) (n : Identifier) :
    e.CalledAs (functionOf n e.resolve.strategy e.template) := by
  have params : (functionOf n e.resolve.strategy e.template).params.map Identifier.text =
      e.template.parameters := params_functionOf (fun name hn => names name (.tail _ hn)) n _
  have order : (functionOf n e.resolve.strategy e.template).params.Pairwise fun a b =>
      Precedes e.template.holes a.text b.text := by
    rw [← List.pairwise_map (f := Identifier.text), params]
    exact pairwise_precedes_eraseDups _
  constructor
  case marker =>
    cases hm : e.markers with
    | nil =>
      -- The entry's own name would be the template, and it has no braces.
      exact absurd ht (isParameterized_of_unmarked names hm)
    | cons m rest =>
      rw [hm, List.length_cons] at one
      obtain rfl := List.length_eq_zero_iff.1 (by omega : rest.length = 0)
      exact ⟨m, rfl, strategy_of_marker hm⟩
  case template => rfl
  case params => exact params
  case order => exact order
  case distinct => exact order.imp fun h he => h.ne (congrArg Identifier.text he)
  case holes =>
    intro name
    rw [← List.mem_map, params, Template.mem_parameters]
    exact Template.mem_holes.symm
  case cardinality => exact (single ht).symm

include names in
theorem builtAs_member (hn : d.name.text = e.name) (hl : d.locator = e.locator?)
    (one : e.markers.length ≤ 1)
    (single : e.template.isParameterized = true → e.resolve.cardinality = .single) :
    e.BuiltAs d.member := by
  have property (h : ¬ e.template.isParameterized) : d.member = .property ⟨d.name, e.resolve⟩ := by
    rw [member_eq hn hl, if_neg h]
  constructor
  case name =>
    rw [member_eq hn hl]
    split_ifs <;> exact hn
  case plain => exact fun h => ⟨_, property fun ht => Template.isParameterized_iff_holes.1 ht h⟩
  case unmarked =>
    intro hm
    have := property (isParameterized_of_unmarked names hm)
    rw [resolve_of_unmarked hm] at this
    exact ⟨_, this⟩
  case templated =>
    intro h
    have ht := Template.isParameterized_iff_holes.2 h
    refine ⟨_, ?_, calledAs_functionOf names one single ht d.name⟩
    rw [member_eq hn hl, if_pos ht]

end Member

/-- The members of an accepted page are those of its entries, in their order, and under distinct
names. -/
theorem members_builtAs_of_validate {parse : Url.Parser} {p : Page} {d : Declaration}
    (h : validateWith parse p = .ok d) (o : Options) :
    List.Forall₂ Entry.BuiltAs p.entries (d.toClass o).members ∧
      List.Forall₂ (fun e declared => declared.resolve = e.resolve) p.entries d.entries ∧
      ((d.toClass o).members.map Member.name).Nodup := by
  obtain ⟨rules, -, -, -, -, declared⟩ := check_eq_ok_iff.1 (validateWith_eq_ok_iff.1 h)
  have names : ∀ e ∈ p.entries, ∀ name ∈ e.names, IsName name := fun e he name hm =>
    rules .names name (List.mem_append_right _ (List.mem_flatMap.2 ⟨e, he, hm⟩))
  have obeys : ∀ e ∈ p.entries, (∀ name ∈ e.names, IsName name) ∧ e.markers.length ≤ 1 ∧
      (e.template.isParameterized = true → e.resolve.cardinality = .single) := fun e he =>
    ⟨names e he, rules .oneMarker e he, rules .singleTemplates e he⟩
  have built : List.Forall₂ Entry.BuiltAs p.entries (d.toClass o).members := by
    rw [members_toClass, List.forall₂_map_right_iff]
    exact ((List.forall₂_and_left _ _).2 ⟨obeys, declared⟩).imp
      fun _ _ ⟨⟨names, one, single⟩, hn, hl⟩ => builtAs_member names hn hl one single
  have resolved : List.Forall₂ (fun e declared => declared.resolve = e.resolve) p.entries
      d.entries := declared.imp fun e declared ⟨hn, hl⟩ => by
    rw [DeclaredEntry.resolve, hn, hl, Entry.resolve]
  have texts : List.Forall₂ (· = ·) (p.entries.map Entry.name)
      (((d.toClass o).members.map Member.name).map Identifier.text) := by
    rw [List.map_map, List.forall₂_map_left_iff, List.forall₂_map_right_iff]
    exact built.imp fun _ _ hb => hb.name.symm
  rw [List.forall₂_eq_eq_eq] at texts
  exact ⟨built, resolved, .of_map Identifier.text (texts ▸ rules .distinctEntries)⟩

theorem members_builtAs_search :
    validate Page.search = .ok Page.searchDeclaration ∧
      List.Forall₂ Entry.BuiltAs Page.search.entries
        (Page.searchDeclaration.toClass .default).members ∧
      ((Page.searchDeclaration.toClass .default).members.map Member.name).Nodup :=
  have all := members_builtAs_of_validate validate_search .default
  ⟨validate_search, all.1, all.2.2⟩

end PageAccessors
