import PageAccessors.Output
import PageAccessors.Proofs.Rules

/-!
# Diagnoses

A page that is refused is told why, and what it is told is so (`PageFault.TrueOf`): the name that is
called no identifier stands in the page and is refused for the very reason that is given, the entry
with too many markers is the first one and its strategies are listed in the order of their names,
the repeated entry is there twice. Each check answers for the faults that it finds, and the check of
the entries for the one entry that it stops at, behind entries in which it found nothing.
-/

namespace PageAccessors

/-- The names that stand in a page: its own, the one that its class is to have, the segments of its
package, and of each entry the name and the placeholders of the lookup that it asks for. -/
inductive Page.Bears (p : Page) : String → Prop
  | own : p.Bears p.name
  | className {name : String} : p.className = some name → p.Bears name
  | segment {name : String} : name ∈ packageSegments p.package → p.Bears name
  | entry {e : Entry} : e ∈ p.entries → p.Bears e.name
  | placeholder {e : Entry} {l : Locator} {name : String} : e ∈ p.entries → e.locator? = some l →
      .placeholder name ∈ (Template.ofString l.value).segments → p.Bears name

/-- What a fault says of a page is so, by a reader of addresses. -/
def PageFault.TrueOf (parse : Url.Parser) (p : Page) : PageFault → Prop
  | notAnEnum kind => p.kind = kind ∧ kind ≠ .enum
  | emptyEnum => p.entries = []
  | multipleLocators entry strategies => ∃ front e rest, p.entries = front ++ e :: rest ∧
      (∀ x ∈ front, x.markers.length ≤ 1) ∧ 1 < e.markers.length ∧ e.name = entry ∧
      strategies.Perm (e.markers.map Marker.strategy) ∧
      strategies.Pairwise fun a b => a.toString ≤ b.toString
  | invalidUrl url reason => p.url = some url ∧ (parse url = .error reason ∨
      reason = "URL has no host" ∧ ∃ host, parse url = .ok host ∧ host.getD "" = "")
  | invalidIdentifier name fault => p.Bears name ∧ Identifier.ofString name = .error fault
  | duplicateEntry entry => ∃ i j : Nat, i < j ∧
      (p.entries[i]?).map Entry.name = some entry ∧ (p.entries[j]?).map Entry.name = some entry
  | collectionTemplate entry => ∃ e ∈ p.entries, e.name = entry ∧ ∃ m, e.markers = [m] ∧
      m.args.collects = true ∧
      ∃ name, .placeholder name ∈ (Template.ofString (m.args.text?.getD entry)).segments

/-- A diagnosis is one of a page: it names the page, to those who ask a failure for one as well, and
what it says of the page is so. -/
structure Diagnostic.IsOf (parse : Url.Parser) (p : Page) (d : Diagnostic) : Prop where
  page : d.page = p.name
  fault : d.fault.TrueOf parse p
  isDiagnostic : (Failure.diagnostic d).isDiagnostic = true
  declaration : (Failure.diagnostic d).declaration? = some p.name

/-! ## Strategies -/

theorem Strategy.le_iff_toString_le (s t : Strategy) : s ≤ t ↔ s.toString ≤ t.toString := by
  cases s <;> cases t <;> decide

theorem Strategy.pairwise_sort (strategies : List Strategy) :
    (sort strategies).Pairwise fun a b => a.toString ≤ b.toString := by
  have trans (a b c : Strategy) (hab : a ≤ b) (hbc : b ≤ c) : a ≤ c := Nat.le_trans hab hbc
  have total (a b : Strategy) : a ≤ b ∨ b ≤ a := Nat.le_total a.rank b.rank
  have sorted : (sort strategies).Pairwise fun a b => decide (a ≤ b) = true :=
    List.pairwise_mergeSort (by simpa using trans) (by simpa using total) strategies
  exact sorted.imp fun h => (le_iff_toString_le _ _).1 (of_decide_eq_true h)

/-! ## Each check -/

section Checks

variable {parse : Url.Parser} {p : Page} {f : PageFault}

theorem checkName_eq_error_iff {name : String} : checkName name = .error f ↔
    ∃ fault, Identifier.ofString name = .error fault ∧ .invalidIdentifier name fault = f := by
  rw [checkName, Except.mapError_eq_error_iff]

theorem PageFault.TrueOf.of_checkName {name : String} (h : checkName name = .error f)
    (hb : p.Bears name) : f.TrueOf parse p := by
  obtain ⟨fault, hf, rfl⟩ := checkName_eq_error_iff.1 h
  exact ⟨hb, hf⟩

theorem PageFault.TrueOf.of_forM_checkName {names : List String}
    (h : (names.forM fun name => do discard (checkName name)) = .error f)
    (hb : ∀ name ∈ names, p.Bears name) : f.TrueOf parse p := by
  obtain ⟨name, hm, he⟩ := Except.exists_of_forM_eq_error h
  exact .of_checkName (Except.discard_eq_error_iff.1 he) (hb name hm)

/-- The entry that is told of is the first one with more than one marker. -/
theorem PageFault.TrueOf.of_checkMarkers (h : checkMarkers p.entries = .error f) :
    f.TrueOf parse p := by
  unfold checkMarkers at h
  split at h
  · cases h
  · rename_i e hfind
    obtain ⟨many, front, rest, hp, few⟩ := List.find?_eq_some_iff_append.1 hfind
    cases h
    refine ⟨front, e, rest, hp, fun x hx => ?_, by simpa using many, rfl, ?_, ?_⟩
    · have := few x hx
      simp only [gt_iff_lt, Bool.not_eq_true', decide_eq_false_iff_not] at this
      omega
    · exact List.mergeSort_perm _ _
    · exact Strategy.pairwise_sort _

theorem PageFault.TrueOf.of_checkUrl (h : checkUrl parse p.url = .error f) :
    f.TrueOf parse p := by
  obtain ⟨_, _, url, rfl, refused⟩ := checkUrl_eq_error_iff.1 h
  exact ⟨url, refused⟩

theorem PageFault.TrueOf.of_checkShape (h : p.checkShape parse = .error f) : f.TrueOf parse p := by
  unfold Page.checkShape at h
  split_ifs at h with hk he
  · cases h
    exact ⟨rfl, hk⟩
  · cases h
    exact List.isEmpty_iff.1 he
  · rcases Except.bind_eq_error_iff.1 h with h | ⟨-, -, h⟩
    · exact .of_checkMarkers h
    · exact .of_checkUrl h

theorem PageFault.TrueOf.of_checkOwnNames (h : p.checkOwnNames = .error f) : f.TrueOf parse p := by
  simp only [Page.checkOwnNames, Except.bind_eq_error_iff, Except.mapM_option_eq_error_iff] at h
  rcases h with h | ⟨_, -, ⟨name, hc, h⟩ | ⟨_, -, h | ⟨_, -, h⟩⟩⟩
  · exact .of_checkName h .own
  · exact .of_checkName h (.className hc)
  · exact .of_forM_checkName h fun name hm => .segment hm
  · cases h

/-! ## Entries -/

theorem Marker.locator_eq (m : Marker) (entry : String) :
    m.locator entry = ⟨m.strategy, m.args.text?.getD entry, .ofCollect m.args.collects⟩ := by
  rw [Marker.locator]
  cases m.args <;> rfl

theorem Cardinality.ofCollect_eq_collection {collect : Bool} :
    ofCollect collect = .collection ↔ collect = true := by
  cases collect <;> simp [ofCollect]

theorem Template.exists_placeholder {t : Template} (h : t.isParameterized = true) :
    ∃ name, .placeholder name ∈ t.segments := by
  obtain ⟨name, hn⟩ := List.exists_mem_of_ne_nil _ (Template.isParameterized_iff.1 h)
  exact ⟨name, Template.mem_holes.1 (Template.mem_parameters.1 hn)⟩

variable {e : Entry} (he : e ∈ p.entries)
include he

/-- What the check of a marker finds is a bad placeholder, or placeholders in a lookup that asks for
all elements. -/
theorem PageFault.TrueOf.of_checkMarker (one : e.markers.length ≤ 1)
    (h : e.checkMarker = .error f) : f.TrueOf parse p := by
  unfold Entry.checkMarker at h
  cases hl : e.locator? with
  | none =>
    rw [hl] at h
    cases h
  | some l =>
    rw [hl] at h
    simp only [checkTemplate, Except.bind_eq_error_iff, Bool.and_eq_true, isCollection_iff] at h
    rcases h with h | ⟨-, -, h⟩
    · refine .of_forM_checkName h fun name hn => .placeholder he hl ?_
      exact Template.mem_holes.1 (Template.mem_parameters.1 hn)
    · split_ifs at h with hc
      · obtain ⟨templated, many⟩ := hc
        rw [Except.throw_eq_error_iff] at h
        subst h
        obtain ⟨m, hm, rfl⟩ := Option.map_eq_some_iff.1 hl
        obtain ⟨rest, hm⟩ := List.head?_eq_some_iff.1 hm
        have single : rest = [] := by
          rw [hm, List.length_cons] at one
          exact List.length_eq_zero_iff.1 (by omega)
        rw [Marker.locator_eq] at templated many
        exact ⟨e, he, rfl, m, by rw [hm, single], Cardinality.ofCollect_eq_collection.1 many,
          Template.exists_placeholder templated⟩
      · cases h

omit he in
theorem PageFault.TrueOf.of_checkEntry {i : Nat} (hi : p.entries[i]? = some e)
    (one : e.markers.length ≤ 1)
    (h : checkEntry (seenNames (p.entries.take i)) e = .error f) : f.TrueOf parse p := by
  have he := List.mem_of_getElem? hi
  rw [checkEntry_eq] at h
  simp only [Except.bind_eq_error_iff] at h
  rcases h with h | ⟨_, -, h | ⟨_, -, h⟩⟩
  · exact .of_checkName h (.entry he)
  · exact .of_checkMarker he one h
  · split_ifs at h with hs
    · cases h
      rw [contains_seenNames, List.mem_map] at hs
      obtain ⟨x, hx, hn⟩ := hs
      obtain ⟨j, hj, rfl⟩ := List.mem_take_iff_getElem.1 hx
      refine ⟨j, i, by omega, ?_, by rw [hi]; rfl⟩
      rw [List.getElem?_eq_getElem (by omega), Option.map_some, hn]

end Checks

/-- Whatever addresses are, a page that is refused is told what is so, and under its name. -/
theorem diagnostic_isOf_of_validate {parse : Url.Parser} {p : Page} {d : Diagnostic}
    (h : validateWith parse p = .error d) : d.IsOf parse p := by
  rw [validateWith, Except.mapError_eq_error_iff] at h
  obtain ⟨f, h, rfl⟩ := h
  refine ⟨rfl, ?_, rfl, rfl⟩
  rcases check_eq_error h with h | ⟨shape, h | ⟨-, h⟩⟩
  · exact .of_checkShape h
  · exact .of_checkOwnNames h
  · obtain ⟨i, e, hi, -, h⟩ := checkEntries_eq_error h
    have one := shape .oneMarker (by decide) e (List.mem_of_getElem? hi)
    exact .of_checkEntry hi one h

/-- A page with an entry that carries three markers, not in the order of their names, and one of
them without a text. -/
def Page.conflicting : Page :=
  { Page.empty "shop" "Login" with
    entries := [⟨"open", []⟩, ⟨"user", [.make .xpath "//input" false, .make .id "usr" true,
      ⟨.name, .detailed none false, rfl⟩]⟩] }

theorem validate_conflicting : validate Page.conflicting =
    .error ⟨"Login", .multipleLocators "user" [.id, .name, .xpath]⟩ := by
  have sorted : Strategy.sort [.xpath, .id, .name] = [.id, .name, .xpath] := by
    simp +decide [Strategy.sort, List.mergeSort]
  rw [← sorted]
  rfl

theorem diagnostic_isOf_conflicting :
    validate Page.conflicting = .error ⟨"Login", .multipleLocators "user" [.id, .name, .xpath]⟩ ∧
      Diagnostic.IsOf Url.parse Page.conflicting
        ⟨"Login", .multipleLocators "user" [.id, .name, .xpath]⟩ :=
  ⟨validate_conflicting, diagnostic_isOf_of_validate validate_conflicting⟩

end PageAccessors
