import Mathlib.Data.List.Forall2
import Mathlib.Data.List.Nodup
import PageAccessors.Declaration
import PageAccessors.Proofs.Scanner
import PageAccessors.Proofs.Steps

/-!
# The rules for pages

A page is accepted exactly when it obeys seven rules, each of which is a condition on the page as a
whole (`Rule.Holds`). The check works the entries off one by one with the names it has seen, so
its loop is said in terms of what one entry breaks behind those in front of it (`Entry.Breaks`):
entries are accepted when none of them breaks a rule in its place (`checkEntries_eq_ok_iff`), and
otherwise the first one that does is refused (`checkEntries_eq_error`).
-/

namespace PageAccessors

/-- The rules for pages, in the order of their numbers. -/
inductive Rule where
  | enumeration
  | inhabited
  | oneMarker
  | address
  | names
  | distinctEntries
  | singleTemplates
  deriving DecidableEq

/-- The number of a rule. -/
def Rule.number : Rule → Nat
  | enumeration => 1
  | inhabited => 2
  | oneMarker => 3
  | address => 4
  | names => 5
  | distinctEntries => 6
  | singleTemplates => 7

/-- The rule that a fault is about. -/
def PageFault.rule : PageFault → Rule
  | notAnEnum _ => .enumeration
  | emptyEnum => .inhabited
  | multipleLocators _ _ => .oneMarker
  | invalidUrl _ _ => .address
  | invalidIdentifier _ _ => .names
  | duplicateEntry _ => .distinctEntries
  | collectionTemplate _ => .singleTemplates

/-- A text that is accepted as an identifier. -/
def IsName (name : String) : Prop := ∃ i, Identifier.ofString name = .ok i

namespace Entry

/-- The lookup of an entry: the one that its marker asks for, or else one element by its name. -/
def resolve (e : Entry) : Locator := e.locator?.getD (.default e.name)

def template (e : Entry) : Template := .ofString e.resolve.value

/-- The names that stand in an entry: its own, and those of its placeholders. -/
def names (e : Entry) : List String := e.name :: e.template.parameters

/-- An entry asks for all elements that match a template. -/
def AsksForMany (e : Entry) : Prop :=
  e.template.isParameterized = true ∧ e.resolve.cardinality = .collection

/-- An entry breaks a rule in its place behind other entries. -/
def Breaks (before : List Entry) (e : Entry) : Rule → Prop
  | .names => ∃ name ∈ e.names, ¬ IsName name
  | .distinctEntries => e.name ∈ before.map Entry.name
  | .singleTemplates => e.AsksForMany
  | _ => False

end Entry

namespace Page

/-- The names that stand in a page outside of its entries. -/
def ownNames (p : Page) : List String :=
  p.name :: p.className.toList ++ packageSegments p.package

def names (p : Page) : List String := p.ownNames ++ p.entries.flatMap Entry.names

end Page

/-- What a rule asks of a page, by a reader of addresses. -/
def Rule.Holds (parse : Url.Parser) (p : Page) : Rule → Prop
  | enumeration => p.kind = .enum
  | inhabited => p.entries ≠ []
  | oneMarker => ∀ e ∈ p.entries, e.markers.length ≤ 1
  | address => ∀ url, p.url = some url → ∃ host, parse url = .ok (some host) ∧ host ≠ ""
  | names => ∀ name ∈ p.names, IsName name
  | distinctEntries => (p.entries.map Entry.name).Nodup
  | singleTemplates => ∀ e ∈ p.entries,
    e.template.isParameterized = true → e.resolve.cardinality = .single

/-! ## Names -/

theorem isName_iff {name : String} : IsName name ↔ nameFault? name = none := by
  constructor
  · rintro ⟨i, hi⟩
    rw [← Identifier.ofString_ok.1 hi]
    exact i.accepted
  · intro h
    exact ⟨⟨name, h⟩, Identifier.ofString_ok.2 rfl⟩

theorem nameChars {name : String} (h : nameFault? name = none) :
    name.toList ≠ [] ∧ ∀ c ∈ name.toList, isNameChar c = true := by
  unfold nameFault? at h
  split at h
  · cases h
  · rename_i first rest hl
    refine ⟨by simp [hl], fun c hc => ?_⟩
    rw [hl] at hc
    split at h
    · cases h
    · split at h
      · cases h
      · rename_i hf
        simpa using List.find?_eq_none.1 hf c hc

theorem notMem_of_nameChars {s : List Char} (h : ∀ c ∈ s, isNameChar c = true) {c : Char}
    (hc : isNameChar c = false) : c ∉ s := by
  intro hm
  rw [h c hm] at hc
  cases hc

theorem IsName.notMem {name : String} (h : IsName name) {c : Char} (hc : isNameChar c = false) :
    c ∉ name.toList := notMem_of_nameChars (nameChars (isName_iff.1 h)).2 hc

theorem checkName_eq_ok_iff {name : String} {i : Identifier} :
    checkName name = .ok i ↔ i.text = name := by
  rw [checkName, Except.mapError_eq_ok_iff, Identifier.ofString_ok]

theorem checkName_eq_ok {name : String} : (∃ i, checkName name = .ok i) ↔ IsName name := by
  simp only [checkName_eq_ok_iff, IsName, Identifier.ofString_ok]

theorem checkName_eq_error {name : String} {f : PageFault} (h : checkName name = .error f) :
    ¬ IsName name ∧ f.rule = .names := by
  rw [checkName, Except.mapError_eq_error_iff] at h
  obtain ⟨fault, hf, rfl⟩ := h
  refine ⟨?_, rfl⟩
  rw [isName_iff, Identifier.ofString_error.1 hf]
  simp

theorem forM_checkName_eq_ok_iff {names : List String} {u : Unit} :
    (names.forM fun name => do discard (checkName name)) = .ok u ↔
      ∀ name ∈ names, IsName name := by
  rw [Except.forM_eq_ok_iff]
  simp only [Except.discard_eq_ok_iff, checkName_eq_ok]

theorem forM_checkName_eq_error {names : List String} {f : PageFault}
    (h : (names.forM fun name => do discard (checkName name)) = .error f) :
    (∃ name ∈ names, ¬ IsName name) ∧ f.rule = .names := by
  obtain ⟨name, hm, he⟩ := Except.exists_of_forM_eq_error h
  obtain ⟨hn, hr⟩ := checkName_eq_error (Except.discard_eq_error_iff.1 he)
  exact ⟨⟨name, hm, hn⟩, hr⟩

/-! ## One entry -/

theorem isCollection_iff {c : Cardinality} : c.isCollection = true ↔ c = .collection := by
  simp [Cardinality.isCollection]

theorem checkTemplate_eq_ok_iff {entry : String} {l : Locator} :
    checkTemplate entry l = .ok () ↔
      (∀ name ∈ (Template.ofString l.value).parameters, IsName name) ∧
      ¬ ((Template.ofString l.value).isParameterized = true ∧ l.cardinality = .collection) := by
  unfold checkTemplate
  simp only [Except.bind_eq_ok_iff, forM_checkName_eq_ok_iff, Bool.and_eq_true, isCollection_iff]
  split_ifs with h
  · simp only [and_false, exists_false, h, not_true_eq_false, and_self]
  · simp [h, pure, Except.pure]

theorem checkTemplate_eq_error {entry : String} {l : Locator} {f : PageFault}
    (h : checkTemplate entry l = .error f) :
    ((∃ name ∈ (Template.ofString l.value).parameters, ¬ IsName name) ∧ f.rule = .names) ∨
      ((∀ name ∈ (Template.ofString l.value).parameters, IsName name) ∧
        ((Template.ofString l.value).isParameterized = true ∧ l.cardinality = .collection) ∧
        f.rule = .singleTemplates) := by
  unfold checkTemplate at h
  simp only [Except.bind_eq_error_iff, forM_checkName_eq_ok_iff, Bool.and_eq_true,
    isCollection_iff] at h
  rcases h with h | ⟨-, hn, h⟩
  · exact .inl (forM_checkName_eq_error h)
  · split_ifs at h with hc
    · rw [Except.throw_eq_error_iff] at h
      exact .inr ⟨hn, hc, by rw [← h]; rfl⟩
    · cases h

/-- The placeholders of an entry's lookup; one by the entry's own name has none. -/
theorem template_of_locator?_none {e : Entry} (h : e.locator? = none) (hn : IsName e.name) :
    e.template.parameters = [] ∧ e.resolve.cardinality = .single := by
  have hr : e.resolve = .default e.name := by simp [Entry.resolve, h]
  refine ⟨?_, by rw [hr]; rfl⟩
  rw [Entry.template, hr]
  exact Template.parameters_of_notMem (hn.notMem rfl)

/-- The check of what an entry's marker asks for. -/
def Entry.checkMarker (e : Entry) : Except PageFault Unit :=
  match e.locator? with
  | none => .ok ()
  | some locator => checkTemplate e.name locator

theorem checkEntry_eq (seen : List String) (e : Entry) :
    checkEntry seen e = checkName e.name >>= fun name => e.checkMarker >>= fun _ =>
      if seen.contains e.name then .error (.duplicateEntry e.name) else .ok ⟨name, e.locator?⟩ := by
  unfold checkEntry Entry.checkMarker
  refine bind_congr fun name => ?_
  cases e.locator? <;> rfl

theorem checkMarker_eq_ok_iff {e : Entry} {u : Unit} (hn : IsName e.name) :
    e.checkMarker = .ok u ↔
      (∀ name ∈ e.template.parameters, IsName name) ∧ ¬ e.AsksForMany := by
  unfold Entry.checkMarker
  cases h : e.locator? with
  | none =>
    obtain ⟨hp, hc⟩ := template_of_locator?_none h hn
    simp [hp, Entry.AsksForMany, hc]
  | some l =>
    have hr : e.resolve = l := by simp [Entry.resolve, h]
    simp only [Entry.AsksForMany, Entry.template, hr]
    exact checkTemplate_eq_ok_iff

theorem checkMarker_eq_error {e : Entry} {f : PageFault} (h : e.checkMarker = .error f) :
    ((∃ name ∈ e.template.parameters, ¬ IsName name) ∧ f.rule = .names) ∨
      ((∀ name ∈ e.template.parameters, IsName name) ∧ e.AsksForMany ∧
        f.rule = .singleTemplates) := by
  unfold Entry.checkMarker at h
  cases hl : e.locator? with
  | none =>
    rw [hl] at h
    cases h
  | some l =>
    rw [hl] at h
    have hr : e.resolve = l := by simp [Entry.resolve, hl]
    simp only [Entry.AsksForMany, Entry.template, hr]
    exact checkTemplate_eq_error h

theorem forall_not_breaks_iff {before : List Entry} {e : Entry} :
    (∀ r, ¬ e.Breaks before r) ↔ (∀ name ∈ e.names, IsName name) ∧ ¬ e.AsksForMany ∧
      e.name ∉ before.map Entry.name := by
  constructor
  · intro h
    refine ⟨fun name hm => ?_, h .singleTemplates, h .distinctEntries⟩
    by_contra hn
    exact h .names ⟨name, hm, hn⟩
  · rintro ⟨hn, ha, hd⟩ r
    cases r <;> simp_all [Entry.Breaks]

/-- The names of entries, as the check has seen them. -/
def seenNames (before : List Entry) : List String := (before.map Entry.name).reverse

theorem contains_seenNames {before : List Entry} {name : String} :
    (seenNames before).contains name = true ↔ name ∈ before.map Entry.name := by
  rw [seenNames, List.contains_iff_mem, List.mem_reverse]

/-- An entry is accepted when it breaks no rule in its place. -/
theorem checkEntry_eq_ok_iff {before : List Entry} {e : Entry} {d : DeclaredEntry} :
    checkEntry (seenNames before) e = .ok d ↔
      (∀ r, ¬ e.Breaks before r) ∧ d.name.text = e.name ∧ d.locator = e.locator? := by
  rw [forall_not_breaks_iff, checkEntry_eq]
  simp only [Except.bind_eq_ok_iff, checkName_eq_ok_iff, Entry.names, List.forall_mem_cons]
  constructor
  · rintro ⟨i, hi, ⟨⟩, hm, h⟩
    have hn : IsName e.name := checkName_eq_ok.1 ⟨i, checkName_eq_ok_iff.2 hi⟩
    rw [checkMarker_eq_ok_iff hn] at hm
    split_ifs at h with hs
    cases h
    exact ⟨⟨⟨hn, hm.1⟩, hm.2, fun hc => hs (contains_seenNames.2 hc)⟩, hi, rfl⟩
  · rintro ⟨⟨⟨hn, hp⟩, ha, hs⟩, hd, hl⟩
    refine ⟨d.name, hd, (), (checkMarker_eq_ok_iff hn).2 ⟨hp, ha⟩, ?_⟩
    rw [if_neg fun hc => hs (contains_seenNames.1 hc), ← hl]

/-- A refused entry breaks the rule that it is refused for. A name comes before all else, and a
template that asks for many before a name that was there already. -/
theorem checkEntry_eq_error {before : List Entry} {e : Entry} {f : PageFault}
    (h : checkEntry (seenNames before) e = .error f) :
    e.Breaks before f.rule ∧ ∀ r, e.Breaks before r →
      f.rule = r ∨ (f.rule = .names ∨ f.rule = .singleTemplates ∧ r = .distinctEntries) := by
  rw [checkEntry_eq] at h
  simp only [Except.bind_eq_error_iff, checkName_eq_ok_iff] at h
  rcases h with h | ⟨i, hi, h | ⟨⟨⟩, hm, h⟩⟩
  · obtain ⟨hn, hr⟩ := checkName_eq_error h
    exact ⟨by rw [hr]; exact ⟨e.name, by simp [Entry.names], hn⟩, fun r _ => .inr (.inl hr)⟩
  · have hn : IsName e.name := checkName_eq_ok.1 ⟨i, checkName_eq_ok_iff.2 hi⟩
    rcases checkMarker_eq_error h with ⟨⟨name, hm, hn⟩, hr⟩ | ⟨hp, ha, hr⟩
    · exact ⟨by rw [hr]; exact ⟨name, by simp [Entry.names, hm], hn⟩, fun r _ => .inr (.inl hr)⟩
    · refine ⟨by rw [hr]; exact ha, fun r hb => ?_⟩
      have names : ¬ e.Breaks before .names := by
        rintro ⟨name, hm, hn'⟩
        rcases List.mem_cons.1 hm with rfl | hm
        · exact hn' hn
        · exact hn' (hp name hm)
      cases r
      case names => exact absurd hb names
      case distinctEntries => exact .inr (.inr ⟨hr, rfl⟩)
      case singleTemplates => exact .inl hr
      all_goals exact hb.elim
  · have hn : IsName e.name := checkName_eq_ok.1 ⟨i, checkName_eq_ok_iff.2 hi⟩
    rw [checkMarker_eq_ok_iff hn] at hm
    split_ifs at h with hs
    cases h
    refine ⟨contains_seenNames.1 hs, fun r hb => ?_⟩
    have names : ¬ e.Breaks before .names := by
      rintro ⟨name, hmem, hn'⟩
      rcases List.mem_cons.1 hmem with rfl | hmem
      · exact hn' hn
      · exact hn' (hm.1 name hmem)
    cases r
    case names => exact absurd hb names
    case distinctEntries => exact .inl rfl
    case singleTemplates => exact absurd hb hm.2
    all_goals exact hb.elim

/-! ## All entries -/

/-- Entries are accepted when none of them breaks a rule behind those in front of it. -/
theorem checkEntries_eq_ok_iff : ∀ {entries before : List Entry} {ds : List DeclaredEntry},
    checkEntries (seenNames before) entries = .ok ds ↔
      (∀ (i : Nat) (e : Entry), entries[i]? = some e →
          ∀ r, ¬ e.Breaks (before ++ entries.take i) r) ∧
        List.Forall₂ (fun e d => d.name.text = e.name ∧ d.locator = e.locator?) entries ds
  | [], before, ds => by
    simp [checkEntries, List.forall₂_nil_left_iff, eq_comm]
  | e :: rest, before, ds => by
    have hs : e.name :: seenNames before = seenNames (before ++ [e]) := by simp [seenNames]
    rw [checkEntries]
    simp only [Except.bind_eq_ok_iff, checkEntry_eq_ok_iff, hs, checkEntries_eq_ok_iff,
      Except.pure_eq_ok_iff]
    constructor
    · rintro ⟨d, ⟨hb, hd⟩, ds, ⟨hbs, hds⟩, rfl⟩
      refine ⟨fun i x hx => ?_, .cons hd hds⟩
      cases i with
      | zero =>
        simp only [List.getElem?_cons_zero, Option.some.injEq] at hx
        subst hx
        simpa using hb
      | succ i => simpa using hbs i x (by simpa using hx)
    · rintro ⟨hb, hds⟩
      cases hds with
      | cons hd hds =>
        refine ⟨_, ⟨by simpa using hb 0 e rfl, hd⟩, _, ⟨fun i x hx => ?_, hds⟩, rfl⟩
        simpa using hb (i + 1) x (by simpa using hx)

/-- Refused entries are refused for the first one among them that breaks a rule in its place. -/
theorem checkEntries_eq_error : ∀ {entries before : List Entry} {f : PageFault},
    checkEntries (seenNames before) entries = .error f →
      ∃ (i : Nat) (e : Entry), entries[i]? = some e ∧
        (∀ (j : Nat) (x : Entry), j < i → entries[j]? = some x →
          ∀ r, ¬ x.Breaks (before ++ entries.take j) r) ∧
        checkEntry (seenNames (before ++ entries.take i)) e = .error f
  | [], before, f, h => by simp [checkEntries] at h
  | e :: rest, before, f, h => by
    have hs : e.name :: seenNames before = seenNames (before ++ [e]) := by simp [seenNames]
    rw [checkEntries] at h
    simp only [Except.bind_eq_error_iff, checkEntry_eq_ok_iff, hs] at h
    rcases h with h | ⟨d, ⟨hb, -⟩, h | ⟨_, -, h⟩⟩
    · exact ⟨0, e, rfl, fun j x hj => absurd hj (by omega), by simpa using h⟩
    · obtain ⟨i, x, hx, hbs, he⟩ := checkEntries_eq_error h
      refine ⟨i + 1, x, by simpa using hx, fun j y hj hy => ?_, by simpa using he⟩
      cases j with
      | zero =>
        simp only [List.getElem?_cons_zero, Option.some.injEq] at hy
        subst hy
        simpa using hb
      | succ j => simpa using hbs j y (by omega) (by simpa using hy)
    · exact absurd h Except.pure_ne_error

theorem nodup_iff_notMem_take {α : Type} {l : List α} :
    l.Nodup ↔ ∀ (i : Nat) (a : α), l[i]? = some a → a ∉ l.take i := by
  rw [List.nodup_iff_getElem?_ne_getElem?]
  constructor
  · intro h i a hi hm
    obtain ⟨j, hj, rfl⟩ := List.mem_take_iff_getElem.1 hm
    have hil := (List.getElem?_eq_some_iff.1 hi).1
    refine h j i (by omega) hil ?_
    rw [hi, List.getElem?_eq_getElem]
  · intro h i j hij hj he
    have hi : i < l.length := by omega
    refine h j l[j] (List.getElem?_eq_getElem hj) (List.mem_take_iff_getElem.2 ⟨i, by omega, ?_⟩)
    rw [List.getElem?_eq_getElem hi, List.getElem?_eq_getElem hj, Option.some.injEq] at he
    exact he

/-- No entry repeats a name of those in front of it when all names are distinct. -/
theorem forall_notMem_take_iff {entries : List Entry} :
    (∀ (i : Nat) (e : Entry), entries[i]? = some e → e.name ∉ (entries.take i).map Entry.name) ↔
      (entries.map Entry.name).Nodup := by
  rw [nodup_iff_notMem_take]
  simp only [List.getElem?_map, ← List.map_take, Option.map_eq_some_iff]
  exact ⟨fun h i _ ⟨e, he, hn⟩ => hn ▸ h i e he, fun h i e he => h i e.name ⟨e, he, rfl⟩⟩

section

variable {parse : Url.Parser}

/-- What the last three rules ask, entry by entry. -/
theorem forall_entries_not_breaks_iff {p : Page} :
    (∀ (i : Nat) (e : Entry), p.entries[i]? = some e → ∀ r, ¬ e.Breaks (p.entries.take i) r) ↔
      (∀ e ∈ p.entries, ∀ name ∈ e.names, IsName name) ∧ Rule.distinctEntries.Holds parse p ∧
        Rule.singleTemplates.Holds parse p := by
  have single (e : Entry) : ¬ e.AsksForMany ↔
      (e.template.isParameterized = true → e.resolve.cardinality = .single) := by
    rw [Entry.AsksForMany, not_and]
    cases e.resolve.cardinality <;> simp
  simp only [forall_not_breaks_iff, Rule.Holds, ← forall_notMem_take_iff, single]
  constructor
  · intro h
    refine ⟨fun e he => ?_, fun i e he => (h i e he).2.2, fun e he => ?_⟩
    all_goals obtain ⟨i, hi⟩ := List.mem_iff_getElem?.1 he
    · exact (h i e hi).1
    · exact (h i e hi).2.1
  · rintro ⟨hn, hd, hs⟩ i e he
    have hm := List.mem_of_getElem? he
    exact ⟨hn e hm, hs e hm, hd i e he⟩

/-! ## The page -/

/-- The check of the rules that do not look at names. -/
def Page.checkShape (parse : Url.Parser) (p : Page) : Except PageFault Unit :=
  if p.kind ≠ .enum then .error (.notAnEnum p.kind)
  else if p.entries.isEmpty then .error .emptyEnum
  else checkMarkers p.entries >>= fun _ => checkUrl parse p.url

/-- The check of the names outside of the entries. -/
def Page.checkOwnNames (p : Page) : Except PageFault (Identifier × Option Identifier) :=
  checkName p.name >>= fun name => p.className.mapM checkName >>= fun className =>
    ((packageSegments p.package).forM fun segment => do discard (checkName segment)) >>= fun _ =>
      .ok (name, className)

theorem Page.check_eq (parse : Url.Parser) (p : Page) :
    p.check parse = p.checkShape parse >>= fun _ => p.checkOwnNames >>= fun (name, className) =>
      checkEntries [] p.entries >>= fun entries =>
        .ok ⟨name, p.package, className, p.url, entries⟩ := by
  simp only [check, checkShape, checkOwnNames]
  by_cases hk : p.kind ≠ .enum
  · rw [if_pos hk, if_pos hk]
    rfl
  rw [if_neg hk, if_neg hk]
  by_cases he : p.entries.isEmpty = true
  · rw [if_pos he, if_pos he]
    rfl
  rw [if_neg he, if_neg he]
  simp only [bind_assoc]
  rfl

theorem checkMarkers_eq_ok_iff {entries : List Entry} {u : Unit} :
    checkMarkers entries = .ok u ↔ ∀ e ∈ entries, e.markers.length ≤ 1 := by
  unfold checkMarkers
  split
  · rename_i h
    simpa using h
  · rename_i e h
    have hl : e.markers.length > 1 := by simpa using List.find?_some h
    have hm := List.mem_of_find?_eq_some h
    simp only [reduceCtorEq, false_iff, not_forall]
    exact ⟨e, hm, by omega⟩

/-- An address is accepted when it has a host and that is not empty. -/
theorem checkUrl_eq_ok_iff {url : Option String} {u : Unit} : checkUrl parse url = .ok u ↔
    ∀ text, url = some text → ∃ host, parse text = .ok (some host) ∧ host ≠ "" := by
  cases url with
  | none => simp [checkUrl]
  | some text =>
    simp only [checkUrl, Except.bind_eq_ok_iff, Except.mapError_eq_ok_iff, Option.some.injEq,
      forall_eq']
    constructor
    · rintro ⟨host, read, h⟩
      split_ifs at h with empty
      cases host with
      | none => exact absurd rfl empty
      | some host => exact ⟨host, read, by simpa using empty⟩
    · rintro ⟨host, read, some_⟩
      exact ⟨some host, read, if_neg (by simpa using some_)⟩

theorem checkMarkers_eq_error {entries : List Entry} {f : PageFault}
    (h : checkMarkers entries = .error f) : f.rule = .oneMarker := by
  unfold checkMarkers at h
  split at h <;> cases h
  rfl

theorem checkUrl_eq_error_iff {url : Option String} {f : PageFault} :
    checkUrl parse url = .error f ↔ ∃ text reason, url = some text ∧ f = .invalidUrl text reason ∧
      (parse text = .error reason ∨
        reason = "URL has no host" ∧ ∃ host, parse text = .ok host ∧ host.getD "" = "") := by
  cases url with
  | none => simp [checkUrl]
  | some text =>
    simp only [checkUrl, Except.bind_eq_error_iff, Except.mapError_eq_error_iff,
      Except.mapError_eq_ok_iff, Option.some.injEq]
    constructor
    · rintro (⟨reason, unread, rfl⟩ | ⟨host, read, h⟩)
      · exact ⟨text, reason, rfl, rfl, .inl unread⟩
      · split_ifs at h with empty
        · rw [Except.throw_eq_error_iff] at h
          exact ⟨text, _, rfl, h.symm, .inr ⟨rfl, host, read, by simpa using empty⟩⟩
        · cases h
    · rintro ⟨_, reason, rfl, rfl, unread | ⟨rfl, host, read, empty⟩⟩
      · exact .inl ⟨reason, unread, rfl⟩
      · exact .inr ⟨host, read, if_pos (by simpa using empty)⟩

theorem checkUrl_eq_error {url : Option String} {f : PageFault}
    (h : checkUrl parse url = .error f) : f.rule = .address := by
  obtain ⟨_, _, -, rfl, -⟩ := checkUrl_eq_error_iff.1 h
  rfl

theorem checkShape_eq_ok_iff {p : Page} {u : Unit} :
    p.checkShape parse = .ok u ↔ ∀ r : Rule, r.number ≤ 4 → r.Holds parse p := by
  have rules : (∀ r : Rule, r.number ≤ 4 → r.Holds parse p) ↔ Rule.enumeration.Holds parse p ∧
      Rule.inhabited.Holds parse p ∧ Rule.oneMarker.Holds parse p ∧ Rule.address.Holds parse p := by
    constructor
    · intro h
      exact ⟨h _ (by decide), h _ (by decide), h _ (by decide), h _ (by decide)⟩
    · rintro ⟨h1, h2, h3, h4⟩ r hr
      cases r <;> first | assumption | exact absurd hr (by decide)
  rw [rules]
  simp only [Page.checkShape, Rule.Holds]
  split_ifs with hk he
  · simp [hk]
  · simp_all
  · rw [Except.bind_eq_ok_iff]
    simp only [checkMarkers_eq_ok_iff, checkUrl_eq_ok_iff]
    simp_all

/-- The first of the four rules that is broken is the one that is reported. -/
theorem checkShape_eq_error {p : Page} {f : PageFault} (h : p.checkShape parse = .error f) :
    f.rule.number ≤ 4 ∧ ¬ f.rule.Holds parse p ∧
      ∀ r : Rule, r.number < f.rule.number → r.Holds parse p := by
  unfold Page.checkShape at h
  split_ifs at h with hk he
  · cases h
    simp only [PageFault.rule]
    refine ⟨by decide, hk, fun r hr => ?_⟩
    cases r <;> simp [Rule.number] at hr
  · cases h
    simp only [PageFault.rule]
    refine ⟨by decide, by simpa [Rule.Holds] using he, fun r hr => ?_⟩
    cases r <;> simp_all [Rule.number, Rule.Holds]
  · rw [not_not] at hk
    have hne : p.entries ≠ [] := by simpa using he
    rw [Except.bind_eq_error_iff] at h
    rcases h with h | ⟨u, hm, h⟩
    · have hr := checkMarkers_eq_error h
      rw [hr]
      refine ⟨by decide, fun hh => ?_, fun r hr => ?_⟩
      · rw [checkMarkers_eq_ok_iff (u := ()).2 hh] at h
        cases h
      · cases r <;> simp_all [Rule.number, Rule.Holds]
    · have hr := checkUrl_eq_error h
      rw [checkMarkers_eq_ok_iff] at hm
      rw [hr]
      refine ⟨by decide, fun hh => ?_, fun r hr => ?_⟩
      · rw [checkUrl_eq_ok_iff (u := ()).2 hh] at h
        cases h
      · cases r <;> simp_all [Rule.number, Rule.Holds]

theorem checkOwnNames_eq_ok_iff {p : Page} {name : Identifier} {className : Option Identifier} :
    p.checkOwnNames = .ok (name, className) ↔ (∀ n ∈ p.ownNames, IsName n) ∧
      name.text = p.name ∧ className.map Identifier.text = p.className := by
  simp only [Page.checkOwnNames, Except.bind_eq_ok_iff, forM_checkName_eq_ok_iff,
    checkName_eq_ok_iff, Except.mapM_option_eq_ok_iff, Except.ok.injEq, Prod.mk.injEq]
  have own : (∀ n ∈ p.ownNames, IsName n) ↔ IsName p.name ∧
      (∀ n, p.className = some n → IsName n) ∧ ∀ n ∈ packageSegments p.package, IsName n := by
    simp [Page.ownNames, or_imp, forall_and]
  rw [own]
  constructor
  · rintro ⟨i, hi, c, hc, ⟨⟩, hs, rfl, rfl⟩
    refine ⟨⟨⟨i, Identifier.ofString_ok.2 hi⟩, fun n hn => ?_, hs⟩, hi, ?_⟩
    · rcases hc with ⟨hc, -⟩ | ⟨a, b, hc, -, hb⟩
      · rw [hc] at hn
        cases hn
      · rw [hc, Option.some.injEq] at hn
        exact ⟨b, Identifier.ofString_ok.2 (hb.trans hn)⟩
    · rcases hc with ⟨hc, rfl⟩ | ⟨a, b, hc, rfl, hb⟩ <;> simp_all
  · rintro ⟨⟨-, -, hs⟩, hn, hc⟩
    refine ⟨name, hn, className, ?_, (), hs, rfl, rfl⟩
    cases className with
    | none => exact .inl ⟨by simpa using hc.symm, rfl⟩
    | some b => exact .inr ⟨b.text, b, by simpa using hc.symm, rfl, rfl⟩

theorem checkOwnNames_eq_error {p : Page} {f : PageFault} (h : p.checkOwnNames = .error f) :
    (∃ n ∈ p.ownNames, ¬ IsName n) ∧ f.rule = .names := by
  simp only [Page.checkOwnNames, Except.bind_eq_error_iff, Except.mapM_option_eq_error_iff] at h
  rcases h with h | ⟨_, -, ⟨n, hn, h⟩ | ⟨_, -, h | ⟨_, -, h⟩⟩⟩
  · obtain ⟨hn, hr⟩ := checkName_eq_error h
    exact ⟨⟨p.name, by simp [Page.ownNames], hn⟩, hr⟩
  · obtain ⟨hn', hr⟩ := checkName_eq_error h
    exact ⟨⟨n, by simp [Page.ownNames, hn], hn'⟩, hr⟩
  · obtain ⟨⟨n, hm, hn⟩, hr⟩ := forM_checkName_eq_error h
    exact ⟨⟨n, by simp [Page.ownNames, hm], hn⟩, hr⟩
  · cases h

/-- A page is accepted exactly when it obeys all rules, and keeps what it declares. -/
theorem check_eq_ok_iff {p : Page} {d : Declaration} :
    p.check parse = .ok d ↔ (∀ r : Rule, r.Holds parse p) ∧
      d.name.text = p.name ∧ d.package = p.package ∧
      d.className.map Identifier.text = p.className ∧ d.url = p.url ∧
      List.Forall₂ (fun e d => d.name.text = e.name ∧ d.locator = e.locator?) p.entries
        d.entries := by
  have rules : (∀ r : Rule, r.Holds parse p) ↔ (∀ r : Rule, r.number ≤ 4 → r.Holds parse p) ∧
      (∀ n ∈ p.ownNames, IsName n) ∧ (∀ e ∈ p.entries, ∀ name ∈ e.names, IsName name) ∧
      Rule.distinctEntries.Holds parse p ∧ Rule.singleTemplates.Holds parse p := by
    have names : Rule.names.Holds parse p ↔
        (∀ n ∈ p.ownNames, IsName n) ∧ ∀ e ∈ p.entries, ∀ name ∈ e.names, IsName name := by
      simp only [Rule.Holds, Page.names, List.forall_mem_append, List.mem_flatMap]
      exact and_congr_right fun _ => ⟨fun h e he n hn => h n ⟨e, he, hn⟩,
        fun h n ⟨e, he, hn⟩ => h e he n hn⟩
    constructor
    · intro h
      exact ⟨fun r _ => h r, (names.1 (h _)).1, (names.1 (h _)).2, h _, h _⟩
    · rintro ⟨h4, ho, he, hd, hs⟩ r
      cases r
      case names => exact names.2 ⟨ho, he⟩
      case distinctEntries => exact hd
      case singleTemplates => exact hs
      all_goals exact h4 _ (by decide)
  rw [rules, ← forall_entries_not_breaks_iff, Page.check_eq]
  simp only [Except.bind_eq_ok_iff, checkShape_eq_ok_iff, Prod.exists, checkOwnNames_eq_ok_iff,
    show ([] : List String) = seenNames [] from rfl, checkEntries_eq_ok_iff, List.nil_append,
    Except.ok.injEq]
  constructor
  · rintro ⟨⟨⟩, h4, name, className, ⟨ho, hn, hc⟩, ds, ⟨hb, hds⟩, rfl⟩
    exact ⟨⟨h4, ho, hb⟩, hn, rfl, hc, rfl, hds⟩
  · rintro ⟨⟨h4, ho, hb⟩, hn, hp, hc, hu, hds⟩
    refine ⟨(), h4, d.name, d.className, ⟨ho, hn, hc⟩, d.entries, ⟨hb, hds⟩, ?_⟩
    rw [← hp, ← hu]

/-- A page is refused for its shape, for a name of its own, or for an entry. -/
theorem check_eq_error {p : Page} {f : PageFault} (h : p.check parse = .error f) :
    p.checkShape parse = .error f ∨ ((∀ r : Rule, r.number ≤ 4 → r.Holds parse p) ∧
      (p.checkOwnNames = .error f ∨ ((∀ n ∈ p.ownNames, IsName n) ∧
        checkEntries (seenNames []) p.entries = .error f))) := by
  rw [Page.check_eq, Except.bind_eq_error_iff] at h
  rcases h with h | ⟨u, hs, h⟩
  · exact .inl h
  refine .inr ⟨checkShape_eq_ok_iff.1 hs, ?_⟩
  rw [Except.bind_eq_error_iff] at h
  rcases h with h | ⟨⟨name, className⟩, ho, h⟩
  · exact .inl h
  refine .inr ⟨(checkOwnNames_eq_ok_iff.1 ho).1, ?_⟩
  rw [Except.bind_eq_error_iff] at h
  rcases h with h | ⟨_, -, h⟩
  · exact h
  · cases h

/-- An entry that breaks a rule in its place breaks it for the page. -/
theorem Entry.Breaks.not_holds {p : Page} {i : Nat} {e : Entry} {r : Rule}
    (he : p.entries[i]? = some e) (hb : e.Breaks (p.entries.take i) r) : ¬ r.Holds parse p := by
  intro hr
  have hm := List.mem_of_getElem? he
  cases r with
  | names =>
    obtain ⟨name, hn, h⟩ := hb
    exact h (hr name (List.mem_append_right _ (List.mem_flatMap.2 ⟨e, hm, hn⟩)))
  | distinctEntries => exact forall_notMem_take_iff.2 hr i e he hb
  | singleTemplates =>
    have := hr e hm hb.1
    rw [hb.2] at this
    cases this
  | _ => exact hb

theorem not_holds_of_check_eq_error {p : Page} {f : PageFault} (h : p.check parse = .error f) :
    ¬ f.rule.Holds parse p := by
  rcases check_eq_error h with h | ⟨-, h | ⟨-, h⟩⟩
  · exact (checkShape_eq_error h).2.1
  · obtain ⟨⟨n, hm, hn⟩, hr⟩ := checkOwnNames_eq_error h
    rw [hr]
    exact fun hh => hn (hh n (List.mem_append_left _ hm))
  · obtain ⟨i, e, he, -, h⟩ := checkEntries_eq_error h
    rw [List.nil_append] at h
    exact (checkEntry_eq_error h).1.not_holds he

end

/-! ## Acceptance -/

/-- The text that a marker looks for, if it has one. -/
def MarkerArgs.text? : MarkerArgs → Option String
  | value text => some text
  | detailed text _ => text

/-- Whether a marker asks for all elements that match. -/
def MarkerArgs.collects : MarkerArgs → Bool
  | value _ => false
  | detailed _ collect => collect

/-- What is declared of an entry: no lookup without a marker, and otherwise the strategy of the
marker, its text or else the entry's name, and whether it collects. -/
structure Entry.DeclaredAs (e : Entry) (d : DeclaredEntry) : Prop where
  name : d.name.text = e.name
  unmarked : e.markers = [] → d.locator = none
  marked : ∀ m, e.markers = [m] →
    d.locator = some ⟨m.strategy, m.args.text?.getD e.name, .ofCollect m.args.collects⟩

theorem declaredAs_of_locator? {e : Entry} {d : DeclaredEntry} (hn : d.name.text = e.name)
    (hl : d.locator = e.locator?) : e.DeclaredAs d where
  name := hn
  unmarked h := by rw [hl, Entry.locator?, h]; rfl
  marked m h := by
    rw [hl, Entry.locator?, h]
    simp only [List.head?_cons, Option.map_some, Option.some.injEq]
    rw [Marker.locator]
    cases m.args <;> rfl

theorem validateWith_eq_ok_iff {parse : Url.Parser} {p : Page} {d : Declaration} :
    validateWith parse p = .ok d ↔ p.check parse = .ok d := by
  rw [validateWith, Except.mapError_eq_ok_iff]

/-- Whatever addresses are, a page is accepted exactly when it obeys the seven rules, and its
declaration says the same as the page. -/
theorem validate_accepts_iff_rules (parse : Url.Parser) (p : Page) :
    ((∃ d, validateWith parse p = .ok d) ↔ ∀ r : Rule, r.Holds parse p) ∧
      ∀ d, validateWith parse p = .ok d → d.name.text = p.name ∧ d.package = p.package ∧
        d.className.map Identifier.text = p.className ∧ d.url = p.url ∧
        List.Forall₂ Entry.DeclaredAs p.entries d.entries := by
  simp only [validateWith_eq_ok_iff]
  refine ⟨⟨fun ⟨d, h⟩ => (check_eq_ok_iff.1 h).1, fun h => ?_⟩, fun d h => ?_⟩
  · rcases hc : p.check parse with f | d
    · exact absurd (h f.rule) (not_holds_of_check_eq_error hc)
    · exact ⟨d, rfl⟩
  · obtain ⟨-, hn, hp, hc, hu, he⟩ := check_eq_ok_iff.1 h
    exact ⟨hn, hp, hc, hu, he.imp fun _ _ ⟨hn, hl⟩ => declaredAs_of_locator? hn hl⟩

end PageAccessors
