import PageAccessors.Proofs.Rules

/-!
# The order of the rules

The rules are numbered for the page as a whole, but the last three are checked entry by entry, and
an entry's template is judged before its name is looked up among the names that were there before.
So a page that breaks several rules is refused for the one with the lowest number exactly when no
entry breaks a later rule in front of the first entry that breaks the lowest one
(`rule_isFirstBroken_iff`); the order of numbers is not kept for all pages
(`laterRule_reported_of_laterEntry`).
-/

namespace PageAccessors

/-- A rule is the one with the lowest number among those that a page breaks, by a reader of
addresses. -/
def Rule.IsFirstBroken (parse : Url.Parser) (p : Page) (r : Rule) : Prop :=
  ¬ r.Holds parse p ∧ ∀ s : Rule, ¬ s.Holds parse p → r.number ≤ s.number

namespace Page

/-- A page breaks a rule outside of its entries, or one of the first four. -/
def BreaksOutside (parse : Url.Parser) (p : Page) : Prop :=
  (∃ r : Rule, r.number ≤ 4 ∧ ¬ r.Holds parse p) ∨ ∃ n ∈ p.ownNames, ¬ IsName n

/-- One of the first entries of a page breaks a rule in its place. -/
def BreaksWithin (p : Page) (count : Nat) (r : Rule) : Prop :=
  ∃ (i : Nat) (e : Entry), i < count ∧ p.entries[i]? = some e ∧ e.Breaks (p.entries.take i) r

/-- Behind every entry that breaks one of the last two rules, a lower one that the entries break
has been broken: a name at the latest in that entry, and the sixth rule before it. -/
def EntriesInOrder (p : Page) : Prop :=
  ∀ (i : Nat) (e : Entry), p.entries[i]? = some e →
    (∀ r : Rule, 5 < r.number → e.Breaks (p.entries.take i) r →
      p.BreaksWithin p.entries.length .names → p.BreaksWithin (i + 1) .names) ∧
    (e.AsksForMany → ¬ p.BreaksWithin p.entries.length .names →
      p.BreaksWithin p.entries.length .distinctEntries → p.BreaksWithin i .distinctEntries)

end Page

variable {parse : Url.Parser} {p : Page}

theorem BreaksWithin.not_holds {count : Nat} {r : Rule} (h : p.BreaksWithin count r) :
    ¬ r.Holds parse p := by
  obtain ⟨i, e, -, he, hb⟩ := h
  exact hb.not_holds he

/-- A rule about entries that is broken is broken by one of them. -/
theorem breaksWithin_of_not_holds {r : Rule} (hr : 5 ≤ r.number)
    (own : ∀ n ∈ p.ownNames, IsName n) (h : ¬ r.Holds parse p) :
    p.BreaksWithin p.entries.length r := by
  have some_ : ∃ (i : Nat) (e : Entry), p.entries[i]? = some e ∧
      e.Breaks (p.entries.take i) r := by
    cases r with
    | names =>
      simp only [Rule.Holds, not_forall] at h
      obtain ⟨n, hn, hb⟩ := h
      rcases List.mem_append.1 hn with hn | hn
      · exact absurd (own n hn) hb
      · obtain ⟨e, he, hn⟩ := List.mem_flatMap.1 hn
        obtain ⟨i, hi⟩ := List.mem_iff_getElem?.1 he
        exact ⟨i, e, hi, n, hn, hb⟩
    | distinctEntries =>
      rw [Rule.Holds, ← forall_notMem_take_iff] at h
      simp only [not_forall, not_not] at h
      obtain ⟨i, e, hi, hb⟩ := h
      exact ⟨i, e, hi, hb⟩
    | singleTemplates =>
      simp only [Rule.Holds, not_forall] at h
      obtain ⟨e, he, ht, hc⟩ := h
      obtain ⟨i, hi⟩ := List.mem_iff_getElem?.1 he
      refine ⟨i, e, hi, ht, ?_⟩
      cases hc' : e.resolve.cardinality
      · exact absurd hc' hc
      · rfl
    | _ => exact absurd hr (by decide)
  obtain ⟨i, e, hi, hb⟩ := some_
  exact ⟨i, e, (List.getElem?_eq_some_iff.1 hi).1, hi, hb⟩

/-- A page that breaks something outside of its entries is refused for the lowest rule. -/
theorem isFirstBroken_of_checkShape {f : PageFault} (h : p.checkShape parse = .error f) :
    f.rule.IsFirstBroken parse p := by
  obtain ⟨-, hb, hl⟩ := checkShape_eq_error h
  refine ⟨hb, fun s hs => ?_⟩
  by_contra hlt
  exact hs (hl s (by omega))

theorem isFirstBroken_names (h4 : ∀ r : Rule, r.number ≤ 4 → r.Holds parse p)
    (h : ¬ Rule.names.Holds parse p) : Rule.names.IsFirstBroken parse p := by
  refine ⟨h, fun s hs => ?_⟩
  by_contra hlt
  exact hs (h4 s (by simp only [Rule.number] at hlt ⊢; omega))

section FirstEntry

variable {i : Nat} {e : Entry} (he : p.entries[i]? = some e)
  (clean : ∀ (j : Nat) (x : Entry), j < i → p.entries[j]? = some x →
    ∀ r, ¬ x.Breaks (p.entries.take j) r)

include clean in
theorem not_breaksWithin_of_clean (r : Rule) : ¬ p.BreaksWithin i r := by
  rintro ⟨j, x, hj, hx, hb⟩
  exact clean j x hj hx r hb

include he clean in
theorem breaks_of_breaksWithin {r : Rule} (h : p.BreaksWithin (i + 1) r) :
    e.Breaks (p.entries.take i) r := by
  obtain ⟨j, x, hj, hx, hb⟩ := h
  obtain hj | rfl : j < i ∨ j = i := by omega
  · exact absurd hb (clean j x hj hx r)
  · rw [he, Option.some.injEq] at hx
    exact hx ▸ hb

include clean in
theorem le_of_breaks {j : Nat} {x : Entry} {r : Rule} (hx : p.entries[j]? = some x)
    (hb : x.Breaks (p.entries.take j) r) : i ≤ j := by
  by_contra hlt
  exact clean j x (by omega) hx r hb

include he clean in
/-- The first entry that breaks a rule, refused for a name, is refused for the lowest rule, and
nothing is out of order. -/
theorem entriesInOrder_of_names (hb : e.Breaks (p.entries.take i) .names) : p.EntriesInOrder := by
  intro j x hx
  refine ⟨fun r _ hr _ => ?_, fun _ hn => ?_⟩
  · exact ⟨i, e, by have := le_of_breaks clean hx hr; omega, he, hb⟩
  · exact absurd ⟨i, e, (List.getElem?_eq_some_iff.1 he).1, he, hb⟩ hn

include he clean in
/-- When the first entry that breaks a rule has good names, order means that all names are good. -/
theorem names_hold_of_entriesInOrder (own : ∀ n ∈ p.ownNames, IsName n) {r : Rule}
    (hr : 5 < r.number) (hb : e.Breaks (p.entries.take i) r)
    (hn : ¬ e.Breaks (p.entries.take i) .names) (h : p.EntriesInOrder) :
    Rule.names.Holds parse p := by
  by_contra hbad
  have hw := (h i e he).1 r hr hb (breaksWithin_of_not_holds (by decide) own hbad)
  exact hn (breaks_of_breaksWithin he clean hw)

include he clean in
theorem isFirstBroken_distinctEntries_iff (h4 : ∀ r : Rule, r.number ≤ 4 → r.Holds parse p)
    (own : ∀ n ∈ p.ownNames, IsName n) (hb : e.Breaks (p.entries.take i) .distinctEntries)
    (hn : ¬ e.Breaks (p.entries.take i) .names) (ha : ¬ e.AsksForMany) :
    Rule.distinctEntries.IsFirstBroken parse p ↔ p.EntriesInOrder := by
  constructor
  · rintro ⟨-, hl⟩ j x hx
    have names : ¬ p.BreaksWithin p.entries.length .names := fun hw =>
      absurd (hl .names (BreaksWithin.not_holds hw)) (by decide)
    refine ⟨fun r _ _ hw => absurd hw names, fun hm _ _ => ?_⟩
    have hle := le_of_breaks clean hx (show x.Breaks _ .singleTemplates from hm)
    have hne : i ≠ j := by
      rintro rfl
      rw [he, Option.some.injEq] at hx
      exact ha (hx ▸ hm)
    exact ⟨i, e, by omega, he, hb⟩
  · intro h
    have names : Rule.names.Holds parse p :=
      names_hold_of_entriesInOrder he clean own (by decide) hb hn h
    refine ⟨hb.not_holds he, fun s hs => ?_⟩
    cases s
    case names => exact absurd names hs
    case distinctEntries => decide
    case singleTemplates => decide
    all_goals exact absurd (h4 _ (by decide)) hs

include he clean in
theorem isFirstBroken_singleTemplates_iff (h4 : ∀ r : Rule, r.number ≤ 4 → r.Holds parse p)
    (own : ∀ n ∈ p.ownNames, IsName n) (ha : e.AsksForMany)
    (hn : ¬ e.Breaks (p.entries.take i) .names) :
    Rule.singleTemplates.IsFirstBroken parse p ↔ p.EntriesInOrder := by
  have hb : e.Breaks (p.entries.take i) .singleTemplates := ha
  constructor
  · rintro ⟨-, hl⟩ j x hx
    refine ⟨fun r _ _ hw => ?_, fun _ _ hw => ?_⟩
    · exact absurd (hl .names (BreaksWithin.not_holds hw)) (by decide)
    · exact absurd (hl .distinctEntries (BreaksWithin.not_holds hw)) (by decide)
  · intro h
    have names : Rule.names.Holds parse p :=
      names_hold_of_entriesInOrder he clean own (by decide) hb hn h
    have distinct : Rule.distinctEntries.Holds parse p := by
      by_contra hbad
      have hw := (h i e he).2 ha (fun hw => BreaksWithin.not_holds hw names)
        (breaksWithin_of_not_holds (by decide) own hbad)
      exact not_breaksWithin_of_clean clean _ hw
    refine ⟨hb.not_holds he, fun s hs => ?_⟩
    cases s
    case names => exact absurd names hs
    case distinctEntries => exact absurd distinct hs
    case singleTemplates => decide
    all_goals exact absurd (h4 _ (by decide)) hs

end FirstEntry

/-- A refused page is refused for the lowest rule that it breaks exactly when it breaks something
outside of its entries or its entries break the rules in order. -/
theorem rule_isFirstBroken_iff {d : Diagnostic} (h : validateWith parse p = .error d) :
    d.fault.rule.IsFirstBroken parse p ↔ p.BreaksOutside parse ∨ p.EntriesInOrder := by
  rw [validateWith, Except.mapError_eq_error_iff] at h
  obtain ⟨f, h, rfl⟩ := h
  rcases check_eq_error h with hs | ⟨h4, ho | ⟨own, hes⟩⟩
  · obtain ⟨hle, hb, -⟩ := checkShape_eq_error hs
    exact iff_of_true (isFirstBroken_of_checkShape hs) (.inl (.inl ⟨f.rule, hle, hb⟩))
  · obtain ⟨hn, hr⟩ := checkOwnNames_eq_error ho
    have hb := not_holds_of_check_eq_error h
    rw [hr] at hb ⊢
    exact iff_of_true (isFirstBroken_names h4 hb) (.inl (.inr hn))
  · have outside : ¬ p.BreaksOutside parse := by
      rintro (⟨r, hr, hb⟩ | ⟨n, hm, hn⟩)
      · exact hb (h4 r hr)
      · exact hn (own n hm)
    rw [or_iff_right outside]
    obtain ⟨i, e, he, clean, hf⟩ := checkEntries_eq_error hes
    simp only [List.nil_append] at clean hf
    obtain ⟨hb, first⟩ := checkEntry_eq_error hf
    have names (hr : f.rule ≠ .names) : ¬ e.Breaks (p.entries.take i) .names := fun hn => by
      rcases first _ hn with h' | h' | h' <;> simp_all
    cases hr : f.rule with
    | names =>
      rw [hr] at hb
      exact iff_of_true (isFirstBroken_names h4 (hb.not_holds he))
        (entriesInOrder_of_names he clean hb)
    | distinctEntries =>
      rw [hr] at hb
      have ha : ¬ e.AsksForMany := fun ha => by
        rcases first .singleTemplates ha with h' | h' | h' <;> simp_all
      exact isFirstBroken_distinctEntries_iff he clean h4 own hb (names (by simp [hr])) ha
    | singleTemplates =>
      rw [hr] at hb
      exact isFirstBroken_singleTemplates_iff he clean h4 own hb (names (by simp [hr]))
    | _ =>
      rw [hr] at hb
      exact hb.elim

/-- A page whose first entry asks for many elements by a template and whose second one has a bad
name. -/
def Page.outOfOrder : Page :=
  { Page.empty "" "Grid" with
    entries := [⟨"cells", [.make .css "td.{{kind}}" true]⟩, ⟨"user-name", []⟩] }

theorem validate_outOfOrder :
    validate Page.outOfOrder = .error ⟨"Grid", .collectionTemplate "cells"⟩ := by
  have ok : ∀ i : Identifier, checkName i.text = .ok i := fun i => checkName_eq_ok_iff.2 rfl
  have grid := ok ⟨"Grid", by decide⟩
  have cells := ok ⟨"cells", by decide⟩
  have template : (Template.ofString "td.{{kind}}").parameters = ["kind"] :=
    (Template.parameters_of_lastHole "td.".toList "kind".toList rfl (by decide) rfl).trans
      (by decide)
  have fails : checkTemplate "cells" ⟨.css, "td.{{kind}}", .collection⟩ =
      .error (.collectionTemplate "cells") := by
    unfold checkTemplate Template.isParameterized
    simp only [template]
    rfl
  have entry : checkEntry [] ⟨"cells", [.make .css "td.{{kind}}" true]⟩ =
      .error (.collectionTemplate "cells") := by
    unfold checkEntry
    rw [cells]
    exact congrArg (· >>= fun _ => _) fails
  unfold validate validateWith Page.check
  simp only [Page.outOfOrder, checkEntries, entry, Page.empty, grid]
  rfl

theorem not_names_hold_outOfOrder : ¬ Rule.names.Holds Url.parse Page.outOfOrder := by
  intro h
  have hn : IsName "user-name" :=
    h "user-name" (by simp [Page.names, Page.outOfOrder, Page.empty, Entry.names])
  exact absurd (isName_iff.1 hn) (by decide)

/-- The page above breaks the fifth rule and is refused for the seventh. -/
theorem laterRule_reported_of_laterEntry :
    validate Page.outOfOrder = .error ⟨"Grid", .collectionTemplate "cells"⟩ ∧
      ¬ Rule.names.Holds Url.parse Page.outOfOrder ∧
      Rule.names.number < (PageFault.collectionTemplate "cells").rule.number :=
  ⟨validate_outOfOrder, not_names_hold_outOfOrder, by decide⟩

/-- What the page above is refused for is not the lowest rule that it breaks, so its entries are
not in order. -/
theorem not_entriesInOrder_of_laterEntry :
    validate Page.outOfOrder = .error ⟨"Grid", .collectionTemplate "cells"⟩ ∧
      ¬ (Page.outOfOrder.BreaksOutside Url.parse ∨ Page.outOfOrder.EntriesInOrder) := by
  refine ⟨validate_outOfOrder, fun hb => ?_⟩
  have first := (rule_isFirstBroken_iff validate_outOfOrder).2 hb
  exact absurd (first.2 .names not_names_hold_outOfOrder) (by decide)

end PageAccessors
