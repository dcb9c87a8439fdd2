import Mathlib.Data.String.Basic
import PageAccessors.Proofs.Members
import PageAccessors.Proofs.SameSource

/-!
# Imports

A class is built by calls in any order: an address to open, and members to add. Each call keeps what
the imports are (`AccessorClass.Balanced.call`): in ascending order, the driver and what some member
refers to, and nothing else. What members refer to are fourteen symbols (`Need`), and no two of them
have one name, whatever the package of the runtime library is (`Need.text_inj`), so that each import
tells of the members that need it.

The order of texts by their characters is the order of their bytes (`bytes_lt_of_lt`).
-/

namespace PageAccessors

/-! ## The order of bytes -/

/-- The bytes that a text is written with. -/
def bytes (text : String) : List UInt8 := text.toUTF8.data.toList

theorem bytes_eq_flatMap (text : String) :
    bytes text = text.toList.flatMap String.utf8EncodeChar := by
  conv_lhs => rw [← String.ofList_toList (s := text)]
  rw [bytes, String.toUTF8_eq_toByteArray, String.toByteArray_ofList, List.utf8Encode,
    List.data_toByteArray]

/-- A character with a smaller number has smaller bytes, whatever follows. -/
theorem utf8EncodeChar_append_lt {c d : Char} (h : c < d) (r r' : List UInt8) :
    String.utf8EncodeChar c ++ r < String.utf8EncodeChar d ++ r' := by
  have bound : d.val.toNat < 1114112 := by
    have := d.valid
    rw [UInt32.isValidChar, Nat.isValidChar] at this
    omega
  have lt : c.val.toNat < d.val.toNat := h
  simp only [String.utf8EncodeChar]
  generalize c.val.toNat = v at *
  generalize d.val.toNat = w at *
  -- The bytes are digits to the base 64, each of the quotient of the one before.
  have digits (n : Nat) : n / 4096 = n / 64 / 64 ∧ n / 262144 = n / 64 / 64 / 64 := by omega
  rw [(digits v).1, (digits v).2, (digits w).1, (digits w).2]
  clear digits
  split_ifs
  all_goals
    simp only [List.cons_append, List.nil_append, List.cons_lt_cons_iff, UInt8.lt_iff_toNat_lt,
      ← UInt8.toNat_inj, UInt8.toNat_ofNat']
    omega

theorem flatMap_utf8EncodeChar_lt : ∀ {s t : List Char}, s < t →
    s.flatMap String.utf8EncodeChar < t.flatMap String.utf8EncodeChar
  | [], c :: t, _ => by
    rw [List.flatMap_cons, List.flatMap_nil]
    obtain ⟨b, rest, hb⟩ := List.exists_cons_of_ne_nil (List.append_ne_nil_of_left_ne_nil
      (String.utf8EncodeChar_ne_nil (c := c)) (t.flatMap String.utf8EncodeChar))
    rw [hb]
    exact List.nil_lt_cons b rest
  | c :: s, d :: t, h => by
    rw [List.flatMap_cons, List.flatMap_cons]
    rcases List.cons_lt_cons_iff.1 h with hc | ⟨rfl, ht⟩
    · exact utf8EncodeChar_append_lt hc _ _
    · exact List.append_left_lt (flatMap_utf8EncodeChar_lt ht)

theorem bytes_lt_of_lt {a b : String} (h : a < b) : bytes a < bytes b := by
  rw [bytes_eq_flatMap, bytes_eq_flatMap]
  exact flatMap_utf8EncodeChar_lt h

/-! ## Ascending texts -/

theorem mem_insertText {a x : String} : ∀ {texts : List String},
    a ∈ insertText x texts ↔ a = x ∨ a ∈ texts
  | [] => by simp [insertText]
  | y :: texts => by
    rw [insertText]
    split_ifs with hlt heq
    · exact List.mem_cons
    · rw [heq, List.mem_cons, or_self_left]
    · rw [List.mem_cons, List.mem_cons, mem_insertText, or_left_comm]

theorem pairwise_insertText {x : String} : ∀ {texts : List String}, texts.Pairwise (· < ·) →
    (insertText x texts).Pairwise (· < ·)
  | [], _ => List.pairwise_singleton _ _
  | y :: texts, h => by
    obtain ⟨first, rest⟩ := List.pairwise_cons.1 h
    rw [insertText]
    split_ifs with hlt heq
    · exact .cons (List.forall_mem_cons.2 ⟨hlt, fun z hz => String.lt_trans hlt (first z hz)⟩) h
    · exact h
    · refine .cons (fun z hz => ?_) (pairwise_insertText rest)
      rcases mem_insertText.1 hz with rfl | hz
      · exact (lt_or_gt_of_ne heq).resolve_left hlt
      · exact first z hz

/-! ## What members need -/

/-- A symbol that the source of a class refers to. -/
inductive Need where
  | driver
  | element
  | elements
  | delegate (s : Strategy)
  | factories
  | byIdOrName
  deriving DecidableEq

namespace Need

def symbol : Need → String
  | driver => "WebDriver"
  | element => "WebElement"
  | elements => "WebElements"
  | delegate s => s.delegate
  | factories => "By"
  | byIdOrName => "ByIdOrName"

def package (runtime : String) : Need → String
  | driver | element | factories => driverPackage
  | elements | delegate _ => runtime
  | byIdOrName => pageFactoryPackage

/-- The import of a symbol. -/
def text (runtime : String) (n : Need) : String := qualified (n.package runtime) n.symbol

theorem isName_symbol (n : Need) : IsName n.symbol := by
  rw [isName_iff]
  cases n with
  | delegate s => cases s <;> decide
  | _ => decide

theorem dot_notMem_symbol (n : Need) : '.' ∉ n.symbol.toList := n.isName_symbol.notMem (by decide)

theorem newline_notMem_text {runtime : String} (h : '\n' ∉ runtime.toList) (n : Need) :
    '\n' ∉ (n.text runtime).toList := by
  have symbol := n.isName_symbol.notMem (c := '\n') (by decide)
  have package : '\n' ∉ (n.package runtime).toList := by
    cases n with
    | elements | delegate => exact h
    | driver | element | factories => exact (by decide : '\n' ∉ driverPackage.toList)
    | byIdOrName => exact (by decide : '\n' ∉ pageFactoryPackage.toList)
  have dot : '\n' ∉ ".".toList := by decide
  rw [text, qualified, String.toList_append, String.toList_append]
  simp only [List.mem_append, not_or]
  exact ⟨⟨package, dot⟩, symbol⟩

theorem symbol_inj {n m : Need} (h : n.symbol = m.symbol) : n = m := by
  revert h
  cases n with
  | delegate s =>
    cases m with
    | delegate t => exact fun h => congrArg delegate (Strategy.delegate_inj h)
    | _ => cases s <;> decide
  | _ =>
    cases m with
    | delegate t => cases t <;> decide
    | _ => decide

theorem text_inj {runtime : String} {n m : Need} (h : n.text runtime = m.text runtime) :
    n = m := by
  have dot : ".".toList = ['.'] := rfl
  rw [text, text, qualified, qualified, ← String.toList_inj] at h
  simp only [String.toList_append, dot, List.append_assoc, List.singleton_append] at h
  refine symbol_inj (String.toList_inj.1 ?_)
  -- A name without dots is what follows the last one.
  rcases List.append_eq_append_iff.1 h with ⟨_ | ⟨c, front⟩, -, hs⟩ | ⟨_ | ⟨c, front⟩, -, hs⟩
  · exact (List.cons.inj hs).2
  · refine absurd ?_ n.dot_notMem_symbol
    rw [(List.cons.inj hs).2]
    exact List.mem_append_right _ (.head _)
  · exact (List.cons.inj hs).2.symm
  · refine absurd ?_ m.dot_notMem_symbol
    rw [(List.cons.inj hs).2]
    exact List.mem_append_right _ (.head _)

end Need

namespace Member

/-- The symbol of the type of a member's result. -/
def resultNeed : Cardinality → Need
  | .single => .element
  | .collection => .elements

/-- The symbol that a member looks its elements up with. -/
def lookupNeed : Member → Need
  | property p => .delegate p.locator.strategy
  | function f => if f.strategy = .idOrName then .byIdOrName else .factories

theorem imports_eq (runtime : String) (m : Member) :
    m.imports runtime = [(resultNeed m.cardinality).text runtime, m.lookupNeed.text runtime] := by
  have result : resultImport runtime m.cardinality = (resultNeed m.cardinality).text runtime := by
    cases m.cardinality <;> rfl
  have lookup : lookupImport runtime m = m.lookupNeed.text runtime := by
    cases m with
    | property p => rfl
    | function f =>
      rw [lookupImport, lookupNeed]
      cases f.strategy <;> rfl
  rw [imports, result, lookup]

/-- The source of a member refers to a symbol. -/
def Needs (m : Member) (n : Need) : Prop := n = resultNeed m.cardinality ∨ n = m.lookupNeed

theorem needs_element (m : Member) : m.Needs .element ↔ m.cardinality = .single := by
  rcases m with ⟨n, s, v, c⟩ | ⟨n, s, ps, t⟩
  · cases c <;> simp [Needs, resultNeed, lookupNeed, cardinality]
  · simp [Needs, resultNeed, cardinality]

theorem needs_elements (m : Member) :
    m.Needs .elements ↔ ∃ p, m = .property p ∧ p.locator.cardinality = .collection := by
  rcases m with ⟨n, s, v, c⟩ | ⟨n, s, ps, t⟩
  · cases c <;> simp [Needs, resultNeed, lookupNeed, cardinality]
  · cases s <;> simp [Needs, resultNeed, lookupNeed, cardinality]

theorem needs_delegate (s : Strategy) (m : Member) :
    m.Needs (.delegate s) ↔ ∃ p, m = .property p ∧ p.locator.strategy = s := by
  rcases m with ⟨n, s', v, c⟩ | ⟨n, s', ps, t⟩
  · cases c <;> simp [Needs, resultNeed, lookupNeed, cardinality, eq_comm]
  · cases s' <;> simp [Needs, resultNeed, lookupNeed, cardinality]

theorem needs_factories (m : Member) :
    m.Needs .factories ↔ ∃ f, m = .function f ∧ f.strategy ≠ .idOrName := by
  rcases m with ⟨n, s, v, c⟩ | ⟨n, s, ps, t⟩
  · cases c <;> simp [Needs, resultNeed, lookupNeed, cardinality]
  · cases s <;> simp [Needs, resultNeed, lookupNeed, cardinality]

theorem needs_byIdOrName (m : Member) :
    m.Needs .byIdOrName ↔ ∃ f, m = .function f ∧ f.strategy = .idOrName := by
  rcases m with ⟨n, s, v, c⟩ | ⟨n, s, ps, t⟩
  · cases c <;> simp [Needs, resultNeed, lookupNeed, cardinality]
  · cases s <;> simp [Needs, resultNeed, lookupNeed, cardinality]

end Member

/-! ## Building -/

/-- A call to build a class. -/
inductive BuildCall where
  | opening (url : String)
  | add (m : Member)

def BuildCall.member? : BuildCall → Option Member
  | opening _ => none
  | add m => some m

namespace AccessorClass

def call (runtime : String) (c : AccessorClass) : BuildCall → AccessorClass
  | .opening url => c.opening url
  | .add m => c.add runtime m

/-- The class that some calls build, one after the other. -/
def build (name : Identifier) (package : String) (o : Options) (calls : List BuildCall) :
    AccessorClass :=
  calls.foldl (call o.runtimePackage) (empty name package o)

theorem members_build (name : Identifier) (package : String) (o : Options)
    (calls : List BuildCall) :
    (build name package o calls).members = calls.filterMap BuildCall.member? := by
  have fold : ∀ (calls : List BuildCall) (c : AccessorClass),
      (calls.foldl (call o.runtimePackage) c).members =
        c.members ++ calls.filterMap BuildCall.member? := by
    intro calls
    induction calls with
    | nil => exact fun c => (List.append_nil _).symm
    | cons b calls ih =>
      intro c
      rw [List.foldl_cons, ih]
      cases b with
      | opening url => rfl
      | add m => exact List.append_assoc _ _ _
  exact (fold calls _).trans (List.nil_append _)

/-- The imports of a class are in order, and they are the driver and what its members need. -/
structure Balanced (runtime : String) (c : AccessorClass) : Prop where
  ascending : c.imports.Pairwise (· < ·)
  mem : ∀ x, x ∈ c.imports ↔ x = Need.driver.text runtime ∨ ∃ m ∈ c.members, x ∈ m.imports runtime

theorem balanced_empty (name : Identifier) (package : String) (o : Options) :
    (empty name package o).Balanced o.runtimePackage where
  ascending := List.pairwise_singleton _ _
  mem x := by simp [empty, Need.text, Need.package, Need.symbol]

theorem Balanced.call {runtime : String} {c : AccessorClass} (h : c.Balanced runtime) :
    ∀ b : BuildCall, (c.call runtime b).Balanced runtime
  | .opening url => ⟨h.ascending, h.mem⟩
  | .add m => by
    obtain ⟨first, second, hm⟩ : ∃ first second, m.imports runtime = [first, second] :=
      ⟨_, _, rfl⟩
    have imports : (c.add runtime m).imports =
        insertText second (insertText first c.imports) := by
      rw [add, hm]
      rfl
    have members : (c.add runtime m).members = c.members ++ [m] := rfl
    constructor
    · rw [AccessorClass.call, imports]
      exact pairwise_insertText (pairwise_insertText h.ascending)
    · intro x
      rw [AccessorClass.call, imports, members, mem_insertText, mem_insertText, h.mem]
      simp only [List.mem_append, or_and_right, exists_or, exists_eq_left, hm, List.mem_cons,
        List.not_mem_nil, or_false]
      rw [← or_assoc, or_comm, or_comm (a := x = second), or_assoc]

theorem balanced_build (name : Identifier) (package : String) (o : Options)
    (calls : List BuildCall) : (build name package o calls).Balanced o.runtimePackage := by
  have fold : ∀ (calls : List BuildCall) {c : AccessorClass}, c.Balanced o.runtimePackage →
      (calls.foldl (AccessorClass.call o.runtimePackage) c).Balanced o.runtimePackage := by
    intro calls
    induction calls with
    | nil => exact fun h => h
    | cons b calls ih => exact fun h => ih (h.call b)
  exact fold calls (balanced_empty name package o)

/-- The imports of a class, by what its members are. -/
structure ImportsNeeds (runtime : String) (c : AccessorClass) : Prop where
  ascending : c.imports.Pairwise fun a b => bytes a < bytes b
  driver : "org.openqa.selenium.WebDriver" ∈ c.imports
  element : "org.openqa.selenium.WebElement" ∈ c.imports ↔
    ∃ m ∈ c.members, m.cardinality = .single
  elements : runtime ++ "." ++ "WebElements" ∈ c.imports ↔
    ∃ p, .property p ∈ c.members ∧ p.locator.cardinality = .collection
  delegate : ∀ s : Strategy, runtime ++ "." ++ s.delegate ∈ c.imports ↔
    ∃ p, .property p ∈ c.members ∧ p.locator.strategy = s
  factories : "org.openqa.selenium.By" ∈ c.imports ↔
    ∃ f, .function f ∈ c.members ∧ f.strategy ≠ .idOrName
  byIdOrName : "org.openqa.selenium.support.pagefactory.ByIdOrName" ∈ c.imports ↔
    ∃ f, .function f ∈ c.members ∧ f.strategy = .idOrName
  only : ∀ x ∈ c.imports, x = "org.openqa.selenium.WebDriver" ∨
    x = "org.openqa.selenium.WebElement" ∨ x = runtime ++ "." ++ "WebElements" ∨
    (∃ s : Strategy, x = runtime ++ "." ++ s.delegate) ∨ x = "org.openqa.selenium.By" ∨
    x = "org.openqa.selenium.support.pagefactory.ByIdOrName"

theorem Balanced.exists_need {runtime : String} {c : AccessorClass} (h : c.Balanced runtime)
    {x : String} (hx : x ∈ c.imports) : ∃ n : Need, x = n.text runtime := by
  rcases (h.mem x).1 hx with rfl | ⟨m, -, hm⟩
  · exact ⟨_, rfl⟩
  · rw [Member.imports_eq, List.mem_pair] at hm
    exact hm.elim (fun he => ⟨_, he⟩) fun he => ⟨_, he⟩

/-- A symbol is imported exactly if it is the driver or some member needs it. -/
theorem Balanced.mem_text {runtime : String} {c : AccessorClass} (h : c.Balanced runtime)
    (n : Need) : n.text runtime ∈ c.imports ↔ n = .driver ∨ ∃ m ∈ c.members, m.Needs n := by
  have inj {a b : Need} : a.text runtime = b.text runtime ↔ a = b :=
    ⟨Need.text_inj, congrArg _⟩
  rw [h.mem]
  simp only [Member.imports_eq, List.mem_cons, List.not_mem_nil, or_false, inj, Member.Needs]

theorem Balanced.importsNeeds {runtime : String} {c : AccessorClass} (h : c.Balanced runtime) :
    c.ImportsNeeds runtime := by
  have some_member {n : Need} (hn : n ≠ .driver) : n.text runtime ∈ c.imports ↔
      ∃ m ∈ c.members, m.Needs n := (h.mem_text n).trans (or_iff_right hn)
  have some_of {α : Type} {n : Need} (hn : n ≠ .driver) {kind : α → Member} {P : α → Prop}
      (needs : ∀ m : Member, m.Needs n ↔ ∃ a, m = kind a ∧ P a) :
      n.text runtime ∈ c.imports ↔ ∃ a, kind a ∈ c.members ∧ P a := by
    rw [some_member hn]
    constructor
    · rintro ⟨m, hm, hneed⟩
      obtain ⟨a, rfl, ha⟩ := (needs m).1 hneed
      exact ⟨a, hm, ha⟩
    · rintro ⟨a, hm, ha⟩
      exact ⟨kind a, hm, (needs _).2 ⟨a, rfl, ha⟩⟩
  constructor
  case ascending => exact h.ascending.imp bytes_lt_of_lt
  case driver => exact (h.mem_text .driver).2 (.inl rfl)
  case element =>
    refine (some_member (n := .element) (by decide)).trans ?_
    simp only [Member.needs_element]
  case elements => exact some_of (by decide) Member.needs_elements
  case delegate => exact fun s => some_of (by simp) (Member.needs_delegate s)
  case factories => exact some_of (by decide) Member.needs_factories
  case byIdOrName => exact some_of (by decide) Member.needs_byIdOrName
  case only =>
    intro x hx
    obtain ⟨n, rfl⟩ := h.exists_need hx
    cases n with
    | driver => exact .inl rfl
    | element => exact .inr (.inl rfl)
    | elements => exact .inr (.inr (.inl rfl))
    | delegate s => exact .inr (.inr (.inr (.inl ⟨s, rfl⟩)))
    | factories => exact .inr (.inr (.inr (.inr (.inl rfl))))
    | byIdOrName => exact .inr (.inr (.inr (.inr (.inr rfl))))

theorem toClass_eq_build (d : Declaration) (o : Options) :
    d.toClass o = build d.outputName (generatedPackage d.package) o
      (d.url.toList.map .opening ++ d.entries.map fun e => .add e.member) := by
  rw [Declaration.toClass, build, List.foldl_append, List.foldl_map, List.foldl_map]
  cases d.url <;> rfl

theorem balanced_toClass (d : Declaration) (o : Options) :
    (d.toClass o).Balanced o.runtimePackage := by
  rw [toClass_eq_build]
  exact balanced_build _ _ _ _

end AccessorClass

/-- A function of an accepted page looks up by the strategy of a marker. -/
theorem isMarker_of_function {parse : Url.Parser} {p : Page} {d : Declaration}
    (h : validateWith parse p = .ok d) {o : Options} {f : Function}
    (hf : .function f ∈ (d.toClass o).members) : f.strategy.isMarker := by
  obtain ⟨rules, -, -, -, -, declared⟩ := check_eq_ok_iff.1 (validateWith_eq_ok_iff.1 h)
  rw [members_toClass, List.mem_map] at hf
  obtain ⟨entry, hm, hf⟩ := hf
  obtain ⟨e, he, hn, hl⟩ :
      ∃ e ∈ p.entries, entry.name.text = e.name ∧ entry.locator = e.locator? := by
    obtain ⟨i, hi, rfl⟩ := List.getElem_of_mem hm
    have hi' : i < p.entries.length := declared.length_eq ▸ hi
    exact ⟨p.entries[i], List.getElem_mem hi', declared.get hi' hi⟩
  have names : ∀ name ∈ e.names, IsName name := fun name hm =>
    rules .names name (List.mem_append_right _ (List.mem_flatMap.2 ⟨e, he, hm⟩))
  have ht : e.template.isParameterized := by
    by_contra ht
    rw [member_eq hn hl, if_neg ht] at hf
    cases hf
  obtain ⟨m, -, hs⟩ :=
    (calledAs_functionOf names (rules .oneMarker e he) (rules .singleTemplates e he) ht
      entry.name).marker
  rw [member_eq hn hl, if_pos ht] at hf
  rw [← Member.function.inj hf, hs]
  exact m.isMarker

/-- However a class is built, it imports exactly what its members need, and the class of an accepted
page never needs the lookup by id or name. -/
theorem imports_are_needs :
    (∀ (name : Identifier) (package : String) (o : Options) (calls : List BuildCall),
      (AccessorClass.build name package o calls).members = calls.filterMap BuildCall.member? ∧
        (AccessorClass.build name package o calls).ImportsNeeds o.runtimePackage) ∧
    ∀ (parse : Url.Parser) (p : Page) (d : Declaration) (o : Options),
      validateWith parse p = .ok d →
      (d.toClass o).ImportsNeeds o.runtimePackage ∧
        "org.openqa.selenium.support.pagefactory.ByIdOrName" ∉ (d.toClass o).imports := by
  refine ⟨fun name package o calls => ⟨AccessorClass.members_build name package o calls,
    (AccessorClass.balanced_build name package o calls).importsNeeds⟩, fun parse p d o h => ?_⟩
  have needs : (d.toClass o).ImportsNeeds o.runtimePackage := by
    rw [AccessorClass.toClass_eq_build]
    exact (AccessorClass.balanced_build _ _ _ _).importsNeeds
  refine ⟨needs, fun hi => ?_⟩
  obtain ⟨f, hf, hs⟩ := needs.byIdOrName.1 hi
  have := isMarker_of_function h hf
  rw [hs] at this
  exact absurd this (by decide)

theorem imports_are_needs_search :
    validate Page.search = .ok Page.searchDeclaration ∧
      (Page.searchDeclaration.toClass .default).ImportsNeeds Options.default.runtimePackage ∧
      "org.openqa.selenium.support.pagefactory.ByIdOrName" ∉
        (Page.searchDeclaration.toClass .default).imports :=
  ⟨validate_search,
    imports_are_needs.2 Url.parse Page.search Page.searchDeclaration .default validate_search⟩

end PageAccessors
