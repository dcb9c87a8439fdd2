import PageAccessors.Proofs.Header
import PageAccessors.Proofs.Imports
import PageAccessors.Proofs.Scopes

/-!
# Layout

A source is written in paragraphs: lines that all show something at their ends, and one empty line
between two paragraphs (`Text.Spaced`). The header is one, so are the package and the imports, and
so is each block of the body, where the first one starts right below the line of the class and the
last one ends right above its brace. No text of a page gets at this: one in a literal keeps to its
line and is closed by a quote and a parenthesis, and a header has its lines cut at their ends
(`laidOut_of_validate`). Only a line feed in an import would make a line of its own.
-/

namespace PageAccessors

namespace Text

/-! ## Paragraphs -/

/-- A line has a last character, and that is no blank. -/
def Shows (line : List Char) : Prop := ∃ c ∈ line.getLast?, isBlank c = false

instance (line : List Char) : Decidable (Shows line) :=
  decidable_of_iff (line.getLast?.any (! isBlank ·) = true) <| by
    simp [Shows, Option.any_eq_true]

/-- Lines that show something, with one empty line between some of them and one at the end. -/
inductive Spaced : List (List Char) → Prop
  | last {l : List Char} : Shows l → Spaced [l, []]
  | next {l : List Char} {rest : List (List Char)} : Shows l → Spaced rest → Spaced (l :: rest)
  | gap {l : List Char} {rest : List (List Char)} : Shows l → Spaced rest → Spaced (l :: [] :: rest)

theorem Shows.append (front : List Char) {rest : List Char} (h : Shows rest) :
    Shows (front ++ rest) := by
  obtain ⟨c, hc, hb⟩ := h
  refine ⟨c, ?_, hb⟩
  rw [List.getLast?_append, Option.mem_def.1 hc]
  rfl

theorem Shows.toList_append (front : String) {rest : String} (h : Shows rest.toList) :
    Shows (front ++ rest).toList := by
  rw [String.toList_append]
  exact h.append _

theorem shows_trimEnd {s : List Char} (h : trimEnd s ≠ []) : Shows (trimEnd s) :=
  ⟨_, List.getLast?_eq_some_getLast h, trimEnd_last (List.getLast?_eq_some_getLast h)⟩

theorem Shows.not_all_isBlank {line : List Char} (h : Shows line) : ¬ line.all isBlank := by
  obtain ⟨c, hc, hb⟩ := h
  intro all
  rw [List.all_eq_true.1 all c (List.mem_of_getLast? hc)] at hb
  cases hb

namespace Spaced

variable {rest : List (List Char)}

theorem append (hs : Spaced rest) : ∀ {lines : List (List Char)}, (∀ l ∈ lines, Shows l) →
    Spaced (lines ++ rest)
  | [], _ => hs
  | l :: lines, h => by
    rw [List.forall_mem_cons] at h
    exact .next h.1 (append hs h.2)

theorem paragraph (hs : Spaced rest) : ∀ {lines : List (List Char)}, lines ≠ [] →
    (∀ l ∈ lines, Shows l) → Spaced (lines ++ [] :: rest)
  | [], hn, _ => absurd rfl hn
  | [l], _, h => .gap (List.forall_mem_singleton.1 h) hs
  | l :: l' :: lines, _, h => by
    rw [List.forall_mem_cons] at h
    exact .next h.1 (paragraph hs (List.cons_ne_nil _ _) h.2)

theorem intercalate (hs : Spaced rest) : ∀ {blocks : List (List (List Char))},
    (∀ b ∈ blocks, b ≠ [] ∧ ∀ l ∈ b, Shows l) → Spaced ([[]].intercalate blocks ++ rest)
  | [], _ => by simpa using hs
  | [b], h => by simpa using append hs (List.forall_mem_singleton.1 h).2
  | b :: b' :: blocks, h => by
    rw [List.forall_mem_cons] at h
    rw [List.intercalate_cons_cons, List.append_assoc, List.append_assoc, List.singleton_append]
    exact paragraph (intercalate hs h.2) h.1.1 h.1.2

variable {lines : List (List Char)}

theorem exists_cons (h : Spaced lines) : ∃ l rest, lines = l :: rest ∧ Shows l := by
  cases h with
  | last hl => exact ⟨_, _, rfl, hl⟩
  | next hl => exact ⟨_, _, rfl, hl⟩
  | gap hl => exact ⟨_, _, rfl, hl⟩

theorem ends (h : Spaced lines) : ∀ l ∈ lines, ∀ c ∈ l.getLast?, isBlank c = false := by
  have shown {l : List Char} (hl : Shows l) : ∀ c ∈ l.getLast?, isBlank c = false := by
    obtain ⟨c, hc, hb⟩ := hl
    intro d hd
    rwa [Option.mem_unique hd hc]
  induction h with
  | last hl => exact List.forall_mem_cons.2 ⟨shown hl, List.forall_mem_singleton.2 nofun⟩
  | next hl _ ih => exact List.forall_mem_cons.2 ⟨shown hl, ih⟩
  | gap hl _ ih =>
    exact List.forall_mem_cons.2 ⟨shown hl, List.forall_mem_cons.2 ⟨nofun, ih⟩⟩

theorem isChain (h : Spaced lines) :
    lines.IsChain fun a b => ¬ (a.all isBlank ∧ b.all isBlank) := by
  -- Of two neighbours one shows something, as the line does that any spaced lines start with.
  induction h with
  | last hl => exact .cons_cons (fun hb => hl.not_all_isBlank hb.1) (.singleton _)
  | next hl hr ih =>
    obtain ⟨m, rest, rfl, -⟩ := hr.exists_cons
    exact .cons_cons (fun hb => hl.not_all_isBlank hb.1) ih
  | gap hl hr ih =>
    obtain ⟨m, rest, rfl, hm⟩ := hr.exists_cons
    exact .cons_cons (fun hb => hl.not_all_isBlank hb.1)
      (.cons_cons (fun hb => hm.not_all_isBlank hb.2) ih)

end Spaced

end Text

/-! ## The lines of a source -/

section Lines

open Text

theorem shows_commentLine (line : List Char) : Shows (Source.commentLine line).toList := by
  unfold Source.commentLine
  split_ifs with hb
  · decide
  · refine .toList_append _ ?_
    rw [String.toList_ofList]
    exact shows_trimEnd fun he => hb (trimEnd_eq_nil_iff.1 he)

theorem shows_memberLine : ∀ m : Member, Shows (Source.memberLine m).toList
  | .property p => by
    unfold Source.memberLine Source.propertyLine
    exact .toList_append _ (by decide)
  | .function f => by
    unfold Source.memberLine Source.functionLine
    exact .toList_append _ (by decide)

theorem shows_initializerLines (url : String) :
    ∀ l ∈ Source.initializerLines url, Shows l.toList := by
  have get : Shows ("    get(" ++ Source.quoted url ++ ")").toList := .toList_append _ (by decide)
  simp only [Source.initializerLines, List.forall_mem_cons]
  exact ⟨by decide, get, by decide, List.forall_mem_nil _⟩

theorem Need.shows_text (runtime : String) (n : Need) : Shows (n.text runtime).toList := by
  refine .toList_append _ ?_
  cases n with
  | delegate s => cases s <;> decide
  | _ => decide

theorem shows_generatedPackage (package : String) : Shows (generatedPackage package).toList := by
  unfold generatedPackage
  split_ifs
  · decide
  · exact .toList_append _ (by decide)

theorem shows_importLines {c : AccessorClass} {runtime : String} (h : c.Balanced runtime) :
    ∀ l ∈ c.imports.map ("import " ++ ·), Shows l.toList := by
  rw [List.forall_mem_map]
  intro x hx
  obtain ⟨n, rfl⟩ := h.exists_need hx
  exact (n.shows_text runtime).toList_append _

/-- The lines of a block that opens an address. -/
def openingBlock (url : String) : List (List Char) :=
  (Source.initializerLines url).map String.toList

/-- The line of a block that is a member. -/
def memberBlock (m : Member) : List (List Char) := [(Source.memberLine m).toList]

/-- The blocks of a body. -/
def bodyBlocks (c : AccessorClass) : List (List (List Char)) :=
  c.initializer.toList.map openingBlock ++ c.members.map memberBlock

theorem map_intercalate {α β : Type} (f : α → β) (sep : List α) : ∀ blocks : List (List α),
    (sep.intercalate blocks).map f = (sep.map f).intercalate (blocks.map (List.map f))
  | [] => by simp
  | [b] => by simp
  | b :: b' :: blocks => by
    rw [List.intercalate_cons_cons, List.map_append, List.map_append,
      map_intercalate f sep (b' :: blocks), List.map_cons, List.map_cons, List.map_cons,
      List.intercalate_cons_cons]

theorem map_blockLines (c : AccessorClass) :
    (Kotlin.blockLines c).map String.toList = [[]].intercalate (bodyBlocks c) := by
  rw [Kotlin.blockLines, map_intercalate, Source.blocks, List.map_append, List.map_map,
    List.map_map]
  rfl

theorem shows_bodyBlocks (c : AccessorClass) : ∀ b ∈ bodyBlocks c, b ≠ [] ∧ ∀ l ∈ b, Shows l := by
  rw [bodyBlocks, List.forall_mem_append, List.forall_mem_map, List.forall_mem_map]
  refine ⟨fun url _ => ⟨List.cons_ne_nil _ _, ?_⟩, fun m _ => ⟨List.cons_ne_nil _ _, ?_⟩⟩
  · exact List.forall_mem_map.2 (shows_initializerLines url)
  · exact List.forall_mem_singleton.2 (shows_memberLine m)

theorem spaced_headerLines {rest : List (List Char)} (hs : Spaced rest) (header : String) :
    Spaced ((Source.headerLines header).map String.toList ++ rest) := by
  unfold Source.headerLines
  split_ifs with h
  · exact hs
  · have some : Text.lines header.toList ≠ [] := Text.lines_ne_nil (by simpa using h)
    rw [List.map_append, List.append_assoc]
    refine hs.paragraph (by simpa using some) ?_
    simp only [List.forall_mem_map]
    exact fun line _ => shows_commentLine line

theorem spaced_classLines {c : AccessorClass} {runtime : String} (h : c.Balanced runtime)
    (package : Shows c.package.toList) :
    Spaced ((Source.classLines c).map String.toList ++ [[]]) := by
  -- From the last line up, one paragraph after the other.
  have body : Spaced ([[]].intercalate (bodyBlocks c) ++ ["\x7d".toList, []]) :=
    Spaced.intercalate (.last (by decide)) (shows_bodyBlocks c)
  have own : Shows ("public class " ++ c.name.text ++ " \x7b").toList :=
    .toList_append _ (by decide)
  have context : Shows "context(WebDriver)".toList := by decide
  have driver : c.imports ≠ [] := List.ne_nil_of_mem ((h.mem_text .driver).2 (.inl rfl))
  have imports := Spaced.paragraph (.next context (.next own body))
    (by simpa using driver) (List.forall_mem_map.2 (shows_importLines h))
  have all := spaced_headerLines (.gap (package.toList_append "package ") imports) c.header
  rw [← map_blockLines] at all
  simpa [Source.classLines, Source.importLines, driver, Kotlin.blockLines] using all

end Lines

/-! ## Pages -/

/-- The block opens an address: it takes three lines, and the address stands on the second one. -/
def Kotlin.Opens (url : String) (block : List (List Char)) : Prop :=
  ∃ line, block = ["  init \x7b".toList, line, "  \x7d".toList] ∧
    Kotlin.opening? line = some (url.toList.map .char)

/-- The block is the member for an entry: it takes one line. -/
def Entry.WrittenAs (e : Entry) (block : List (List Char)) : Prop :=
  ∃ line, block = [line] ∧ Kotlin.accessor? line = some e.accessor

/-- How the source for a page is laid out. It ends in a brace and one line feed, no line ends in a
blank, and no two lines of blanks stand one behind the other. Below the line of the class stand the
blocks, the one that opens the page's address, if it has one, and then one for each entry in their
order, with one empty line between any two of them, and then the brace. -/
structure Page.LaidOut (p : Page) (source : String) : Prop where
  ending : ∃ front, source.toList = front ++ ['\x7d', '\n']
  ends : ∀ line ∈ source.toList.splitOn '\n', ∀ c ∈ line.getLast?, Text.isBlank c = false
  gaps : (source.toList.splitOn '\n').IsChain fun a b =>
    ¬ (a.all Text.isBlank ∧ b.all Text.isBlank)
  own : ∃ front, source.toList.splitOn '\n' = front ++
    ("public class " ++ p.className.getD p.name ++ " \x7b").toList :: Kotlin.bodyLines source
  body : ∃ inits members, Kotlin.bodyLines source =
      [[]].intercalate (inits ++ members) ++ ["\x7d".toList, []] ∧
    List.Forall₂ Kotlin.Opens p.url.toList inits ∧ List.Forall₂ Entry.WrittenAs p.entries members

theorem opens_openingBlock (url : String) : Kotlin.Opens url (openingBlock url) :=
  ⟨_, rfl, Kotlin.opening?_getLine url⟩

section

variable {parse : Url.Parser} {p : Page} {d : Declaration} (h : validateWith parse p = .ok d)
  (o : Options)
include h

theorem text_outputName : d.outputName.text = p.className.getD p.name := by
  obtain ⟨-, hn, -, hc, -⟩ := check_eq_ok_iff.1 (validateWith_eq_ok_iff.1 h)
  rw [Declaration.outputName, ← hn, ← hc]
  cases d.className <;> rfl

theorem writtenAs_memberBlock :
    List.Forall₂ Entry.WrittenAs p.entries ((d.toClass o).members.map memberBlock) := by
  have readable := isReadable_toClass h o
  have read := (map_readMember_toClass h o).symm
  rw [← List.forall₂_eq_eq_eq, List.forall₂_map_left_iff, List.forall₂_map_right_iff] at read
  rw [List.forall₂_map_right_iff]
  refine ((List.forall₂_and_left _ _).2 ⟨readable, read.flip⟩).flip.imp ?_
  rintro e m ⟨hm, he⟩
  exact ⟨_, rfl, (Kotlin.accessor?_memberLine hm).trans (congrArg _ he.symm)⟩

end

/-- However its header reads, the source for an accepted page is laid out in one way, unless a line
feed in the package of the runtime library breaks the line of an import. -/
theorem laidOut_of_validate {parse : Url.Parser} {p : Page} {d : Declaration}
    (h : validateWith parse p = .ok d) (o : Options)
    (runtime : '\n' ∉ o.runtimePackage.toList) : p.LaidOut (d.toClass o).source := by
  have balanced := AccessorClass.balanced_toClass d o
  have readable := isReadable_toClass h o
  have body := Kotlin.isBodyLine_blockLines readable
  have imports : ∀ x ∈ (d.toClass o).imports, '\n' ∉ x.toList := by
    intro x hx
    obtain ⟨n, rfl⟩ := balanced.exists_need hx
    exact n.newline_notMem_text runtime
  have lines := Kotlin.splitOn_source (notMem_package h o (by decide) (by decide)) imports readable
  have spaced : Text.Spaced ((d.toClass o).source.toList.splitOn '\n') := by
    rw [lines]
    refine spaced_classLines balanced ?_
    rw [package_toClass]
    exact shows_generatedPackage _
  have below := Kotlin.bodyLines_source body
  constructor
  case ending =>
    have split : Source.classLines (d.toClass o) = _ ++ ["\x7d"] := rfl
    exact ⟨_, Kotlin.toList_source_append split⟩
  case ends => exact spaced.ends
  case gaps => exact spaced.isChain
  case own =>
    obtain ⟨front, hf⟩ := Kotlin.exists_splitOn_source body
    refine ⟨front, ?_⟩
    rw [hf, below, name_toClass, text_outputName h]
  case body =>
    refine ⟨p.url.toList.map openingBlock, _, below.trans ?_, ?_, writtenAs_memberBlock h o⟩
    · rw [map_blockLines, bodyBlocks, initializer_eq_url h]
    · rw [List.forall₂_map_right_iff, List.forall₂_same]
      exact fun url _ => opens_openingBlock url

theorem laidOut_search :
    validate Page.search = .ok Page.searchDeclaration ∧
      Page.search.LaidOut (Page.searchDeclaration.toClass .carefulHeader).source :=
  ⟨validate_search, laidOut_of_validate validate_search .carefulHeader (by decide)⟩

end PageAccessors
