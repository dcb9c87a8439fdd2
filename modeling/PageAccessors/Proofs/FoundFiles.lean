import Mathlib.Data.Prod.Lex
import Mathlib.Data.String.Basic
import PageAccessors.Proofs.OutputPaths
import PageAccessors.Proofs.GlobPatterns

/-!
# Files that are found

The components of paths are in a total order, and paths are sorted by it. So what a search finds is
settled by the paths that are among it: those of the sources below the directory, one for each
(`Enters.finds_sourcePaths`). A pattern that is made of the escaped text of a directory finds the
same ones, whatever the text is (`foundByPattern_eq`). It follows that a search finds all sources
and nothing else wherever it can go to its directory (`finds_findGenerated_iff`).
-/

namespace PageAccessors

/-! ## The order of paths -/

namespace Component

/-- What components are put in order by. -/
def sortKey (c : Component) : ℕ ×ₗ String :=
  toLex (c.rank, match c with | name text => text | _ => "")

theorem before_iff {a b : Component} : a.before b = true ↔ a.sortKey < b.sortKey := by
  cases a <;> cases b <;> simp [before, sortKey, rank, Prod.Lex.toLex_lt_toLex]

theorem sortKey_injective : Function.Injective sortKey := by
  intro a b h
  cases a <;> cases b <;> simp_all [sortKey, rank]

theorem listLe_cons_iff {a b : Component} {as bs : List Component} :
    listLe (a :: as) (b :: bs) = true ↔
      a.sortKey < b.sortKey ∨ a = b ∧ listLe as bs = true := by
  rw [listLe]
  split_ifs with h
  · simp [h]
  · rw [before_iff]
    simp [h]

theorem listLe_total : ∀ as bs : List Component, listLe as bs = true ∨ listLe bs as = true
  | [], _ => .inl rfl
  | _ :: _, [] => .inr rfl
  | a :: as, b :: bs => by
    rw [listLe_cons_iff, listLe_cons_iff]
    rcases lt_trichotomy a.sortKey b.sortKey with h | h | h
    · exact .inl (.inl h)
    · have same := sortKey_injective h
      exact (listLe_total as bs).imp (fun h => .inr ⟨same, h⟩) (fun h => .inr ⟨same.symm, h⟩)
    · exact .inr (.inl h)

theorem listLe_trans : ∀ {as bs cs : List Component}, listLe as bs = true → listLe bs cs = true →
    listLe as cs = true
  | [], _, _, _, _ => rfl
  | _ :: _, [], _, h, _ => by cases h
  | _ :: _, _ :: _, [], _, h => by cases h
  | a :: as, b :: bs, c :: cs, hab, hbc => by
    rw [listLe_cons_iff] at hab hbc ⊢
    rcases hab with hab | ⟨rfl, hab⟩
    · rcases hbc with hbc | ⟨rfl, hbc⟩
      · exact .inl (hab.trans hbc)
      · exact .inl hab
    · exact hbc.imp id (.imp id (listLe_trans hab))

theorem listLe_antisymm : ∀ {as bs : List Component}, listLe as bs = true → listLe bs as = true →
    as = bs
  | [], [], _, _ => rfl
  | [], _ :: _, _, h => by cases h
  | _ :: _, [], h, _ => by cases h
  | a :: as, b :: bs, hab, hba => by
    rw [listLe_cons_iff] at hab hba
    rcases hab with hab | ⟨rfl, hab⟩
    · rcases hba with hba | ⟨rfl, -⟩
      · exact absurd hba hab.asymm
      · exact absurd hab (lt_irrefl _)
    · rcases hba with hba | ⟨-, hba⟩
      · exact absurd hba (lt_irrefl _)
      · rw [listLe_antisymm hab hba]

end Component

theorem Path.pairwise_mergeSort (l : List Path) :
    (l.mergeSort Path.le).Pairwise fun p q => p.le q = true := by
  refine List.pairwise_mergeSort (fun p q r hpq hqr => ?_) (fun p q => ?_) l
  · exact Component.listLe_trans hpq hqr
  · rw [Bool.or_eq_true]
    exact Component.listLe_total _ _

/-! ## Sources -/

namespace FileTree

/-- A place below a directory with a file that is named as a source. -/
structure IsSource (t : FileTree) (directory q : Location) : Prop where
  file : ∃ bytes, t.node? q = some (.file bytes)
  below : directory <:+ q.tail
  name : isSourceName (q.headD "") = true

variable {t : FileTree} {directory q : Location} {base p : Path} {way : List String}

theorem IsSource.exists_way (h : t.IsSource directory q) :
    ∃ way : List String, q = way.reverse ++ directory := by
  obtain ⟨name, q, rfl⟩ := List.exists_cons_of_ne_nil (ne_nil_of_isSourceName h.name)
  obtain ⟨front, rfl⟩ : directory <:+ q := h.below
  exact ⟨front.reverse ++ [name], by simp⟩

theorem isSource_iff : t.IsSource directory (way.reverse ++ directory) ↔
    way ≠ [] ∧ (∃ bytes, t.node? (way.reverse ++ directory) = some (.file bytes)) ∧
      way.getLast?.any isSourceName = true := by
  rcases List.eq_nil_or_concat way with rfl | ⟨init, name, rfl⟩
  · refine iff_of_false (fun h => ?_) fun h => h.1 rfl
    have hb : directory <:+ directory.tail := h.below
    obtain ⟨bytes, hn⟩ := h.file
    cases directory with
    | nil => cases hn
    | cons name directory => simpa using hb.length_le
  · rw [List.concat_eq_append, List.reverse_concat, List.getLast?_concat]
    constructor
    · exact fun h => ⟨by simp, h.file, h.name⟩
    · exact fun h => ⟨h.2.1, List.suffix_append _ _, h.2.2⟩

theorem IsSource.exists_concat (h : t.IsSource directory (way.reverse ++ directory)) :
    ∃ init name bytes, way = init ++ [name] ∧ isSourceName name = true ∧
      t.node? (name :: (init.reverse ++ directory)) = some (.file bytes) := by
  obtain ⟨hne, ⟨bytes, hn⟩, source⟩ := isSource_iff.1 h
  obtain ⟨init, name, rfl⟩ := (List.eq_nil_or_concat way).resolve_left hne
  rw [List.concat_eq_append, List.reverse_concat] at hn
  rw [List.concat_eq_append, List.getLast?_concat] at source
  exact ⟨init, name, bytes, List.concat_eq_append, source, hn⟩

/-- The paths of the sources below a directory. -/
def sourcePaths (t : FileTree) (base : Path) (directory : Location) : List Path :=
  ((t.below directory).filter fun e => e.2 ≠ .directory && e.1.getLast?.any isSourceName).map
    (pathBelow base ·.1)

theorem findGenerated_eq (hb : searchBase t p = some base) (h : t.Enters base directory) :
    findGenerated t p = (t.sourcePaths base directory).mergeSort Path.le := by
  rw [findGenerated, hb]
  simp only
  rw [h.locate]
  simp only
  rw [sourcePaths, ← List.filterMap_eq_map, List.filterMap_filter]
  congr 1
  refine List.filterMap_congr fun e _ => ?_
  obtain ⟨way, _ | _⟩ := e <;> rfl

theorem mem_sourcePaths_iff : p ∈ t.sourcePaths base directory ↔
    ∃ way : List String, t.IsSource directory (way.reverse ++ directory) ∧
      p = pathBelow base way := by
  rw [sourcePaths, List.mem_map]
  constructor
  · rintro ⟨⟨way, node⟩, hm, rfl⟩
    obtain ⟨hm, hs⟩ := List.mem_filter.1 hm
    rw [Bool.and_eq_true, decide_eq_true_eq] at hs
    obtain ⟨hne, hn⟩ := mem_below_iff.1 hm
    cases node with
    | directory => exact absurd rfl hs.1
    | file bytes => exact ⟨way, isSource_iff.2 ⟨hne, ⟨bytes, hn⟩, hs.2⟩, rfl⟩
  · rintro ⟨way, h, rfl⟩
    obtain ⟨hne, ⟨bytes, hn⟩, hs⟩ := isSource_iff.1 h
    refine ⟨(way, .file bytes), List.mem_filter.2 ⟨mem_below_iff.2 ⟨hne, hn⟩, ?_⟩, rfl⟩
    rw [hs]
    rfl

theorem Enters.locate_source (h : t.Enters base directory) (named : t.Named)
    (hs : t.IsSource directory (way.reverse ++ directory)) :
    t.locate (pathBelow base way) = .ok (way.reverse ++ directory) := by
  obtain ⟨hne, ⟨bytes, hn⟩, -⟩ := isSource_iff.1 hs
  exact h.locate_pathBelow named hne hn

theorem Enters.nodup_sourcePaths (h : t.Enters base directory) (named : t.Named) :
    (t.sourcePaths base directory).Nodup :=
  nodup_map_below fun _ ha _ hb same =>
    h.pathBelow_inj named (List.mem_of_mem_filter ha) (List.mem_of_mem_filter hb) same

/-- Sources whose paths have the same components are at one place, and have one path. -/
theorem Enters.eq_of_components {q : Path} (h : t.Enters base directory) (named : t.Named)
    (hp : p ∈ t.sourcePaths base directory) (hq : q ∈ t.sourcePaths base directory)
    (same : p.components = q.components) : p = q := by
  obtain ⟨way, hs, rfl⟩ := mem_sourcePaths_iff.1 hp
  obtain ⟨way', hs', rfl⟩ := mem_sourcePaths_iff.1 hq
  have place := eq_place_of_locate (h.locate_source named hs)
  rw [Path.place_eq_foldl_follow, same, ← Path.place_eq_foldl_follow,
    ← eq_place_of_locate (h.locate_source named hs')] at place
  rw [List.reverse_injective (List.append_cancel_right place)]

/-- Paths to the sources below a directory: each leads to one, and each is led to by one of them,
and they strictly increase in the order of their components. -/
structure Finds (t : FileTree) (directory : Location) (found : List Path) : Prop where
  sound : ∀ p ∈ found, ∃ q, t.locate p = .ok q ∧ t.IsSource directory q
  complete : ∀ q, t.IsSource directory q → ∃! p, p ∈ found ∧ t.locate p = .ok q
  manifests : ∀ p ∈ found, ∀ name, p.fileName? ≠ some (manifestName name)
  increasing : found.Pairwise fun p q => p.le q = true ∧ p.components ≠ q.components

theorem Enters.finds_sourcePaths (h : t.Enters base directory) (named : t.Named) :
    t.Finds directory ((t.sourcePaths base directory).mergeSort Path.le) where
  sound p hm := by
    rw [List.mem_mergeSort] at hm
    obtain ⟨way, hs, rfl⟩ := mem_sourcePaths_iff.1 hm
    exact ⟨_, h.locate_source named hs, hs⟩
  complete q hq := by
    obtain ⟨way, rfl⟩ := hq.exists_way
    refine ⟨pathBelow base way, ⟨List.mem_mergeSort.2 (mem_sourcePaths_iff.2 ⟨way, hq, rfl⟩),
      h.locate_source named hq⟩, ?_⟩
    rintro p ⟨hm, leads⟩
    obtain ⟨way', hs, rfl⟩ := mem_sourcePaths_iff.1 (List.mem_mergeSort.1 hm)
    rw [h.locate_source named hs] at leads
    rw [List.reverse_injective (List.append_cancel_right (Except.ok.inj leads))]
  manifests p hm name hf := by
    obtain ⟨way, hs, rfl⟩ := mem_sourcePaths_iff.1 (List.mem_mergeSort.1 hm)
    obtain ⟨_, hn⟩ := hs.file
    obtain ⟨init, last, bytes, rfl, source, -⟩ := hs.exists_concat
    have plain := named.isPlain hn
    have ends : (pathBelow base (init ++ [last])).Ends (base.stem ++ init) last := by
      refine ⟨?_, plain last (by simp)⟩
      rw [Path.pathBelow_eq h.isEmpty (isAbsolute_of_isPlain plain), List.append_assoc]
    rw [ends.fileName?, Option.some.injEq] at hf
    rw [hf, isSourceName_manifestName] at source
    cases source
  increasing := by
    have nodup := (List.mergeSort_perm _ Path.le).nodup_iff.2 (h.nodup_sourcePaths named)
    refine ((Path.pairwise_mergeSort _).and nodup).imp_of_mem fun hp hq ⟨le, hne⟩ => ⟨le, ?_⟩
    exact fun same => hne (h.eq_of_components named (List.mem_mergeSort.1 hp)
      (List.mem_mergeSort.1 hq) same)

end FileTree

/-! ## The files that are found -/

section

open FileTree

variable {t : FileTree} {directory : Location} {base p : Path} {text : String}

/-- The files that a search by a pattern finds: those among the paths that the pattern stands for,
in order. -/
def foundByPattern (t : FileTree) (text : String) : Option (List Path) :=
  (Glob.paths? t (Glob.sourcePattern text)).map fun found =>
    (found.filter t.isFile).mergeSort Path.le

theorem isFile_of_locate {q : Location} (h : t.locate p = .ok q) :
    t.isFile p = true ↔ ∃ bytes, t.node? q = some (.file bytes) := by
  rw [isFile, find?_of_locate h]
  rcases t.node? q with _ | _ | _ <;> simp

/-- Those of the named paths that lead to files are the paths of the sources. -/
theorem perm_sourcePaths (h : t.Enters base directory) (named : t.Named) :
    ((Glob.namedSources t base).filter t.isFile).Perm (t.sourcePaths base directory) := by
  refine (List.perm_ext_iff_of_nodup ((Glob.nodup_namedSources h named).filter _)
    (h.nodup_sourcePaths named)).2 fun p => ?_
  rw [List.mem_filter, Glob.mem_namedSources_iff h named, mem_sourcePaths_iff]
  constructor
  · rintro ⟨⟨way, name, n, hn, hs, rfl⟩, file⟩
    have hn' : t.node? ((way ++ [name]).reverse ++ directory) = some n := by
      rwa [List.reverse_concat]
    have leads := h.locate_pathBelow named (by simp) hn'
    exact ⟨way ++ [name], isSource_iff.2 ⟨by simp, (isFile_of_locate leads).1 file,
      by rwa [List.getLast?_concat]⟩, rfl⟩
  · rintro ⟨way, hs, rfl⟩
    have file := (isFile_of_locate (h.locate_source named hs)).2 hs.file
    obtain ⟨init, name, bytes, rfl, source, hn⟩ := hs.exists_concat
    exact ⟨⟨init, name, _, hn, source, rfl⟩, file⟩

theorem findGenerated_of_startsBlank (h : p.isEmpty = false) (blank : p.startsBlank = true) :
    findGenerated t p = [] := by
  rw [findGenerated, searchBase_of_startsBlank h blank]

/-- The search by a pattern finds the files that are found by going down the tree. -/
theorem foundByPattern_eq (named : t.Named) (h : t.Enters (.ofString text) directory) :
    foundByPattern t text = some (findGenerated t (.ofString text)) := by
  rw [foundByPattern, Glob.paths?_sourcePattern h]
  cases blank : (Path.ofString text).startsBlank with
  | true =>
    rw [findGenerated_of_startsBlank h.isEmpty blank, searchBase_of_startsBlank h.isEmpty blank]
    simp
  | false =>
    obtain ⟨base, hb, start⟩ := h.exists_searchBase (Path.pieces_ofString text).2 blank
    have perm := perm_sourcePaths start named
    rw [hb, findGenerated_eq hb start]
    simp only [Option.toList_some, List.flatMap_singleton, Option.map_some, Option.some.injEq]
    refine List.Perm.eq_of_pairwise (fun p q hp hq le ge => ?_) (Path.pairwise_mergeSort _)
      (Path.pairwise_mergeSort _) ?_
    · exact start.eq_of_components named (perm.mem_iff.1 (List.mem_mergeSort.1 hp))
        (List.mem_mergeSort.1 hq) (Component.listLe_antisymm le ge)
    · exact ((List.mergeSort_perm _ _).trans perm).trans (List.mergeSort_perm _ _).symm

theorem exists_enters (h : t.isDirectory p = true) : ∃ directory, t.Enters p directory := by
  obtain ⟨directory, hl, hd⟩ := exists_locate_of_find? (eq_of_beq h)
  exact ⟨directory, hl, hd⟩

/-- A search by the escaped path of a directory goes through the whole tree below it, and finds
each source there once and nothing else. Only a path that goes on with a slash behind the current
directory leads nowhere, so that nothing is found, whatever there is. -/
theorem finds_findGenerated_iff (named : t.Named)
    (isDirectory : t.isDirectory (.ofString text) = true) : ∃ directory,
    t.Enters (.ofString text) directory ∧
      foundByPattern t text = some (findGenerated t (.ofString text)) ∧
      ((Path.ofString text).startsBlank = true → findGenerated t (.ofString text) = []) ∧
      (t.Finds directory (findGenerated t (.ofString text)) ↔
        ((Path.ofString text).startsBlank = true → ∀ q, ¬ t.IsSource directory q)) := by
  obtain ⟨directory, h⟩ := exists_enters isDirectory
  refine ⟨directory, h, foundByPattern_eq named h, ?_⟩
  cases blank : (Path.ofString text).startsBlank with
  | true =>
    rw [findGenerated_of_startsBlank h.isEmpty blank]
    refine ⟨fun _ => rfl, fun finds _ q hq => ?_, fun none_ => ?_⟩
    · obtain ⟨p, ⟨hm, -⟩, -⟩ := finds.complete q hq
      cases hm
    · exact ⟨nofun, fun q hq => absurd hq (none_ rfl q), nofun, .nil⟩
  | false =>
    obtain ⟨base, hb, start⟩ := h.exists_searchBase (Path.pieces_ofString text).2 blank
    have finds := start.finds_sourcePaths named
    rw [← findGenerated_eq hb start] at finds
    exact ⟨nofun, fun _ => nofun, fun _ => finds⟩

end

/-! ## A directory with brackets in its name -/

def FileTree.bracketed : FileTree where
  home := []
  entries := [
    (["out[1]"], .directory),
    ([".kept", "out[1]"], .directory),
    (["B.kt", ".kept", "out[1]"], .file "".toUTF8),
    (["A.kt", "out[1]"], .file "".toUTF8),
    (["A.kt.manifest.json", "out[1]"], .file "".toUTF8)]
  distinct := by decide
  closed := by simp

section

open FileTree

theorem named_bracketed : bracketed.Named := by decide

theorem findGenerated_bracketed : findGenerated .bracketed (.ofString "./out[1]") =
    [.ofString "out[1]/.kept/B.kt", .ofString "out[1]/A.kt"] := by
  have sorted : findGenerated .bracketed (.ofString "./out[1]") =
      [.ofString "out[1]/.kept/B.kt", .ofString "out[1]/A.kt"].mergeSort Path.le := rfl
  rw [sorted]
  exact List.mergeSort_of_pairwise (by decide)

theorem finds_findGenerated_bracketed : ∃ found,
    found = [.ofString "out[1]/.kept/B.kt", .ofString "out[1]/A.kt"] ∧
      foundByPattern bracketed "./out[1]" = some found ∧ bracketed.Finds ["out[1]"] found := by
  obtain ⟨directory, h, pattern, -, finds⟩ := finds_findGenerated_iff named_bracketed
    (rfl : bracketed.isDirectory (.ofString "./out[1]") = true)
  obtain rfl : directory = ["out[1]"] := eq_place_of_locate h.locate
  exact ⟨_, findGenerated_bracketed, pattern, finds.2 nofun⟩

/-- Behind a dot and two slashes none of the sources is found. -/
theorem not_forall_finds : ¬ ∀ (t : FileTree) (text : String), t.Named →
    t.isDirectory (.ofString text) = true → ∃ directory, t.Enters (.ofString text) directory ∧
      t.Finds directory (findGenerated t (.ofString text)) := by
  intro h
  obtain ⟨directory, enters, finds⟩ := h bracketed ".//out[1]" named_bracketed rfl
  obtain rfl : directory = ["out[1]"] := eq_place_of_locate enters.locate
  have source : bracketed.IsSource ["out[1]"] ["A.kt", "out[1]"] :=
    ⟨⟨_, rfl⟩, List.suffix_refl _, by decide⟩
  obtain ⟨p, ⟨hm, -⟩, -⟩ := finds.complete _ source
  rw [findGenerated_of_startsBlank enters.isEmpty rfl] at hm
  cases hm

end

end PageAccessors
