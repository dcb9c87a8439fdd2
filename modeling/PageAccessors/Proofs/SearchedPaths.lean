import PageAccessors.Output
import PageAccessors.Proofs.Verification

/-!
# Searching a directory

A search goes to its directory along the pieces of a path, and shows it by a path that leads there
too (`Enters.exists_searchBase`). The current directory is not shown in front of what is below it,
so that a path that goes on with a slash there has nothing to go on from, and the search ends
(`searchBase_of_startsBlank`).

What lies below a directory is led to by the path of the directory with the way down behind it
(`Enters.locate_pathBelow`), and no two ways down have one path (`Enters.pathBelow_inj`).
-/

namespace PageAccessors

namespace Path

/-- The pieces of a path without a slash at its end. -/
def unslashed (p : Path) : List String :=
  if p.pieces.getLast? = some "" then p.pieces.dropLast else p.pieces

/-- The pieces that a directory is shown by in front of what is below it. -/
def stem (shown : Path) : List String := if shown = here then [] else shown.unslashed

/-- Where the search for a directory starts, and the pieces on the way to it. -/
def searchStart (p : Path) : Path × List String :=
  if p.isAbsolute then (root, p.unslashed.drop 1) else (here, p.unslashed)

/-- Whether a path goes on with a slash where it names the current directory only, as `.//a`
does. -/
def startsBlank (p : Path) : Bool :=
  !p.isAbsolute && (p.unslashed.dropWhile (· = ".")).head? = some ""

variable {p q shown : Path} {way : List String}

theorem isAbsolute_cons {first : String} {rest : List String}
    (h : (Path.mk (first :: rest)).isEmpty = false) :
    (Path.mk (first :: rest)).isAbsolute = decide (first = "") := by
  cases rest with
  | nil =>
    have hf : first ≠ "" := by
      rintro rfl
      cases h
    rw [isAbsolute_singleton, decide_eq_false hf]
  | cons second rest => exact isAbsolute_cons_cons first second rest

theorem join_eq (hp : p.isEmpty = false) (hq : q.isAbsolute = false) :
    p.join q = ⟨p.unslashed ++ q.pieces⟩ := by
  rw [join, unslashed, hp, hq]
  split_ifs <;> simp_all

theorem exists_unslashed_append (h : p.isEmpty = false) : ∃ first rest slashes,
    p.unslashed = first :: rest ∧ p.pieces = first :: (rest ++ slashes) ∧
      p.isAbsolute = decide (first = "") ∧
      ∀ piece ∈ slashes, Component.ofPiece? piece = none := by
  obtain ⟨pieces⟩ := p
  rw [unslashed]
  split_ifs with hl
  · obtain ⟨init, rfl⟩ := List.getLast?_eq_some_iff.1 hl
    rw [List.dropLast_concat]
    cases init with
    | nil => cases h
    | cons first rest => exact ⟨first, rest, [""], rfl, rfl, isAbsolute_cons h, by decide⟩
  · cases pieces with
    | nil => cases h
    | cons first rest => exact ⟨first, rest, [], rfl, by simp, isAbsolute_cons h, by simp⟩

theorem pathBelow_eq (hs : shown.isEmpty = false) (hw : (Path.mk way).isAbsolute = false) :
    pathBelow shown way = ⟨shown.stem ++ way⟩ := by
  rw [pathBelow, stem, join_eq hs hw]
  split_ifs <;> rfl

theorem pathBelow_eq_here_iff {piece : String} (hs : shown.isEmpty = false) :
    pathBelow shown [piece] = here ↔ shown = here ∧ piece = "." := by
  rw [pathBelow_eq hs (isAbsolute_singleton piece), stem]
  split_ifs with hh
  · simp [here, hh]
  · obtain ⟨first, rest, -, he, -⟩ := exists_unslashed_append hs
    exact iff_of_false (by simp [here, he]) fun h => hh h.1

end Path

namespace FileTree

/-- A path leads to a directory. -/
structure Enters (t : FileTree) (shown : Path) (place : Location) : Prop where
  locate : t.locate shown = .ok place
  directory : t.node? place = some .directory

variable {t : FileTree} {shown p : Path} {place next directory : Location} {piece : String}
  {pieces way : List String}

/-- Some pieces lead from a place to a directory, as pieces of a path. -/
structure Leads (t : FileTree) (place : Location) (pieces : List String) (directory : Location) :
    Prop where
  walk : t.walk place pieces = .ok directory
  directory : t.node? directory = some .directory
  zero : ∀ piece ∈ pieces, '\x00' ∉ piece.toList
  slash : ∀ piece ∈ pieces, '/' ∉ piece.toList

/-- Each of the pieces leads to a directory, from which the others lead on. -/
theorem Leads.exists_next (h : t.Leads place (piece :: pieces) directory) : ∃ next,
    t.Leads place [piece] next ∧ t.Leads next pieces directory := by
  obtain ⟨hp, hl, hw⟩ := walk_cons.1 h.walk
  have hd : t.node? (place.along piece) = some .directory := by
    cases pieces with
    | nil =>
      rw [Except.ok.inj hw]
      exact h.directory
    | cons _ _ => exact (walk_cons.1 hw).1
  obtain ⟨zero, zeros⟩ := List.forall_mem_cons.1 h.zero
  obtain ⟨slash, slashes⟩ := List.forall_mem_cons.1 h.slash
  exact ⟨place.along piece, ⟨walk_cons.2 ⟨hp, hl, rfl⟩, hd, List.forall_mem_singleton.2 zero,
    List.forall_mem_singleton.2 slash⟩, hw, h.directory, zeros, slashes⟩

namespace Enters

theorem isEmpty (h : t.Enters shown place) : shown.isEmpty = false :=
  (locate_eq_ok_iff.1 h.locate).1.2

theorem isDirectory (h : t.Enters shown place) : t.isDirectory shown = true := by
  rw [FileTree.isDirectory, find?_of_locate h.locate, h.directory]
  rfl

theorem eq_home (h : t.Enters .here place) : place = t.home := eq_place_of_locate h.locate

theorem walk_unslashed (h : t.Enters shown place) :
    t.walk (shown.origin t.home) shown.unslashed = .ok place := by
  obtain ⟨⟨-, hs⟩, hw⟩ := locate_eq_ok_iff.1 h.locate
  obtain ⟨first, rest, slashes, he, hp, -, nothing⟩ := Path.exists_unslashed_append hs
  rw [hp, ← List.cons_append, ← he, walk_append] at hw
  obtain ⟨between, hb, hr⟩ := hw
  rw [eq_of_walk hr, foldl_along_of_nothing _ nothing, hb]

/-- What can be reached from a directory is shown behind its path. -/
theorem locate_below (h : t.Enters shown place) (hw : t.walk place way = .ok next) (hn : way ≠ [])
    (zero : ∀ piece ∈ way, '\x00' ∉ piece.toList) (hh : shown = .here → way.head? ≠ some "") :
    t.locate ⟨shown.stem ++ way⟩ = .ok next := by
  obtain ⟨piece, more, rfl⟩ := List.exists_cons_of_ne_nil hn
  by_cases here : shown = .here
  · subst here
    have hf : piece ≠ "" := by simpa using hh rfl
    rw [h.eq_home] at hw
    refine locate_eq_ok_iff.2 ⟨⟨zero, ?_⟩, ?_⟩
    · simp [Path.stem, Path.isEmpty, String.isEmpty_iff, hf]
    · rw [Path.stem, if_pos rfl, List.nil_append, Path.origin, Path.isAbsolute_cons_of_ne hf,
        if_neg Bool.false_ne_true]
      exact hw
  · obtain ⟨first, rest, slashes, he, hp, absolute, -⟩ := Path.exists_unslashed_append h.isEmpty
    have some : (Path.mk (shown.unslashed ++ piece :: more)).isEmpty = false := by
      simp [he, Path.isEmpty]
    have origin : (Path.mk (shown.unslashed ++ piece :: more)).origin t.home =
        shown.origin t.home := by
      rw [he, List.cons_append] at some ⊢
      rw [Path.origin, Path.origin, absolute, Path.isAbsolute_cons some]
    rw [Path.stem, if_neg here]
    refine locate_eq_ok_iff.2 ⟨⟨?_, some⟩, ?_⟩
    · rw [List.forall_mem_append]
      refine ⟨fun piece hm => (locate_eq_ok_iff.1 h.locate).1.1 piece ?_, zero⟩
      rw [hp, ← List.cons_append, ← he]
      exact List.mem_append_left _ hm
    · rw [origin, walk_append]
      exact ⟨place, h.walk_unslashed, hw⟩

theorem below (h : t.Enters shown place) (on : t.Leads place [piece] next)
    (hb : shown = .here → piece ≠ "") : t.Enters (pathBelow shown [piece]) next := by
  refine ⟨?_, on.directory⟩
  rw [Path.pathBelow_eq h.isEmpty (Path.isAbsolute_singleton piece)]
  exact h.locate_below on.walk (List.cons_ne_nil _ _) on.zero (by simpa using hb)

/-- The search goes on where a path goes on. -/
theorem searchStep (h : t.Enters shown place) (on : t.Leads place [piece] next)
    (hb : shown = .here → piece ≠ "") :
    searchStep t shown piece = some (pathBelow shown [piece]) := by
  have found : (t.find? (pathBelow shown [piece])).isSome = true := by
    rw [find?_of_locate (h.below on hb).locate, on.directory]
    rfl
  rw [PageAccessors.searchStep, Path.ofString_eq_mk (on.slash piece (.head _))]
  by_cases dots : piece = "." ∨ piece = ".."
  · simp only [dots, if_true, h.isDirectory]
    rfl
  · simp only [dots, if_false]
    exact if_pos found

end Enters

/-- Behind the current directory, which is not shown, there is no path for a piece without a
name. -/
theorem searchStep_blank (t : FileTree) : searchStep t .here "" = none := by
  have unlocated : t.find? (.ofString "") = none := by
    rw [find?, locate, start, if_neg (by decide), if_pos (by decide)]
    rfl
  have named : ¬ ("" = "." ∨ "" = "..") := by decide
  rw [searchStep]
  simp only [if_true, named, if_false, unlocated, Option.isSome_none, Bool.false_eq_true]

/-! ## The directory that is searched -/

theorem foldlM_searchStep_blank (t : FileTree) : ∀ {pieces : List String},
    (pieces.dropWhile (· = ".")).head? = some "" → pieces.foldlM (searchStep t) .here = none
  | [], h => by cases h
  | piece :: pieces, h => by
    rw [List.foldlM_cons]
    by_cases dot : piece = "."
    · subst dot
      rw [List.dropWhile_cons_of_pos (by decide)] at h
      have shown : searchStep t .here "." = if t.isDirectory .here then some .here else none := rfl
      rw [shown]
      split_ifs
      · exact foldlM_searchStep_blank t h
      · rfl
    · rw [List.dropWhile_cons_of_neg (by simpa using dot)] at h
      obtain rfl : piece = "" := Option.some.inj h
      rw [searchStep_blank]
      rfl

theorem Enters.exists_foldlM_searchStep : ∀ {pieces : List String} {shown : Path}
    {place : Location}, t.Enters shown place → t.Leads place pieces directory →
    (shown = .here → (pieces.dropWhile (· = ".")).head? ≠ some "") →
    ∃ base, pieces.foldlM (PageAccessors.searchStep t) shown = some base ∧ t.Enters base directory
  | [], shown, place, h, way, _ => by
    obtain rfl := Except.ok.inj way.walk
    exact ⟨shown, rfl, h⟩
  | piece :: pieces, shown, place, h, way, hb => by
    obtain ⟨next, on, rest⟩ := way.exists_next
    have named : shown = .here → piece ≠ "" := by
      rintro hh rfl
      exact hb hh rfl
    rw [List.foldlM_cons, h.searchStep on named]
    refine (h.below on named).exists_foldlM_searchStep rest fun hh => ?_
    obtain ⟨start, rfl⟩ := (Path.pathBelow_eq_here_iff h.isEmpty).1 hh
    exact hb start

theorem searchBase_eq (h : p.isEmpty = false) :
    searchBase t p = p.searchStart.2.foldlM (searchStep t) p.searchStart.1 := by
  have star : Path.ofString "*" = ⟨["*"]⟩ := Path.ofString_eq_mk (by decide)
  rw [searchBase, star, Path.join_eq h (Path.isAbsolute_singleton _), List.dropLast_concat,
    Path.searchStart]
  split_ifs <;> rfl

theorem searchBase_of_startsBlank (h : p.isEmpty = false) (hb : p.startsBlank = true) :
    searchBase t p = none := by
  rw [Path.startsBlank, Bool.and_eq_true, Bool.not_eq_true', decide_eq_true_eq] at hb
  rw [searchBase_eq h, Path.searchStart, hb.1, if_neg Bool.false_ne_true]
  exact foldlM_searchStep_blank t hb.2

theorem enters_root (t : FileTree) : t.Enters .root [] := ⟨rfl, rfl⟩

theorem enters_here (h : t.node? t.home = some .directory) : t.Enters .here t.home :=
  ⟨locate_eq_ok_iff.2 ⟨by decide, walk_cons.2 ⟨h, by decide, rfl⟩⟩, h⟩

/-- The way from the start of the search is the rest of the way along the path. -/
theorem Enters.exists_searchStart (h : t.Enters p directory)
    (slash : ∀ piece ∈ p.pieces, '/' ∉ piece.toList) : ∃ place,
    t.Enters p.searchStart.1 place ∧ t.Leads place p.searchStart.2 directory := by
  obtain ⟨first, rest, slashes, he, hp, absolute, -⟩ := Path.exists_unslashed_append h.isEmpty
  have hw := h.walk_unslashed
  have zero := (locate_eq_ok_iff.1 h.locate).1.1
  rw [hp, ← List.cons_append, List.forall_mem_append] at zero slash
  rw [Path.origin, absolute, he] at hw
  rw [Path.searchStart, absolute, he]
  by_cases hf : first = ""
  · subst hf
    exact ⟨[], t.enters_root, (walk_cons.1 hw).2.2, h.directory,
      (List.forall_mem_cons.1 zero.1).2, (List.forall_mem_cons.1 slash.1).2⟩
  · simp only [hf, decide_false, Bool.false_eq_true, if_false] at hw ⊢
    exact ⟨t.home, enters_here (walk_cons.1 hw).1, hw, h.directory, zero.1, slash.1⟩

/-- A directory is searched from a path that leads to it. -/
theorem Enters.exists_searchBase (h : t.Enters p directory)
    (slash : ∀ piece ∈ p.pieces, '/' ∉ piece.toList) (hb : p.startsBlank = false) :
    ∃ base, searchBase t p = some base ∧ t.Enters base directory := by
  obtain ⟨place, start, way⟩ := h.exists_searchStart slash
  rw [searchBase_eq h.isEmpty]
  refine start.exists_foldlM_searchStep way ?_
  intro here blank
  rw [Path.searchStart] at here blank
  rw [Path.startsBlank] at hb
  cases absolute : p.isAbsolute with
  | true =>
    rw [absolute, if_pos rfl] at here
    exact absurd here (by decide : Path.root ≠ .here)
  | false =>
    rw [absolute, if_neg Bool.false_ne_true] at blank
    rw [absolute, blank] at hb
    cases hb

/-! ## What lies below a directory -/

/-- A tree with names that files can have. -/
def Named (t : FileTree) : Prop := ∀ e ∈ t.entries, IsPlace e.1

instance (t : FileTree) : Decidable t.Named :=
  inferInstanceAs (Decidable (∀ e ∈ t.entries, IsPlace e.1))

variable {q : Location} {base : Path} {n : Node}

theorem Named.isPlace (named : t.Named) (h : t.node? q = some n) : IsPlace q := by
  by_cases hq : q = []
  · rw [hq]
    exact List.forall_mem_nil _
  · exact named _ ((node?_eq_some_iff hq).1 h)

theorem wayDown?_eq_some_iff : wayDown? directory q = some way ↔ q = way.reverse ++ directory := by
  rw [wayDown?]
  split_ifs with h
  · obtain ⟨front, rfl⟩ := h
    rw [Option.some.injEq, List.length_append, Nat.add_sub_cancel, List.take_left,
      List.append_cancel_right_eq, List.reverse_eq_iff]
  · refine iff_of_false nofun ?_
    rintro rfl
    exact h (List.suffix_append _ _)

theorem below_eq (t : FileTree) (directory : Location) : t.below directory =
    t.entries.filterMap fun e => ((wayDown? directory e.1).filter (· ≠ [])).map (·, e.2) := by
  refine List.filterMap_congr fun e _ => ?_
  obtain ⟨place, node⟩ := e
  dsimp only
  rcases wayDown? directory place with _ | _ | _ <;> rfl

theorem below_entry_iff {e : Location × Node} {a : List String × Node} :
    ((wayDown? directory e.1).filter (· ≠ [])).map (·, e.2) = some a ↔
      a.1 ≠ [] ∧ e = (a.1.reverse ++ directory, a.2) := by
  simp only [Option.map_eq_some_iff, Option.filter_eq_some_iff, wayDown?_eq_some_iff,
    decide_eq_true_eq]
  constructor
  · rintro ⟨way, ⟨he, hne⟩, rfl⟩
    exact ⟨hne, Prod.ext he rfl⟩
  · rintro ⟨hne, rfl⟩
    exact ⟨a.1, ⟨rfl, hne⟩, rfl⟩

theorem mem_below_iff : (way, n) ∈ t.below directory ↔
    way ≠ [] ∧ t.node? (way.reverse ++ directory) = some n := by
  rw [below_eq, List.mem_filterMap]
  simp only [below_entry_iff]
  constructor
  · rintro ⟨_, hm, hne, rfl⟩
    exact ⟨hne, (node?_eq_some_iff (by simp [hne])).2 hm⟩
  · rintro ⟨hne, hn⟩
    exact ⟨_, (node?_eq_some_iff (by simp [hne])).1 hn, hne, rfl⟩

/-- Nothing lies below a directory twice. -/
theorem pairwise_below (t : FileTree) (directory : Location) :
    (t.below directory).Pairwise fun a b => a.1 ≠ b.1 := by
  rw [below_eq, List.pairwise_filterMap]
  refine (List.pairwise_map.1 t.distinct).imp fun {e e'} hne a ha b hb same => hne ?_
  rw [(below_entry_iff.1 ha).2, (below_entry_iff.1 hb).2, same]

/-- What tells the ways down apart comes once for each of them. -/
theorem nodup_map_below {α : Type} {keep : List String × Node → Bool} {f : List String × Node → α}
    (h : ∀ a ∈ (t.below directory).filter keep, ∀ b ∈ (t.below directory).filter keep,
      f a = f b → a.1 = b.1) : (((t.below directory).filter keep).map f).Nodup := by
  rw [List.Nodup, List.pairwise_map]
  refine ((t.pairwise_below directory).filter keep).imp_of_mem fun ha hb hne same => hne ?_
  exact h _ ha _ hb same

/-! ## Paths behind a directory -/

/-- The path of what is at the end of a way down, which may be the directory itself. -/
def pathAlong (base : Path) (way : List String) : Path :=
  if way = [] then base else pathBelow base way

theorem Named.isPlain (named : t.Named) (hn : t.node? (way.reverse ++ directory) = some n) :
    ∀ name ∈ way, IsPlain name := by
  intro name hm
  exact (named.isPlace hn name (List.mem_append_left _ (List.mem_reverse.2 hm))).1

theorem isAbsolute_of_isPlain (plain : ∀ name ∈ way, IsPlain name) :
    (Path.mk way).isAbsolute = false := by
  cases way with
  | nil => rfl
  | cons name rest => exact Path.isAbsolute_cons_of_ne (plain name (.head _)).ne_empty rest

namespace Enters

variable (h : t.Enters base directory) (named : t.Named)

include h named

/-- A path is shown for each place below a directory. -/
theorem locate_pathBelow (hw : way ≠ []) (hn : t.node? (way.reverse ++ directory) = some n) :
    t.locate (pathBelow base way) = .ok (way.reverse ++ directory) := by
  have plain := named.isPlain hn
  have hq : IsPlace way.reverse := fun name hm => named.isPlace hn name (List.mem_append_left _ hm)
  have walk := t.walk_reverse hq hn
  rw [List.reverse_reverse] at walk
  rw [Path.pathBelow_eq h.isEmpty (isAbsolute_of_isPlain plain)]
  refine h.locate_below walk hw (fun name hm => (plain name hm).zero) fun _ => ?_
  intro he
  exact (plain _ (List.mem_of_head? he)).ne_empty rfl

theorem pathBelow_inj {a b : List String × Node} (ha : a ∈ t.below directory)
    (hb : b ∈ t.below directory) (same : pathBelow base a.1 = pathBelow base b.1) : a.1 = b.1 := by
  obtain ⟨hna, hva⟩ := mem_below_iff.1 ha
  obtain ⟨hnb, hvb⟩ := mem_below_iff.1 hb
  have la := h.locate_pathBelow named hna hva
  rw [same, h.locate_pathBelow named hnb hvb] at la
  exact List.reverse_injective (List.append_cancel_right (Except.ok.inj la)).symm

theorem along (hn : t.node? (way.reverse ++ directory) = some .directory) :
    t.Enters (pathAlong base way) (way.reverse ++ directory) := by
  rw [pathAlong]
  split_ifs with hw
  · subst hw
    exact h
  · exact ⟨h.locate_pathBelow named hw hn, hn⟩

theorem pathBelow_pathAlong {name : String}
    (hn : t.node? (name :: (way.reverse ++ directory)) = some n) :
    pathBelow (pathAlong base way) [name] = pathBelow base (way ++ [name]) := by
  rcases List.eq_nil_or_concat way with rfl | ⟨init, last, rfl⟩
  · rfl
  rw [List.concat_eq_append] at hn ⊢
  have hd := node?_tail hn
  have plain := named.isPlain hd
  have hl := plain last (by simp)
  have along := h.along named hd
  have he : pathAlong base (init ++ [last]) = ⟨base.stem ++ init ++ [last]⟩ := by
    rw [pathAlong, if_neg (by simp), Path.pathBelow_eq h.isEmpty (isAbsolute_of_isPlain plain),
      List.append_assoc]
  -- What is below the base is neither the current directory nor does it end with a slash.
  have named' : pathAlong base (init ++ [last]) ≠ .here := by
    intro here
    have ends := congrArg (·.pieces.getLast?) (he.symm.trans here)
    simp only [List.getLast?_concat] at ends
    exact hl.ne_here (Option.some.inj ends)
  have stem : (pathAlong base (init ++ [last])).stem = base.stem ++ (init ++ [last]) := by
    rw [Path.stem, if_neg named', Path.unslashed, he, List.getLast?_concat,
      if_neg fun e => hl.ne_empty (Option.some.inj e), List.append_assoc]
  have below : t.node? ((init ++ [last] ++ [name]).reverse ++ directory) = some n := by
    simpa using hn
  rw [Path.pathBelow_eq along.isEmpty (Path.isAbsolute_singleton name), stem,
    Path.pathBelow_eq h.isEmpty (isAbsolute_of_isPlain (named.isPlain below)), List.append_assoc]

end Enters

end FileTree

end PageAccessors
