import Mathlib.Data.List.TakeWhile
import Mathlib.Tactic.SplitIfs
import PageAccessors.Manifest
import PageAccessors.Proofs.Steps

/-!
# The places of paths

Which place a path names can be said from its pieces alone (`Path.place`), and following the path
in a tree never leads anywhere else (`locate_eq_ok_iff`): the tree only decides whether it can be
followed. So two trees of one home agree on places.

A path that ends with a proper name names a place in the directory that the rest of the path names,
its manifest is a name in the same directory (`place_manifest`), and its manifest can be reached
when it can be, unless the name gets too long (`locate_manifest`).
-/

namespace PageAccessors

/-- The place one piece further. -/
def Location.along (place : Location) (piece : String) : Location :=
  if piece = "" ∨ piece = "." then place else if piece = ".." then place.tail else piece :: place

/-- Where a path starts. -/
def Path.origin (p : Path) (home : Location) : Location := if p.isAbsolute then [] else home

/-- The place that a path names, if it can be followed. -/
def Path.place (p : Path) (home : Location) : Location :=
  p.pieces.foldl Location.along (p.origin home)

theorem Path.ofString_eq_mk {piece : String} (slash : '/' ∉ piece.toList) :
    ofString piece = ⟨[piece]⟩ := by
  rw [ofString, List.splitOn_eq_singleton slash]
  simp

theorem Path.isAbsolute_singleton (piece : String) : (Path.mk [piece]).isAbsolute = false := by
  unfold isAbsolute
  split
  · simp_all
  · rfl

theorem Path.isAbsolute_cons_cons (first second : String) (rest : List String) :
    (Path.mk (first :: second :: rest)).isAbsolute = decide (first = "") := by
  unfold isAbsolute
  split <;> simp_all

theorem Path.isAbsolute_cons_of_ne {first : String} (h : first ≠ "") (rest : List String) :
    (Path.mk (first :: rest)).isAbsolute = false := by
  unfold isAbsolute
  split
  · simp_all
  · rfl

/-- A name that is one: no slash is in it, and it is none of the special names. -/
structure IsPlain (name : String) : Prop where
  ne_empty : name ≠ ""
  ne_here : name ≠ "."
  ne_up : name ≠ ".."
  slash : '/' ∉ name.toList
  zero : '\x00' ∉ name.toList

instance (name : String) : Decidable (IsPlain name) :=
  decidable_of_iff (name ≠ "" ∧ name ≠ "." ∧ name ≠ ".." ∧ '/' ∉ name.toList ∧ '\x00' ∉ name.toList)
    ⟨fun h => ⟨h.1, h.2.1, h.2.2.1, h.2.2.2.1, h.2.2.2.2⟩,
      fun h => ⟨h.ne_empty, h.ne_here, h.ne_up, h.slash, h.zero⟩⟩

theorem IsPlain.along {name : String} (h : IsPlain name) (place : Location) :
    place.along name = name :: place := by
  rw [Location.along, if_neg (not_or.2 ⟨h.ne_empty, h.ne_here⟩), if_neg h.ne_up]

theorem IsPlain.ofPiece? {name : String} (h : IsPlain name) :
    Component.ofPiece? name = some (.name name) := by
  unfold Component.ofPiece?
  split
  · exact absurd rfl h.ne_empty
  · exact absurd rfl h.ne_here
  · exact absurd rfl h.ne_up
  · rfl

theorem ofPiece?_eq_none_iff {piece : String} :
    Component.ofPiece? piece = none ↔ piece = "" ∨ piece = "." := by
  unfold Component.ofPiece?
  split <;> simp_all

theorem foldl_along_of_nothing : ∀ {pieces : List String} (place : Location),
    (∀ piece ∈ pieces, Component.ofPiece? piece = none) →
    pieces.foldl Location.along place = place
  | [], _, _ => rfl
  | piece :: pieces, place, h => by
    rw [List.forall_mem_cons] at h
    rw [List.foldl_cons, Location.along, if_pos (ofPiece?_eq_none_iff.1 h.1)]
    exact foldl_along_of_nothing place h.2

theorem exists_dropNothing_append : ∀ pieces : List String, ∃ dropped,
    pieces = Path.dropNothing pieces ++ dropped ∧
      ∀ piece ∈ dropped, Component.ofPiece? piece = none
  | [] => ⟨[], rfl, by simp⟩
  | first :: rest => by
    refine ⟨(rest.reverse.takeWhile fun piece => (Component.ofPiece? piece).isNone).reverse, ?_, ?_⟩
    · rw [Path.dropNothing, List.cons_append, ← List.reverse_append,
        List.takeWhile_append_dropWhile, List.reverse_reverse]
    · intro piece hm
      rw [List.mem_reverse] at hm
      simpa using List.mem_takeWhile_imp hm

/-- The slashes at the end of a path lead nowhere. -/
theorem exists_dropWhile_append (pieces : List String) : ∃ slashes,
    pieces = (pieces.reverse.dropWhile (·.isEmpty)).reverse ++ slashes ∧
      ∀ piece ∈ slashes, Component.ofPiece? piece = none := by
  refine ⟨(pieces.reverse.takeWhile (·.isEmpty)).reverse, ?_, fun piece hm => ?_⟩
  · rw [← List.reverse_append, List.takeWhile_append_dropWhile, List.reverse_reverse]
  · rw [List.mem_reverse] at hm
    exact ofPiece?_eq_none_iff.2 (.inl (by simpa using List.mem_takeWhile_imp hm))

theorem foldl_along_dropNothing (pieces : List String) (place : Location) :
    (Path.dropNothing pieces).foldl Location.along place = pieces.foldl Location.along place := by
  obtain ⟨dropped, he, hn⟩ := exists_dropNothing_append pieces
  conv =>
    rhs
    rw [he, List.foldl_append, foldl_along_of_nothing _ hn]

/-! ## Following paths -/

namespace FileTree

variable {t t' : FileTree} {place next : Location}

theorem step_eq_ok_iff {piece : String} : t.step place piece = .ok next ↔
    t.node? place = some .directory ∧ piece.utf8ByteSize ≤ 255 ∧ next = place.along piece := by
  unfold step
  split
  · simp_all
  · simp_all
  · rename_i hd
    rw [Location.along]
    split_ifs with h1 h2 h3
    · have : piece.utf8ByteSize ≤ 255 := by rcases h1 with rfl | rfl <;> decide
      simp [hd, this, eq_comm]
    · have : piece.utf8ByteSize ≤ 255 := by rw [h2]; decide
      simp [hd, this, eq_comm]
    · simp only [hd, true_and, false_iff, not_and]
      omega
    · simp only [Except.ok.injEq, hd, true_and]
      constructor
      · rintro rfl
        exact ⟨by omega, rfl⟩
      · rintro ⟨-, rfl⟩
        rfl

theorem walk_cons {piece : String} {pieces : List String} :
    t.walk place (piece :: pieces) = .ok next ↔
      t.node? place = some .directory ∧ piece.utf8ByteSize ≤ 255 ∧
        t.walk (place.along piece) pieces = .ok next := by
  rw [walk, List.foldlM_cons, Except.bind_eq_ok_iff]
  simp only [step_eq_ok_iff]
  constructor
  · rintro ⟨_, ⟨hd, hl, rfl⟩, hw⟩
    exact ⟨hd, hl, hw⟩
  · rintro ⟨hd, hl, hw⟩
    exact ⟨_, ⟨hd, hl, rfl⟩, hw⟩

theorem walk_append {front rest : List String} : t.walk place (front ++ rest) = .ok next ↔
    ∃ between, t.walk place front = .ok between ∧ t.walk between rest = .ok next := by
  rw [walk, List.foldlM_append, Except.bind_eq_ok_iff]
  rfl

theorem eq_of_walk : ∀ {pieces : List String} {place : Location},
    t.walk place pieces = .ok next → next = pieces.foldl Location.along place
  | [], _, h => (Except.ok.inj h).symm
  | _ :: _, _, h => by
    rw [List.foldl_cons]
    exact eq_of_walk (walk_cons.1 h).2.2

/-- A way that can be followed can be followed where the directories are the same or more. -/
theorem walk_mono
    (h : ∀ place, t.node? place = some .directory → t'.node? place = some .directory) :
    ∀ {pieces : List String} {place : Location}, t.walk place pieces = .ok next →
    t'.walk place pieces = .ok next
  | [], _, hw => hw
  | _ :: _, _, hw => by
    obtain ⟨hd, hl, hw⟩ := walk_cons.1 hw
    exact walk_cons.2 ⟨h _ hd, hl, walk_mono h hw⟩

theorem walk_dropNothing {pieces : List String} (h : t.walk place pieces = .ok next) :
    t.walk place (Path.dropNothing pieces) = .ok next := by
  obtain ⟨dropped, he, hn⟩ := exists_dropNothing_append pieces
  rw [he, walk_append] at h
  obtain ⟨between, hw, hr⟩ := h
  rw [eq_of_walk hr, foldl_along_of_nothing between hn]
  exact hw

theorem start_eq_ok_iff {p : Path} : t.start p = .ok place ↔
    (∀ piece ∈ p.pieces, '\x00' ∉ piece.toList) ∧ p.isEmpty = false ∧ place = p.origin t.home := by
  have hz : p.pieces.any (·.toList.contains '\x00') = true ↔
      ¬ ∀ piece ∈ p.pieces, '\x00' ∉ piece.toList := by
    simp
  unfold start
  by_cases h : ∀ piece ∈ p.pieces, '\x00' ∉ piece.toList
  · rw [if_neg (fun hc => hz.1 hc h)]
    cases he : p.isEmpty with
    | true => simp
    | false =>
      rw [if_neg (by decide), Except.ok.injEq, and_iff_right h, and_iff_right rfl]
      exact eq_comm
  · rw [if_pos (hz.2 h)]
    simp [h]

theorem locate_eq_ok_iff {p : Path} : t.locate p = .ok place ↔
    ((∀ piece ∈ p.pieces, '\x00' ∉ piece.toList) ∧ p.isEmpty = false) ∧
      t.walk (p.origin t.home) p.pieces = .ok place := by
  rw [locate, Except.bind_eq_ok_iff]
  simp only [start_eq_ok_iff]
  constructor
  · rintro ⟨_, ⟨hz, he, rfl⟩, hw⟩
    exact ⟨⟨hz, he⟩, hw⟩
  · rintro ⟨⟨hz, he⟩, hw⟩
    exact ⟨_, ⟨hz, he, rfl⟩, hw⟩

theorem locate_mono {p : Path} (home : t'.home = t.home)
    (h : ∀ place, t.node? place = some .directory → t'.node? place = some .directory)
    (hl : t.locate p = .ok place) : t'.locate p = .ok place := by
  rw [locate_eq_ok_iff] at hl ⊢
  rw [home]
  exact ⟨hl.1, walk_mono h hl.2⟩

/-- A path that can be followed leads to its place. -/
theorem eq_place_of_locate {p : Path} (h : t.locate p = .ok place) : place = p.place t.home :=
  eq_of_walk (locate_eq_ok_iff.1 h).2

end FileTree

/-! ## Paths that end with a name -/

/-- The name of the manifest of a file. -/
def manifestName (name : String) : String := name ++ ".manifest.json"

theorem toList_manifestName (name : String) :
    (manifestName name).toList = name.toList ++ ".manifest.json".toList :=
  String.toList_append

theorem IsPlain.manifestName {name : String} (h : IsPlain name) : IsPlain (manifestName name) := by
  have length : 2 < (PageAccessors.manifestName name).toList.length := by
    rw [toList_manifestName, List.length_append]
    exact Nat.lt_of_lt_of_le (by decide) (Nat.le_add_left _ _)
  refine ⟨?_, ?_, ?_, ?_, ?_⟩
  · intro he
    rw [he] at length
    exact absurd length (by decide)
  · intro he
    rw [he] at length
    exact absurd length (by decide)
  · intro he
    rw [he] at length
    exact absurd length (by decide)
  · rw [toList_manifestName, List.mem_append, not_or]
    exact ⟨h.slash, by decide⟩
  · rw [toList_manifestName, List.mem_append, not_or]
    exact ⟨h.zero, by decide⟩

/-- The path of a directory with some pieces. -/
def Path.directoryOf : List String → Path
  | [] => empty
  | [""] => root
  | pieces => ⟨pieces⟩

/-- The directory in which a file for a path is staged. -/
def Path.stageDirectory (p : Path) : Path :=
  match p.parent? with
  | some parent => if parent.isEmpty then here else parent
  | none => here

/-- A path ends with a name, behind other pieces. -/
structure Path.Ends (p : Path) (front : List String) (name : String) : Prop where
  pieces : p.pieces = front ++ [name]
  plain : IsPlain name

namespace Path.Ends

variable {p : Path} {front : List String} {name : String}

theorem place (h : p.Ends front name) (home : Location) :
    p.place home = name :: front.foldl Location.along (p.origin home) := by
  rw [Path.place, h.pieces, List.foldl_append, List.foldl_cons, List.foldl_nil, h.plain.along]

theorem isEmpty (h : p.Ends front name) : p.isEmpty = false := by
  have hne := h.plain.ne_empty
  simp [Path.isEmpty, h.pieces, String.isEmpty_iff, hne]

theorem fileName? (h : p.Ends front name) : p.fileName? = some name := by
  have hc : p.components.getLast? = some (.name name) := by
    rw [components, h.pieces]
    cases front with
    | nil =>
      have hf : Component.ofFirst false name = [.name name] := by
        unfold Component.ofFirst
        split
        · exact absurd rfl h.plain.ne_empty
        · exact absurd rfl h.plain.ne_here
        · exact absurd rfl h.plain.ne_up
        · rfl
      simp [hf]
    | cons first rest => simp [h.plain.ofPiece?]
  rw [Path.fileName?, hc]

theorem dropNothing_append (h : IsPlain name) (first : String) (rest : List String) :
    dropNothing (first :: (rest ++ [name])) = first :: (rest ++ [name]) := by
  simp [dropNothing, h.ofPiece?]

theorem parent? (h : p.Ends front name) : p.parent? = some (directoryOf (dropNothing front)) := by
  have hk : dropNothing (front ++ [name]) = front ++ [name] := by
    cases front with
    | nil => rfl
    | cons first rest => exact dropNothing_append h.plain first rest
  rw [Path.parent?, h.pieces, hk]
  split
  · rename_i hnil
    simp at hnil
  · rename_i hnil
    cases front with
    | nil => exact absurd (List.cons.inj hnil).1 h.plain.ne_empty
    | cons first rest => simp at hnil
  · rw [List.dropLast_concat]
    rcases dropNothing front with _ | ⟨first, _ | ⟨second, rest⟩⟩
    · rfl
    · by_cases hf : first = ""
      · rw [hf]
        rfl
      · simp [directoryOf, hf]
    · simp [directoryOf]

theorem directoryOf_append {init : List String} {last : String} (h : last ≠ "") :
    directoryOf (init ++ [last]) = ⟨init ++ [last]⟩ := by
  unfold directoryOf
  split
  · rename_i he
    simp at he
  · rename_i he
    cases init with
    | nil => exact absurd (List.cons.inj he).1 h
    | cons first rest => simp at he
  · rfl

/-- What is left of some pieces is nothing, the root alone, or ends with a piece with a text. -/
theorem dropNothing_cases (pieces : List String) : dropNothing pieces = [] ∨
    dropNothing pieces = [""] ∨
    ∃ init last, dropNothing pieces = init ++ [last] ∧ last ≠ "" := by
  cases pieces with
  | nil => exact .inl rfl
  | cons first rest =>
    obtain ⟨kept, hk, -, hl⟩ := exists_dropNothing first rest
    rw [hk]
    rcases hl with rfl | ⟨init, last, rfl, hs⟩
    · by_cases hf : first = ""
      · exact .inr (.inl (by rw [hf]))
      · exact .inr (.inr ⟨[], first, rfl, hf⟩)
    · refine .inr (.inr ⟨first :: init, last, rfl, ?_⟩)
      rintro rfl
      cases hs

theorem join_of_last {init : List String} {last : String} (h : last ≠ "") {q : Path}
    (hq : q.isAbsolute = false) : (Path.mk (init ++ [last])).join q =
      ⟨init ++ [last] ++ q.pieces⟩ := by
  have he : (Path.mk (init ++ [last])).isEmpty = false := by
    simp [Path.isEmpty, String.isEmpty_iff, h]
  rw [join, hq, he]
  simp [h]

/-- A directory without pieces that name nothing at its end, and a name in it. -/
theorem join_directoryOf (m : String) : (directoryOf (dropNothing front)).join ⟨[m]⟩ =
    ⟨dropNothing front ++ [m]⟩ := by
  have relative := isAbsolute_singleton m
  rcases dropNothing_cases front with h | h | ⟨init, last, h, hl⟩
  · rw [h, directoryOf, join, relative]
    rfl
  · rw [h, directoryOf, join, relative]
    rfl
  · rw [h, directoryOf_append hl, join_of_last hl relative]

theorem manifest (h : p.Ends front name) :
    p.manifest.Ends (dropNothing front) (manifestName name) := by
  have plain := h.plain.manifestName
  have hm := ofString_eq_mk plain.slash
  refine ⟨?_, plain⟩
  rw [Path.manifest, withFileName, h.fileName?, Option.isSome_some, if_pos rfl, h.parent?,
    Option.getD_some, Option.getD_some, ← manifestName, hm, join_directoryOf]

theorem isAbsolute_append {init : List String} {last : String} (h : last ≠ "") :
    (Path.mk (init ++ [last])).isAbsolute = true ↔ (init ++ [last]).head? = some "" := by
  unfold isAbsolute
  rcases init with _ | ⟨first, rest⟩
  · split
    · rename_i he
      simp at he
    · simp [h]
  · by_cases hf : first = ""
    · subst hf
      cases rest <;> simp
    · split
      · rename_i he
        exact absurd (List.cons.inj he).1 hf
      · simp [hf]

theorem isAbsolute_iff (h : p.Ends front name) : p.isAbsolute = true ↔ front.head? = some "" := by
  have hp : p = ⟨front ++ [name]⟩ := congrArg Path.mk h.pieces
  rw [hp, isAbsolute_append h.plain.ne_empty]
  cases front with
  | nil => simp [h.plain.ne_empty]
  | cons first rest => rfl

theorem head?_dropNothing (pieces : List String) : (dropNothing pieces).head? = pieces.head? := by
  cases pieces <;> rfl

theorem origin_manifest (h : p.Ends front name) (home : Location) :
    p.manifest.origin home = p.origin home := by
  have : p.manifest.isAbsolute = p.isAbsolute := by
    rw [Bool.eq_iff_iff, h.manifest.isAbsolute_iff, h.isAbsolute_iff, head?_dropNothing]
  rw [origin, origin, this]

theorem place_manifest (h : p.Ends front name) (home : Location) :
    p.manifest.place home = manifestName name :: (p.place home).tail := by
  rw [h.manifest.place, h.origin_manifest, foldl_along_dropNothing, h.place, List.tail_cons]

variable {t : FileTree} {q parent : Location}

/-- A named path can be followed to a name in a directory that the rest of it leads to. -/
theorem locate_eq_ok_iff (h : p.Ends front name) : t.locate p = .ok q ↔
    (∀ piece ∈ front, '\x00' ∉ piece.toList) ∧ ∃ parent,
      t.walk (p.origin t.home) front = .ok parent ∧ t.node? parent = some .directory ∧
        name.utf8ByteSize ≤ 255 ∧ q = name :: parent := by
  rw [FileTree.locate_eq_ok_iff, h.pieces, FileTree.walk_append, List.forall_mem_append]
  simp only [h.isEmpty, and_true, List.forall_mem_singleton, h.plain.zero, not_false_eq_true,
    FileTree.walk_cons, h.plain.along]
  refine and_congr_right fun _ => exists_congr fun parent => and_congr_right fun _ => ?_
  exact and_congr_right fun _ => and_congr_right fun _ => ⟨fun e => (Except.ok.inj e).symm,
    fun e => congrArg Except.ok e.symm⟩

theorem locate_eq (h : p.Ends front name) : t.locate p = (t.start p >>= fun first =>
    t.walk first front >>= fun parent => t.step parent name) := by
  rw [FileTree.locate, h.pieces]
  refine bind_congr fun first => ?_
  rw [FileTree.walk, List.foldlM_append]
  refine bind_congr fun parent => ?_
  rw [List.foldlM_cons]
  cases t.step parent name <;> rfl

/-- When a file can be reached, so can the directory that its manifest is in. -/
theorem exists_walk_manifest (h : p.Ends front name) (hp : t.locate p = .ok (name :: parent)) :
    t.start p.manifest = .ok (p.manifest.origin t.home) ∧ t.node? parent = some .directory ∧
      t.walk (p.manifest.origin t.home) (dropNothing front) = .ok parent := by
  obtain ⟨hz, parent', hw, hd, -, he⟩ := h.locate_eq_ok_iff.1 hp
  obtain rfl := (List.cons.inj he).2
  refine ⟨FileTree.start_eq_ok_iff.2 ⟨?_, h.manifest.isEmpty, rfl⟩, hd, ?_⟩
  · rw [h.manifest.pieces, List.forall_mem_append, List.forall_mem_singleton]
    refine ⟨fun piece hm => hz piece ?_, h.manifest.plain.zero⟩
    obtain ⟨dropped, he, -⟩ := exists_dropNothing_append front
    rw [he]
    exact List.mem_append_left _ hm
  · rw [h.origin_manifest]
    exact FileTree.walk_dropNothing hw

/-- When a file can be reached, so can its manifest, as far as names go. -/
theorem locate_manifest (h : p.Ends front name) (hp : t.locate p = .ok (name :: parent))
    (hl : (manifestName name).utf8ByteSize ≤ 255) :
    t.locate p.manifest = .ok (manifestName name :: parent) := by
  obtain ⟨hs, hd, hw⟩ := h.exists_walk_manifest hp
  rw [h.manifest.locate_eq, hs, Except.ok_bind, hw, Except.ok_bind, FileTree.step_eq_ok_iff]
  exact ⟨hd, hl, (h.manifest.plain.along parent).symm⟩

theorem locate_manifest_error (h : p.Ends front name) (hp : t.locate p = .ok (name :: parent))
    (hl : ¬ (manifestName name).utf8ByteSize ≤ 255) :
    t.locate p.manifest = .error .nameTooLong := by
  obtain ⟨hs, hd, hw⟩ := h.exists_walk_manifest hp
  have plain := h.manifest.plain
  rw [h.manifest.locate_eq, hs, Except.ok_bind, hw, Except.ok_bind, FileTree.step, hd]
  simp only
  rw [if_neg (not_or.2 ⟨plain.ne_empty, plain.ne_here⟩), if_neg plain.ne_up, if_pos (by omega)]

theorem target?_eq (h : p.Ends front name) : t.target? p = (t.start p >>= fun first =>
    t.walk first front >>= fun parent =>
      match h : t.step parent name with
      | .error fault => .error fault
      | .ok _ => .ok (some ⟨name, parent, false, FileTree.step_eq_ok h⟩)) := by
  have pieces : p.pieces.reverse.dropWhile (·.isEmpty) = name :: front.reverse := by
    rw [h.pieces, List.reverse_append, List.reverse_singleton, List.singleton_append,
      List.dropWhile_cons_of_neg (by simpa [String.isEmpty_iff] using h.plain.ne_empty)]
  have slash : (p.pieces.getLast? == some "") = false := by
    simpa [h.pieces] using h.plain.ne_empty
  have dots : ¬ (name = "." ∨ name = "..") := not_or.2 ⟨h.plain.ne_here, h.plain.ne_up⟩
  unfold FileTree.target?
  simp only [pieces, slash, List.reverse_reverse, if_neg dots]
  rfl

theorem target?_of_locate (h : p.Ends front name) (hp : t.locate p = .ok (name :: parent)) :
    ∃ hd, t.target? p = .ok (some ⟨name, parent, false, hd⟩) := by
  rw [h.locate_eq, Except.bind_eq_ok_iff] at hp
  obtain ⟨first, hf, hp⟩ := hp
  rw [Except.bind_eq_ok_iff] at hp
  obtain ⟨parent', hw, hs⟩ := hp
  obtain ⟨hd, -, he⟩ := FileTree.step_eq_ok_iff.1 hs
  rw [h.plain.along] at he
  obtain rfl := (List.cons.inj he).2
  refine ⟨hd, ?_⟩
  rw [h.target?_eq, hf, Except.ok_bind, hw, Except.ok_bind]
  split
  · rename_i he
    rw [hs] at he
    cases he
  · rfl

theorem target?_of_locate_error (h : p.Ends front name) {f : FileFault}
    (hp : t.locate p = .error f) : t.target? p = .error f := by
  rw [h.target?_eq]
  rw [h.locate_eq, Except.bind_eq_error_iff] at hp
  rcases hp with hp | ⟨first, hf, hp⟩
  · rw [hp]
    rfl
  rw [hf]
  rw [Except.bind_eq_error_iff] at hp
  rcases hp with hp | ⟨parent, hw, hs⟩
  · rw [Except.ok_bind, hp]
    rfl
  · rw [Except.ok_bind, hw, Except.ok_bind]
    split
    · rename_i he
      rw [hs] at he
      rw [← Except.error.inj he]
    · rename_i he
      rw [hs] at he
      cases he

/-- A file is staged in the directory that it is for. -/
theorem place_stageDirectory (h : p.Ends front name) (home : Location) :
    (stageDirectory p).place home = (p.place home).tail := by
  have absolute := h.isAbsolute_iff
  rw [← head?_dropNothing] at absolute
  rw [h.place, List.tail_cons, ← foldl_along_dropNothing, stageDirectory, h.parent?]
  simp only
  rcases dropNothing_cases front with hk | hk | ⟨init, last, hk, hl⟩
  · rw [hk] at absolute ⊢
    have : p.isAbsolute = false := by simpa using absolute
    rw [origin, this]
    rfl
  · rw [hk] at absolute ⊢
    rw [origin, absolute.2 rfl]
    rfl
  · have he : (Path.mk (init ++ [last])).isEmpty = false := by
      simp [Path.isEmpty, String.isEmpty_iff, hl]
    have same : (Path.mk (init ++ [last])).isAbsolute = p.isAbsolute := by
      rw [Bool.eq_iff_iff, isAbsolute_append hl, absolute, hk]
    rw [hk, directoryOf_append hl, he]
    simp only [Bool.false_eq_true, if_false, Path.place, origin, same]

theorem join (h : p.Ends front name) (base : Path) : ∃ front', (base.join p).Ends front' name := by
  unfold Path.join
  split_ifs
  · exact ⟨front, h⟩
  · exact ⟨front, h⟩
  · exact ⟨base.pieces.dropLast ++ front, by simp [h.pieces], h.plain⟩
  · exact ⟨base.pieces ++ front, by simp [h.pieces], h.plain⟩

end Path.Ends

theorem notMem_of_mem_splitOn {a : Char} : ∀ {s w : List Char}, w ∈ s.splitOn a → a ∉ w
  | [], w, h => by
    rw [List.splitOn_nil, List.mem_singleton] at h
    simp [h]
  | c :: s, w, h => by
    rw [List.splitOn_cons_eq_if_modifyHead] at h
    split_ifs at h with hc
    · rcases List.mem_cons.1 h with rfl | h
      · simp
      · exact notMem_of_mem_splitOn h
    · obtain ⟨first, rest, hr⟩ := List.exists_cons_of_ne_nil (List.splitOn_ne_nil a s)
      rw [hr, List.modifyHead_cons] at h
      rcases List.mem_cons.1 h with rfl | h
      · rw [List.mem_cons, not_or]
        exact ⟨fun e => hc (by simp [e]), notMem_of_mem_splitOn (hr ▸ List.mem_cons_self)⟩
      · exact notMem_of_mem_splitOn (hr ▸ List.mem_cons_of_mem _ h)

/-- A path with a text has pieces, and no slash is in one. -/
theorem Path.pieces_ofString (text : String) : (ofString text).pieces ≠ [] ∧
    ∀ piece ∈ (ofString text).pieces, '/' ∉ piece.toList := by
  refine ⟨by simp [ofString], fun piece hm => ?_⟩
  obtain ⟨w, hw, rfl⟩ := List.mem_map.1 hm
  simpa using notMem_of_mem_splitOn hw

theorem node?_tail_of_directory {t : FileTree} {q : Location}
    (h : t.node? q = some .directory) : t.node? q.tail = some .directory := by
  cases q with
  | nil => rfl
  | cons name q => exact FileTree.node?_tail h

/-- A file is reached by a path that ends with its name. -/
theorem exists_ends_of_locate {t : FileTree} {text : String} {q : Location} {bytes : ByteArray}
    (hp : t.locate (.ofString text) = .ok q) (hq : t.node? q = some (.file bytes)) :
    ∃ front name, (Path.ofString text).Ends front name ∧ q = name :: q.tail := by
  obtain ⟨⟨hz, -⟩, hw⟩ := FileTree.locate_eq_ok_iff.1 hp
  obtain ⟨hne, slash⟩ := Path.pieces_ofString text
  obtain ⟨front, name, hn⟩ := (List.eq_nil_or_concat (Path.ofString text).pieces).resolve_left hne
  rw [List.concat_eq_append] at hn
  rw [hn, FileTree.walk_append] at hw
  obtain ⟨parent, -, hw⟩ := hw
  obtain ⟨hd, -, hw⟩ := FileTree.walk_cons.1 hw
  have he : q = parent.along name := (Except.ok.inj hw).symm
  have hm : name ∈ (Path.ofString text).pieces := by simp [hn]
  rw [Location.along] at he
  split_ifs at he with h1 h2
  · rw [he, hd] at hq
    cases hq
  · rw [he, node?_tail_of_directory hd] at hq
    cases hq
  · rw [not_or] at h1
    exact ⟨front, name, ⟨hn, h1.1, h1.2, h2, slash name hm, hz name hm⟩, by rw [he, List.tail_cons]⟩

end PageAccessors
