import Mathlib.Data.List.Infix
import PageAccessors.Proofs.SearchedPaths

/-!
# Patterns for paths

A pattern is a path whose pieces stand for names: `?` stands for any character, `*` for any
characters, and brackets for a character of a set, or with `!` for one that is not in it. The piece
`**` stands for directories at any depth.

A text is escaped by putting its metacharacters in brackets. An escaped text has the pieces of the
text, each escaped (`pieces_escape`), and each of them is read as a pattern of which one name is an
instance: the piece itself (`part?_escape`, `fits_escaped`). So a directory with any name can be
searched by a pattern.
-/

namespace PageAccessors

namespace Glob

/-- What stands for a part of a name. -/
inductive Token where
  | char (c : Char)
  | anyChar
  | anyText
  | oneOf (ranges : List (Char × Char))
  | noneOf (ranges : List (Char × Char))

/-- The ranges that are written between brackets, where a character alone is one. -/
def ranges : List Char → List (Char × Char)
  | first :: '-' :: last :: rest => (first, last) :: ranges rest
  | c :: rest => (c, c) :: ranges rest
  | [] => []

def inRanges (ranges : List (Char × Char)) (c : Char) : Bool :=
  ranges.any fun (first, last) => first ≤ c && c ≤ last

/-- The tokens of a piece. Inside of brackets `set` has the characters so far, and whether the set
is one of those that are not meant. A closing bracket that comes first is in the set. -/
def tokens? : Option (Bool × List Char) → List Char → Option (List Token)
  | none, [] => some []
  | none, c :: s =>
    if c = '[' then tokens? (some (false, [])) s
    else if c = '?' then (tokens? none s).map (.anyChar :: ·)
    else if c = '*' then
      if s.head? = some '*' then none else (tokens? none s).map (.anyText :: ·)
    else (tokens? none s).map (.char c :: ·)
  | some _, [] => none
  | some (negated, set), c :: s =>
    if c = '!' ∧ negated = false ∧ set = [] then tokens? (some (true, [])) s
    else if c = ']' ∧ set ≠ [] then
      (tokens? none s).map
        ((if negated then .noneOf (ranges set) else .oneOf (ranges set)) :: ·)
    else tokens? (some (negated, set ++ [c])) s

/-- Whether a token can stand for a character. -/
def Token.holds : Token → Char → Bool
  | char c, d => c = d
  | anyChar, _ => true
  | anyText, _ => true
  | oneOf ranges, d => inRanges ranges d
  | noneOf ranges, d => ! inRanges ranges d

/-- Whether a name is an instance of some tokens. -/
def fits : List Token → List Char → Bool
  | [], name => name.isEmpty
  | .anyText :: tokens, name => name.tails.any (fits tokens)
  | token :: tokens, c :: name => token.holds c && fits tokens name
  | _ :: _, [] => false

/-- What a piece of a pattern stands for. -/
inductive Part where
  | below
  | name (tokens : List Token)

def part? (piece : String) : Option Part :=
  if piece = "**" then some .below else (tokens? none piece.toList).map .name

/-- The name that some tokens spell, if they stand for nothing else. -/
def literal? : List Token → Option (List Char)
  | [] => some []
  | .char c :: tokens => (literal? tokens).map (c :: ·)
  | _ :: _ => none

/-! ## Following patterns -/

/-- What lies below a path, by the way down to it. -/
def waysBelow (t : FileTree) (shown : Path) : List (List String × Node) :=
  match t.locate shown with
  | .ok place => t.below place
  | .error _ => []

/-- The names in a directory. -/
def namesIn (t : FileTree) (shown : Path) : List String :=
  ((waysBelow t shown).filter (·.1.length = 1)).map (·.1.headD "")

/-- A directory and those below it, at any depth. -/
def directories (t : FileTree) (shown : Path) : List Path :=
  if t.isDirectory shown then
    shown :: ((waysBelow t shown).filter (·.2 = .directory)).map (pathBelow shown ·.1)
  else []

/-- The paths from a directory on that some parts stand for. A name that is spelled out is only
looked up, and for any other one the names in the directory are listed. -/
def follow (t : FileTree) : List Part → Path → List Path
  | [], shown => [shown]
  | .below :: parts, shown => (directories t shown).flatMap (follow t parts)
  | .name tokens :: parts, shown =>
    match literal? tokens with
    | some name => (searchStep t shown (.ofList name)).toList.flatMap (follow t parts)
    | none =>
      ((namesIn t shown).filter fun name => fits tokens name.toList).flatMap fun name =>
        follow t parts (pathBelow shown [name])

/-- The paths that a pattern stands for; none if it is no pattern. -/
def paths? (t : FileTree) (pattern : Path) : Option (List Path) :=
  (pattern.pieces.mapM part?).map fun parts =>
    if pattern.isAbsolute then follow t (parts.drop 1) Path.root else follow t parts Path.here

/-! ## Escaped texts -/

def metacharacters : List Char := ['?', '*', '[', ']']

def escapeChar (c : Char) : List Char := if c ∈ metacharacters then ['[', c, ']'] else [c]

/-- A text as a pattern for itself. -/
def escape (s : String) : String := .ofList (s.toList.flatMap escapeChar)

/-- The token that an escaped character is read as. -/
def escapedToken (c : Char) : Token := if c ∈ metacharacters then .oneOf [(c, c)] else .char c

theorem tokens?_escape : ∀ s : List Char,
    tokens? none (s.flatMap escapeChar) = some (s.map escapedToken)
  | [] => rfl
  | c :: s => by
    have ih := tokens?_escape s
    rw [List.flatMap_cons, List.map_cons, escapeChar, escapedToken]
    split_ifs with hc
    · have first : ¬ (c = '!' ∧ false = false ∧ ([] : List Char) = []) := by
        rintro ⟨rfl, -⟩
        exact absurd hc (by decide)
      have last : ¬ (']' = '!' ∧ false = false ∧ [c] = []) := fun h => absurd h.1 (by decide)
      simp only [List.cons_append, List.nil_append]
      rw [tokens?, if_pos rfl, tokens?, if_neg first, if_neg fun h => h.2 rfl, List.nil_append,
        tokens?, if_neg last, if_pos ⟨rfl, List.cons_ne_nil _ _⟩, ih]
      rfl
    · simp only [metacharacters, List.mem_cons, List.not_mem_nil, or_false, not_or] at hc
      rw [List.singleton_append, tokens?, if_neg hc.2.2.1, if_neg hc.1, if_neg hc.2.1, ih]
      rfl

theorem holds_escapedToken {c d : Char} : (escapedToken c).holds d = true ↔ d = c := by
  rw [escapedToken]
  split_ifs
  · simp only [Token.holds, inRanges, List.any_cons, List.any_nil, Bool.or_false,
      Bool.and_eq_true, decide_eq_true_eq]
    constructor
    · rintro ⟨lower, upper⟩
      exact Char.le_antisymm upper lower
    · rintro rfl
      exact ⟨Char.le_refl _, Char.le_refl _⟩
  · rw [Token.holds, decide_eq_true_eq, eq_comm]

theorem fits_cons_escaped {c d : Char} {tokens : List Token} {name : List Char} :
    fits (escapedToken c :: tokens) (d :: name) =
      ((escapedToken c).holds d && fits tokens name) := by
  rw [escapedToken]
  split_ifs <;> rfl

theorem fits_cons_escaped_nil {c : Char} {tokens : List Token} :
    fits (escapedToken c :: tokens) [] = false := by
  rw [escapedToken]
  split_ifs <;> rfl

/-- An escaped text stands for the text and nothing else. -/
theorem fits_escaped : ∀ {s name : List Char}, fits (s.map escapedToken) name = true ↔ name = s
  | [], name => List.isEmpty_iff
  | c :: s, [] => by simp [fits_cons_escaped_nil]
  | c :: s, d :: name => by
    rw [List.map_cons, fits_cons_escaped, Bool.and_eq_true, holds_escapedToken, fits_escaped,
      List.cons.injEq]

theorem literal?_of_free : ∀ {s : List Char}, (∀ c ∈ s, c ∉ metacharacters) →
    literal? (s.map escapedToken) = some s
  | [], _ => rfl
  | c :: s, h => by
    rw [List.forall_mem_cons] at h
    rw [List.map_cons, escapedToken, if_neg h.1, literal?, literal?_of_free h.2]
    rfl

theorem literal?_of_escaped {c : Char} (h : c ∈ metacharacters) : ∀ {s : List Char}, c ∈ s →
    literal? (s.map escapedToken) = none
  | d :: s, hm => by
    rw [List.map_cons, escapedToken]
    split_ifs with hd
    · rfl
    · have hc : c ∈ s := (List.mem_cons.1 hm).resolve_left fun e => hd (e ▸ h)
      rw [literal?, literal?_of_escaped h hc]
      rfl

theorem part?_escape (s : String) :
    part? (escape s) = some (.name (s.toList.map escapedToken)) := by
  have below : escape s ≠ "**" := by
    intro h
    have h := congrArg String.toList h
    rw [escape, String.toList_ofList] at h
    cases hs : s.toList with
    | nil =>
      rw [hs] at h
      cases h
    | cons c rest =>
      rw [hs, List.flatMap_cons, escapeChar] at h
      split_ifs at h with hc
      · cases h
      · -- A star would be in brackets.
        obtain rfl : c = '*' := (List.cons.inj h).1
        exact hc (by decide)
  rw [part?, if_neg below, escape, String.toList_ofList, tokens?_escape]
  rfl

theorem splitOn_append_of_notMem {a : Char} {s : List Char} : ∀ {front : List Char}, a ∉ front →
    (front ++ s).splitOn a = (s.splitOn a).modifyHead (front ++ ·)
  | [], _ => by
    rw [List.nil_append]
    cases s.splitOn a <;> rfl
  | c :: front, h => by
    rw [List.mem_cons, not_or] at h
    rw [List.cons_append, List.splitOn_cons_eq_if_modifyHead, if_neg (by simpa using Ne.symm h.1),
      splitOn_append_of_notMem h.2, List.modifyHead_modifyHead]
    rfl

/-- An escaped text has its slashes where the text has them. -/
theorem splitOn_escape : ∀ s : List Char,
    (s.flatMap escapeChar).splitOn '/' = (s.splitOn '/').map (List.flatMap escapeChar)
  | [] => rfl
  | c :: s => by
    rw [List.flatMap_cons, List.splitOn_cons_eq_if_modifyHead]
    by_cases hc : c = '/'
    · subst hc
      have plain : escapeChar '/' = ['/'] := by decide
      rw [plain, List.singleton_append, List.splitOn_cons_eq_if_modifyHead, splitOn_escape s]
      rfl
    · have slash : '/' ∉ escapeChar c := by
        rw [escapeChar]
        split_ifs
        · simpa using Ne.symm hc
        · simpa using Ne.symm hc
      rw [splitOn_append_of_notMem slash, splitOn_escape s, if_neg (by simpa using hc)]
      cases s.splitOn '/' with
      | nil => rfl
      | cons first rest => simp

/-- The pieces of an escaped text are those of the text, each escaped. -/
theorem pieces_escape (text : String) :
    (Path.ofString (escape text)).pieces = (Path.ofString text).pieces.map escape := by
  rw [Path.ofString, Path.ofString, escape, String.toList_ofList, splitOn_escape]
  simp [escape, Function.comp_def]

theorem escape_eq_empty_iff {s : String} : escape s = "" ↔ s = "" := by
  refine ⟨fun h => ?_, by rintro rfl; rfl⟩
  have h := congrArg String.toList h
  rw [escape, String.toList_ofList] at h
  cases hs : s.toList with
  | nil => exact String.toList_eq_nil_iff.1 hs
  | cons c rest =>
    rw [hs, List.flatMap_cons, escapeChar] at h
    split_ifs at h <;> cases h

theorem isEmpty_escape (text : String) :
    (Path.ofString (escape text)).isEmpty = (Path.ofString text).isEmpty := by
  have blank : (fun s => (escape s).isEmpty) = String.isEmpty := by
    funext s
    rw [Bool.eq_iff_iff, String.isEmpty_iff, String.isEmpty_iff, escape_eq_empty_iff]
  rw [Path.isEmpty, Path.isEmpty, pieces_escape, List.length_map, List.all_map, Function.comp_def,
    blank]

theorem unslashed_escape (text : String) :
    (Path.ofString (escape text)).unslashed = (Path.ofString text).unslashed.map escape := by
  have last : ((Path.ofString text).pieces.map escape).getLast? = some "" ↔
      (Path.ofString text).pieces.getLast? = some "" := by
    rw [List.getLast?_map, Option.map_eq_some_iff]
    simp only [escape_eq_empty_iff, exists_eq_right]
  rw [Path.unslashed, Path.unslashed, pieces_escape]
  simp only [last]
  split_ifs
  · exact List.map_dropLast.symm
  · rfl

/-! ## Following an escaped directory -/

section

variable {t : FileTree} {shown base p : Path} {place next directory : Location}
  {pieces way : List String} {piece name : String} {parts : List Part}

theorem waysBelow_eq (h : t.Enters shown place) : waysBelow t shown = t.below place := by
  rw [waysBelow, h.locate]

theorem mem_namesIn_iff (h : t.Enters shown place) :
    name ∈ namesIn t shown ↔ ∃ n, t.node? (name :: place) = some n := by
  rw [namesIn, waysBelow_eq h, List.mem_map]
  constructor
  · rintro ⟨⟨way, n⟩, hm, rfl⟩
    obtain ⟨hm, hl⟩ := List.mem_filter.1 hm
    obtain ⟨name, rfl⟩ := List.length_eq_one_iff.1 (by simpa using hl)
    exact ⟨n, (FileTree.mem_below_iff.1 hm).2⟩
  · rintro ⟨n, hn⟩
    have hm : ([name], n) ∈ t.below place := FileTree.mem_below_iff.2 ⟨by simp, hn⟩
    exact ⟨([name], n), List.mem_filter.2 ⟨hm, rfl⟩, rfl⟩

theorem nodup_namesIn (h : t.Enters shown place) : (namesIn t shown).Nodup := by
  rw [namesIn, waysBelow_eq h]
  refine FileTree.nodup_map_below fun a ha b hb same => ?_
  obtain ⟨name, hna⟩ := List.length_eq_one_iff.1 (by simpa using (List.mem_filter.1 ha).2)
  obtain ⟨name', hnb⟩ := List.length_eq_one_iff.1 (by simpa using (List.mem_filter.1 hb).2)
  rw [hna, hnb] at same ⊢
  exact congrArg ([·]) same

def escapedPart (piece : String) : Part := .name (piece.toList.map escapedToken)

/-- A piece that exists is followed to itself, whether it is looked up or listed. -/
theorem follow_escapedPart (h : t.Enters shown place) (on : t.Leads place [piece] next)
    (hb : shown = .here → piece ≠ "") :
    follow t (escapedPart piece :: parts) shown = follow t parts (pathBelow shown [piece]) := by
  rw [escapedPart, follow]
  by_cases free : ∀ c ∈ piece.toList, c ∉ metacharacters
  · simp only [literal?_of_free free, String.ofList_toList, h.searchStep on hb]
    exact List.flatMap_singleton _ _
  · -- A piece with a metacharacter is none of the special ones, so it is a name in the directory.
    have listed : piece ∈ namesIn t shown := by
      have along := FileTree.eq_of_walk on.walk
      have special : ∀ s ∈ ["", ".", ".."], s.toList.all (· ∉ metacharacters) := by decide
      have plain : ∀ s ∈ ["", ".", ".."], piece ≠ s := by
        rintro s hm rfl
        exact free fun c hc => of_decide_eq_true (List.all_eq_true.1 (special _ hm) c hc)
      simp only [List.forall_mem_cons] at plain
      rw [List.foldl_cons, List.foldl_nil, Location.along, if_neg (not_or.2 ⟨plain.1, plain.2.1⟩),
        if_neg plain.2.2.1] at along
      exact (mem_namesIn_iff h).2 ⟨_, along ▸ on.directory⟩
    have only : ((namesIn t shown).filter fun name =>
        fits (piece.toList.map escapedToken) name.toList) = [piece] := by
      have same : ∀ name : String, fits (piece.toList.map escapedToken) name.toList =
          decide (name = piece) := by
        intro name
        rw [Bool.eq_iff_iff, fits_escaped, decide_eq_true_eq, String.toList_inj]
      simp only [same]
      rw [List.filter_eq, List.count_eq_one_of_mem (nodup_namesIn h) listed]
      rfl
    obtain ⟨c, hc, escaped⟩ : ∃ c ∈ piece.toList, c ∈ metacharacters := by
      simpa only [not_forall, not_not, exists_prop] using free
    rw [literal?_of_escaped escaped hc]
    simp only [only]
    exact List.flatMap_singleton _ _

/-- The search by an escaped path goes where the search along the path goes. -/
theorem follow_escaped (parts : List Part) : ∀ {pieces : List String} {shown : Path}
    {place : Location}, t.Enters shown place → t.Leads place pieces directory →
    follow t (pieces.map escapedPart ++ parts) shown =
      (pieces.foldlM (searchStep t) shown).toList.flatMap (follow t parts)
  | [], shown, _, _, _ => (List.flatMap_singleton (follow t parts) shown).symm
  | piece :: pieces, shown, place, h, way => by
    obtain ⟨next, on, rest⟩ := way.exists_next
    rw [List.map_cons, List.cons_append, List.foldlM_cons]
    by_cases blank : shown = .here ∧ piece = ""
    · obtain ⟨rfl, rfl⟩ := blank
      have literal : literal? ("".toList.map escapedToken) = some [] := rfl
      rw [escapedPart, follow, literal]
      simp only [String.ofList_nil, FileTree.searchStep_blank]
      rfl
    · have named : shown = .here → piece ≠ "" := fun hh he => blank ⟨hh, he⟩
      rw [follow_escapedPart h on named, h.searchStep on named]
      exact follow_escaped parts (h.below on named) rest

/-! ## Sources by a pattern -/

/-- The tokens of the names of sources. -/
def sourceTokens : List Token := [.anyText, .char '.', .char 'k', .char 't']

/-- The pattern for the sources below a directory. -/
def sourcePattern (text : String) : Path :=
  ((Path.ofString (escape text)).join (.ofString "**")).join (.ofString "*.kt")

theorem fits_sourceTokens {name : String} : fits sourceTokens name.toList = isSourceName name := by
  have rest : ∀ s : List Char, fits [.char '.', .char 'k', .char 't'] s = true ↔
      s = ".kt".toList := fun s => fits_escaped (s := ".kt".toList)
  rw [Bool.eq_iff_iff, sourceTokens, fits, List.any_eq_true, isSourceName,
    List.isSuffixOf_iff_suffix]
  simp only [rest, List.mem_tails, exists_eq_right]

theorem mem_directories_iff (h : t.Enters base directory) : p ∈ directories t base ↔
    ∃ way : List String, t.node? (way.reverse ++ directory) = some .directory ∧
      p = FileTree.pathAlong base way := by
  rw [directories, if_pos h.isDirectory, waysBelow_eq h, List.mem_cons, List.mem_map]
  constructor
  · rintro (rfl | ⟨⟨way, n⟩, hm, rfl⟩)
    · exact ⟨[], h.directory, rfl⟩
    · obtain ⟨hm, hn⟩ := List.mem_filter.1 hm
      obtain rfl : n = .directory := of_decide_eq_true hn
      obtain ⟨hne, hn⟩ := FileTree.mem_below_iff.1 hm
      exact ⟨way, hn, (if_neg hne).symm⟩
  · rintro ⟨way, hn, rfl⟩
    rw [FileTree.pathAlong]
    split_ifs with hne
    · exact .inl rfl
    · exact .inr ⟨(way, .directory),
        List.mem_filter.2 ⟨FileTree.mem_below_iff.2 ⟨hne, hn⟩, rfl⟩, rfl⟩

theorem nodup_directories (h : t.Enters base directory) (named : t.Named) :
    (directories t base).Nodup := by
  rw [directories, if_pos h.isDirectory, waysBelow_eq h, List.nodup_cons]
  constructor
  · rintro hm
    obtain ⟨⟨way, n⟩, hm, he⟩ := List.mem_map.1 hm
    obtain ⟨hne, hn⟩ := FileTree.mem_below_iff.1 (List.mem_of_mem_filter hm)
    have leads := h.locate_pathBelow named hne hn
    rw [he, h.locate] at leads
    -- The directory itself is not among those below it.
    have length := congrArg List.length (Except.ok.inj leads)
    rw [List.length_append, List.length_reverse] at length
    exact hne (List.length_eq_zero_iff.1 (by omega))
  · exact FileTree.nodup_map_below fun _ ha _ hb same =>
      h.pathBelow_inj named (List.mem_of_mem_filter ha) (List.mem_of_mem_filter hb) same

/-- The paths with names of sources that are in the directories from a path on. -/
def namedSources (t : FileTree) (base : Path) : List Path :=
  (directories t base).flatMap fun d =>
    ((namesIn t d).filter isSourceName).map fun name => pathBelow d [name]

theorem follow_sourceParts (t : FileTree) :
    follow t [.below, .name sourceTokens] = namedSources t := by
  have wild : literal? sourceTokens = none := rfl
  funext base
  rw [follow, namedSources]
  refine congrArg (List.flatMap · (directories t base)) (funext fun d => ?_)
  simp only [follow, wild, fits_sourceTokens]
  exact List.map_eq_flatMap.symm

theorem mem_namedSources_iff (h : t.Enters base directory) (named : t.Named) :
    p ∈ namedSources t base ↔ ∃ way name n, t.node? (name :: (way.reverse ++ directory)) = some n ∧
      isSourceName name = true ∧ p = pathBelow base (way ++ [name]) := by
  simp only [namedSources, List.mem_flatMap, List.mem_map, List.mem_filter]
  constructor
  · rintro ⟨d, hd, name, ⟨hm, hs⟩, rfl⟩
    obtain ⟨way, hn, rfl⟩ := (mem_directories_iff h).1 hd
    obtain ⟨n, hn'⟩ := (mem_namesIn_iff (h.along named hn)).1 hm
    exact ⟨way, name, n, hn', hs, h.pathBelow_pathAlong named hn'⟩
  · rintro ⟨way, name, n, hn, hs, rfl⟩
    have hd := FileTree.node?_tail hn
    exact ⟨_, (mem_directories_iff h).2 ⟨way, hd, rfl⟩, name,
      ⟨(mem_namesIn_iff (h.along named hd)).2 ⟨n, hn⟩, hs⟩, h.pathBelow_pathAlong named hn⟩

theorem locate_name (h : t.Enters base directory) (named : t.Named) (hm : name ∈ namesIn t base) :
    t.locate (pathBelow base [name]) = .ok (name :: directory) := by
  obtain ⟨n, hn⟩ := (mem_namesIn_iff h).1 hm
  exact h.locate_pathBelow named (List.cons_ne_nil name []) hn

/-- No file is listed twice: its directory is listed once, and so is its name there. -/
theorem nodup_namedSources (h : t.Enters base directory) (named : t.Named) :
    (namedSources t base).Nodup := by
  have enters : ∀ d ∈ directories t base, ∃ way : List String,
      t.Enters d (way.reverse ++ directory) ∧ d = FileTree.pathAlong base way := by
    intro d hd
    obtain ⟨way, hn, rfl⟩ := (mem_directories_iff h).1 hd
    exact ⟨way, h.along named hn, rfl⟩
  refine List.nodup_flatMap.2 ⟨fun d hd => ?_, ?_⟩
  · obtain ⟨way, along, -⟩ := enters d hd
    refine List.Nodup.map_on (fun name hm name' hm' same => ?_) ((nodup_namesIn along).filter _)
    have leads := locate_name along named (List.mem_of_mem_filter hm)
    rw [same, locate_name along named (List.mem_of_mem_filter hm')] at leads
    exact (List.cons.inj (Except.ok.inj leads)).1.symm
  · refine (nodup_directories h named).pairwise_of_forall_ne fun d hd d' hd' hne p hp hp' => hne ?_
    obtain ⟨way, along, rfl⟩ := enters d hd
    obtain ⟨way', along', rfl⟩ := enters d' hd'
    obtain ⟨name, hm, rfl⟩ := List.mem_map.1 hp
    obtain ⟨name', hm', same⟩ := List.mem_map.1 hp'
    have leads := locate_name along named (List.mem_of_mem_filter hm)
    rw [← same, locate_name along' named (List.mem_of_mem_filter hm')] at leads
    have places := (List.cons.inj (Except.ok.inj leads)).2
    rw [List.reverse_injective (List.append_cancel_right places)]

theorem pieces_sourcePattern {text : String} (h : (Path.ofString text).isEmpty = false) :
    (sourcePattern text).pieces = (Path.ofString text).unslashed.map escape ++ ["**", "*.kt"] := by
  have stars : Path.ofString "**" = ⟨["**"]⟩ := Path.ofString_eq_mk (by decide)
  have name : Path.ofString "*.kt" = ⟨["*.kt"]⟩ := Path.ofString_eq_mk (by decide)
  obtain ⟨first, rest, slashes, he, hp, -⟩ := Path.exists_unslashed_append h
  have some : (Path.ofString (escape text)).isEmpty = false := (isEmpty_escape text).trans h
  have some' : (Path.mk ((Path.ofString text).unslashed.map escape ++ ["**"])).isEmpty = false := by
    rw [he]
    simp [Path.isEmpty]
  rw [sourcePattern, stars, name, Path.join_eq some (Path.isAbsolute_singleton _), unslashed_escape,
    Path.join_eq some' (Path.isAbsolute_singleton _), Path.unslashed, List.getLast?_concat,
    if_neg (by decide), List.append_assoc]
  rfl

theorem mapM_part?_stars :
    ["**", "*.kt"].mapM part? = some [.below, .name sourceTokens] := by
  have name : part? "*.kt" = some (.name sourceTokens) := by
    rw [part?, if_neg (by decide)]
    rfl
  rw [List.mapM_cons, List.mapM_cons, part?, if_pos rfl, name]
  rfl

theorem mapM_part?_escape (rest : List String) : ∀ pieces : List String,
    (pieces.map escape ++ rest).mapM part? =
      (rest.mapM part?).map (pieces.map escapedPart ++ ·)
  | [] => Option.map_id'.symm
  | piece :: pieces => by
    rw [List.map_cons, List.cons_append, List.mapM_cons, part?_escape,
      mapM_part?_escape rest pieces]
    cases rest.mapM part? <;> rfl

/-- The pattern for the sources below a directory finds them from where the directory is shown. -/
theorem paths?_sourcePattern {text : String} (h : t.Enters (.ofString text) directory) :
    paths? t (sourcePattern text) =
      some ((searchBase t (.ofString text)).toList.flatMap (namedSources t)) := by
  have pieces := pieces_sourcePattern h.isEmpty
  obtain ⟨first, rest, slashes, he, hp, absolute, -⟩ := Path.exists_unslashed_append h.isEmpty
  have absolute' : (sourcePattern text).isAbsolute = (Path.ofString text).isAbsolute := by
    rw [he, List.map_cons, List.cons_append] at pieces
    generalize sourcePattern text = pattern at pieces ⊢
    obtain ⟨_⟩ := pattern
    obtain rfl := pieces
    rw [absolute, Path.isAbsolute_cons (by simp [Path.isEmpty])]
    simp only [escape_eq_empty_iff]
  obtain ⟨place, start, way⟩ := h.exists_searchStart (Path.pieces_ofString text).2
  have follows := follow_escaped [.below, .name sourceTokens] start way
  rw [paths?, pieces, mapM_part?_escape, mapM_part?_stars, Option.map_some, Option.map_some,
    absolute', FileTree.searchBase_eq h.isEmpty, Option.some.injEq]
  rw [← follow_sourceParts, ← follows, Path.searchStart]
  split_ifs
  · rw [he]
    rfl
  · rfl

end

end Glob

end PageAccessors
