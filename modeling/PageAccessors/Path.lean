/-!
# Paths

A path is the pieces of its text between the slashes. What a piece names depends on its place: a
first piece that is empty stands for the root, a dot counts only in front, and any other piece
that is empty or a dot names nothing. Two paths with the same components name the same place, and
paths are put in order by their components.
-/

namespace PageAccessors

structure Path where
  pieces : List String
  deriving DecidableEq

/-- What a piece of a path stands for. -/
inductive Component where
  | root
  | here
  | up
  | name (text : String)
  deriving DecidableEq

namespace Component

/-- The component for a piece behind a slash, if it names anything. -/
def ofPiece? : String → Option Component
  | "" => none
  | "." => none
  | ".." => some up
  | text => some (name text)

/-- The components for the piece in front; `more` says whether a slash follows. -/
def ofFirst (more : Bool) : String → List Component
  | "" => if more then [root] else []
  | "." => [here]
  | ".." => [up]
  | text => [name text]

def rank : Component → Nat
  | root => 0
  | here => 1
  | up => 2
  | name _ => 3

/-- The order of components: the special ones first, then the names by their characters. -/
def before : Component → Component → Bool
  | name a, name b => decide (a < b)
  | a, b => decide (a.rank < b.rank)

/-- The order of lists of components. -/
def listLe : List Component → List Component → Bool
  | [], _ => true
  | _ :: _, [] => false
  | a :: as, b :: bs => if a = b then listLe as bs else a.before b

end Component

namespace Path

/-- The path with a text. -/
def ofString (text : String) : Path := ⟨(text.toList.splitOn '/').map String.ofList⟩

def text (p : Path) : String := "/".intercalate p.pieces

instance : ToString Path := ⟨text⟩

/-- The path without a text. -/
def empty : Path := ⟨[""]⟩

def root : Path := ⟨["", ""]⟩

def here : Path := ⟨["."]⟩

def isEmpty (p : Path) : Bool := p.pieces.all (·.isEmpty) && p.pieces.length ≤ 1

/-- Whether a path starts at the root. -/
def isAbsolute (p : Path) : Bool :=
  match p.pieces with
  | "" :: _ :: _ => true
  | _ => false

/-- What the pieces of a path stand for. -/
def components (p : Path) : List Component :=
  match p.pieces with
  | [] => []
  | first :: rest => Component.ofFirst (!rest.isEmpty) first ++ rest.filterMap Component.ofPiece?

/-- The order of paths by their components. -/
def le (p q : Path) : Bool := Component.listLe p.components q.components

/-- A path seen from another one: an absolute path is itself, and any other continues behind a
slash, which is not written twice. -/
def join (base p : Path) : Path :=
  if p.isAbsolute then p
  else if base.isEmpty then p
  else if base.pieces.getLast? = some "" then ⟨base.pieces.dropLast ++ p.pieces⟩
  else ⟨base.pieces ++ p.pieces⟩

/-- The pieces without those at the end that name nothing. -/
def dropNothing : List String → List String
  | [] => []
  | first :: rest =>
    first :: (rest.reverse.dropWhile fun piece => (Component.ofPiece? piece).isNone).reverse

/-- The path without its last component, which neither the empty path nor the root has. -/
def parent? (p : Path) : Option Path :=
  match dropNothing p.pieces with
  | [] => none
  | [""] => none
  | pieces =>
    match dropNothing pieces.dropLast with
    | [] => some empty
    | [""] => some root
    | outer => some ⟨outer⟩

/-- The name that a path ends with. -/
def fileName? (p : Path) : Option String :=
  match p.components.getLast? with
  | some (.name text) => some text
  | _ => none

/-- The path with another name in the place of its own, or behind it if it has none. -/
def withFileName (p : Path) (name : String) : Path :=
  let base := if p.fileName?.isSome then p.parent?.getD p else p
  base.join (ofString name)

/-- What follows the last dot of a path's name, unless only that dot comes before it. -/
def extension? (p : Path) : Option String := do
  let name ← p.fileName?
  let reversed := name.toList.reverse
  match reversed.dropWhile (· ≠ '.') with
  | [] => none
  | [_] => none
  | _ :: _ :: _ => some (String.ofList (reversed.takeWhile (· ≠ '.')).reverse)

/-! ## The parent has one component less -/

private theorem ofFirst_eq_of_ne {first : String} (h : first ≠ "") (a b : Bool) :
    Component.ofFirst a first = Component.ofFirst b first := by
  unfold Component.ofFirst
  split <;> simp_all

private theorem length_ofFirst {first : String} (h : first ≠ "") (a : Bool) :
    (Component.ofFirst a first).length = 1 := by
  unfold Component.ofFirst
  split <;> simp_all

private theorem filterMap_dropWhile (l : List String) :
    (l.dropWhile fun piece => (Component.ofPiece? piece).isNone).filterMap Component.ofPiece? =
      l.filterMap Component.ofPiece? := by
  induction l with
  | nil => rfl
  | cons a l ih => cases h : Component.ofPiece? a <;> simp [h, ih]

/-- The pieces that name something are kept, and the last piece but the first names something. -/
theorem exists_dropNothing (first : String) (rest : List String) :
    ∃ kept, dropNothing (first :: rest) = first :: kept ∧
      kept.filterMap Component.ofPiece? = rest.filterMap Component.ofPiece? ∧
      (kept = [] ∨ ∃ front last, kept = front ++ [last] ∧ (Component.ofPiece? last).isSome) := by
  refine ⟨_, rfl, ?_, ?_⟩
  · rw [List.filterMap_reverse, filterMap_dropWhile, List.filterMap_reverse, List.reverse_reverse]
  · cases h : rest.reverse.dropWhile fun piece => (Component.ofPiece? piece).isNone with
    | nil => exact .inl rfl
    | cons last front =>
      refine .inr ⟨front.reverse, last, by simp, ?_⟩
      have := List.head?_dropWhile_not (fun piece => (Component.ofPiece? piece).isNone) rest.reverse
      simp only [h, List.head?_cons] at this
      cases hl : Component.ofPiece? last <;> simp_all

/-- The last component is the one that the parent lacks. -/
theorem components_parent? {p q : Path} (h : p.parent? = some q) :
    p.components ≠ [] ∧ q.components = p.components.dropLast := by
  obtain ⟨pieces⟩ := p
  cases pieces with
  | nil => simp [parent?, dropNothing] at h
  | cons first rest =>
    obtain ⟨kept, hk, same, last⟩ := exists_dropNothing first rest
    obtain rfl | ⟨front, last, rfl, hlast⟩ := last
    · have hf : first ≠ "" := by
        rintro rfl
        simp [parent?, hk] at h
      have hq : q = empty := by
        simp only [parent?, hk] at h
        split at h
        · simp at h
        · simp_all
        · simpa [dropNothing] using h.symm
      have hl := length_ofFirst hf (!rest.isEmpty)
      have hc : (Path.mk (first :: rest)).components = Component.ofFirst (!rest.isEmpty) first := by
        simp only [components, ← same, List.filterMap_nil, List.append_nil]
      rw [hc, hq]
      constructor
      · intro hn
        simp [hn] at hl
      · match Component.ofFirst (!rest.isEmpty) first, hl with
        | [_], _ => rfl
    · obtain ⟨c, hc⟩ := Option.isSome_iff_exists.1 hlast
      have hr : rest.isEmpty = false := by
        cases rest with
        | nil => simp [hc] at same
        | cons _ _ => rfl
      obtain ⟨inner, hi, same', _⟩ := exists_dropNothing first front
      have hp : (Path.mk (first :: rest)).components =
          Component.ofFirst true first ++ inner.filterMap Component.ofPiece? ++ [c] := by
        simp [components, hr, ← same, same', hc]
      have hd : (first :: (front ++ [last])).dropLast = first :: front := by
        rw [← List.cons_append, List.dropLast_concat]
      have hq : q.components =
          Component.ofFirst true first ++ inner.filterMap Component.ofPiece? := by
        simp only [parent?, hk] at h
        split at h
        · simp at h
        · simp_all
        · simp only [hd, hi] at h
          split at h
          · rename_i hnil
            simp at hnil
          · rename_i hroot
            simp only [List.cons.injEq] at hroot
            obtain ⟨rfl, rfl⟩ := hroot
            cases h
            rfl
          · rename_i hne _
            cases h
            simp only [components]
            by_cases hf : first = ""
            · cases inner with
              | nil => simp_all
              | cons _ _ => rfl
            · rw [ofFirst_eq_of_ne hf _ true]
      rw [hp, hq]
      simp

theorem length_components_parent? {p q : Path} (h : p.parent? = some q) :
    q.components.length < p.components.length := by
  obtain ⟨hne, he⟩ := components_parent? h
  have := List.length_pos_iff.2 hne
  rw [he, List.length_dropLast]
  omega

end Path

end PageAccessors
