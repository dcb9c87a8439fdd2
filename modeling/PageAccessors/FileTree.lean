import PageAccessors.Path

/-!
# File trees

Files and directories by their places. A place is the way back from it to the root, so that the
place of a directory is the tail of the places in it; the root itself is always a directory. Every
file and every directory lies in a directory, which `closed` states and every operation keeps.

A path is followed piece by piece, and each step needs a directory to look in; that is where most
operations fail. An operation that fails leaves the tree as it was.
-/

namespace PageAccessors

/-- The names on the way from a file or directory back to the root. -/
abbrev Location := List String

inductive Node where
  | file (bytes : ByteArray)
  | directory

instance : DecidableEq Node
  | .file a, .file b =>
    decidable_of_iff (a.data = b.data)
      ⟨fun h => congrArg Node.file (ByteArray.ext h), fun h => by cases h; rfl⟩
  | .file _, .directory => isFalse nofun
  | .directory, .file _ => isFalse nofun
  | .directory, .directory => isTrue rfl

/-- Why an operation on files fails. -/
inductive FileFault where
  | notFound
  | occupied
  | notDirectory
  | isDirectory
  | busy
  | nameTooLong
  | zeroInName
  | notText
  deriving DecidableEq

def FileFault.message : FileFault → String
  | .notFound => "No such file or directory (os error 2)"
  | .occupied => "File exists (os error 17)"
  | .notDirectory => "Not a directory (os error 20)"
  | .isDirectory => "Is a directory (os error 21)"
  | .busy => "Device or resource busy (os error 16)"
  | .nameTooLong => "File name too long (os error 36)"
  | .zeroInName => "file name contained an unexpected NUL byte"
  | .notText => "stream did not contain valid UTF-8"

/-- The files and directories below the root, and the directory that relative paths start from. -/
structure FileTree where
  home : Location
  entries : List (Location × Node)
  distinct : (entries.map Prod.fst).Nodup
  closed : ∀ e ∈ entries, e.1 ≠ [] ∧ (e.1.tail = [] ∨ (e.1.tail, Node.directory) ∈ entries)

namespace FileTree

/-- What is at a place. -/
def node? (t : FileTree) : Location → Option Node
  | [] => some .directory
  | place => t.entries.lookup place

private theorem lookup_eq_some_iff {entries : List (Location × Node)} {place : Location}
    {node : Node} (distinct : (entries.map Prod.fst).Nodup) :
    entries.lookup place = some node ↔ (place, node) ∈ entries := by
  induction entries with
  | nil => simp
  | cons e rest ih =>
    obtain ⟨p, n⟩ := e
    simp only [List.map_cons, List.nodup_cons] at distinct
    rw [List.lookup_cons]
    by_cases h : place = p
    · subst h
      simp only [BEq.rfl]
      constructor
      · intro hn
        simp_all
      · intro hm
        rcases List.mem_cons.1 hm with hm | hm
        · simp_all
        · exact absurd (List.mem_map_of_mem hm) distinct.1
    · have hb : (place == p) = false := by simpa using h
      simp [hb, ih distinct.2, h]

theorem node?_eq_some_iff {t : FileTree} {place : Location} {node : Node} (h : place ≠ []) :
    t.node? place = some node ↔ (place, node) ∈ t.entries := by
  cases place with
  | nil => contradiction
  | cons _ _ => exact lookup_eq_some_iff t.distinct

theorem node?_nil (t : FileTree) : t.node? [] = some .directory := rfl

/-- What exists lies in a directory. -/
theorem node?_tail {t : FileTree} {name : String} {place : Location} {node : Node}
    (h : t.node? (name :: place) = some node) : t.node? place = some .directory := by
  have := (t.closed _ ((node?_eq_some_iff (by simp)).1 h)).2
  rcases this with this | this
  · simp only [List.tail_cons] at this
    rw [this]
    rfl
  · cases place with
    | nil => rfl
    | cons _ _ => exact (node?_eq_some_iff (by simp)).2 this

/-! ## Changes at a place -/

private theorem nodup_filter {entries : List (Location × Node)} (keep : Location × Node → Bool)
    (h : (entries.map Prod.fst).Nodup) : ((entries.filter keep).map Prod.fst).Nodup :=
  List.Nodup.sublist (List.Sublist.map _ (List.filter_sublist)) h

/-- The tree with a file that takes the place of an earlier one, if there is one. -/
def putFile (t : FileTree) (name : String) (parent : Location) (bytes : ByteArray)
    (inDirectory : t.node? parent = some .directory)
    (free : t.node? (name :: parent) ≠ some .directory) : FileTree where
  home := t.home
  entries := (name :: parent, .file bytes) :: t.entries.filter (·.1 ≠ name :: parent)
  distinct := by
    rw [List.map_cons, List.nodup_cons]
    refine ⟨?_, nodup_filter _ t.distinct⟩
    simp
  closed := by
    have kept : ∀ place, t.node? place = some .directory →
        place = [] ∨ (place, Node.directory) ∈ t.entries.filter (·.1 ≠ name :: parent) := by
      intro place hp
      by_cases hn : place = []
      · exact .inl hn
      · refine .inr (List.mem_filter.2 ⟨(node?_eq_some_iff hn).1 hp, ?_⟩)
        simp only [decide_eq_true_eq]
        rintro rfl
        exact free hp
    intro e he
    rcases List.mem_cons.1 he with rfl | he
    · exact ⟨by simp, (kept parent inDirectory).imp id (List.mem_cons_of_mem _)⟩
    · have hm := (List.mem_filter.1 he).1
      obtain ⟨hne, hp⟩ := t.closed e hm
      refine ⟨hne, ?_⟩
      have hd : t.node? e.1.tail = some .directory := by
        by_cases hn : e.1.tail = []
        · rw [hn]; rfl
        · exact (node?_eq_some_iff hn).2 (hp.resolve_left hn)
      exact (kept _ hd).imp id (List.mem_cons_of_mem _)

/-- The tree with a new directory. -/
def addDirectory (t : FileTree) (name : String) (parent : Location)
    (inDirectory : t.node? parent = some .directory)
    (free : t.node? (name :: parent) = none) : FileTree where
  home := t.home
  entries := (name :: parent, .directory) :: t.entries
  distinct := by
    rw [List.map_cons, List.nodup_cons]
    refine ⟨fun hm => ?_, t.distinct⟩
    obtain ⟨⟨place, node⟩, hmem, rfl⟩ := List.mem_map.1 hm
    simp [(node?_eq_some_iff (t.closed _ hmem).1).2 hmem] at free
  closed := by
    intro e he
    rcases List.mem_cons.1 he with rfl | he
    · refine ⟨by simp, ?_⟩
      by_cases hn : parent = []
      · exact .inl hn
      · exact .inr (List.mem_cons_of_mem _ ((node?_eq_some_iff hn).1 inDirectory))
    · exact ⟨(t.closed e he).1, (t.closed e he).2.imp id (List.mem_cons_of_mem _)⟩

/-- The tree without the file at a place. -/
def removeFile (t : FileTree) (place : Location) (isFile : t.node? place ≠ some .directory) :
    FileTree where
  home := t.home
  entries := t.entries.filter (·.1 ≠ place)
  distinct := nodup_filter _ t.distinct
  closed := by
    intro e he
    obtain ⟨hne, hp⟩ := t.closed e (List.mem_filter.1 he).1
    refine ⟨hne, hp.imp id fun hm => List.mem_filter.2 ⟨hm, ?_⟩⟩
    simp only [decide_eq_true_eq]
    rintro rfl
    exact isFile ((node?_eq_some_iff (t.closed _ hm).1).2 hm)

private theorem lookup_filter_ne {entries : List (Location × Node)} {place other : Location}
    (h : other ≠ place) : (entries.filter (·.1 ≠ place)).lookup other = entries.lookup other := by
  induction entries with
  | nil => rfl
  | cons e rest ih =>
    obtain ⟨p, n⟩ := e
    by_cases hp : p = place
    · subst hp
      have hb : (other == p) = false := by simpa using h
      simpa [List.lookup_cons, hb] using ih
    · simp only [ne_eq, decide_not, List.filter_cons, hp, decide_false, Bool.not_false, if_true,
        List.lookup_cons]
      split
      · rfl
      · simpa using ih

private theorem lookup_filter_self {entries : List (Location × Node)} {place : Location} :
    (entries.filter (·.1 ≠ place)).lookup place = none := by
  rw [List.lookup_eq_none_iff]
  intro e he
  simpa using Ne.symm (by simpa using (List.mem_filter.1 he).2)

theorem node?_putFile {t : FileTree} {name parent bytes} {hd hf} (place : Location) :
    (t.putFile name parent bytes hd hf).node? place =
      if place = name :: parent then some (.file bytes) else t.node? place := by
  cases place with
  | nil => simp [node?]
  | cons n p =>
    simp only [node?, putFile, List.lookup_cons]
    by_cases h : n :: p = name :: parent
    · simp [h]
    · have hb : (n :: p == name :: parent) = false := by simpa using h
      rw [hb, if_neg h, lookup_filter_ne h]

theorem node?_addDirectory {t : FileTree} {name parent} {hd hf} (place : Location) :
    (t.addDirectory name parent hd hf).node? place =
      if place = name :: parent then some .directory else t.node? place := by
  cases place with
  | nil => simp [node?]
  | cons n p =>
    simp only [node?, addDirectory, List.lookup_cons]
    by_cases h : n :: p = name :: parent
    · simp [h]
    · have hb : (n :: p == name :: parent) = false := by simpa using h
      rw [hb, if_neg h]

theorem node?_removeFile {t : FileTree} {gone : Location} {hf} (place : Location) :
    (t.removeFile gone hf).node? place = if place = gone then none else t.node? place := by
  cases place with
  | nil =>
    rw [if_neg]
    · rfl
    · rintro rfl
      exact hf rfl
  | cons n p =>
    simp only [node?, removeFile]
    by_cases h : n :: p = gone
    · rw [if_pos h, h, lookup_filter_self]
    · rw [if_neg h, lookup_filter_ne h]

/-- The tree in which a place and all places on the way to it are directories, as far as no file
is in the way. -/
def insertDirectory (t : FileTree) : Location → FileTree
  | [] => t
  | name :: parent =>
    let t := t.insertDirectory parent
    if h : t.node? parent = some .directory ∧ t.node? (name :: parent) = none then
      t.addDirectory name parent h.1 h.2
    else t

/-- The tree with a file and the directories on the way to it, as far as nothing is in the way. -/
def insertFile (t : FileTree) (bytes : ByteArray) : Location → FileTree
  | [] => t
  | name :: parent =>
    let t := t.insertDirectory parent
    if h : t.node? parent = some .directory ∧ t.node? (name :: parent) ≠ some .directory then
      t.putFile name parent bytes h.1 h.2
    else t

/-- The tree that holds an empty home and nothing else. -/
def ofHome (home : Location) : FileTree :=
  insertDirectory ⟨home, [], by simp, by simp⟩ home

/-! ## Following paths -/

/-- One step from a place along a piece of a path. A name may have 255 bytes. The length of a whole
path has no bound here, and no device fails. -/
def step (t : FileTree) (place : Location) (piece : String) : Except FileFault Location :=
  match t.node? place with
  | none => .error .notFound
  | some (.file _) => .error .notDirectory
  | some .directory =>
    if piece = "" ∨ piece = "." then .ok place
    else if piece = ".." then .ok place.tail
    else if piece.utf8ByteSize > 255 then .error .nameTooLong
    else .ok (piece :: place)

theorem step_eq_ok {t : FileTree} {place next : Location} {piece : String}
    (h : t.step place piece = .ok next) : t.node? place = some .directory := by
  unfold step at h
  split at h <;> simp_all

/-- The steps along the pieces of a path. -/
def walk (t : FileTree) (place : Location) (pieces : List String) : Except FileFault Location :=
  pieces.foldlM t.step place

/-- Where a path starts, if it can be a path at all. A path may be of any length. -/
def start (t : FileTree) (p : Path) : Except FileFault Location :=
  if p.pieces.any (·.toList.contains '\x00') then .error .zeroInName
  else if p.isEmpty then .error .notFound
  else .ok (if p.isAbsolute then [] else t.home)

/-- The place of a path, at which there may be nothing. -/
def locate (t : FileTree) (p : Path) : Except FileFault Location := do
  t.walk (← t.start p) p.pieces

/-- What a path leads to. -/
def find? (t : FileTree) (p : Path) : Option Node :=
  match t.locate p with
  | .ok place => t.node? place
  | .error _ => none

def isFile (t : FileTree) (p : Path) : Bool :=
  match t.find? p with
  | some (.file _) => true
  | _ => false

def isDirectory (t : FileTree) (p : Path) : Bool := t.find? p == some .directory

/-- A place in an existing directory; `slash` says whether the path goes on with a slash. -/
structure Target (t : FileTree) where
  name : String
  parent : Location
  slash : Bool
  inDirectory : t.node? parent = some .directory

/-- The place that a path names in a directory; none if the path ends with the root or with dots,
which name no place in one. -/
def target? (t : FileTree) (p : Path) : Except FileFault (Option t.Target) := do
  let first ← t.start p
  let pieces := p.pieces.reverse.dropWhile (·.isEmpty)
  let slash := p.pieces.getLast? == some ""
  match pieces with
  | [] => pure none
  | last :: front =>
    let parent ← t.walk first front.reverse
    match h : t.step parent last with
    | .error fault => throw fault
    | .ok _ =>
      if last = "." ∨ last = ".." then pure none
      else pure (some ⟨last, parent, slash, step_eq_ok h⟩)

/-! ## Operations -/

/-- The bytes of a file. -/
def read (t : FileTree) (p : Path) : Except FileFault ByteArray := do
  match t.node? (← t.locate p) with
  | some (.file bytes) => pure bytes
  | some .directory => throw .isDirectory
  | none => throw .notFound

/-- The text of a file. -/
def readText (t : FileTree) (p : Path) : Except FileFault String := do
  match String.fromUTF8? (← t.read p) with
  | some text => pure text
  | none => throw .notText

/-- Makes one directory. -/
def makeDirectory (t : FileTree) (p : Path) : Except FileFault FileTree := do
  match ← t.target? p with
  | none => throw .occupied
  | some target =>
    if h : t.node? (target.name :: target.parent) = none then
      pure (t.addDirectory target.name target.parent target.inDirectory h)
    else throw .occupied

/-- Moves the file at a place to a path, over a file that is there. -/
def rename (t : FileTree) (source : Location) (p : Path) : Except FileFault FileTree := do
  match hs : t.node? source with
  | none => throw .notFound
  | some .directory => throw .isDirectory
  | some (.file bytes) =>
    match ← t.target? p with
    | none => throw .busy
    | some target =>
      if target.slash then throw .notDirectory
      if h : t.node? (target.name :: target.parent) = some .directory then throw .isDirectory
      else
        have isFile : t.node? source ≠ some .directory := by simp [hs]
        let rest := t.removeFile source isFile
        have inDirectory : rest.node? target.parent = some .directory := by
          rw [node?_removeFile, if_neg, target.inDirectory]
          rintro rfl
          exact isFile target.inDirectory
        have free : rest.node? (target.name :: target.parent) ≠ some .directory := by
          rw [node?_removeFile]
          split
          · simp
          · exact h
        pure (rest.putFile target.name target.parent bytes inDirectory free)

/-- Removes a file. -/
def remove (t : FileTree) (p : Path) : Except FileFault FileTree := do
  match ← t.target? p with
  | none => throw .isDirectory
  | some target =>
    match h : t.node? (target.name :: target.parent) with
    | none => throw .notFound
    | some .directory => throw .isDirectory
    | some (.file _) =>
      if target.slash then throw .notDirectory
      else pure (t.removeFile (target.name :: target.parent) (by simp [h]))

/-- The way down from a directory to a place below it. -/
def wayDown? (directory place : Location) : Option (List String) :=
  if directory <:+ place then some (place.take (place.length - directory.length)).reverse else none

/-- What lies below a directory, by the way down to it. -/
def below (t : FileTree) (directory : Location) : List (List String × Node) :=
  t.entries.filterMap fun (place, node) =>
    match wayDown? directory place with
    | some (name :: way) => some (name :: way, node)
    | _ => none

end FileTree

end PageAccessors
