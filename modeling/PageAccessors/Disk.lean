import PageAccessors.FileTree

/-!
# Disk operations

What a program does to a file tree, step by step: an operation may change the tree before it
fails. A file is written by staging its bytes in a temporary file of the same directory, which is
then renamed over the path; a temporary file that is not renamed is removed again.
-/

namespace PageAccessors

/-- An operation on a file tree. -/
abbrev Disk := ExceptT FileFault (StateM FileTree)

namespace Disk

/-- Finds something out about the tree. -/
def look {α : Type} (f : FileTree → Except FileFault α) : Disk α := fun t => (f t, t)

/-- Changes the tree, or fails and leaves it as it is. -/
def change (f : FileTree → Except FileFault FileTree) : Disk Unit := fun t =>
  match f t with
  | .ok t' => (.ok (), t')
  | .error fault => (.error fault, t)

/-- An operation with what is to be done if it fails. -/
def orElseDo {α : Type} (action : Disk α) (cleanup : Disk Unit) : Disk α :=
  tryCatch action fun fault => do
    cleanup
    throw fault

/-- Makes a directory, which may be there already. -/
def ensureDirectory (p : Path) : Disk Unit :=
  tryCatch (change (·.makeDirectory p)) fun fault => do
    unless (← get).isDirectory p do throw fault

/-- Makes a directory and those on the way to it. -/
def makeDirectories (p : Path) : Disk Unit :=
  if p.isEmpty then pure ()
  else
    tryCatch (change (·.makeDirectory p)) fun fault => do
      if fault = .notFound then
        match h : p.parent? with
        | none => throw fault
        | some outer =>
          have := Path.length_components_parent? h
          makeDirectories outer
          ensureDirectory p
      else unless (← get).isDirectory p do throw fault
termination_by p.components.length

/-- A name longer than all names in a tree and in a path, so that a temporary file is neither in the
place of another file nor in that of the file it is for. -/
def freshName (t : FileTree) (p : Path) : String :=
  let names := t.entries.map (fun e => e.1.headD "") ++ p.pieces
  ".tmp" ++ String.ofList (List.replicate ((names.map String.length).foldl max 0) 'x')

/-- Writes the bytes for a path to a temporary file in its directory, which is made if it is
missing. -/
def stage (p : Path) (bytes : ByteArray) : Disk Location := do
  let directory := match p.parent? with
    | some parent => if parent.isEmpty then Path.here else parent
    | none => Path.here
  makeDirectories directory
  let t ← get
  let parent ← look (·.locate directory)
  let name := freshName t p
  if h : t.node? parent = some .directory ∧ t.node? (name :: parent) ≠ some .directory then
    set (t.putFile name parent bytes h.1 h.2)
    pure (name :: parent)
  else throw .notFound

/-- Removes a temporary file. -/
def discard (staged : Location) : Disk Unit :=
  modify fun t =>
    if h : t.node? staged = some .directory then t else t.removeFile staged h

/-- Moves a temporary file to its path, or removes it. -/
def persist (staged : Location) (p : Path) : Disk Unit :=
  orElseDo (change (·.rename staged p)) (discard staged)

/-- Writes a file in such a way that its path never leads to a part of the bytes. -/
def writeAtomic (p : Path) (bytes : ByteArray) : Disk Unit := do
  let staged ← stage p bytes
  persist staged p

end Disk

end PageAccessors
