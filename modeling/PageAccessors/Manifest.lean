import PageAccessors.Digest.Blake3
import PageAccessors.Disk
import PageAccessors.Json.Record
import PageAccessors.Json.Writer

/-!
# Manifests

A manifest stands beside a generated file. It holds the file's name and the hash of its contents,
by which a change to the file is noticed, and says what the file was generated from. The time of
the generation is written here and never into the file, which therefore depends on its input only.
-/

namespace PageAccessors

/-- What a file was generated from, by what, when, and how to generate it again. -/
structure Provenance where
  tool : String
  version : String
  declaration : String
  inputHash : String
  timestamp : String
  command : String
  deriving DecidableEq

structure Manifest where
  version : Nat
  outputName : String
  outputHash : String
  provenance : Provenance
  deriving DecidableEq

/-- The path of the manifest of a file. -/
def Path.manifest (p : Path) : Path := p.withFileName (p.fileName?.getD "" ++ ".manifest.json")

namespace Manifest

/-- The version of the manifests that are written. -/
def currentVersion : Nat := 1

/-- The manifest of a file with some contents. -/
def ofContents (p : Path) (contents : String) (provenance : Provenance) : Manifest :=
  ⟨currentVersion, p.fileName?.getD "", Digest.hex contents, provenance⟩

end Manifest

def Provenance.toData (p : Provenance) : Data :=
  .object [
    ("tool", .text p.tool),
    ("version", .text p.version),
    ("declaration", .text p.declaration),
    ("input_hash", .text p.inputHash),
    ("timestamp", .text p.timestamp),
    ("regenerate_cmd", .text p.command)]

namespace Manifest

def toData (m : Manifest) : Data :=
  .object [
    ("manifest_version", .natural m.version),
    ("output_path", .text m.outputName),
    ("output_hash", .text m.outputHash),
    ("generation", m.provenance.toData)]

/-- The text of a manifest. -/
def render (m : Manifest) : String := Json.pretty m.toData

/-! ## Reading -/

def provenanceFields : List Json.Field :=
  ["tool", "version", "declaration", "input_hash", "timestamp", "regenerate_cmd"].map
    (·, Json.textField)

def provenanceField : Json.Reader Data := fun s => do
  let (values, rest) ← Json.record "struct GenerationMetadata" provenanceFields s
  .ok (.list values, rest)

def manifestFields : List Json.Field := [
  ("manifest_version", Json.wordField),
  ("output_path", Json.textField),
  ("output_hash", Json.textField),
  ("generation", provenanceField)]

/-- The manifest with some values of its fields. -/
def ofValues? : List Data → Option Manifest
  | [.natural version, .text name, .text hash, .list
      [.text tool, .text toolVersion, .text declaration, .text input, .text time, .text command]] =>
    some ⟨version, name, hash, ⟨tool, toolVersion, declaration, input, time, command⟩⟩
  | _ => none

def reader : Json.Reader Manifest := fun s => do
  let (values, rest) ← Json.record "struct FileManifest" manifestFields s
  match ofValues? values with
  | some m => .ok (m, rest)
  | none => .error ⟨.expectedValue, rest, 0⟩

/-- The manifest with a text. -/
def parse (source : String) : Except Json.Error Manifest := Json.readAll reader source

end Manifest

/-! ## Writing -/

namespace Disk

/-- Writes a file and its manifest. Both are staged before either is moved to its path, and a file
whose manifest cannot be put in its place is removed again. -/
def writeWithManifest (p : Path) (contents : String) (provenance : Provenance) : Disk Unit := do
  let manifest := Manifest.ofContents p contents provenance
  let source ← stage p contents.toUTF8
  let beside ← orElseDo (stage p.manifest manifest.render.toUTF8) (discard source)
  orElseDo (persist source p) (discard beside)
  orElseDo (persist beside p.manifest) (tryCatch (change (·.remove p)) fun _ => pure ())

/-- Removes the manifest of a file, if it has one. -/
def removeManifest (p : Path) : Disk Unit :=
  tryCatch (change (·.remove p.manifest)) fun fault => do
    unless fault = .notFound do throw fault

/-- Writes a file, with a manifest if it is said where the file comes from; without one, a
manifest that an earlier run left is removed. -/
def writeOutput (p : Path) (contents : String) : Option Provenance → Disk Unit
  | some provenance => writeWithManifest p contents provenance
  | none => do
    writeAtomic p contents.toUTF8
    removeManifest p

end Disk

end PageAccessors
