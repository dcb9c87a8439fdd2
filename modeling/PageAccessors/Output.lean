import PageAccessors.Descriptor
import PageAccessors.Generation
import PageAccessors.Manifest

/-!
# Files in and out

Pages are loaded from descriptor files, generated files are written below an output directory, and
a file that was written is verified against its manifest: it must still have the hash that was
noted when it was written.
-/

namespace PageAccessors

/-- Why a manifest cannot be read. -/
inductive ManifestFault where
  | files (fault : FileFault)
  | json (e : Json.Error)

/-- Why something cannot be loaded, generated, written or verified. -/
inductive Failure where
  | diagnostic (d : Diagnostic)
  | unsupportedFormat (path : Path)
  | unreadableManifest (path : Path) (fault : ManifestFault)
  | hashMismatch (path : Path) (expected actual : String)
  | files (fault : FileFault)
  | json (e : Json.Error)
  | yaml (e : Yaml.Error)

def ManifestFault.toFailure : ManifestFault → Failure
  | .files fault => .files fault
  | .json e => .json e

def ManifestFault.message : ManifestFault → String
  | .files fault => "IO error: " ++ fault.message
  | .json e => "JSON error: " ++ e.message

def TextError.toFailure : TextError → Failure
  | .json e => .json e
  | .yaml e => .yaml e

namespace Failure

def message : Failure → String
  | .diagnostic d => d.message
  | .unsupportedFormat p =>
    "Unsupported descriptor format for '" ++ p.text ++ "' (expected .yaml, .yml or .json)"
  | .unreadableManifest p fault =>
    "Manifest verification failed for '" ++ p.text ++ "': cannot read manifest at " ++
      p.manifest.text ++ ": " ++ fault.message
  | .hashMismatch p expected actual =>
    "Hash mismatch for '" ++ p.text ++ "': expected " ++ expected ++ ", got " ++ actual
  | .files fault => "IO error: " ++ fault.message
  | .json e => "JSON error: " ++ e.message
  | .yaml e => "YAML error: " ++ e.message

/-- The page that a failure is about, if it is about the declaration of one. -/
def declaration? : Failure → Option String
  | .diagnostic d => some d.page
  | _ => none

/-- Whether a failure is about the declaration of a page. -/
def isDiagnostic (f : Failure) : Bool := f.declaration?.isSome

end Failure

/-- The pages of a descriptor file. The format is settled before the file is looked at. -/
def loadPages (t : FileTree) (p : Path) : Except Failure (List Page) := do
  let format ← match Format.ofPath? p with
    | some format => .ok format
    | none => .error (.unsupportedFormat p)
  let text ← (t.readText p).mapError .files
  (Page.listOfText format text).mapError TextError.toFailure

/-- The manifest at a path. -/
def Manifest.read (t : FileTree) (p : Path) : Except ManifestFault Manifest := do
  let text ← (t.readText p).mapError .files
  (Manifest.parse text).mapError .json

/-- Verifies a generated file against its manifest. -/
def verify (t : FileTree) (p : Path) : Except Failure Unit := do
  let manifest ← (Manifest.read t p.manifest).mapError (.unreadableManifest p)
  let contents ← (t.readText p).mapError .files
  let hash := Digest.hex contents
  if hash ≠ manifest.outputHash then throw (.hashMismatch p manifest.outputHash hash)

/-- What is generating. -/
structure Generator where
  tool : String := "pagegen"
  version : String := "1.0.0-rc.1"

/-- Where a file comes from, if it is generated by a command at some time. -/
def GeneratedFile.provenance (file : GeneratedFile) (time command : String) : Provenance :=
  let generator : Generator := {}
  ⟨generator.tool, generator.version, file.declaration, file.inputHash, time, command⟩

/-- Writes a generated file below a directory and gives its path. A command to generate the file
again is noted in a manifest; without one there is no manifest. -/
def writeGenerated (time : String) (directory : Path) (file : GeneratedFile)
    (command : Option String) : Disk Path := do
  let p := directory.join file.relativePath
  Disk.writeOutput p file.contents (command.map (file.provenance time))
  return p

/-! ## Finding generated files -/

/-- A file name that generated files have. -/
def isSourceName (name : String) : Bool := ".kt".toList.isSuffixOf name.toList

/-- One piece further on the way to the directory that is searched. The current directory is not
shown in front of what is below it. -/
def searchStep (t : FileTree) (shown : Path) (piece : String) : Option Path :=
  let next := if shown = Path.here then Path.ofString piece else shown.join (.ofString piece)
  let found :=
    if piece = "." ∨ piece = ".." then t.isDirectory shown else (t.find? next).isSome
  if found then some next else none

/-- The directory that is searched, as it is shown. -/
def searchBase (t : FileTree) (p : Path) : Option Path :=
  let pieces := (p.join (.ofString "*")).pieces.dropLast
  if p.isAbsolute then (pieces.drop 1).foldlM (searchStep t) Path.root
  else pieces.foldlM (searchStep t) Path.here

/-- The path of what lies below a directory, by the way down to it. -/
def pathBelow (shown : Path) (way : List String) : Path :=
  if shown = Path.here then ⟨way⟩ else shown.join ⟨way⟩

/-- The generated files below a directory, at any depth, in the order of their paths. -/
def findGenerated (t : FileTree) (p : Path) : List Path :=
  match searchBase t p with
  | none => []
  | some shown =>
    match t.locate shown with
    | .error _ => []
    | .ok place =>
      let files := (t.below place).filterMap fun (way, node) =>
        match node with
        | .file _ => if way.getLast?.any isSourceName then some (pathBelow shown way) else none
        | .directory => none
      files.mergeSort Path.le

end PageAccessors
