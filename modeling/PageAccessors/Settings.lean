import PageAccessors.Options
import PageAccessors.Path
import PageAccessors.Text.Blank
import PageAccessors.Yaml.Field
import PageAccessors.Yaml.Writer

/-!
# Settings

How a command goes about its work. Settings come in layers: a layer sets some of the fields and
leaves the others as they are, so that each field has its value from the last layer that sets it.
The lowest layer is a settings file; flags of the command line lie above it.
-/

namespace PageAccessors

/-- How much is reported. -/
inductive Verbosity where
  | quiet
  | normal
  | verbose
  | debug
  deriving DecidableEq

namespace Verbosity

def all : List Verbosity := [quiet, normal, verbose, debug]

def name : Verbosity → String
  | quiet => "quiet"
  | normal => "normal"
  | verbose => "verbose"
  | debug => "debug"

def ofName? (text : String) : Option Verbosity := all.find? fun v => v.name = text

/-- What the flags for less and more output ask for; the first one wins. -/
def ofFlags? (quiet : Bool) (verbose : Nat) : Option Verbosity :=
  if quiet then some .quiet
  else match verbose with
    | 0 => none
    | 1 => some .verbose
    | _ => some .debug

def isQuiet (v : Verbosity) : Bool := v = quiet

def isVerbose (v : Verbosity) : Bool := v = verbose || v = debug

/-- The least important log records that are kept. -/
def logDirective : Verbosity → String
  | quiet => "error"
  | normal => "warn"
  | verbose => "info"
  | debug => "debug"

end Verbosity

/-- Whether symbols are used instead of words. -/
inductive ColorChoice where
  | always
  | auto
  | never
  deriving DecidableEq

namespace ColorChoice

def all : List ColorChoice := [always, auto, never]

def name : ColorChoice → String
  | always => "always"
  | auto => "auto"
  | never => "never"

def ofName? (text : String) : Option ColorChoice := all.find? fun c => c.name = text

/-- What is decided; by default it depends on whether there is a terminal. -/
def decide (terminal : Bool) : ColorChoice → Bool
  | always => true
  | auto => terminal
  | never => false

end ColorChoice

structure Settings where
  verbosity : Verbosity := .normal
  color : ColorChoice := .auto
  jobs : Nat := 0
  failFast : Bool := false
  output : Path := .ofString "build/generated/pagegen"
  manifests : Bool := true
  options : Options := {}
  deriving DecidableEq

namespace Settings

/-- Some of the fields of settings. -/
structure Layer where
  verbosity : Option Verbosity := none
  color : Option ColorChoice := none
  jobs : Option Nat := none
  failFast : Option Bool := none
  output : Option Path := none
  manifests : Option Bool := none
  runtimePackage : Option String := none
  header : Option String := none
  deriving DecidableEq

/-- The settings under a layer. -/
def apply (s : Settings) (l : Layer) : Settings where
  verbosity := l.verbosity.getD s.verbosity
  color := l.color.getD s.color
  jobs := l.jobs.getD s.jobs
  failFast := l.failFast.getD s.failFast
  output := l.output.getD s.output
  manifests := l.manifests.getD s.manifests
  options := ⟨l.runtimePackage.getD s.options.runtimePackage, l.header.getD s.options.header⟩

/-! ## Writing -/

/-- The fields as they stand in a settings file. -/
def fields (s : Settings) : List (String × Yaml.Simple) := [
  ("verbosity", .text s.verbosity.name),
  ("color", .text s.color.name),
  ("parallel_jobs", .natural s.jobs),
  ("fail_fast", .bool s.failFast),
  ("output_dir", .text s.output.text),
  ("manifest", .bool s.manifests),
  ("runtime_package", .text s.options.runtimePackage),
  ("header", .text s.options.header)]

/-- The text of a settings file. -/
def render (s : Settings) : String := Yaml.render s.fields

/-! ## Reading -/

open Yaml (Place Reading)

/-- Sets a field that has not been set before. -/
def setOnce {α : Type} (key : String) (old : Option α) (read : Reading α) :
    Reading (Option α) :=
  match old with
  | some _ => Reading.refuse .root (.duplicateField key)
  | none => some <$> read

/-- What has been read: a layer, and the fields that are only judged at the end. -/
structure Progress where
  layer : Layer
  later : List (String × Data)

def readField (p : Progress) (field : Yaml.Node × Yaml.Node) : Reading Progress := do
  let (key, value) := field
  let name ← Yaml.textField "field identifier" .root key
  let place := Place.ofKey .root key
  let l := p.layer
  match name with
  | "verbosity" =>
    let read := Yaml.variantField (Verbosity.all.map fun v => (v.name, v)) place value
    return { p with layer := { l with verbosity := ← setOnce name l.verbosity read } }
  | "color" =>
    let read := Yaml.variantField (ColorChoice.all.map fun c => (c.name, c)) place value
    return { p with layer := { l with color := ← setOnce name l.color read } }
  | "parallel_jobs" =>
    let jobs ← setOnce name l.jobs (Yaml.naturalField place value)
    return { p with layer := { l with jobs := jobs } }
  | "fail_fast" =>
    let failFast ← setOnce name l.failFast (Yaml.boolField place value)
    return { p with layer := { l with failFast := failFast } }
  | "output_dir" =>
    let read := Path.ofString <$> Yaml.textField "path string" place value
    return { p with layer := { l with output := ← setOnce name l.output read } }
  | "manifest" =>
    let manifests ← setOnce name l.manifests (Yaml.boolField place value)
    return { p with layer := { l with manifests := manifests } }
  | _ =>
    let data ← Yaml.dataOf (Yaml.depthLimit - 1) place value
    return { p with later := p.later ++ [(name, data)] }

/-- A text among the fields that are judged at the end. -/
def laterText (data : Data) : Reading String :=
  match data with
  | .text s => return s
  | other => Reading.refuse .root (.wrongType other.found "a string")

def readLater (l : Layer) (field : String × Data) : Reading Layer := do
  let (key, data) := field
  match key with
  | "runtime_package" =>
    return { l with runtimePackage := ← setOnce key l.runtimePackage (laterText data) }
  | "header" => return { l with header := ← setOnce key l.header (laterText data) }
  | _ => return l

/-- Reads a layer from a YAML node. Fields that are not known are ignored. -/
def Layer.ofNode (node : Option Yaml.Node) : Reading Layer := do
  let fields ← Yaml.recordFields "struct CliConfig" .root node
  let p ← fields.foldlM readField ⟨{}, []⟩
  p.later.foldlM readLater p.layer

/-- The layer of a settings file; a blank one sets nothing. -/
def Layer.ofText (text : String) : Except Yaml.Error Layer :=
  if Text.isBlankText text then .ok {} else Yaml.readText Layer.ofNode text

end Settings

/-! ## Options by themselves -/

namespace Options

open Yaml (Place Reading)

private def readOption (found : Option String × Option String) (field : Yaml.Node × Yaml.Node) :
    Reading (Option String × Option String) := do
  let (key, value) := field
  let name ← Yaml.textField "field identifier" .root key
  let place := Place.ofKey .root key
  match name, found with
  | "runtime_package", (some _, _) => Reading.refuse .root (.duplicateField name)
  | "runtime_package", (none, header) =>
    return (some (← Yaml.textField "a string" place value), header)
  | "header", (_, some _) => Reading.refuse .root (.duplicateField name)
  | "header", (package, none) => return (package, some (← Yaml.textField "a string" place value))
  | _, found => return found

/-- Reads options from a YAML node. -/
def ofNode (node : Option Yaml.Node) : Reading Options := do
  let fields ← Yaml.recordFields "struct GeneratorOptions" .root node
  let (package, header) ← fields.foldlM readOption (none, none)
  return ⟨package.getD default.runtimePackage, header.getD default.header⟩

/-- The options of a text. -/
def ofText (text : String) : Except Yaml.Error Options := Yaml.readText ofNode text

end Options

end PageAccessors
