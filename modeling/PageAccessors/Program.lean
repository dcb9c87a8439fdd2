import PageAccessors.CommandLine
import PageAccessors.Emission
import PageAccessors.Inspection

/-!
# The program

An invocation is run in two steps. Its settings are put together from the defaults, the settings
file and the flags, each layer above the one before it; then its command is carried out.
-/

namespace PageAccessors

/-! ## Settings of an invocation -/

namespace Settings

/-- The settings file that is used if it is there and no other one is named. -/
def defaultFile : Path := .ofString "pagegen.yaml"

/-- The layer of a settings file. -/
def Layer.read (t : FileTree) (file : Path) : Except CommandError Layer := do
  let text ← (t.readText file).mapError (.settings file <| .files ·)
  (Layer.ofText text).mapError (.settings file <| .yaml ·)

/-- The layer of the file that was named, or of the default one. -/
def Layer.find (t : FileTree) (named : Option Path) : Except CommandError Layer :=
  match named with
  | some file => read t file
  | none => if t.isFile defaultFile then read t defaultFile else .ok {}

/-- The settings in words. -/
def summary (cores : Nat) (s : Settings) : String :=
  String.join (([
    "Current configuration:",
    "  Output dir: " ++ s.output.text,
    "  Runtime package: " ++ s.options.runtimePackage,
    "  Manifests: " ++ (if s.manifests then "on" else "off"),
    "  Parallel jobs: " ++ toString (effectiveJobs cores s.jobs),
    "  Fail fast: " ++ toString s.failFast,
    "  Verbosity: " ++ s.verbosity.name.capitalize,
    "  Color: " ++ s.color.name.capitalize] : List String).map (· ++ "\n"))

end Settings

/-- The settings that an invocation works with. -/
def Invocation.settings (i : Invocation) (t : FileTree) : Except CommandError Settings := do
  let file ← Settings.Layer.find t i.flags.settings
  return ((({} : Settings).apply file).apply i.flags.layer).apply i.command.layer

/-! ## Running -/

/-- The directory that is verified: the one that was named, or the one that is written to. -/
def verifiedDirectory (s : Settings) (named : Option Path) : Path := named.getD s.output

/-- Carries out a command. -/
def Command.run (m : Machine) (s : Settings) (c : Command) (t : FileTree) : Outcome Unit :=
  match c with
  | .generate files _ => (emitPages m s files t).map fun _ => ()
  | .check files => (checkPages s files t).map fun _ => ()
  | .verify directory => (verifyFiles s (verifiedDirectory s directory) t).map fun _ => ()
  | .settings print =>
    { tree := t, output := if print then s.render else s.summary m.cores, result := .ok () }

/-- What an invocation tells and leaves behind. -/
structure Session where
  tree : FileTree
  messages : List String
  output : String
  result : Except CommandError Unit

/-- Runs an invocation; `terminal` says whether its messages are seen on one. -/
def Invocation.run (m : Machine) (terminal : Bool) (elapsed : String) (i : Invocation)
    (t : FileTree) : Session :=
  match i.settings t with
  | .error e => ⟨t, [], "", .error e⟩
  | .ok s =>
    let o := i.command.run m s t
    ⟨o.tree, report s.verbosity (s.color.decide terminal) elapsed o.events, o.output, o.result⟩

end PageAccessors
