import PageAccessors.Instant
import PageAccessors.Program
import Std.Time.DateTime.Timestamp

/-!
# The command line program

Runs an invocation on the files of a machine. What the run may look at is read into a tree first:
the settings file, the files that were named, and what lies below the output directory. The run is
carried out on that tree, and what it changed is written back.
-/

namespace PageAccessors.Terminal

/-- The absolute path of a place. -/
def pathText (place : Location) : String := "/" ++ "/".intercalate place.reverse

/-- The places on the way along a path, in their order. -/
def places (home : Location) (p : Path) : List Location :=
  let first := if p.isAbsolute then [] else home
  p.pieces.foldl (fun way piece =>
    let last := way.getLastD first
    if piece = "" || piece = "." then way
    else if piece = ".." then way ++ [last.tail]
    else way ++ [piece :: last]) [first]

/-- Takes what the machine has at a place into a tree. -/
def observe (t : FileTree) (place : Location) : IO FileTree := do
  try
    let path ← IO.FS.realPath (pathText place)
    if ← path.isDir then return t.insertDirectory place
    return t.insertFile (← IO.FS.readBinFile path) place
  catch _ => return t

/-- Takes what the machine has along a path into a tree. -/
def observePath (t : FileTree) (p : Path) : IO FileTree := (places t.home p).foldlM observe t

/-- Takes what the machine has at a place and below it into a tree. -/
partial def observeBelow (t : FileTree) (place : Location) : IO FileTree := do
  let t ← observe t place
  if t.node? place = some .directory then
    let path ← IO.FS.realPath (pathText place)
    (← path.readDir).foldlM (fun t entry => observeBelow t (entry.fileName :: place)) t
  else return t

/-- The descriptor files and directories that a command works on. -/
def named (s : Settings) : Command → List Path × Option Path
  | .generate files _ => (files, some s.output)
  | .check files => (files, none)
  | .verify directory => ([], some (verifiedDirectory s directory))
  | .settings _ => ([], none)

/-- What an invocation may look at. -/
def observeAll (home : Location) (i : Invocation) : IO FileTree := do
  let t ← observePath (.ofHome home) (i.flags.settings.getD Settings.defaultFile)
  match i.settings t with
  | .error _ => return t
  | .ok s =>
    let (files, directory) := named s i.command
    let t ← files.foldlM observePath t
    match directory with
    | none => return t
    | some p =>
      let t ← observePath t p
      observeBelow t ((places t.home p).getLastD t.home)

/-- Writes a file by way of a temporary one. -/
def writeFile (place : Location) (bytes : ByteArray) : IO Unit := do
  IO.FS.createDirAll (pathText place.tail)
  let staged := pathText ((".tmp-" ++ place.headD "") :: place.tail)
  IO.FS.writeBinFile staged bytes
  IO.FS.rename staged (pathText place)

/-- Writes back what a run has changed. -/
def writeBack (old new : FileTree) : IO Unit := do
  for (place, node) in new.entries.reverse do
    if old.node? place ≠ some node then
      match node with
      | .file bytes => writeFile place bytes
      | .directory => IO.FS.createDirAll (pathText place)
  for (place, _) in old.entries do
    if new.node? place = none then IO.FS.removeFile (pathText place)

/-- The seconds between two times in milliseconds, with two places. -/
def secondsText (start stop : Nat) : String :=
  let hundredths := (stop - start + 5) / 10
  let rest := hundredths % 100
  toString (hundredths / 100) ++ "." ++ (if rest < 10 then "0" else "") ++ toString rest

def usage : String :=
  "Usage: pagegen [OPTIONS] <COMMAND>\n\nCommands:\n" ++
  "  generate  Generate Kotlin accessors from page descriptors\n" ++
  "  check     Validate page descriptors without writing anything\n" ++
  "  verify    Verify generated files against their manifests\n" ++
  "  config    Show configuration\n"

/-- What is said about a command line that does not name a command to run. -/
def stopMessage : CommandLine.Stop → String
  | .missingCommand => "a command is required"
  | .unknownCommand => "unrecognized command"
  | .missingArgument => "a required argument was not provided"
  | .unknownArgument => "unexpected argument found"
  | .repeatedFlag => "a flag cannot be used multiple times"
  | .needlessValue => "unexpected value for a flag that takes none"
  | .invalidValue => "a value is missing or not possible"
  | .invalidNumber => "a value is not a number"
  | _ => ""

/-- Answers a command line that does not name a command to run. -/
def stop (reason : CommandLine.Stop) : IO UInt32 := do
  match reason with
  | .help => IO.print usage; return 0
  | .version =>
    let generator : Generator := {}
    IO.println (generator.tool ++ " " ++ generator.version)
    return 0
  | .usage => IO.eprint usage; return 2
  | reason => IO.eprintln ("error: " ++ stopMessage reason ++ "\n\n" ++ usage); return 2

/-- How many cores the machine has, as far as it says so. -/
def coreCount : IO Nat := do
  try
    let told ← IO.FS.readFile "/proc/cpuinfo"
    let lines := Text.lines told.toList
    return max 1 (lines.filter fun line => "processor".toList.isPrefixOf line).length
  catch _ => return 1

/-- Runs an invocation on the files of the machine. -/
def run (i : Invocation) : IO UInt32 := do
  let started ← IO.monoMsNow
  let home := ((toString (← IO.currentDir)).toList.splitOn '/').map String.ofList
  let tree ← observeAll (home.filter (· ≠ "")).reverse i
  let now ← Std.Time.Timestamp.now
  let time : Instant := ⟨now.toNanosecondsSinceUnixEpoch.val.toNat⟩
  let terminal ← (← IO.getStderr).isTty
  let s := i.run ⟨← coreCount, time.text⟩ terminal (secondsText started (← IO.monoMsNow)) tree
  writeBack tree s.tree
  for message in s.messages do IO.eprintln message
  IO.print s.output
  match s.result with
  | .ok () => return 0
  | .error e =>
    IO.eprintln ("Error: " ++ e.message)
    return 1

end PageAccessors.Terminal

def main (args : List String) : IO UInt32 := do
  let directory ← IO.getEnv "PAGEGEN_OUTPUT_DIR"
  match PageAccessors.Invocation.ofWords args directory with
  | .error reason => PageAccessors.Terminal.stop reason
  | .ok i => PageAccessors.Terminal.run i
