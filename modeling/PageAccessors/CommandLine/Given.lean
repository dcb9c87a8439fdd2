import PageAccessors.CommandLine.Flag
import PageAccessors.Path
import PageAccessors.Settings

/-!
# What a level is given

The values that the flags and operands of one level add up to. A switch that only says yes or no
and a flag with a value are given at most once at a level; the switch for more output counts.
-/

namespace PageAccessors.CommandLine

/-- Why a command line does not name a command to run: it is mistaken, or it asks for help or for
the version instead. -/
inductive Stop where
  | help
  | version
  | usage
  | missingCommand
  | unknownCommand
  | missingArgument
  | unknownArgument
  | repeatedFlag
  | needlessValue
  | invalidValue
  | invalidNumber
  deriving DecidableEq

structure Given where
  verbose : Nat := 0
  quiet : Bool := false
  logJson : Bool := false
  noManifest : Bool := false
  failFast : Bool := false
  print : Bool := false
  color : Option ColorChoice := none
  settings : Option Path := none
  output : Option Path := none
  runtimePackage : Option String := none
  jobs : Option Nat := none
  operands : List Path := []
  deriving DecidableEq

/-- A path that a word names; the empty word names none. -/
def readPath (text : String) : Except Stop Path :=
  if text.isEmpty then .error .invalidValue else .ok (.ofString text)

def readColor (text : String) : Except Stop ColorChoice :=
  match ColorChoice.ofName? text with
  | some color => .ok color
  | none => .error .invalidValue

/-- The largest number of jobs that can be asked for. -/
def jobLimit : Nat := 1 <<< 64 - 1

/-- A number of jobs in decimal digits, with or without a plus in front. -/
def readJobs (text : String) : Except Stop Nat :=
  let digits := match text.toList with
    | '+' :: rest => rest
    | all => all
  let value := digits.foldl (fun n c => 10 * n + (c.toNat - '0'.toNat)) 0
  if !digits.isEmpty && digits.all Char.isDigit && value ≤ jobLimit then .ok value
  else .error .invalidNumber

/-- A value for a flag that has none yet. -/
def once {α : Type} (old : Option α) (new : Except Stop α) : Except Stop (Option α) :=
  match old with
  | some _ => .error .repeatedFlag
  | none => some <$> new

/-- A switch that is not given yet. -/
def switchOnce (old : Bool) : Except Stop Bool := if old then .error .repeatedFlag else .ok true

namespace Given

/-- How often the switch for more output counts at most. -/
def verboseLimit : Nat := 255

def switch (g : Given) : Switch → Except Stop Given
  | .verbose => .ok { g with verbose := min (g.verbose + 1) verboseLimit }
  | .quiet => do return { g with quiet := ← switchOnce g.quiet }
  | .logJson => do return { g with logJson := ← switchOnce g.logJson }
  | .noManifest => do return { g with noManifest := ← switchOnce g.noManifest }
  | .failFast => do return { g with failFast := ← switchOnce g.failFast }
  | .print => do return { g with print := ← switchOnce g.print }

def put (g : Given) (flag : Valued) (text : String) : Except Stop Given :=
  match flag with
  | .color => do return { g with color := ← once g.color (readColor text) }
  | .settings => do return { g with settings := ← once g.settings (readPath text) }
  | .output => do return { g with output := ← once g.output (readPath text) }
  | .runtimePackage => do return { g with runtimePackage := ← once g.runtimePackage (.ok text) }
  | .jobs => do return { g with jobs := ← once g.jobs (readJobs text) }

def addOperands (g : Given) (words : List String) : Except Stop Given := do
  let paths ← words.mapM readPath
  return { g with operands := g.operands ++ paths }

end Given

end PageAccessors.CommandLine
