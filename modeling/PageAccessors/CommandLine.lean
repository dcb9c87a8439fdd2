import PageAccessors.CommandLine.Given

/-!
# Command lines

A command line names a command, what it is to work on and how. It is read word by word. A flag
with a value and an operand are only judged when the next flag or operand begins or the level
ends, so that an unknown flag right behind them is what is complained about; a level behind a
command's name is judged before the one in front of it.
-/

namespace PageAccessors

open CommandLine (Stop)

/-- The flags that every command takes. -/
structure CommonFlags where
  verbose : Nat := 0
  quiet : Bool := false
  color : Option ColorChoice := none
  settings : Option Path := none
  logJson : Bool := false
  deriving DecidableEq

/-- The flags of the command that generates. -/
structure GenerateFlags where
  output : Option Path := none
  runtimePackage : Option String := none
  noManifest : Bool := false
  jobs : Option Nat := none
  failFast : Bool := false
  deriving DecidableEq

inductive Command where
  | generate (inputs : List Path) (flags : GenerateFlags)
  | check (inputs : List Path)
  | verify (directory : Option Path)
  | settings (print : Bool)
  deriving DecidableEq

/-- A command with the flags that it is called with. -/
structure Invocation where
  flags : CommonFlags
  command : Command
  deriving DecidableEq

/-! ## Settings that flags stand for -/

def CommonFlags.layer (f : CommonFlags) : Settings.Layer :=
  { verbosity := Verbosity.ofFlags? f.quiet f.verbose, color := f.color }

def GenerateFlags.layer (f : GenerateFlags) : Settings.Layer :=
  { jobs := f.jobs
    failFast := if f.failFast then some true else none
    output := f.output
    manifests := if f.noManifest then some false else none
    runtimePackage := f.runtimePackage }

/-- What a command's own flags set. -/
def Command.layer : Command → Settings.Layer
  | .generate _ flags => flags.layer
  | _ => {}

namespace CommandLine

/-- What has been read but not judged yet: a flag with its value, as soon as there is one, or
operands one after the other. -/
inductive Pending where
  | nothing
  | value (flag : Valued) (text : Option String)
  | operands (words : List String)

/-- How far a level has been read. -/
structure Progress where
  given : Given := {}
  pending : Pending := .nothing
  flagsEnded : Bool := false

namespace Progress

/-- Judges what is pending. -/
def settle (p : Progress) : Except Stop Progress :=
  match p.pending with
  | .nothing => .ok p
  | .value _ none => .error .invalidValue
  | .value flag (some text) => do
    return { p with given := ← p.given.put flag text, pending := .nothing }
  | .operands words => do
    return { p with given := ← p.given.addOperands words, pending := .nothing }

/-- Reads a flag that stands without a value. -/
def flag (p : Progress) (f : Flag) : Except Stop Progress := do
  let p ← p.settle
  match f with
  | .switch s => return { p with given := ← p.given.switch s }
  | .valued v => return { p with pending := .value v none }
  | .help => throw .help
  | .version => throw .version

/-- Reads a flag with a value attached to it. -/
def attached (p : Progress) (f : Flag) (text : String) : Except Stop Progress :=
  match f with
  | .valued v => do
    let p ← p.settle
    return { p with given := ← p.given.put v text }
  | _ => .error .needlessValue

/-- Reads the letters behind one dash; the rest behind a flag that takes a value is its value. -/
def letters (l : Level) (p : Progress) : List Char → Except Stop Progress
  | [] => .ok p
  | c :: rest =>
    match l.flagOfLetter? c with
    | none => .error .unknownArgument
    | some (.valued v) =>
      match rest with
      | [] => p.flag (.valued v)
      | '=' :: text => p.attached (.valued v) (String.ofList text)
      | text => p.attached (.valued v) (String.ofList text)
    | some f => do letters l (← p.flag f) rest

/-- The number of operands so far. -/
def operandCount (p : Progress) : Nat :=
  p.given.operands.length + match p.pending with
    | .operands words => words.length
    | _ => 0

/-- Reads an operand. -/
def operand (l : Level) (p : Progress) (text : String) : Except Stop Progress :=
  if l.operandLimit?.any (· ≤ p.operandCount) then .error .unknownArgument
  else
    match p.pending with
    | .operands words => .ok { p with pending := .operands (words ++ [text]) }
    | _ => do return { ← p.settle with pending := .operands [text] }

/-- Reads a word. -/
def word (l : Level) (p : Progress) (text : String) : Except Stop Progress :=
  if p.flagsEnded then p.operand l text
  else
    match Word.ofString text with
    | .dashes => .ok { p with flagsEnded := true }
    | .long name value =>
      match l.flagOfName? name, value with
      | none, _ => .error .unknownArgument
      | some f, none => p.flag f
      | some f, some value => p.attached f value
    | .short cs => p.letters l cs
    | .plain =>
      match p.pending with
      | .value flag none => .ok { p with pending := .value flag (some text) }
      | _ => p.operand l text

/-- Whether the next word can be the name of a command. -/
def expectsCommand (p : Progress) : Bool :=
  match p.pending with
  | .value _ none => false
  | _ => !p.flagsEnded

end Progress

/-- A flag that a level has not been given may have its value from the environment. -/
def Given.withEnvironment (l : Level) (g : Given) (directory : Option String) :
    Except Stop Given :=
  match l, directory with
  | .generate, some text => if g.output.isSome then .ok g else g.put .output text
  | .verify, some text => if g.operands = [] then g.addOperands [text] else .ok g
  | _, _ => .ok g

/-- The command that the flags and operands behind its name add up to. -/
def Given.command (l : Level) (g : Given) : Except Stop Command :=
  match l with
  | .top => .error .missingCommand
  | .generate =>
    if g.operands = [] then .error .missingArgument
    else .ok (.generate g.operands ⟨g.output, g.runtimePackage, g.noManifest, g.jobs, g.failFast⟩)
  | .check => if g.operands = [] then .error .missingArgument else .ok (.check g.operands)
  | .verify => .ok (.verify g.operands.head?)
  | .settings => .ok (.settings g.print)

/-- The flags for every command, of which those behind its name count more. -/
def Given.common (before behind : Given) : CommonFlags where
  verbose := if behind.verbose = 0 then before.verbose else behind.verbose
  quiet := before.quiet || behind.quiet
  color := behind.color.or before.color
  settings := behind.settings.or before.settings
  logJson := before.logJson || behind.logJson

/-- Reads the words behind a command's name. -/
def behind (l : Level) (directory : Option String) (words : List String) :
    Except Stop (Given × Command) := do
  let p ← words.foldlM (Progress.word l) {}
  let given ← (← p.settle).given.withEnvironment l directory
  return (given, ← given.command l)

/-- The name under which help is asked for. -/
def helpName : String := "help"

/-- Whether a word can stand where a command's name is expected. -/
def isCommandName (text : String) : Bool := text = helpName || (Level.ofName? text).isSome

/-- Answers to a request for help, which may name one command. -/
def helpOn : List String → Stop
  | [] => .help
  | [name] => if isCommandName name then .help else .unknownCommand
  | _ :: _ :: _ => .unknownCommand

/-- Reads the words up to a command's name, and then those behind it. -/
def front (directory : Option String) (p : Progress) : List String → Except Stop Invocation
  | [] => do
    let given := (← p.settle).given
    throw (if given = {} then .usage else .missingCommand)
  | text :: rest =>
    match p.expectsCommand, Level.ofName? text with
    | true, some l => do
      let (given, command) ← behind l directory rest
      return ⟨(← p.settle).given.common given, command⟩
    | true, none =>
      if text = helpName then .error (helpOn rest)
      else if (Word.ofString text) matches .plain then .error .unknownCommand
      else do front directory (← p.word .top text) rest
    | false, _ =>
      if p.flagsEnded ∧ ¬isCommandName text then .error .unknownCommand
      else do front directory (← p.word .top text) rest

end CommandLine

/-- Reads a command line without the program's name. The environment may name the directory that
is written to or verified. -/
def Invocation.ofWords (words : List String) (directory : Option String) :
    Except Stop Invocation := CommandLine.front directory {} words

end PageAccessors
