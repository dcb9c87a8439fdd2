/-!
# Flags

The words that steer a command. A switch is given or not; the other flags take a value. A command
line has two levels, the one in front of the command's name and the one behind it: some flags are
known at both of them and some belong to one command only.
-/

namespace PageAccessors.CommandLine

/-- The flags without a value. -/
inductive Switch where
  | verbose
  | quiet
  | logJson
  | noManifest
  | failFast
  | print
  deriving DecidableEq

/-- The flags with a value. -/
inductive Valued where
  | color
  | settings
  | output
  | runtimePackage
  | jobs
  deriving DecidableEq

inductive Flag where
  | switch (s : Switch)
  | valued (v : Valued)
  | help
  | version
  deriving DecidableEq

namespace Flag

/-- The name of a flag behind two dashes. -/
def name : Flag → String
  | switch .verbose => "verbose"
  | switch .quiet => "quiet"
  | switch .logJson => "log-json"
  | switch .noManifest => "no-manifest"
  | switch .failFast => "fail-fast"
  | switch .print => "show"
  | valued .color => "color"
  | valued .settings => "config"
  | valued .output => "output"
  | valued .runtimePackage => "runtime-package"
  | valued .jobs => "jobs"
  | help => "help"
  | version => "version"

/-- The letter of a flag behind one dash. -/
def letter? : Flag → Option Char
  | switch .verbose => some 'v'
  | switch .quiet => some 'q'
  | valued .output => some 'o'
  | valued .jobs => some 'j'
  | help => some 'h'
  | version => some 'V'
  | _ => none

/-- The flags that are known at both levels. -/
def common : List Flag :=
  [switch .verbose, switch .quiet, valued .color, valued .settings, switch .logJson, help, version]

end Flag

/-- The level in front of a command's name, and the one behind each name. -/
inductive Level where
  | top
  | generate
  | check
  | verify
  | settings
  deriving DecidableEq

namespace Level

/-- The name of a command. -/
def name? : Level → Option String
  | top => none
  | generate => some "generate"
  | check => some "check"
  | verify => some "verify"
  | settings => some "config"

/-- The command with a name. -/
def ofName? (text : String) : Option Level :=
  [generate, check, verify, settings].find? fun l => l.name? = some text

/-- The flags that belong to one level only. -/
def own : Level → List Flag
  | generate =>
    [.valued .output, .valued .runtimePackage, .switch .noManifest, .valued .jobs,
      .switch .failFast]
  | settings => [.switch .print]
  | _ => []

/-- The flags that are known at a level. -/
def flags (l : Level) : List Flag := l.own ++ Flag.common

def flagOfName? (l : Level) (name : String) : Option Flag := l.flags.find? fun f => f.name = name

def flagOfLetter? (l : Level) (letter : Char) : Option Flag :=
  l.flags.find? fun f => f.letter? = some letter

/-- How many operands a level takes at most; none stands for any number. -/
def operandLimit? : Level → Option Nat
  | top => some 0
  | generate => none
  | check => none
  | verify => some 1
  | settings => some 0

end Level

/-- A word of a command line by its shape. -/
inductive Word where
  | dashes
  | long (name : String) (value : Option String)
  | short (letters : List Char)
  | plain

/-- The shape of a word. Two dashes alone end the flags, and one dash alone is no flag. -/
def Word.ofString (text : String) : Word :=
  match text.toList with
  | ['-', '-'] => dashes
  | '-' :: '-' :: rest =>
    match rest.dropWhile (· ≠ '=') with
    | [] => long (String.ofList rest) none
    | _ :: value => long (String.ofList (rest.takeWhile (· ≠ '='))) (some (String.ofList value))
  | '-' :: letter :: rest => short (letter :: rest)
  | _ => plain

end PageAccessors.CommandLine
