import PageAccessors.Output
import PageAccessors.Settings

/-!
# Reports

What a run has to tell, event by event. A run notes all of its events, whatever its settings; how
much of them is shown, and whether in words or in symbols, is decided when the report is told.
-/

namespace PageAccessors

/-- The name of a page in a report: the file it comes from, and its own name. -/
structure Label where
  source : Path
  page : String
  deriving DecidableEq

def Label.text (l : Label) : String := l.source.text ++ ":" ++ l.page

/-- Why a page is not written: it has a fault, or an earlier page has its place. -/
inductive PageProblem where
  | failure (f : Failure)
  | taken (p : Path) (first : Label)

def PageProblem.message : PageProblem → String
  | .failure f => f.message
  | .taken p first => "Output " ++ p.text ++ " is already generated by " ++ first.text

/-- How many items of a kind passed, and how many failed. -/
structure Tally where
  noun : String
  passed : Nat
  failed : Nat
  deriving DecidableEq

/-- The line for a tally and the seconds that have gone by. -/
def Tally.line (t : Tally) (elapsed : String) : String :=
  (if t.failed > 0 then "FAILED " else "PASSED ") ++ toString (t.passed + t.failed) ++ " " ++
    t.noun ++ " in " ++ elapsed ++ "s (" ++ toString t.passed ++ " ok, " ++ toString t.failed ++
    " failed)"

inductive Event where
  | unreadable (file : Path) (f : Failure)
  | noPages (file : Path)
  | accepted (page : Label) (entries : Nat)
  | generated (file : GeneratedFile)
  | written (page : Label) (p : Path)
  | refused (page : Label) (problem : PageProblem)
  | noFiles (directory : Path)
  | intact (file : Path)
  | altered (f : Failure)
  | summary (t : Tally)

/-- What kind of message an event is told with. -/
inductive Mark where
  | pass
  | fail
  | warning
  | info
  deriving DecidableEq

namespace Mark

def word : Mark → String
  | pass => "PASS"
  | fail => "FAIL"
  | warning => "WARN"
  | info => "INFO"

def symbol : Mark → String
  | pass => "✓"
  | fail => "✗"
  | warning => "⚠"
  | info => "ℹ"

end Mark

namespace Event

/-- The mark of an event; a summary has none. -/
def mark? : Event → Option Mark
  | unreadable _ _ => some .fail
  | noPages _ => some .warning
  | accepted _ _ => some .pass
  | generated _ => some .info
  | written _ _ => some .pass
  | refused _ _ => some .fail
  | noFiles _ => some .warning
  | intact _ => some .pass
  | altered _ => some .fail
  | summary _ => none

/-- How many digits of a hash are told. -/
def shownDigits : Nat := 12

/-- What is told of an event behind its mark. -/
def text (elapsed : String) : Event → String
  | unreadable file f => file.text ++ ": " ++ f.message
  | noPages file => file.text ++ ": no pages declared"
  | accepted page entries => page.text ++ " (" ++ toString entries ++ " entries)"
  | generated file =>
    file.package ++ "." ++ file.className ++ ": " ++ toString file.contents.utf8ByteSize ++
      " bytes, input " ++ String.ofList (file.inputHash.toList.take shownDigits)
  | written page p => page.text ++ " → " ++ p.text
  | refused page problem => page.text ++ ": " ++ problem.message
  | noFiles directory => "no generated files under " ++ directory.text
  | intact file => file.text
  | altered f => f.message ++ "\n  regenerate it with `pagegen generate`"
  | summary t => t.line elapsed

/-- Whether an event is shown. Failures always are. -/
def isShown (v : Verbosity) (e : Event) : Bool :=
  match e with
  | summary t => !v.isQuiet || t.failed > 0
  | e =>
    match e.mark? with
    | some .fail => true
    | some .info => v.isVerbose
    | _ => !v.isQuiet

/-- What is told of an event. -/
def line (symbols : Bool) (elapsed : String) (e : Event) : String :=
  match e.mark? with
  | some m => (if symbols then m.symbol else m.word) ++ " " ++ e.text elapsed
  | none => e.text elapsed

end Event

/-- What is told of some events; `elapsed` are the seconds that have gone by at the end. -/
def report (v : Verbosity) (symbols : Bool) (elapsed : String) (events : List Event) :
    List String := (events.filter (·.isShown v)).map (·.line symbols elapsed)

/-! ## Keeping account -/

/-- The events so far, and how many of the items so far failed. -/
structure Account where
  events : List Event := []
  failed : Nat := 0
  total : Nat := 0

namespace Account

/-- Notes an event that counts for nothing. -/
def note (a : Account) (e : Event) : Account := { a with events := a.events ++ [e] }

/-- Notes an item that passed. -/
def pass (a : Account) (e : Event) : Account := { a.note e with total := a.total + 1 }

/-- Notes an item that failed. -/
def fail (a : Account) (e : Event) : Account :=
  { a.note e with failed := a.failed + 1, total := a.total + 1 }

/-- Notes the summary of a number of items. -/
def close (a : Account) (noun : String) (total : Nat) : Account :=
  a.note (.summary ⟨noun, total - a.failed, a.failed⟩)

end Account

/-- Takes one item after the other. A step says whether its item passed, and with `failFast` none
is taken after one that did not. -/
def takeEach {σ α : Type} (failFast : Bool) (step : σ → α → σ × Bool) : σ → List α → σ
  | s, [] => s
  | s, a :: rest =>
    match step s a with
    | (next, passed) => if failFast && !passed then next else takeEach failFast step next rest

/-! ## Outcomes -/

/-- Why the settings file cannot be used. -/
inductive SettingsFault where
  | files (fault : FileFault)
  | yaml (e : Yaml.Error)

/-- Why a command fails. -/
inductive CommandError where
  | settings (file : Path) (fault : SettingsFault)
  | generation (failed total : Nat)
  | verification (failed total : Nat)
  | notDirectory (p : Path)

def CommandError.message : CommandError → String
  | .settings file (.files fault) =>
    "Configuration error: cannot read " ++ file.text ++ ": " ++ fault.message
  | .settings file (.yaml e) => "Configuration error: invalid " ++ file.text ++ ": " ++ e.message
  | .generation failed total =>
    "Generation failed: " ++ toString failed ++ " of " ++ toString total ++
      " page(s) had errors"
  | .verification failed total =>
    "Verification failed: " ++ toString failed ++ " of " ++ toString total ++
      " file(s) do not match their manifest"
  | .notDirectory p => "Invalid argument: " ++ p.text ++ " is not a directory"

/-- What a command leaves behind: the files, what it has to tell, what it prints, and its result. -/
structure Outcome (α : Type) where
  tree : FileTree
  events : List Event := []
  output : String := ""
  result : Except CommandError α

/-- The outcome with something else as its result. -/
def Outcome.map {α β : Type} (f : α → β) (o : Outcome α) : Outcome β :=
  { tree := o.tree, events := o.events, output := o.output, result := o.result.map f }

end PageAccessors
