import Mathlib.Logic.Basic
import Mathlib.Tactic.SplitIfs
import PageAccessors.Program
import PageAccessors.Proofs.Steps

/-!
# The command of a manifest

A manifest notes a command as one text. Split at its blanks, the text is a command line again as far
as its two paths stand there as single words: none of them has a blank, looks like a flag or is
missing (`Path.IsOperand`). Then it is read as the command that generates from the one file into the
one directory, whatever the environment says (`ofCommand_regenerateCommand`).

Of all that shapes the files of a run, the command names the directory only. The rest comes from
the default settings file again, so that it is the same unless another settings file or a package of
the runtime library was named (`Invocation.IsRecorded.again`).
-/

namespace PageAccessors

/-! ## Words -/

/-- The words of a command, the name of the program in front. -/
def commandWords (command : String) : List String :=
  (command.toList.splitOn ' ').map String.ofList

/-- The invocation that a command is read as, without the name of the program. -/
def Invocation.ofCommand (command : String) (directory : Option String) :
    Except CommandLine.Stop Invocation :=
  Invocation.ofWords (commandWords command).tail directory

/-- A path that can stand in a command: its text is one word, no flag, and names the path. -/
structure Path.IsOperand (p : Path) : Prop where
  unbroken : ' ' ∉ p.text.toList
  plain : CommandLine.Word.ofString p.text = .plain
  named : CommandLine.readPath p.text = .ok p

theorem regenerateCommand_eq (source output : Path) : regenerateCommand source output =
    " ".intercalate ["pagegen", "generate", source.text, "-o", output.text] := by
  have first : "pagegen generate " = "pagegen" ++ (" " ++ ("generate" ++ " ")) := by decide
  have second : " -o " = " " ++ ("-o" ++ " ") := by decide
  have joined (a b c d e : String) : " ".intercalate [a, b, c, d, e] =
      a ++ (" " ++ (b ++ " ")) ++ c ++ (" " ++ (d ++ " ")) ++ e := by
    simp only [String.intercalate_cons_cons, String.intercalate_singleton, String.append_assoc]
  rw [joined]
  exact congrArg₂ (fun a b => a ++ source.text ++ b ++ output.text) first second

theorem commandWords_regenerateCommand {source output : Path} (hs : source.IsOperand)
    (ho : output.IsOperand) : commandWords (regenerateCommand source output) =
      ["pagegen", "generate", source.text, "-o", output.text] := by
  have unbroken : ∀ word ∈ ["pagegen", "generate", source.text, "-o", output.text].map
      String.toList, ' ' ∉ word := by
    simp [hs.unbroken, ho.unbroken]
  have blank : " ".toList = [' '] := rfl
  rw [commandWords, regenerateCommand_eq, String.toList_intercalate, blank,
    List.splitOn_intercalate _ unbroken (by simp)]
  simp

/-! ## Reading the words -/

namespace CommandLine

variable {text : String} {p o : Path}

theorem word_operand (h : Word.ofString text = .plain) :
    Progress.word .generate {} text = .ok { pending := .operands [text] } := by
  rw [Progress.word, if_neg Bool.false_ne_true, h]
  rfl

theorem word_output (h : readPath text = .ok p) :
    Progress.word .generate { pending := .operands [text] } "-o" =
      .ok { given := { operands := [p] }, pending := .value .output none } := by
  have shape : Word.ofString "-o" = .short ['o'] := rfl
  have output : Level.generate.flagOfLetter? 'o' = some (.valued .output) := by decide
  rw [Progress.word, if_neg Bool.false_ne_true, shape]
  simp only [Progress.letters, output, Progress.flag, Progress.settle, Given.addOperands,
    List.mapM_cons, List.mapM_nil, h]
  rfl

theorem word_value {given : Given} {flag : Valued} (h : Word.ofString text = .plain) :
    Progress.word .generate { given := given, pending := .value flag none } text =
      .ok { given := given, pending := .value flag (some text) } := by
  rw [Progress.word, if_neg Bool.false_ne_true, h]

theorem settle_output (h : readPath text = .ok o) :
    Progress.settle { given := { operands := [p] }, pending := .value .output (some text) } =
      .ok { given := { operands := [p], output := some o } } := by
  simp only [Progress.settle, Given.put, h]
  rfl

theorem behind_generate (hp : p.IsOperand) (ho : o.IsOperand) (directory : Option String) :
    behind .generate directory [p.text, "-o", o.text] =
      .ok ({ operands := [p], output := some o }, .generate [p] { output := some o }) := by
  have environment : Given.withEnvironment .generate { operands := [p], output := some o }
      directory = .ok { operands := [p], output := some o } := by
    cases directory <;> rfl
  rw [behind, List.foldlM_cons, word_operand hp.plain, Except.ok_bind, List.foldlM_cons,
    word_output hp.named, Except.ok_bind, List.foldlM_cons, word_value ho.plain, Except.ok_bind,
    List.foldlM_nil, pure_bind, settle_output ho.named, Except.ok_bind, environment]
  rfl

end CommandLine

/-- The invocation that generates from a file into a directory. -/
def Invocation.again (source output : Path) : Invocation :=
  ⟨{}, .generate [source] { output := some output }⟩

theorem layer_again (source output : Path) :
    (Invocation.again source output).command.layer = { output := some output } := rfl

theorem ofCommand_regenerateCommand {source output : Path} (hs : source.IsOperand)
    (ho : output.IsOperand) (directory : Option String) :
    Invocation.ofCommand (regenerateCommand source output) directory =
      .ok (.again source output) := by
  have generate : CommandLine.Level.ofName? "generate" = some .generate := by decide
  rw [Invocation.ofCommand, commandWords_regenerateCommand hs ho, List.tail_cons,
    Invocation.ofWords, CommandLine.front]
  simp only [CommandLine.Progress.expectsCommand, generate, Bool.not_false,
    CommandLine.behind_generate hs ho]
  rfl

/-! ## Settings -/

/-- Nothing that shapes the files of an invocation's run is lost in the commands that it notes: it
names neither a settings file nor a package of the runtime library, and the paths can stand in a
command. -/
structure Invocation.IsRecorded (i : Invocation) (s : Settings) (source : Path) : Prop where
  settings : i.flags.settings = none
  runtimePackage : i.command.layer.runtimePackage = none
  source : source.IsOperand
  output : s.output.IsOperand

/-- Settings under which a run writes the same files as under others, and stops no sooner. -/
structure Settings.Repeats (s' s : Settings) : Prop where
  options : s'.options = s.options
  output : s'.output = s.output
  manifests : s.manifests = true → s'.manifests = true
  failFast : s'.failFast = true → s.failFast = true

theorem Invocation.settings_eq_ok_iff {i : Invocation} {t : FileTree} {s : Settings} :
    i.settings t = .ok s ↔ ∃ file, Settings.Layer.find t i.flags.settings = .ok file ∧
      s = ((({} : Settings).apply file).apply i.flags.layer).apply i.command.layer := by
  rw [settings, Except.bind_eq_ok_iff]
  simp only [Except.pure_eq_ok_iff, @eq_comm _ s]

/-- A command sets no header, and its switches only ever turn manifests off and early ends on. -/
theorem Command.layer_cases (c : Command) : c.layer.header = none ∧
    (c.layer.manifests = none ∨ c.layer.manifests = some false) ∧
    (c.layer.failFast = none ∨ c.layer.failFast = some true) := by
  cases c with
  | generate inputs flags =>
    simp only [Command.layer, GenerateFlags.layer]
    split_ifs <;> simp
  | check inputs => exact ⟨rfl, .inl rfl, .inl rfl⟩
  | verify directory => exact ⟨rfl, .inl rfl, .inl rfl⟩
  | settings print => exact ⟨rfl, .inl rfl, .inl rfl⟩

/-- The command that a run notes works with the settings of the run, as far as these matter. -/
theorem Invocation.IsRecorded.again {i : Invocation} {s : Settings} {source : Path}
    {t t' : FileTree} (h : i.IsRecorded s source) (hs : i.settings t = .ok s)
    (same : Settings.Layer.find t' none = Settings.Layer.find t none) :
    ∃ s', (Invocation.again source s.output).settings t' = .ok s' ∧ s'.Repeats s := by
  obtain ⟨file, hf, rfl⟩ := settings_eq_ok_iff.1 hs
  rw [h.settings, ← same] at hf
  refine ⟨_, settings_eq_ok_iff.2 ⟨file, hf, rfl⟩, ?_⟩
  obtain ⟨header, manifests, failFast⟩ := i.command.layer_cases
  constructor
  case options => simp [Settings.apply, CommonFlags.layer, layer_again, h.runtimePackage, header]
  case output => rfl
  case manifests =>
    intro on
    rcases manifests with hm | hm
    · simpa [Settings.apply, CommonFlags.layer, layer_again, hm] using on
    · simp [Settings.apply, hm] at on
  case failFast =>
    intro ends
    rcases failFast with hf | hf
    · simpa [Settings.apply, CommonFlags.layer, layer_again, hf] using ends
    · simp [Settings.apply, hf]

end PageAccessors
