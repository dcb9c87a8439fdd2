import PageAccessors.Proofs.FailedWrites
import PageAccessors.Proofs.Recorded
import PageAccessors.Proofs.SettingsRead

/-!
# Layers of settings

Settings are written as a file that holds each of them, and are read back from it
(`Settings.ofText_render`). An invocation takes each of its settings from its flags, else from its
settings file, else by default, whatever the others are (`Settings.layers_compose`).

Not every file that holds settings is read (`Settings.refused_files`). The value of a key that is
not known is kept until the end, and a value with a name cannot be kept; and what is wanted as a
truth value or a number is not taken out of quotes, even where the text says that it is one.
-/

namespace PageAccessors

/-! ## Flags of commands -/

/-- The flags of a command that generates; any other command is without them. -/
def Command.flags : Command → GenerateFlags
  | .generate _ flags => flags
  | _ => {}

theorem Command.layer_eq (c : Command) : c.layer = c.flags.layer := by cases c <;> rfl

namespace Settings

open Yaml (Document First Reads Style Value)

/-! ## Files that are written -/

/-- Each of the settings, as a file says it. -/
def each (s : Settings) : List Setting := [
  .verbosity s.verbosity,
  .color s.color,
  .jobs s.jobs,
  .failFast s.failFast,
  .output s.output.text,
  .manifests s.manifests,
  .runtimePackage s.options.runtimePackage,
  .header s.options.header]

/-- The value of the file that is written for settings. -/
def value (s : Settings) : Value :=
  .record (s.fields.map fun f => (.scalar (.text f.1), .scalar f.2.data))

theorem holds_value (s : Settings) : Holds s.value s.each where
  fields := by
    refine ⟨_, rfl, ?_⟩
    repeat' first
      | exact .nil
      | refine .cons ⟨rfl, ?_⟩ ?_
      | constructor
  once := by
    have keys : s.each.map Setting.key = knownKeys := rfl
    have distinct : (s.each.map Setting.key).Nodup := by
      rw [keys]
      decide
    exact (List.pairwise_map.1 distinct).imp fun h same => absurd same h

theorem isKeyName_of_mem_fields {s : Settings} {f : String × Yaml.Simple} (h : f ∈ s.fields) :
    Yaml.IsKeyName f.1.toList ∧ Yaml.isAmbiguous f.1 = false := by
  have keys : ∀ key ∈ knownKeys, key.toList ≠ [] ∧ key.toList.all Yaml.isKeyChar = true ∧
      key.toList.length ≤ 1024 ∧ Yaml.isAmbiguous key = false := by decide +kernel
  have known : f.1 ∈ knownKeys := by
    have : s.fields.map Prod.fst = knownKeys := rfl
    exact this ▸ List.mem_map_of_mem h
  obtain ⟨ne, chars, length, plain⟩ := keys f.1 known
  exact ⟨⟨ne, List.all_eq_true.1 chars, length⟩, plain⟩

theorem load_render {s : Settings} (h : s.jobs < 1 <<< 64) : Yaml.load s.render = .ok s.value := by
  refine Yaml.load_render (by simp [fields]) fun f hf => ?_
  obtain ⟨name, plain⟩ := isKeyName_of_mem_fields hf
  refine ⟨name, plain, ?_⟩
  simp only [fields, List.mem_cons, List.not_mem_nil, or_false] at hf
  rcases hf with rfl | rfl | rfl | rfl | rfl | rfl | rfl | rfl
  all_goals first
    | exact h
    | trivial

theorem unquoted_render (s : Settings) : Unquoted s.render := by
  intro d following hd node hnode name hn hk
  rw [render, First.ofText_render (by simp [fields])
    fun f hf => (isKeyName_of_mem_fields hf).1] at hd
  cases hd
  obtain ⟨f, hf, rfl⟩ : ∃ f ∈ s.fields, Yaml.fieldNode f = node := List.mem_map.1 hnode
  obtain rfl : f.1 = name := Option.some.inj hn
  clear hn hnode
  have plain : Yaml.writtenStyle f.2 = .plain := by
    simp only [fields, List.mem_cons, List.not_mem_nil, or_false] at hf
    -- A text may need quotes, but truth values and numbers are no texts.
    rcases hf with rfl | rfl | rfl | rfl | rfl | rfl | rfl | rfl
    all_goals first
      | rfl
      | simp at hk
  show some (Yaml.writtenStyle f.2) ≠ some .other
  rw [plain]
  nofun

theorem ofText_render {s : Settings} (h : s.jobs < 1 <<< 64) :
    Layer.ofText s.render = .ok (.ofSettings s.each) := by
  refine ofText_of_holds (load_render h) s.holds_value ?_ s.unquoted_render
  simp [each]

theorem apply_each {s : Settings} (h : s.output.IsSpelled) (below : Settings) :
    below.apply (.ofSettings s.each) = s := by
  have output : Path.ofString s.output.text = s.output := h
  simp [apply, Layer.ofSettings, each, Setting.layer, output]

/-! ## Flags above files -/

/-- A switch leaves a setting as it is or turns it to one side. -/
theorem getD_switch (given on old : Bool) :
    (if given then some on else none).getD old = if given then on else old := by
  cases given <;> rfl

/-- The settings under the flags of an invocation. -/
theorem apply_flags (s : Settings) (f : CommonFlags) (g : GenerateFlags) :
    (s.apply f.layer).apply g.layer = {
      verbosity := (Verbosity.ofFlags? f.quiet f.verbose).getD s.verbosity
      color := f.color.getD s.color
      jobs := g.jobs.getD s.jobs
      failFast := g.failFast || s.failFast
      output := g.output.getD s.output
      manifests := !g.noManifest && s.manifests
      options := ⟨g.runtimePackage.getD s.options.runtimePackage, s.options.header⟩ } := by
  have failFast : (if g.failFast then true else s.failFast) = (g.failFast || s.failFast) := by
    cases g.failFast <;> rfl
  have manifests : (if g.noManifest then false else s.manifests) =
      (!g.noManifest && s.manifests) := by
    cases g.noManifest <;> rfl
  simp only [apply, CommonFlags.layer, GenerateFlags.layer, getD_switch, failFast, manifests,
    Option.getD_none]

/-- A settings file that is there sets what its text says. -/
theorem Layer.find_eq_ok_iff {t : FileTree} {named : Option Path} {text : String} {l : Layer}
    (h : t.readText (named.getD defaultFile) = .ok text) :
    find t named = .ok l ↔ ofText text = .ok l := by
  have found : ∀ {file : Path}, t.readText file = .ok text →
      (Layer.read t file = .ok l ↔ ofText text = .ok l) := fun {file} hr => by
    rw [Layer.read, hr]
    exact Except.mapError_eq_ok_iff
  cases named with
  | some file => exact found h
  | none =>
    have isFile : t.isFile defaultFile = true := by
      obtain ⟨bytes, hb, -⟩ := FileTree.readText_eq_ok_iff.1 h
      rw [Option.getD_none] at hb
      rw [FileTree.isFile, hb]
    rw [find, if_pos isFile]
    exact found h

/-- An invocation works with the settings of its file under its flags, if the file is read. -/
theorem settings_eq_ok_iff {text : String} {v : Value} {es : List Setting} {i : Invocation}
    {t : FileTree} {s : Settings} (hv : Yaml.load text = .ok v) (holds : Holds v es)
    (read : t.readText (i.flags.settings.getD defaultFile) = .ok text) :
    i.settings t = .ok s ↔
      ((∀ key v, .other key v ∈ es → v.Untagged) ∧ Unquoted text) ∧
        s = ((({} : Settings).apply (.ofSettings es)).apply i.flags.layer).apply
          i.command.layer := by
  rw [Invocation.settings_eq_ok_iff]
  simp only [Layer.find_eq_ok_iff read]
  constructor
  · rintro ⟨file, hfile, rfl⟩
    have plain := (exists_ofText_iff hv holds).1 ⟨file, hfile⟩
    rw [ofText_of_holds hv holds plain.1 plain.2] at hfile
    cases hfile
    exact ⟨plain, rfl⟩
  · rintro ⟨plain, rfl⟩
    exact ⟨_, ofText_of_holds hv holds plain.1 plain.2, rfl⟩

/-! ## A file with another key -/

namespace Themed

def text : String :=
  "theme: [dark, light]\n\"header\": 'Do not edit'\nparallel_jobs: 3\ncolor: never\n"

def document : Document where
  root := .record none [
    (.scalar none .plain "theme",
      .list none [.scalar none .plain "dark", .scalar none .plain "light"]),
    (.scalar none .other "header", .scalar none .other "Do not edit"),
    (.scalar none .plain "parallel_jobs", .scalar none .plain "3"),
    (.scalar none .plain "color", .scalar none .plain "never")]
  anchored := []
  steps := 13

def theme : Value := .list [.scalar (.text "dark"), .scalar (.text "light")]

def value : Value := .record [
  (.scalar (.text "theme"), theme),
  (.scalar (.text "header"), .scalar (.text "Do not edit")),
  (.scalar (.text "parallel_jobs"), .scalar (.natural 3)),
  (.scalar (.text "color"), .scalar (.text "never"))]

def settings : List Setting := [.other "theme" theme, .header "Do not edit", .jobs 3, .color .never]

theorem ofText_text : First.ofText text = .document document .nothing := by
  have tokens : Yaml.tokens text = [.blockRecordStart,
      .key, .scalar .plain "theme", .value,
        .flowListStart, .scalar .plain "dark", .flowEntry, .scalar .plain "light", .flowListEnd,
      .key, .scalar .other "header", .value, .scalar .other "Do not edit",
      .key, .scalar .plain "parallel_jobs", .value, .scalar .plain "3",
      .key, .scalar .plain "color", .value, .scalar .plain "never",
      .blockEnd, .streamEnd] := by decide +kernel
  rw [First.ofText, tokens]
  rfl

theorem load_text : Yaml.load text = .ok value := by
  have scalar {depth : Nat} {style : Style} {text : String} {x : Data}
      (h : Yaml.scalarValue "any value" none style text = .ok x) :
      Reads (Yaml.valueOf depth (.scalar none style text)) document 0 (.scalar x) 0 :=
    Yaml.reads_valueOf_scalar h
  have theme : Reads (Yaml.valueOf 127 (.list none
      [.scalar none .plain "dark", .scalar none .plain "light"])) document 0 theme 0 :=
    Yaml.reads_valueOf_list <| Yaml.reads_mapM_cons.2 ⟨_, 0, _, scalar rfl,
      Yaml.reads_mapM_cons.2 ⟨_, 0, _, scalar rfl, Yaml.reads_pure.2 ⟨rfl, rfl⟩, rfl⟩, rfl⟩
  refine Yaml.readText_eq_ok (m := 0) ofText_text (Yaml.reads_valueOf_record ?_)
  refine Yaml.reads_readFields_cons.2 ⟨_, 0, _, 0, _, scalar rfl, theme, ?_, rfl⟩
  refine Yaml.reads_readFields_cons.2 ⟨_, 0, _, 0, _, scalar rfl, scalar rfl, ?_, rfl⟩
  refine Yaml.reads_readFields_cons.2 ⟨_, 0, _, 0, _, scalar rfl, scalar rfl, ?_, rfl⟩
  refine Yaml.reads_readFields_cons.2 ⟨_, 0, _, 0, _, scalar rfl, scalar rfl, ?_, rfl⟩
  exact Yaml.reads_pure.2 ⟨rfl, rfl⟩

theorem holds : Holds value settings where
  fields := ⟨_, rfl, .cons ⟨rfl, .other (by decide) _⟩ (.cons ⟨rfl, .header _⟩
    (.cons ⟨rfl, .jobs 3⟩ (.cons ⟨rfl, .color .never⟩ .nil)))⟩
  once := by
    have distinct : (settings.map Setting.key).Nodup := by decide
    exact (List.pairwise_map.1 distinct).imp fun h same => absurd same h

theorem untagged (key : String) (v : Value) (h : .other key v ∈ settings) : v.Untagged := by
  obtain ⟨-, rfl⟩ : key = "theme" ∧ v = theme := by simpa [settings] using h
  refine .list fun v hv => ?_
  obtain rfl | rfl : v = .scalar (.text "dark") ∨ v = .scalar (.text "light") := by simpa using hv
  all_goals exact .scalar _

theorem unquoted : Unquoted text := by
  intro d following hd
  rw [ofText_text] at hd
  cases hd
  simp [Document.fields, Document.meant, document, Document.text?, Document.style?]

def tree : FileTree where
  home := []
  entries := [(["pagegen.yaml"], .file text.toUTF8)]
  distinct := by decide
  closed := by simp

def invocation : Invocation :=
  ⟨{ verbose := 1 }, .generate [.ofString "login.json"] { noManifest := true, jobs := some 5 }⟩

/-- Settings whose texts have to be written in quotes and as a block of lines. -/
def written : Settings where
  color := .always
  jobs := 12
  output := .ofString "- out"
  options := ⟨"true", "# By hand\n  or: not\n"⟩

theorem readText_tree :
    tree.readText (invocation.flags.settings.getD defaultFile) = .ok text :=
  FileTree.readText_eq_ok_iff.2 ⟨text.toUTF8, rfl, fromUTF8?_toUTF8 text⟩

end Themed

/-- Every setting is the one that a flag gives, else the one in the file, else the default one. The
file may hold the keys in any order and other ones among them; it is read exactly if the values of
these have no names and the truth values and numbers that it sets are not in quotes. The file that
is written for settings is read back as these settings, where the number of jobs is a machine word
and the output is the path of its text. -/
theorem layers_compose :
    (∀ (text : String) (v : Value) (es : List Setting), Yaml.load text = .ok v → Holds v es →
      ∀ (i : Invocation) (t : FileTree) (s : Settings),
        t.readText (i.flags.settings.getD defaultFile) = .ok text →
        (i.settings t = .ok s ↔
          ((∀ key v, .other key v ∈ es → v.Untagged) ∧ Unquoted text) ∧ s = {
            verbosity := ((Verbosity.ofFlags? i.flags.quiet i.flags.verbose).or
              (es.findSome? (·.layer.verbosity))).getD .normal
            color := (i.flags.color.or (es.findSome? (·.layer.color))).getD .auto
            jobs := (i.command.flags.jobs.or (es.findSome? (·.layer.jobs))).getD 0
            failFast := i.command.flags.failFast || (es.findSome? (·.layer.failFast)).getD false
            output := (i.command.flags.output.or (es.findSome? (·.layer.output))).getD
              (.ofString "build/generated/pagegen")
            manifests :=
              !i.command.flags.noManifest && (es.findSome? (·.layer.manifests)).getD true
            options := {
              runtimePackage := (i.command.flags.runtimePackage.or
                (es.findSome? (·.layer.runtimePackage))).getD ({} : Options).runtimePackage
              header := (es.findSome? (·.layer.header)).getD ({} : Options).header } })) ∧
    ∀ s : Settings, s.jobs < 1 <<< 64 → s.output.IsSpelled →
      (Layer.ofText s.render).map ({} : Settings).apply = .ok s := by
  refine ⟨fun text v es hv holds i t s read => ?_, fun s jobs output => ?_⟩
  · refine (settings_eq_ok_iff hv holds read).trans (and_congr_right fun _ => ?_)
    rw [Command.layer_eq, apply_flags]
    simp only [apply, Layer.ofSettings, Option.getD_or]
  · rw [ofText_render jobs]
    exact congrArg Except.ok (apply_each output {})

theorem layers_compose_themed :
    Yaml.load Themed.text = .ok Themed.value ∧ Holds Themed.value Themed.settings ∧
      (∀ key v, .other key v ∈ Themed.settings → v.Untagged) ∧ Unquoted Themed.text ∧
      Themed.tree.readText (Themed.invocation.flags.settings.getD defaultFile) =
        .ok Themed.text ∧
      Themed.invocation.settings Themed.tree = .ok {
        verbosity := .verbose
        color := .never
        jobs := 5
        manifests := false
        options := { header := "Do not edit" } } ∧
      Themed.written.jobs < 1 <<< 64 ∧ Themed.written.output.IsSpelled ∧
      (Layer.ofText Themed.written.render).map ({} : Settings).apply = .ok Themed.written :=
  ⟨Themed.load_text, Themed.holds, Themed.untagged, Themed.unquoted, Themed.readText_tree,
    (layers_compose.1 _ _ _ Themed.load_text Themed.holds _ _ _ Themed.readText_tree).2
      ⟨⟨Themed.untagged, Themed.unquoted⟩, rfl⟩,
    by decide, Path.IsSpelled.ofString "- out",
    layers_compose.2 Themed.written (by decide) (Path.IsSpelled.ofString "- out")⟩

/-! ## Files that are refused -/

namespace Refused

/-- A file with a name for the value of a key that is not known. -/
def namedText : String := "color: never\nextra: !local 1\n"

def namedDocument : Document where
  root := .record none [
    (.scalar none .plain "color", .scalar none .plain "never"),
    (.scalar none .plain "extra", .scalar (some "!local") .plain "1")]
  anchored := []
  steps := 6

def named : Value := .tagged "local" (.scalar (.natural 1))

theorem ofText_namedText : First.ofText namedText = .document namedDocument .nothing := by
  have tokens : Yaml.tokens namedText = [.blockRecordStart,
      .key, .scalar .plain "color", .value, .scalar .plain "never",
      .key, .scalar .plain "extra", .value, .tag ⟨"!", "local"⟩, .scalar .plain "1",
      .blockEnd, .streamEnd] := by decide +kernel
  rw [First.ofText, tokens]
  rfl

theorem load_namedText : Yaml.load namedText = .ok (.record [
    (.scalar (.text "color"), .scalar (.text "never")), (.scalar (.text "extra"), named)]) := by
  have extra (depth : Nat) : Reads (Yaml.valueOf depth (.scalar (some "!local") .plain "1"))
      namedDocument 0 (Yaml.withTag (some "!local") (.scalar (.natural 1))) 0 :=
    Yaml.reads_valueOf_scalar rfl
  refine Yaml.readText_eq_ok (m := 0) ofText_namedText (Yaml.reads_valueOf_record ?_)
  refine Yaml.reads_readFields_cons.2 ⟨_, 0, _, 0, _, Yaml.reads_valueOf_scalar rfl,
    Yaml.reads_valueOf_scalar rfl, ?_, rfl⟩
  refine Yaml.reads_readFields_cons.2 ⟨_, 0, _, 0, _, Yaml.reads_valueOf_scalar rfl, extra 127, ?_,
    rfl⟩
  exact Yaml.reads_pure.2 ⟨rfl, rfl⟩

theorem unquoted_namedText : Unquoted namedText := by
  intro d following hd
  rw [ofText_namedText] at hd
  cases hd
  simp [Document.fields, Document.meant, namedDocument, Document.text?]

theorem layer_namedText : Layer.ofText namedText =
    .error (.mismatch (some (.field .root (some "extra"))) .taggedValue) := by
  rw [Layer.ofText, if_neg (by decide +kernel)]
  refine Yaml.readText_eq_error ofText_namedText ?_
  have color : Reads (readField ⟨{}, []⟩ (.scalar none .plain "color", .scalar none .plain "never"))
      namedDocument 0 ⟨{ color := some .never }, []⟩ 0 := rfl
  have extra (p : Progress) : Yaml.Fails
      (readField p (.scalar none .plain "extra", .scalar (some "!local") .plain "1"))
      namedDocument 0 (.mismatch (some (.field .root (some "extra"))) .taggedValue) := by
    refine Yaml.fails_bind.2 (.inr ⟨"extra", 0, rfl, Yaml.fails_bind.2 (.inl ?_)⟩)
    rw [Yaml.dataOf]
    rfl
  refine Yaml.fails_bind.2 (.inr ⟨_, 0, rfl, Yaml.fails_bind.2 (.inl ?_)⟩)
  refine Yaml.fails_bind.2 (.inr ⟨_, 0, color, Yaml.fails_bind.2 (.inl ?_)⟩)
  exact extra _

/-- A file with a truth value in quotes. -/
def quotedText : String := "fail_fast: !!bool \"true\"\n"

def quotedDocument : Document where
  root := .record none [
    (.scalar none .plain "fail_fast", .scalar (some "tag:yaml.org,2002:bool") .other "true")]
  anchored := []
  steps := 4

theorem ofText_quotedText : First.ofText quotedText = .document quotedDocument .nothing := by
  have tokens : Yaml.tokens quotedText = [.blockRecordStart,
      .key, .scalar .plain "fail_fast", .value, .tag ⟨"!!", "bool"⟩, .scalar .other "true",
      .blockEnd, .streamEnd] := by decide +kernel
  rw [First.ofText, tokens]
  rfl

theorem load_quotedText : Yaml.load quotedText = .ok (.record [
    (.scalar (.text "fail_fast"), .scalar (.bool true))]) := by
  have failFast (depth : Nat) : Reads (Yaml.valueOf depth
      (.scalar (some "tag:yaml.org,2002:bool") .other "true")) quotedDocument 0
      (Yaml.withTag (some "tag:yaml.org,2002:bool") (.scalar (.bool true))) 0 :=
    Yaml.reads_valueOf_scalar rfl
  refine Yaml.readText_eq_ok (m := 0) ofText_quotedText (Yaml.reads_valueOf_record ?_)
  refine Yaml.reads_readFields_cons.2 ⟨_, 0, _, 0, _, Yaml.reads_valueOf_scalar rfl, failFast 127,
    ?_, rfl⟩
  exact Yaml.reads_pure.2 ⟨rfl, rfl⟩

theorem layer_quotedText : Layer.ofText quotedText =
    .error (.mismatch (some (.field .root (some "fail_fast")))
      (.wrongType (.bool true) "a boolean")) := by
  rw [Layer.ofText, if_neg (by decide +kernel)]
  exact Yaml.readText_eq_error ofText_quotedText rfl

end Refused

/-- Each of the two files holds well-formed settings and is refused. -/
theorem refused_files :
    (∃ v, Yaml.load Refused.namedText = .ok v ∧
      Holds v [.color .never, .other "extra" Refused.named] ∧ Unquoted Refused.namedText ∧
      Layer.ofText Refused.namedText =
        .error (.mismatch (some (.field .root (some "extra"))) .taggedValue)) ∧
    ∃ v, Yaml.load Refused.quotedText = .ok v ∧ Holds v [.failFast true] ∧
      Layer.ofText Refused.quotedText =
        .error (.mismatch (some (.field .root (some "fail_fast")))
          (.wrongType (.bool true) "a boolean")) := by
  refine ⟨⟨_, Refused.load_namedText, ⟨⟨_, rfl, ?_⟩, ?_⟩, Refused.unquoted_namedText,
    Refused.layer_namedText⟩, ⟨_, Refused.load_quotedText, ⟨⟨_, rfl, ?_⟩, ?_⟩,
    Refused.layer_quotedText⟩⟩
  · exact .cons ⟨rfl, .color .never⟩ (.cons ⟨rfl, .other (by decide) _⟩ .nil)
  · simp [Setting.key]
  · exact .cons ⟨rfl, .failFast true⟩ .nil
  · simp

end Settings
end PageAccessors
