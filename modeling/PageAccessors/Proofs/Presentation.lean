import PageAccessors.Program
import PageAccessors.Proofs.Intact
import PageAccessors.Proofs.Slots
import PageAccessors.Proofs.Timestamps

/-!
# What a run depends on

A run reads how much it is to tell, and with symbols or words, only when it is over, and the number
of its workers only to share the pages among them. So runs under settings that differ in these alone
end alike (`Outcome.Agree`): with the same result, the same events and the same files, timestamps
apart (`presentation_changes_nothing`). What a quiet run tells is what a normal one tells, without
what passed, the warnings and a summary of no failures (`isShown_quiet`).
-/

namespace PageAccessors

/-! ## Settings -/

/-- Settings for the same work: they differ in how much is told of it, in which way, and in how many
workers share it, if at all. -/
structure Settings.SameWork (s s' : Settings) : Prop where
  failFast : s'.failFast = s.failFast
  output : s'.output = s.output
  manifests : s'.manifests = s.manifests
  options : s'.options = s.options

theorem Settings.SameWork.apply {s s' : Settings} (h : s.SameWork s') (l : Layer) :
    (s.apply l).SameWork (s'.apply l) := by
  constructor
  · simp only [Settings.apply, h.failFast]
  · simp only [Settings.apply, h.output]
  · simp only [Settings.apply, h.manifests]
  · simp only [Settings.apply, h.options]

/-! ## Runs -/

/-- Two runs that end alike, and have the same to tell. -/
structure Outcome.Agree {α : Type} (o o' : Outcome α) : Prop where
  result : o'.result = o.result
  tree : o.tree.Alike o'.tree
  events : o'.events = o.events
  output : o'.output = o.output

/-- Runs whose steps keep a relation and pass or fail together keep it in the end. -/
theorem takeEach_related {σ σ' α : Type} {R : σ → σ' → Prop} (failFast : Bool)
    {step : σ → α → σ × Bool} {step' : σ' → α → σ' × Bool}
    (hstep : ∀ s s' a, R s s' → (step' s' a).2 = (step s a).2 ∧ R (step s a).1 (step' s' a).1) :
    ∀ {l : List α} {s : σ} {s' : σ'}, R s s' →
      R (takeEach failFast step s l) (takeEach failFast step' s' l)
  | [], _, _, h => h
  | a :: l, s, s', h => by
    obtain ⟨passed, next⟩ := hstep s s' a h
    rw [takeEach, takeEach]
    simp only
    rw [passed]
    split_ifs
    · exact next
    · exact takeEach_related failFast hstep next

/-- Two runs that have come equally far, in trees that are alike. -/
structure Emission.Alike (e e' : Emission) : Prop where
  tree : e.tree.Alike e'.tree
  claims : e'.claims = e.claims
  written : e'.written = e.written
  account : e'.account = e.account

section

variable {s s' : Settings} (h : s.SameWork s')
include h

/-- A page is refused, written or not written in both runs. -/
theorem Emission.Alike.add (time time' : String) {e e' : Emission} (he : e.Alike e')
    (item : SourcedPage × Except Diagnostic GeneratedFile) :
    (e'.add s' time' item).2 = (e.add s time item).2 ∧
      (e.add s time item).1.Alike (e'.add s' time' item).1 := by
  obtain ⟨p, generated⟩ := item
  obtain ⟨tree, claims, written, account⟩ := e
  obtain ⟨tree', claims', written', account'⟩ := e'
  obtain ⟨alike, same_claims, same_written, same_account⟩ := he
  simp only at alike same_claims same_written same_account
  subst same_claims same_written same_account
  cases generated with
  | error d => exact ⟨rfl, alike, rfl, rfl, rfl⟩
  | ok file =>
    simp only [Emission.add, Emission.place, h.manifests, h.output]
    cases claims'.lookup file.relativePath.components with
    | some first => exact ⟨rfl, alike, rfl, rfl, rfl⟩
    | none =>
      rcases hw : (writeGenerated time s.output file
        (if s.manifests then some (regenerateCommand p.source s.output) else none)).run tree
        with ⟨r, t⟩
      rcases hw' : (writeGenerated time' s.output file
        (if s.manifests then some (regenerateCommand p.source s.output) else none)).run tree'
        with ⟨r', t'⟩
      obtain ⟨rfl, alike⟩ :=
        (Disk.parallel_writeGenerated time time' s.output file _).ends alike hw hw'
      cases r' with
      | error fault => exact ⟨rfl, alike, rfl, rfl, rfl⟩
      | ok path => exact ⟨rfl, alike, rfl, rfl, rfl⟩

theorem agree_emitPages (m m' : Machine) (files : List Path) (t : FileTree) :
    (emitPages m s files t).Agree (emitPages m' s' files t) := by
  unfold emitPages
  simp only [h.failFast, h.options, generateAll_eq_map]
  by_cases stops : (s.failFast && decide ((Inputs.load t s.failFast files).unreadable > 0)) = true
  · rw [if_pos stops, if_pos stops]
    exact ⟨rfl, .refl t, rfl, rfl⟩
  rw [if_neg stops, if_neg stops]
  have start : Emission.Alike { tree := t, account := (Inputs.load t s.failFast files).account }
      { tree := t, account := (Inputs.load t s.failFast files).account } :=
    ⟨.refl t, rfl, rfl, rfl⟩
  obtain ⟨tree, -, written, account⟩ := takeEach_related s.failFast
    (fun _ _ item he => he.add h m.time m'.time item) start
  exact ⟨by simp only [written, account], tree, by simp only [account], rfl⟩

theorem agree_checkPages (files : List Path) (t : FileTree) :
    (checkPages s files t).Agree (checkPages s' files t) := by
  unfold checkPages
  rw [h.failFast]
  exact ⟨rfl, .refl t, rfl, rfl⟩

theorem agree_verifyFiles (named : Option Path) (t : FileTree) :
    (verifyFiles s (verifiedDirectory s named) t).Agree
      (verifyFiles s' (verifiedDirectory s' named) t) := by
  unfold verifyFiles verifiedDirectory
  rw [h.failFast, h.output]
  split
  · split
    · exact ⟨rfl, .refl t, rfl, rfl⟩
    · exact ⟨rfl, .refl t, rfl, rfl⟩
  · exact ⟨rfl, .refl t, rfl, rfl⟩

end

/-! ## Reports -/

/-- What a quiet run does not tell, although a normal one does: what passed, a warning, and a
summary of no failures. -/
def Event.isQuieted : Event → Bool
  | summary tally => tally.failed = 0
  | e => e.mark? = some .pass || e.mark? = some .warning

theorem Event.isShown_quiet (e : Event) :
    e.isShown .quiet = (e.isShown .normal && !e.isQuieted) := by
  cases e with
  | summary tally => simp [isShown, isQuieted, Verbosity.isQuiet, Nat.pos_iff_ne_zero]
  | _ => rfl

namespace Command

/-- The events that are shown of a command's run. -/
def shown (m : Machine) (s : Settings) (c : Command) (t : FileTree) : List Event :=
  (c.run m (s.apply c.layer) t).events.filter (·.isShown (s.apply c.layer).verbosity)

/-- What is told of a command's run. -/
def told (m : Machine) (terminal : Bool) (elapsed : String) (s : Settings) (c : Command)
    (t : FileTree) : List String :=
  report (s.apply c.layer).verbosity ((s.apply c.layer).color.decide terminal) elapsed
    (c.run m (s.apply c.layer) t).events

variable {s s' : Settings} {m m' : Machine} {t : FileTree}

/-- An invocation tells what is told of its command's run. -/
theorem messages_run {i : Invocation} (h : i.settings t = .ok (s.apply i.command.layer))
    (terminal : Bool) (elapsed : String) :
    (i.run m terminal elapsed t).messages = i.command.told m terminal elapsed s t := by
  unfold Invocation.run
  rw [h]
  rfl

theorem verbosity_layer (c : Command) : (s.apply c.layer).verbosity = s.verbosity := by
  cases c <;> rfl

theorem color_layer (c : Command) : (s.apply c.layer).color = s.color := by
  cases c <;> rfl

theorem events_run (h : s.SameWork s') (c : Command) :
    (c.run m' (s'.apply c.layer) t).events = (c.run m (s.apply c.layer) t).events := by
  have h := h.apply c.layer
  cases c with
  | generate files flags => exact (agree_emitPages h m m' files t).events
  | check files => exact (agree_checkPages h files t).events
  | verify named => exact (agree_verifyFiles h named t).events
  | settings print => rfl

theorem told_eq (terminal : Bool) (elapsed : String) (c : Command) :
    c.told m terminal elapsed s t =
      (c.shown m s t).map (·.line (s.color.decide terminal) elapsed) := by
  rw [told, report, shown, color_layer]

theorem shown_quiet (h : s.SameWork s') (quiet : s.verbosity = .quiet)
    (normal : s'.verbosity = .normal) (c : Command) :
    c.shown m s t = (c.shown m' s' t).filter (!·.isQuieted) := by
  rw [shown, shown, events_run h c, verbosity_layer, verbosity_layer, quiet, normal,
    List.filter_filter]
  refine List.filter_congr fun e _ => ?_
  rw [e.isShown_quiet, Bool.and_comm]

end Command

/-- Runs for the same work end alike, however much they tell and however many workers they have;
and a quiet one tells what a normal one does, but for what is quieted. What is told of a run is what
an invocation with its settings tells. -/
theorem presentation_changes_nothing {s s' : Settings} (h : s.SameWork s') (m m' : Machine)
    (t : FileTree) :
    (∀ files (flags : GenerateFlags), (emitPages m (s.apply flags.layer) files t).Agree
        (emitPages m' (s'.apply flags.layer) files t)) ∧
      (∀ files, (checkPages s files t).Agree (checkPages s' files t)) ∧
      (∀ named, (verifyFiles s (verifiedDirectory s named) t).Agree
        (verifyFiles s' (verifiedDirectory s' named) t)) ∧
      (∀ (c : Command) (terminal : Bool) (elapsed elapsed' : String),
        s.verbosity = .quiet → s'.verbosity = .normal → s'.color = s.color →
          c.told m' terminal elapsed' s' t =
            (c.shown m' s' t).map (·.line (s.color.decide terminal) elapsed') ∧
          c.told m terminal elapsed s t = ((c.shown m' s' t).filter (!·.isQuieted)).map
            (·.line (s.color.decide terminal) elapsed)) ∧
      ∀ (i : Invocation) (terminal : Bool) (elapsed : String),
        i.settings t = .ok (s.apply i.command.layer) →
          (i.run m terminal elapsed t).messages = i.command.told m terminal elapsed s t := by
  refine ⟨fun files flags => agree_emitPages (h.apply flags.layer) m m' files t,
    fun files => agree_checkPages h files t, fun named => agree_verifyFiles h named t,
    fun c terminal elapsed elapsed' quiet normal color => ⟨?_, ?_⟩,
    fun i terminal elapsed hi => Command.messages_run hi terminal elapsed⟩
  · rw [Command.told_eq, color]
  · rw [Command.told_eq, Command.shown_quiet h quiet normal]

theorem presentation_changes_nothing_quiet :
    let quiet : Settings := { verbosity := .quiet, color := .never, jobs := 3 }
    let normal : Settings := { color := .never }
    let check : Command := .check [.ofString "gone.json", .ofString "login.json"]
    let writing : Invocation :=
      ⟨{ quiet := true, color := some .never },
        .generate [.ofString "login.json"] { jobs := some 3 }⟩
    (emitPages ⟨4, "2024-01-02"⟩ (quiet.apply ({} : GenerateFlags).layer)
        [.ofString "login.json"] .login).Agree
      (emitPages ⟨1, "2024-01-03"⟩ (normal.apply ({} : GenerateFlags).layer)
        [.ofString "login.json"] .login) ∧
      check.told ⟨1, "2024-01-03"⟩ true "0.2" normal .login =
        ["FAIL gone.json: IO error: No such file or directory (os error 2)",
          "PASS login.json:Login (1 entries)", "FAILED 2 page(s) in 0.2s (1 ok, 1 failed)"] ∧
      check.told ⟨4, "2024-01-02"⟩ true "0.1" quiet .login =
        ["FAIL gone.json: IO error: No such file or directory (os error 2)",
          "FAILED 2 page(s) in 0.1s (1 ok, 1 failed)"] ∧
      (writing.run ⟨4, "2024-01-02"⟩ true "0.1" .login).messages = [] := by
  intro quiet normal check writing
  have same : quiet.SameWork normal := ⟨rfl, rfl, rfl, rfl⟩
  obtain ⟨emits, -, -, tells, messages⟩ :=
    presentation_changes_nothing same ⟨4, "2024-01-02"⟩ ⟨1, "2024-01-03"⟩ .login
  obtain ⟨told, told_quiet⟩ := tells check true "0.1" "0.2" rfl rfl rfl
  have silent := messages writing true "0.1" rfl
  exact ⟨emits _ {}, told.trans (by decide +kernel), told_quiet.trans (by decide +kernel),
    silent.trans (by decide +kernel)⟩

end PageAccessors
