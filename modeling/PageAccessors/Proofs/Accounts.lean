import PageAccessors.Proofs.CheckedFiles
import PageAccessors.Proofs.FailedWrites
import PageAccessors.Proofs.Regeneration

/-!
# Accounts of pages

The account of a run or of a check covers the files that were tried and the pages that were taken
(`Account.Covers`): each file that could not be loaded and each page is told once, and what is said
in the end are their numbers (`Account.Covers.accounts`). One more file or page adds itself to what
was covered (`Inputs.Loaded.add`, `Account.Checked.add`, `Emission.Judged.add`). A run leaves files
of pages that passed, and of no others but those whose earlier manifests it cannot remove
(`LeftByPages.spare`, `Barred.emitPages_project`).
-/

namespace PageAccessors

open FileTree

/-! ## Accounts -/

/-- The page that an event is about, and whether it passed. -/
def Event.page? : Event → Option (Label × Bool)
  | accepted page _ => some (page, true)
  | written page _ => some (page, true)
  | refused page _ => some (page, false)
  | _ => none

def Event.unreadable? : Event → Option Path
  | unreadable file _ => some file
  | _ => none

/-- An account of files, of which some could not be loaded, and of pages, of which some did not
pass. -/
structure Account.Covers (a : Account) (tried : List (Path × Bool))
    (judged : List (SourcedPage × Bool)) : Prop where
  failed : a.failed = fails tried + fails judged
  total : a.total = fails tried + judged.length
  unread : a.events.filterMap Event.unreadable? = (tried.filter (!·.2)).map Prod.fst
  told : a.events.filterMap Event.page? = judged.map fun j => (j.1.label, j.2)

/-- What a run says of the files that it tried and of the pages in them that it took: it tells each
of them, how many passed and how many failures there are; and it fails if there are any. -/
structure Accounts {α : Type} (failFast : Bool) (t : FileTree) (tried : List (Path × Bool))
    (judged : List (SourcedPage × Bool)) (o : Outcome α) : Prop where
  takes : Takes failFast (tried.flatMap fun c => pagesOf t c.1) judged
  unread : o.events.filterMap Event.unreadable? = (tried.filter (!·.2)).map Prod.fst
  told : o.events.filterMap Event.page? = judged.map fun j => (j.1.label, j.2)
  summary : o.events.getLast? =
    some (.summary ⟨"page(s)", passes judged, fails tried + fails judged⟩)
  isOk : o.result.isOk = true ↔ fails tried + fails judged = 0
  error : ∀ e, o.result = .error e → e =
    .generation (fails tried + fails judged) (passes judged + (fails tried + fails judged))

namespace Account

variable {a : Account} {tried : List (Path × Bool)} {judged : List (SourcedPage × Bool)}
  {p : SourcedPage} {e : Event}

theorem covers_nil : ({} : Account).Covers [] [] := ⟨rfl, rfl, rfl, rfl⟩

theorem filterMap_note {β : Type} (f : Event → Option β) (a : Account) (e : Event) :
    (a.note e).events.filterMap f = a.events.filterMap f ++ (f e).toList := by
  rw [note, List.filterMap_append, List.filterMap_cons]
  cases f e <;> rfl

theorem Covers.note (h : a.Covers tried judged) (hu : e.unreadable? = none)
    (hp : e.page? = none) : (a.note e).Covers tried judged where
  failed := h.failed
  total := h.total
  unread := by rw [filterMap_note, hu, h.unread, Option.toList_none, List.append_nil]
  told := by rw [filterMap_note, hp, h.told, Option.toList_none, List.append_nil]

theorem Covers.loaded (h : a.Covers tried judged) (file : Path) :
    a.Covers (tried ++ [(file, true)]) judged := by
  have failed : fails (tried ++ [(file, true)]) = fails tried := fails_concat tried file true
  constructor
  case failed => rw [h.failed, failed]
  case total => rw [h.total, failed]
  case unread => simp [h.unread]
  case told => exact h.told

theorem Covers.unloaded (h : a.Covers tried judged) (file : Path) (f : Failure) :
    (a.fail (.unreadable file f)).Covers (tried ++ [(file, false)]) judged := by
  have failed : fails (tried ++ [(file, false)]) = fails tried + 1 := fails_concat tried file false
  constructor
  case failed => rw [failed, Nat.add_right_comm, ← h.failed, Account.fail]
  case total => rw [failed, Nat.add_right_comm, ← h.total, Account.fail]
  case unread =>
    refine (filterMap_note _ a _).trans ?_
    simp [h.unread, Event.unreadable?]
  case told =>
    refine (filterMap_note _ a _).trans ?_
    simp [h.told, Event.page?]

theorem Covers.pass (h : a.Covers tried judged) (hu : e.unreadable? = none)
    (hp : e.page? = some (p.label, true)) :
    (a.pass e).Covers tried (judged ++ [(p, true)]) where
  failed := by
    rw [fails_concat]
    exact h.failed
  total := by
    rw [List.length_append, ← Nat.add_assoc, ← h.total]
    rfl
  unread := by
    refine (filterMap_note _ a _).trans ?_
    simp [h.unread, hu]
  told := by
    refine (filterMap_note _ a _).trans ?_
    simp [h.told, hp]

theorem Covers.fail (h : a.Covers tried judged) (problem : PageProblem) :
    (a.fail (.refused p.label problem)).Covers tried (judged ++ [(p, false)]) where
  failed := by
    rw [fails_concat, ← Nat.add_assoc, ← h.failed]
    rfl
  total := by
    rw [List.length_append, ← Nat.add_assoc, ← h.total]
    rfl
  unread := by
    refine (filterMap_note _ a _).trans ?_
    simp [h.unread, Event.unreadable?]
  told := by
    refine (filterMap_note _ a _).trans ?_
    simp [h.told, Event.page?]

theorem Covers.total_eq (h : a.Covers tried judged) : a.total = passes judged + a.failed := by
  have sum := passes_add_fails judged
  rw [h.total, h.failed]
  omega

/-- What an account covers is what is said in the end. -/
theorem Covers.accounts {α : Type} {failFast : Bool} {t tree : FileTree} {v : α}
    (h : a.Covers tried judged)
    (takes : Takes failFast (tried.flatMap fun c => pagesOf t c.1) judged) :
    Accounts failFast t tried judged
      { tree := tree
        events := (a.close "page(s)" a.total).events
        result := if a.failed > 0 then .error (.generation a.failed a.total) else .ok v } := by
  have covers : (a.close "page(s)" a.total).Covers tried judged := h.note rfl rfl
  refine ⟨takes, covers.unread, covers.told, ?_, ?_, ?_⟩
  · rw [Account.close, Account.note, List.getLast?_concat, h.total_eq, Nat.add_sub_cancel, h.failed]
  · rw [← h.failed]
    split_ifs with some_
    · simp [Except.isOk, Except.toBool]
      omega
    · simpa [Except.isOk, Except.toBool] using some_
  · intro e he
    split_ifs at he
    rw [← Except.error.inj he, h.total_eq, h.failed]

end Account

/-! ## Loading -/

/-- What has come of the files that were tried: the pages of those that could be loaded, and an
account of the others. -/
structure Inputs.Loaded (t : FileTree) (tried : List (Path × Bool)) (i : Inputs) : Prop where
  readable : ∀ c ∈ tried, c.2 = true ↔ ∃ pages, loadPages t c.1 = .ok pages
  pages : i.pages = tried.flatMap fun c => pagesOf t c.1
  covers : i.account.Covers tried []
  silent : ∀ tally, .summary tally ∉ i.account.events

theorem Inputs.loaded_nil (t : FileTree) : Loaded t [] {} where
  readable := List.forall_mem_nil _
  pages := rfl
  covers := Account.covers_nil
  silent _ := List.not_mem_nil

theorem Inputs.Loaded.add {t : FileTree} {tried : List (Path × Bool)} {i : Inputs}
    (h : i.Loaded t tried) (file : Path) :
    (i.add t file).1.Loaded t (tried ++ [(file, (i.add t file).2)]) := by
  have pages : (i.add t file).1.pages =
      (tried ++ [(file, (i.add t file).2)]).flatMap fun c => pagesOf t c.1 := by
    rw [pages_add, h.pages, List.flatMap_append, List.flatMap_singleton]
  refine ⟨?_, pages, ?_, ?_⟩
  · rw [List.forall_mem_append, List.forall_mem_singleton]
    refine ⟨h.readable, ?_⟩
    unfold Inputs.add
    cases loadPages t file <;> simp
  · unfold Inputs.add
    cases loadPages t file with
    | ok pages =>
      simp only
      split_ifs
      · exact (h.covers.note rfl rfl).loaded file
      · exact h.covers.loaded file
    | error f => exact h.covers.unloaded file f
  · unfold Inputs.add
    cases loadPages t file with
    | ok pages =>
      simp only
      split_ifs
      · simpa [Account.note] using h.silent
      · exact h.silent
    | error f => simpa [Account.fail, Account.note] using h.silent

theorem exists_tried (failFast : Bool) (t : FileTree) (files : List Path) : ∃ tried,
    Takes failFast files tried ∧ (Inputs.load t failFast files).Loaded t tried :=
  exists_takes (P := fun tried i => Inputs.Loaded t tried i) (fun _ _ file h => h.add file)
    (Inputs.loaded_nil t)

/-! ## Checking -/

/-- What a check says of pages is whether they have a class, and it changes no files. -/
structure ChecksPages (s : Settings) (t : FileTree) (tried : List (Path × Bool))
    (judged : List (SourcedPage × Bool)) (o : Outcome Nat) : Prop
    extends Accounts s.failFast t tried judged o where
  verdict : ∀ j ∈ judged, j.2 = true ↔ ∃ d, validate j.1.page = .ok d
  number : ∀ n, o.result = .ok n → n = passes judged
  tree : o.tree = t

structure Account.Checked (tried : List (Path × Bool)) (judged : List (SourcedPage × Bool))
    (a : Account) : Prop where
  covers : a.Covers tried judged
  verdict : ∀ j ∈ judged, j.2 = true ↔ ∃ d, validate j.1.page = .ok d

theorem Account.Checked.add {tried : List (Path × Bool)} {judged : List (SourcedPage × Bool)}
    {a : Account} (h : a.Checked tried judged) (p : SourcedPage) :
    (checkPage a p).1.Checked tried (judged ++ [(p, (checkPage a p).2)]) := by
  constructor
  · unfold checkPage
    cases validate p.page with
    | ok d => exact h.covers.pass rfl rfl
    | error d => exact h.covers.fail _
  · rw [List.forall_mem_append, List.forall_mem_singleton]
    refine ⟨h.verdict, ?_⟩
    unfold checkPage
    cases validate p.page <;> simp

theorem exists_checksPages {s : Settings} {files : List Path} {t : FileTree}
    {tried : List (Path × Bool)} (loaded : (Inputs.load t s.failFast files).Loaded t tried) :
    ∃ judged, ChecksPages s t tried judged (checkPages s files t) := by
  have start : (Inputs.load t s.failFast files).account.Checked tried [] :=
    ⟨loaded.covers, List.forall_mem_nil _⟩
  obtain ⟨judged, takes, checked⟩ : ∃ judged,
      Takes s.failFast (Inputs.load t s.failFast files).pages judged ∧
        (takeEach s.failFast checkPage (Inputs.load t s.failFast files).account
          (Inputs.load t s.failFast files).pages).Checked tried judged :=
    exists_takes (P := fun judged a => Account.Checked tried judged a)
      (fun _ _ p h => h.add p) start
  rw [loaded.pages] at takes
  refine ⟨judged, checked.covers.accounts takes, checked.verdict, fun n hn => ?_, rfl⟩
  unfold checkPages at hn
  simp only at hn
  split_ifs at hn with none_
  rw [← Except.ok.inj hn, checked.covers.total_eq]
  omega

/-! ## Writing -/

/-- Whose file is in a place: that of a page that passed, or its manifest; or, without manifests,
that of a page that did not pass since its earlier manifest cannot be removed. -/
structure Emitted.Leaves (s : Settings) (judged : List (SourcedPage × Bool)) (t : FileTree)
    (q : Location) (x : Emitted) : Prop where
  generated : x.IsGenerated s
  judged : (x.page, true) ∈ judged ∧
      (q = (x.path s).place t.home ∨ q = (x.path s).manifest.place t.home) ∨
    (x.page, false) ∈ judged ∧ s.manifests = false ∧ q = (x.path s).place t.home ∧
      t.BarsManifest (x.path s)

/-- All files that are new in a tree are left by pages. -/
structure LeftByPages (s : Settings) (t : FileTree) (judged : List (SourcedPage × Bool))
    (tree : FileTree) : Prop where
  home : tree.home = t.home
  files : ∀ q bytes, tree.node? q = some (.file bytes) →
    t.node? q = some (.file bytes) ∨ ∃ x : Emitted, x.Leaves s judged tree q

section

variable {s : Settings} {t tree tree' : FileTree} {tried : List (Path × Bool)}
  {judged : List (SourcedPage × Bool)} {q : Location} {x : Emitted} {p : SourcedPage}

theorem Emitted.Leaves.onward (h : x.Leaves s judged tree q) (hw : tree.Onward tree')
    (passed : Bool) : x.Leaves s (judged ++ [(p, passed)]) tree' q where
  generated := h.generated
  judged := by
    rw [hw.home]
    refine h.judged.imp (And.imp_left (List.mem_append_left _)) ?_
    rintro ⟨hm, bare, hq, barred⟩
    exact ⟨List.mem_append_left _ hm, bare, hq, barred.onward hw⟩

theorem LeftByPages.onward (h : LeftByPages s t judged tree) (hw : tree.Onward tree')
    (passed : Bool) (files : ∀ q bytes, tree'.node? q = some (.file bytes) →
      tree.node? q = some (.file bytes) ∨
        ∃ x : Emitted, x.Leaves s (judged ++ [(p, passed)]) tree' q) :
    LeftByPages s t (judged ++ [(p, passed)]) tree' where
  home := hw.home.trans h.home
  files q bytes hn := by
    rcases files q bytes hn with earlier | new
    · refine (h.files q bytes earlier).imp id fun ⟨x, hx⟩ => ⟨x, hx.onward hw passed⟩
    · exact .inr new

theorem LeftByPages.refuse (h : LeftByPages s t judged tree) (p : SourcedPage) :
    LeftByPages s t (judged ++ [(p, false)]) tree :=
  h.onward ⟨rfl, fun _ => id⟩ false fun _ _ hn => .inl hn

theorem LeftByPages.write (h : LeftByPages s t judged tree) (hx : x.IsGenerated s)
    (rewritten : tree.Rewritten (x.path s) tree') :
    LeftByPages s t (judged ++ [(x.page, true)]) tree' := by
  refine h.onward rewritten.onward true fun q bytes hn => ?_
  have home := rewritten.onward.home
  by_cases own : q = (x.path s).place tree.home ∨ q = (x.path s).manifest.place tree.home
  · refine .inr ⟨x, hx, .inl ⟨by simp, ?_⟩⟩
    rwa [home]
  · rw [not_or] at own
    exact .inl (hn ▸ rewritten.other q own.1 own.2).eq_file

theorem LeftByPages.spare (h : LeftByPages s t judged tree) (hx : x.IsGenerated s)
    (hw : tree.Onward tree') {command : Option String} (hc : command = none → s.manifests = false)
    (spared : tree.Spared (x.path s) (leftBehind x.file.contents command) tree') :
    LeftByPages s t (judged ++ [(x.page, false)]) tree' := by
  refine h.onward hw false fun q bytes hn => ?_
  by_cases own : q = (x.path s).place tree.home
  · subst own
    rcases spared.own with kept | ⟨barred, left⟩
    · exact .inl (hn ▸ kept).eq_file
    · refine .inr ⟨x, hx, .inr ⟨by simp, ?_, by rw [hw.home], barred⟩⟩
      rw [left] at hn
      cases command with
      | none => exact hc rfl
      | some command => cases hn
  · exact .inl (hn ▸ spared.other q own).eq_file

/-- What has come of the pages that a run has taken: the run covers them in its account, it has
noted the paths of those that were written, and nobody else has left a file. -/
structure Emission.Judged (s : Settings) (t : FileTree) (tried : List (Path × Bool))
    (judged : List (SourcedPage × Bool)) (e : Emission) : Prop where
  covers : e.account.Covers tried judged
  paths : (e.account.events.filterMap Event.written?).map Prod.snd = e.written
  labels : (e.account.events.filterMap Event.written?).map Prod.fst =
    (judged.filter (·.2)).map fun j => j.1.label
  left : LeftByPages s t judged e.tree

theorem Emission.Judged.refuse {e : Emission} (h : e.Judged s t tried judged)
    (problem : PageProblem) (claims : List (List Component × Label))
    (left : LeftByPages s t (judged ++ [(p, false)]) tree) :
    Judged s t tried (judged ++ [(p, false)])
      ⟨tree, claims, e.written, e.account.fail (.refused p.label problem)⟩ := by
  have told : (e.account.fail (.refused p.label problem)).events.filterMap Event.written? =
      e.account.events.filterMap Event.written? :=
    (Account.filterMap_note _ _ _).trans (List.append_nil _)
  refine ⟨h.covers.fail problem, ?_, ?_, left⟩
  · rw [told, h.paths]
  · rw [told, h.labels]
    simp

theorem Emission.Judged.write {e : Emission} (h : e.Judged s t tried judged) (file : GeneratedFile)
    (path : Path) (claims : List (List Component × Label))
    (left : LeftByPages s t (judged ++ [(p, true)]) tree) :
    Judged s t tried (judged ++ [(p, true)])
      ⟨tree, claims, e.written ++ [path],
        (e.account.note (.generated file)).pass (.written p.label path)⟩ := by
  have told : ((e.account.note (.generated file)).pass (.written p.label path)).events.filterMap
      Event.written? = e.account.events.filterMap Event.written? ++ [(p.label, path)] := by
    refine (Account.filterMap_note _ _ _).trans ?_
    rw [Account.filterMap_note]
    simp [Event.written?]
  refine ⟨(h.covers.note rfl rfl).pass rfl rfl, ?_, ?_, left⟩
  · rw [told, List.map_append, h.paths]
    rfl
  · rw [told, List.map_append, h.labels]
    simp

theorem Emission.Judged.add {e : Emission} (h : e.Judged s t tried judged) (time : String)
    (p : SourcedPage) : Judged s t tried
      (judged ++ [(p, (e.add s time (p, generate s.options p.page)).2)])
      (e.add s time (p, generate s.options p.page)).1 := by
  rcases e.add_cases s time p (generate s.options p.page) with
    ⟨problem, he, -⟩ | ⟨file, r, tree, hg, -, hw, step⟩
  · rw [he]
    exact h.refuse problem e.claims (h.left.refuse p)
  let x : Emitted := ⟨p, file⟩
  have hx : x.IsGenerated s := hg
  obtain ⟨r', tree', hw', rewritten, -⟩ := writeGenerated_spec hg time s.output _ e.tree
  obtain ⟨rfl, rfl⟩ := Prod.mk.inj (hw.symm.trans hw')
  rcases step with ⟨path, -, he⟩ | ⟨fault, rfl, he⟩
  · rw [he]
    exact h.write file path _ (h.left.write hx rewritten)
  · rw [he]
    -- What was staged is gone again, and the file stays only where its manifest could not go.
    obtain ⟨front, name, ends⟩ := hx.ends
    have spared := spared_of_ends ends (writeGenerated_eq_error_iff.1 hw)
    rw [leftBehind_map] at spared
    refine h.refuse _ _ (h.left.spare hx rewritten.onward (fun none_ => ?_) spared)
    by_contra on
    rw [Bool.not_eq_false] at on
    rw [if_pos on] at none_
    cases none_

end

/-! ## Runs -/

/-- What a run says of pages is which of them it has written, and it writes for no others. -/
structure WritesPages (s : Settings) (t : FileTree) (tried : List (Path × Bool))
    (judged : List (SourcedPage × Bool)) (o : Outcome (List Path)) : Prop
    extends Accounts s.failFast t tried judged o where
  written : (o.events.filterMap Event.written?).map Prod.fst =
    (judged.filter (·.2)).map fun j => j.1.label
  returned : ∀ paths, o.result = .ok paths →
    paths = (o.events.filterMap Event.written?).map Prod.snd ∧ paths.length = passes judged
  left : LeftByPages s t judged o.tree

/-- A run that was to end early could not load a file: it fails without a summary, and it writes
nothing. -/
structure StopsUnwritten (s : Settings) (t : FileTree) (tried : List (Path × Bool))
    (o : Outcome (List Path)) : Prop where
  early : s.failFast = true
  unread : 0 < fails tried
  silent : ∀ tally, .summary tally ∉ o.events
  result : o.result = .error (.generation (fails tried)
    (fails tried + (tried.flatMap fun c => pagesOf t c.1).length))
  tree : o.tree = t

section

variable {s : Settings} {files : List Path} {t : FileTree} {tried : List (Path × Bool)}

theorem length_passed (judged : List (SourcedPage × Bool)) :
    (judged.filter (·.2)).length = passes judged := List.countP_eq_length_filter.symm

theorem Emission.Judged.writesPages {judged : List (SourcedPage × Bool)} {e : Emission}
    (h : e.Judged s t tried judged)
    (takes : Takes s.failFast (tried.flatMap fun c => pagesOf t c.1) judged) :
    WritesPages s t tried judged
      { tree := e.tree
        events := (e.account.close "page(s)" e.account.total).events
        result :=
          if e.account.failed > 0 then .error (.generation e.account.failed e.account.total)
          else .ok e.written } := by
  have told : (e.account.close "page(s)" e.account.total).events.filterMap Event.written? =
      e.account.events.filterMap Event.written? :=
    (Account.filterMap_note _ _ _).trans (List.append_nil _)
  refine ⟨h.covers.accounts takes, ?_, fun paths he => ?_, h.left⟩
  · rw [told, h.labels]
  · simp only at he
    split_ifs at he
    rw [told, h.paths, ← Except.ok.inj he]
    refine ⟨rfl, ?_⟩
    have labels := congrArg List.length h.labels
    rw [List.length_map, List.length_map, length_passed] at labels
    rw [← h.paths, List.length_map, labels]

theorem exists_judged (m : Machine) (loaded : (Inputs.load t s.failFast files).Loaded t tried) :
    ∃ judged, Takes s.failFast (Inputs.load t s.failFast files).pages judged ∧
      (Emission.take s m.time
        { tree := t, account := (Inputs.load t s.failFast files).account }
        (Inputs.load t s.failFast files).pages).Judged s t tried judged := by
  have unwritten := filterMap_written?_load t s.failFast files
  have start : Emission.Judged s t tried []
      { tree := t, account := (Inputs.load t s.failFast files).account } :=
    ⟨loaded.covers, by rw [unwritten]; rfl, by rw [unwritten]; rfl, rfl, fun _ _ hn => .inl hn⟩
  rw [Emission.take, takeEach_map]
  exact exists_takes (P := fun judged e => Emission.Judged s t tried judged e)
    (fun _ _ p h => h.add m.time p) start

theorem exists_writesPages (m : Machine) (loaded : (Inputs.load t s.failFast files).Loaded t tried)
    (going : s.failFast = true → fails tried = 0) :
    ∃ judged, WritesPages s t tried judged (emitPages m s files t) := by
  obtain ⟨judged, takes, done⟩ := exists_judged m loaded
  rw [loaded.pages] at takes
  rw [emitPages_eq_take fun early => loaded.covers.failed.trans (going early)]
  exact ⟨judged, done.writesPages takes⟩

theorem stopsUnwritten (m : Machine) (loaded : (Inputs.load t s.failFast files).Loaded t tried)
    (early : s.failFast = true) (some_ : 0 < fails tried) :
    StopsUnwritten s t tried (emitPages m s files t) := by
  have unread : (Inputs.load t s.failFast files).unreadable = fails tried := loaded.covers.failed
  have stops : (s.failFast && (Inputs.load t s.failFast files).unreadable > 0) = true := by
    rw [unread, early]
    simpa using some_
  unfold emitPages
  simp only
  rw [if_pos stops, unread, loaded.pages]
  exact ⟨early, some_, loaded.silent, rfl, rfl⟩

/-- A run and a check try the same files. The check accounts for their pages; and so does the run,
unless it is to end early and could not load a file. -/
theorem accounts_of_pages (m : Machine) (s : Settings) (files : List Path) (t : FileTree) :
    ∃ tried, Takes s.failFast files tried ∧
      (∀ c ∈ tried, c.2 = true ↔ ∃ pages, loadPages t c.1 = .ok pages) ∧
      (∃ judged, ChecksPages s t tried judged (checkPages s files t)) ∧
      (StopsUnwritten s t tried (emitPages m s files t) ∨
        (s.failFast = true → fails tried = 0) ∧
          ∃ judged, WritesPages s t tried judged (emitPages m s files t)) := by
  obtain ⟨tried, takes, loaded⟩ := exists_tried s.failFast t files
  refine ⟨tried, takes, loaded.readable, exists_checksPages loaded, ?_⟩
  by_cases stops : s.failFast = true ∧ 0 < fails tried
  · exact .inl (stopsUnwritten m loaded stops.1 stops.2)
  · have going : s.failFast = true → fails tried = 0 := fun early =>
      Nat.eq_zero_of_not_pos fun some_ => stops ⟨early, some_⟩
    exact .inr ⟨going, exists_writesPages m loaded going⟩

end

/-! ## A page whose earlier manifest cannot be removed -/

namespace Barred

open Login

/-- A directory with a page, and a directory in the place of the manifest of its file. -/
def project : FileTree where
  home := []
  entries := [
    (["login.json"], .file page.page.canonicalText.toUTF8),
    (["out"], .directory),
    (["generated", "out"], .directory),
    (["Login.kt.manifest.json", "generated", "out"], .directory)]
  distinct := by decide
  closed := by simp

def bare : Settings := { output := output, failFast := true, manifests := false }

theorem pagesOf_project : pagesOf project page.source = [page] := by
  rw [pagesOf, loadPages_of_holds ⟨rfl, rfl⟩]
  rfl

theorem ends_path : path.Ends ["out", "generated"] "Login.kt" :=
  ⟨rfl, by decide, by decide, by decide, by decide, by decide⟩

/-- The page is refused, since its file is written and the directory beside it cannot be removed. -/
theorem add_project (account : Account) : ∃ e,
    Emission.add bare "" { tree := project, account := account }
      (page, generate bare.options page.page) = (e, false) ∧
    e.account.failed = account.failed + 1 ∧
    e.tree.node? (path.place []) = some (.file (emitted {}).file.contents.toUTF8) := by
  have hx : generate bare.options page.page = .ok (emitted {}).file := isGenerated {}
  have path_ : bare.output.join (emitted {}).file.relativePath = path := path_emitted {}
  rcases Emission.add_cases bare "" { tree := project, account := account } page
    (generate bare.options page.page) with ⟨problem, -, claimed⟩ | ⟨file, r, tree, hg, -, hw, step⟩
  · exact absurd rfl (claimed _ hx)
  obtain rfl : (emitted {}).file = file := Except.ok.inj (hx.symm.trans hg)
  obtain ⟨fault, tree', hw', left⟩ := writeOutput_of_barred (t := project) ends_path rfl (by decide)
    rfl rfl (emitted {}).file.contents none
  rw [← path_] at hw'
  obtain ⟨rfl, rfl⟩ := Prod.mk.inj (hw.symm.trans (writeGenerated_eq_error_iff.2 hw'))
  rcases step with ⟨path, he, -⟩ | ⟨fault, -, he⟩
  · cases he
  · exact ⟨_, he, rfl, left⟩

/-- The run fails, and the file of the page is there. -/
theorem emitPages_project : ∃ failed total,
    (emitPages ⟨1, ""⟩ bare [page.source] project).result = .error (.generation failed total) ∧
      (emitPages ⟨1, ""⟩ bare [page.source] project).tree.node? (path.place []) =
        some (.file (emitted {}).file.contents.toUTF8) := by
  have some_ : pagesOf project page.source ≠ [] := by simp [pagesOf_project]
  obtain ⟨pages, readable⟩ := load_singleton some_ true
  rw [pagesOf_project] at pages
  obtain ⟨e, he, failed, left⟩ := add_project (Inputs.load project true [page.source]).account
  have taken : Emission.take bare ""
      { tree := project, account := (Inputs.load project true [page.source]).account } [page] =
        e := Emission.take_cons he
  have early : bare.failFast = true := rfl
  rw [emitPages_eq_take fun _ => readable, early, pages]
  simp only [taken]
  exact ⟨_, _, if_pos (by omega), left⟩

end Barred

section

open Login Barred

/-- A run that is to end early leaves files of pages that passed only: those in front of the first
page that did not. -/
def LeavesPassedOnly : Prop :=
  ∀ (m : Machine) (s : Settings) (files : List Path) (t : FileTree) (tried : List (Path × Bool))
    (judged : List (SourcedPage × Bool)), s.failFast = true →
    WritesPages s t tried judged (emitPages m s files t) →
    ∀ q bytes, (emitPages m s files t).tree.node? q = some (.file bytes) →
      t.node? q = some (.file bytes) ∨ ∃ x : Emitted, x.IsGenerated s ∧ (x.page, true) ∈ judged ∧
        (q = (x.path s).place t.home ∨ q = (x.path s).manifest.place t.home)

/-- The file of a page that is refused may be left. -/
theorem not_leavesPassedOnly : ¬ LeavesPassedOnly := by
  intro h
  have some_ : pagesOf project page.source ≠ [] := by simp [pagesOf_project]
  obtain ⟨pages, readable⟩ := load_singleton some_ true
  obtain ⟨tried, -, loaded⟩ := exists_tried true project [page.source]
  have none_ : fails tried = 0 := loaded.covers.failed.symm.trans readable
  obtain ⟨judged, writes⟩ := exists_writesPages (s := bare) ⟨1, ""⟩ loaded fun _ => none_
  obtain ⟨failed, total, result, left⟩ := emitPages_project
  have takes := writes.takes
  rw [← loaded.pages, pages, pagesOf_project] at takes
  obtain ⟨passed, rfl⟩ := takes_singleton takes
  cases passed with
  | true =>
    have isOk := writes.isOk.2 (by rw [none_]; rfl)
    rw [result] at isOk
    cases isOk
  | false =>
    rcases h _ _ _ _ _ _ rfl writes _ _ left with before | ⟨x, -, passed, -⟩
    · cases before
    · simp at passed

end

end PageAccessors
